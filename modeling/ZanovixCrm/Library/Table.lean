import Mathlib.Data.List.Basic
import Mathlib.Data.List.Nodup

/-!
# Keyed tables

A table is the list of its rows, in the order in which they were inserted, together with the proof
that no two rows share a key. Carrying that proof as a field is what makes the primary key a fact
about every table rather than a hypothesis of every lemma: an insert that would repeat a key cannot
be expressed, an update is an `Assign`ment that leaves the key alone, and lookups by key are
unambiguous.

Nothing here knows what the rows are. The module is generic in the row type and in the key, and
states only what the three writes (`insert`, `alter`, `erase`) do to the rows, to membership and to
lookup.
-/

namespace ZanovixCrm

/-- Rows of type `ρ` are identified by a key in `κ`. -/
class Keyed (ρ : Type) (κ : outParam Type) where
  /-- The key of a row. -/
  key : ρ → κ

export Keyed (key)

/-- A column assignment: a map on rows that leaves the key alone. -/
structure Assign (ρ : Type) {κ : Type} [Keyed ρ κ] where
  /-- The assignment. -/
  fn : ρ → ρ
  /-- The key is not among the assigned columns. -/
  key_fn : ∀ r, key (fn r) = key r

namespace Assign

variable {ρ κ : Type} [Keyed ρ κ]

/-- Nothing is assigned. -/
def none : Assign ρ := ⟨id, fun _ ↦ rfl⟩

/-- One assignment after another. -/
def seq : List (Assign ρ) → Assign ρ
  | [] => Assign.none
  | a :: as => ⟨fun r ↦ (seq as).fn (a.fn r), fun r ↦ ((seq as).key_fn _).trans (a.key_fn r)⟩

@[simp] theorem none_fn (r : ρ) : (Assign.none : Assign ρ).fn r = r := rfl

@[simp] theorem seq_nil_fn (r : ρ) : (seq ([] : List (Assign ρ))).fn r = r := rfl

@[simp] theorem seq_cons_fn (a : Assign ρ) (as : List (Assign ρ)) (r : ρ) :
    (seq (a :: as)).fn r = (seq as).fn (a.fn r) := rfl

theorem seq_append_fn (as bs : List (Assign ρ)) (r : ρ) :
    (seq (as ++ bs)).fn r = (seq bs).fn ((seq as).fn r) := by
  induction as generalizing r with
  | nil => rfl
  | cons a as ih => exact ih (a.fn r)

/-- What every assignment of a sequence keeps, the sequence keeps. -/
theorem seq_keeps {P : ρ → Prop} {as : List (Assign ρ)}
    (h : ∀ a ∈ as, ∀ r, P r → P (a.fn r)) {r : ρ} (hr : P r) : P ((seq as).fn r) := by
  induction as generalizing r with
  | nil => exact hr
  | cons a as ih =>
    have ha : P (a.fn r) := h a List.mem_cons_self r hr
    rw [seq_cons_fn]
    exact ih (fun b hb ↦ h b (List.mem_cons_of_mem _ hb)) ha

end Assign

/-- The rows of a table, no two with the same key. -/
structure Table (ρ : Type) {κ : Type} [Keyed ρ κ] where
  /-- The rows, oldest first. -/
  rows : List ρ
  /-- The key is unique. -/
  keys_nodup : (rows.map key).Nodup

namespace Table

variable {ρ κ : Type} [Keyed ρ κ]

@[ext] theorem ext {t t' : Table ρ} (h : t.rows = t'.rows) : t = t' := by
  cases t; cases t'; cases h; rfl

instance : Membership ρ (Table ρ) := ⟨fun t r ↦ r ∈ t.rows⟩

@[simp] theorem mem_rows {t : Table ρ} {r : ρ} : r ∈ t.rows ↔ r ∈ t := Iff.rfl

instance [DecidableEq ρ] (t : Table ρ) (r : ρ) : Decidable (r ∈ t) :=
  inferInstanceAs (Decidable (r ∈ t.rows))

instance {P : ρ → Prop} [DecidablePred P] (t : Table ρ) : Decidable (∀ r ∈ t, P r) :=
  inferInstanceAs (Decidable (∀ r ∈ t.rows, P r))

/-- The table without rows. -/
def empty : Table ρ := ⟨[], List.nodup_nil⟩

@[simp] theorem rows_empty : (empty : Table ρ).rows = [] := rfl

@[simp] theorem not_mem_empty {r : ρ} : r ∉ (empty : Table ρ) := List.not_mem_nil

/-- Rows with equal keys are equal. -/
theorem eq_of_key_eq {t : Table ρ} {r r' : ρ} (hr : r ∈ t) (hr' : r' ∈ t)
    (h : key r = key r') : r = r' :=
  List.inj_on_of_nodup_map t.keys_nodup hr hr' h

variable [DecidableEq κ]

/-! ### Lookup -/

/-- The row with the given key. -/
def find? (t : Table ρ) (k : κ) : Option ρ :=
  t.rows.find? fun r ↦ decide (key r = k)

/-- **Lookup is membership**: a row is found at `k` exactly when it is stored and `k` is its key. -/
theorem find?_eq_some_iff {t : Table ρ} {k : κ} {r : ρ} :
    t.find? k = some r ↔ r ∈ t ∧ key r = k := by
  constructor
  · intro h
    exact ⟨List.mem_of_find?_eq_some h, by simpa using List.find?_some h⟩
  · rintro ⟨hr, rfl⟩
    have hsome : (t.find? (key r)).isSome := by
      simp only [find?, List.find?_isSome, decide_eq_true_eq]
      exact ⟨r, hr, rfl⟩
    obtain ⟨r', hr'⟩ := Option.isSome_iff_exists.1 hsome
    have hmem : r' ∈ t := List.mem_of_find?_eq_some hr'
    have hkey : key r' = key r := by simpa using List.find?_some hr'
    rw [hr', eq_of_key_eq hmem hr hkey]

theorem find?_eq_none_iff {t : Table ρ} {k : κ} : t.find? k = none ↔ ∀ r ∈ t, key r ≠ k := by
  simp [find?, List.find?_eq_none]

theorem mem_of_find? {t : Table ρ} {k : κ} {r : ρ} (h : t.find? k = some r) : r ∈ t :=
  (find?_eq_some_iff.1 h).1

theorem key_of_find? {t : Table ρ} {k : κ} {r : ρ} (h : t.find? k = some r) : key r = k :=
  (find?_eq_some_iff.1 h).2

theorem find?_of_mem {t : Table ρ} {r : ρ} (h : r ∈ t) : t.find? (key r) = some r :=
  find?_eq_some_iff.2 ⟨h, rfl⟩

/-- **A lookup sees only the row that it looks for.** -/
theorem find?_congr {t t' : Table ρ} {k : κ} (h : ∀ r, key r = k → (r ∈ t ↔ r ∈ t')) :
    t.find? k = t'.find? k := by
  refine Option.ext fun r ↦ ?_
  rw [find?_eq_some_iff, find?_eq_some_iff]
  exact and_congr_left fun hk ↦ h r hk

/-- So does a lookup with a condition, among the rows that satisfy it. -/
theorem filter_find?_congr {t t' : Table ρ} {k : κ} {p : ρ → Bool}
    (h : ∀ r, p r = true → (r ∈ t ↔ r ∈ t')) : (t.find? k).filter p = (t'.find? k).filter p := by
  refine Option.ext fun r ↦ ?_
  rw [Option.filter_eq_some_iff, Option.filter_eq_some_iff, find?_eq_some_iff, find?_eq_some_iff]
  exact and_congr_left fun hp ↦ and_congr_left fun _ ↦ h r hp

@[simp] theorem find?_empty (k : κ) : (empty : Table ρ).find? k = none := rfl

/-- Some row carries the key. -/
def has (t : Table ρ) (k : κ) : Bool := (t.find? k).isSome

theorem has_iff {t : Table ρ} {k : κ} : t.has k = true ↔ ∃ r ∈ t, key r = k := by
  rw [has, Option.isSome_iff_exists]
  simp only [find?_eq_some_iff]

theorem has_eq_false_iff {t : Table ρ} {k : κ} : t.has k = false ↔ ∀ r ∈ t, key r ≠ k := by
  rw [has, Option.isSome_eq_false_iff, Option.isNone_iff_eq_none, find?_eq_none_iff]

/-! ### Writes -/

/-- Append a row. A row whose key is taken is not appended; the statement that inserts it has
failed before it gets here. -/
def insert (t : Table ρ) (r : ρ) : Table ρ :=
  if h : t.has (key r) = false then
    ⟨t.rows ++ [r], by
      rw [has_eq_false_iff] at h
      rw [List.map_append, List.nodup_append]
      refine ⟨t.keys_nodup, List.nodup_singleton _, ?_⟩
      intro k hk k' hk'
      obtain ⟨x, hx, rfl⟩ := List.mem_map.1 hk
      rw [List.map_singleton, List.mem_singleton] at hk'
      exact hk' ▸ h x hx⟩
  else t

theorem rows_insert {t : Table ρ} {r : ρ} (h : t.has (key r) = false) :
    (t.insert r).rows = t.rows ++ [r] := by
  rw [insert, dif_pos h]

theorem countP_insert {t : Table ρ} {r : ρ} (h : t.has (key r) = false) {p : ρ → Bool}
    (hr : p r = true) : (t.insert r).rows.countP p = t.rows.countP p + 1 := by
  rw [rows_insert h, List.countP_append, List.countP_singleton, if_pos hr]

theorem mem_insert {t : Table ρ} {r x : ρ} (h : t.has (key r) = false) :
    x ∈ t.insert r ↔ x ∈ t ∨ x = r := by
  rw [← mem_rows, rows_insert h, List.mem_append, List.mem_singleton, mem_rows]

theorem mem_insert_of_ne {t : Table ρ} {r x : ρ} (hx : x ≠ r) : x ∈ t.insert r ↔ x ∈ t := by
  by_cases h : t.has (key r) = false
  · exact (mem_insert h).trans (or_iff_left hx)
  · rw [insert, dif_neg h]

theorem mem_insert_self {t : Table ρ} {r : ρ} (h : t.has (key r) = false) : r ∈ t.insert r :=
  (mem_insert h).2 (Or.inr rfl)

/-- After an insert, a row with its key is there: it or an earlier one. -/
theorem has_insert_self (t : Table ρ) (r : ρ) : (t.insert r).has (key r) = true := by
  rcases h : t.has (key r) with - | -
  · exact has_iff.2 ⟨r, mem_insert_self h, rfl⟩
  · rw [insert, dif_neg (h ▸ Bool.noConfusion)]
    exact h

theorem mem_insert_of_mem {t : Table ρ} {r x : ρ} (h : x ∈ t) : x ∈ t.insert r := by
  unfold insert
  split
  · exact List.mem_append_left _ h
  · exact h

/-- Apply an assignment to the rows that satisfy a condition. -/
def alterWhere (t : Table ρ) (p : ρ → Bool) (a : Assign ρ) : Table ρ :=
  ⟨t.rows.map fun r ↦ if p r then a.fn r else r, by
    have hkeys : (t.rows.map fun r ↦ if p r then a.fn r else r).map key = t.rows.map key := by
      rw [List.map_map]
      refine List.map_congr_left fun r _ ↦ ?_
      by_cases h : p r <;> simp [h, a.key_fn]
    exact hkeys ▸ t.keys_nodup⟩

/-- Apply an assignment to the row with the given key. -/
def alter (t : Table ρ) (k : κ) (a : Assign ρ) : Table ρ :=
  t.alterWhere (fun r ↦ decide (key r = k)) a

omit [DecidableEq κ] in
theorem rows_alterWhere (t : Table ρ) (p : ρ → Bool) (a : Assign ρ) :
    (t.alterWhere p a).rows = t.rows.map fun r ↦ if p r then a.fn r else r := rfl

theorem rows_alter (t : Table ρ) (k : κ) (a : Assign ρ) :
    (t.alter k a).rows = t.rows.map fun r ↦ if key r = k then a.fn r else r := by
  simp [alter, rows_alterWhere]

omit [DecidableEq κ] in
theorem mem_alterWhere {t : Table ρ} {p : ρ → Bool} {a : Assign ρ} {x : ρ} :
    x ∈ t.alterWhere p a ↔ ∃ r ∈ t, (if p r then a.fn r else r) = x := by
  rw [← mem_rows, rows_alterWhere, List.mem_map]
  rfl

@[simp] theorem alter_none (t : Table ρ) (k : κ) : t.alter k Assign.none = t := by
  refine ext ?_
  rw [rows_alter]
  refine (List.map_congr_left fun r _ ↦ ?_).trans (List.map_id _)
  split <;> rfl

theorem mem_alter {t : Table ρ} {k : κ} {a : Assign ρ} {x : ρ} :
    x ∈ t.alter k a ↔ ∃ r ∈ t, (if key r = k then a.fn r else r) = x := by
  simp [alter, mem_alterWhere]

omit [DecidableEq κ] in
/-- An update that no row satisfies does nothing. -/
theorem alterWhere_of_forall_not {t : Table ρ} {p : ρ → Bool} {a : Assign ρ}
    (h : ∀ r ∈ t, p r = false) : t.alterWhere p a = t := by
  refine ext ?_
  rw [rows_alterWhere]
  refine (List.map_congr_left fun r hr ↦ ?_).trans (List.map_id _)
  rw [h r hr]
  rfl

omit [DecidableEq κ] in
/-- Only the values of the condition on the rows matter. -/
theorem alterWhere_congr {t : Table ρ} {p q : ρ → Bool} {a : Assign ρ}
    (h : ∀ r ∈ t, p r = q r) : t.alterWhere p a = t.alterWhere q a := by
  refine ext ?_
  rw [rows_alterWhere, rows_alterWhere]
  exact List.map_congr_left fun r hr ↦ by rw [h r hr]

/-- Every row of an altered table comes from the row with its key. -/
theorem find?_alter {t : Table ρ} {k k' : κ} {a : Assign ρ} :
    (t.alter k a).find? k' = if k' = k then (t.find? k).map a.fn else t.find? k' := by
  have hkey : ∀ r, key (if key r = k then a.fn r else r) = key r := fun r ↦ by
    split
    · exact a.key_fn r
    · rfl
  rcases hf : t.find? k' with - | r
  · have hnone : (t.alter k a).find? k' = none := by
      rw [find?_eq_none_iff] at hf ⊢
      intro x hx
      obtain ⟨r, hr, rfl⟩ := mem_alter.1 hx
      rw [hkey]
      exact hf r hr
    rw [hnone]
    split
    · next h => rw [← h, hf]; rfl
    · rfl
  · obtain ⟨hr, hk⟩ := find?_eq_some_iff.1 hf
    have hsome : (t.alter k a).find? k' = some (if key r = k then a.fn r else r) :=
      find?_eq_some_iff.2 ⟨mem_alter.2 ⟨r, hr, rfl⟩, (hkey r).trans hk⟩
    rw [hsome]
    by_cases h : k' = k
    · rw [if_pos h, if_pos (hk.trans h), ← h, hf]
      rfl
    · rw [if_neg h, if_neg (fun hc ↦ h (hk.symm.trans hc))]

theorem has_alter {t : Table ρ} {k k' : κ} {a : Assign ρ} : (t.alter k a).has k' = t.has k' := by
  rw [has, has, find?_alter]
  split
  · next h => rw [Option.isSome_map, h]
  · rfl

theorem has_alterWhere {t : Table ρ} {p : ρ → Bool} {a : Assign ρ} {k : κ} :
    (t.alterWhere p a).has k = t.has k := by
  have hkey : ∀ r, key (if p r then a.fn r else r) = key r := fun r ↦ by
    split
    · exact a.key_fn r
    · rfl
  rw [Bool.eq_iff_iff, has_iff, has_iff]
  constructor
  · rintro ⟨x, hx, rfl⟩
    obtain ⟨r, hr, rfl⟩ := mem_alterWhere.1 hx
    exact ⟨r, hr, (hkey r).symm⟩
  · rintro ⟨r, hr, rfl⟩
    exact ⟨_, mem_alterWhere.2 ⟨r, hr, rfl⟩, hkey r⟩

/-- Remove the row with the given key. -/
def erase (t : Table ρ) (k : κ) : Table ρ :=
  ⟨t.rows.filter fun r ↦ !decide (key r = k),
    t.keys_nodup.sublist (List.filter_sublist.map key)⟩

theorem rows_erase (t : Table ρ) (k : κ) :
    (t.erase k).rows = t.rows.filter fun r ↦ !decide (key r = k) := rfl

theorem mem_erase {t : Table ρ} {k : κ} {x : ρ} : x ∈ t.erase k ↔ x ∈ t ∧ key x ≠ k := by
  rw [← mem_rows, rows_erase, List.mem_filter]
  simp

/-- Remove the rows that satisfy a condition. -/
def removeWhere (t : Table ρ) (p : ρ → Bool) : Table ρ :=
  ⟨t.rows.filter fun r ↦ !p r, t.keys_nodup.sublist (List.filter_sublist.map key)⟩

omit [DecidableEq κ] in
theorem rows_removeWhere (t : Table ρ) (p : ρ → Bool) :
    (t.removeWhere p).rows = t.rows.filter fun r ↦ !p r := rfl

theorem find?_insert {t : Table ρ} {r : ρ} {k : κ} (h : t.has (key r) = false) :
    (t.insert r).find? k = if key r = k then some r else t.find? k := by
  rw [find?, rows_insert h, List.find?_append]
  split
  · next hk =>
    have hnone : t.find? k = none := by
      rw [has_eq_false_iff] at h
      exact find?_eq_none_iff.2 fun x hx ↦ hk ▸ h x hx
    simp only [find?] at hnone
    rw [hnone]
    simp [hk]
  · next hk =>
    simp only [find?]
    rcases t.rows.find? _ with - | x <;> simp [hk]

theorem find?_insert_self {t : Table ρ} {r : ρ} (h : t.has (key r) = false) :
    (t.insert r).find? (key r) = some r := by
  rw [find?_insert h, if_pos rfl]

theorem eq_of_find?_insert {t : Table ρ} {r r' : ρ} {k : κ} (h : t.has (key r) = false)
    (hk : key r = k) (hr' : (t.insert r).find? k = some r') : r' = r := by
  rw [← hk, find?_insert_self h] at hr'
  exact (Option.some.inj hr').symm

theorem find?_alter_self {t : Table ρ} {k : κ} {r : ρ} (h : t.find? k = some r) (a : Assign ρ) :
    (t.alter k a).find? k = some (a.fn r) := by
  rw [find?_alter, if_pos rfl, h]
  rfl

/-- A row other than the one addressed is untouched by an alteration. -/
theorem mem_alter_of_ne {t : Table ρ} {k : κ} {a : Assign ρ} {x : ρ} (h : key x ≠ k) :
    x ∈ t.alter k a ↔ x ∈ t := by
  rw [mem_alter]
  constructor
  · rintro ⟨r, hr, rfl⟩
    by_cases hk : key r = k
    · rw [if_pos hk, a.key_fn] at h
      exact absurd hk h
    · rwa [if_neg hk]
  · exact fun hx ↦ ⟨x, hx, if_neg h⟩

/-- The rows after an alteration: the altered one, and the others. -/
theorem mem_alter_iff {t : Table ρ} {k : κ} {r x : ρ} {a : Assign ρ} (hr : t.find? k = some r) :
    x ∈ t.alter k a ↔ x = a.fn r ∨ x ∈ t ∧ key x ≠ k := by
  obtain ⟨hmem, hk⟩ := find?_eq_some_iff.1 hr
  constructor
  · intro hx
    obtain ⟨y, hy, rfl⟩ := mem_alter.1 hx
    by_cases hyk : key y = k
    · obtain rfl := eq_of_key_eq hy hmem (hyk.trans hk.symm)
      exact Or.inl (if_pos hyk)
    · rw [if_neg hyk]
      exact Or.inr ⟨hy, hyk⟩
  · rintro (rfl | ⟨hx, hne⟩)
    · exact mem_alter.2 ⟨r, hmem, if_pos hk⟩
    · exact (mem_alter_of_ne hne).2 hx

/-! ### Evolution -/

/-- Every row of `t'` is a row of `t` after a change that `R` allows, or a new row that satisfies
`N`. Rows of `t` may be missing from `t'`. -/
def Evolves (R : ρ → ρ → Prop) (N : ρ → Prop) (t t' : Table ρ) : Prop :=
  ∀ r' ∈ t', (∃ r ∈ t, key r = key r' ∧ R r r') ∨ (t.has (key r') = false ∧ N r')

namespace Evolves

variable {R : ρ → ρ → Prop} {N : ρ → Prop} {t t' : Table ρ}

theorem refl (hR : ∀ r, R r r) : Evolves R N t t :=
  fun r hr ↦ Or.inl ⟨r, hr, rfl, hR r⟩

theorem mono {R' : ρ → ρ → Prop} {N' : ρ → Prop} (h : Evolves R N t t')
    (hR : ∀ a b, R a b → R' a b) (hN : ∀ a, N a → N' a) : Evolves R' N' t t' :=
  fun r' hr' ↦ (h r' hr').imp (fun ⟨r, hr, hk, hrel⟩ ↦ ⟨r, hr, hk, hR _ _ hrel⟩)
    fun ⟨hnew, hn⟩ ↦ ⟨hnew, hN _ hn⟩

/-- A row that is in both tables has undergone an allowed change. -/
theorem rel (h : Evolves R N t t') {r r' : ρ} (hr : r ∈ t) (hr' : r' ∈ t') (hk : key r' = key r) :
    R r r' := by
  rcases h r' hr' with ⟨x, hx, hxk, hR⟩ | ⟨hnew, -⟩
  · rwa [eq_of_key_eq hr hx (hk.symm.trans hxk.symm)]
  · exact absurd hk.symm (has_eq_false_iff.1 hnew r hr)

/-- Inserting one row: those that were there have to be allowed to stay. -/
theorem insert_of_mem {r : ρ} (hR : ∀ x ∈ t, R x x) (hnew : t.has (key r) = false) (hN : N r) :
    Evolves R N t (t.insert r) := by
  intro r' hr'
  rcases (mem_insert hnew).1 hr' with hr' | rfl
  · exact Or.inl ⟨r', hr', rfl, hR r' hr'⟩
  · exact Or.inr ⟨hnew, hN⟩

theorem insert {r : ρ} (hR : ∀ r, R r r) (hnew : t.has (key r) = false) (hN : N r) :
    Evolves R N t (t.insert r) :=
  insert_of_mem (fun x _ ↦ hR x) hnew hN

/-- Altering one row: the change of that row has to be allowed, and all others to stay. -/
theorem alter_of_ne {k : κ} {r : ρ} {a : Assign ρ} (hR : ∀ x ∈ t, key x ≠ k → R x x)
    (hr : t.find? k = some r) (ha : R r (a.fn r)) : Evolves R N t (t.alter k a) := by
  intro r' hr'
  obtain ⟨x, hx, rfl⟩ := mem_alter.1 hr'
  left
  by_cases hk : key x = k
  · obtain rfl := eq_of_key_eq hx (mem_of_find? hr) (hk.trans (key_of_find? hr).symm)
    rw [if_pos hk]
    exact ⟨x, hx, (a.key_fn x).symm, ha⟩
  · rw [if_neg hk]
    exact ⟨x, hx, rfl, hR x hx hk⟩

theorem alter {k : κ} {r : ρ} {a : Assign ρ} (hR : ∀ r, R r r) (hr : t.find? k = some r)
    (ha : R r (a.fn r)) : Evolves R N t (t.alter k a) :=
  alter_of_ne (fun x _ _ ↦ hR x) hr ha

theorem alterWhere {p : ρ → Bool} {a : Assign ρ} (hR : ∀ r, R r r) (ha : ∀ r, R r (a.fn r)) :
    Evolves R N t (t.alterWhere p a) := by
  intro r' hr'
  obtain ⟨x, hx, rfl⟩ := mem_alterWhere.1 hr'
  left
  split
  · exact ⟨x, hx, (a.key_fn x).symm, ha x⟩
  · exact ⟨x, hx, rfl, hR x⟩

theorem erase {k : κ} (hR : ∀ r, R r r) : Evolves R N t (t.erase k) :=
  fun r hr ↦ Or.inl ⟨r, (mem_erase.1 hr).1, rfl, hR r⟩

theorem trans {t'' : Table ρ} (h : Evolves R N t t') (h' : Evolves R N t' t'')
    (hR : ∀ a b c, R a b → R b c → R a c) (hN : ∀ a b, N a → R a b → N b)
    (hkeys : ∀ k, t.has k = true → t'.has k = true) : Evolves R N t t'' := by
  intro r'' hr''
  rcases h' r'' hr'' with ⟨r', hr', hk', hR'⟩ | ⟨hnew, hN'⟩
  · rcases h r' hr' with ⟨r, hr, hk, hRr⟩ | ⟨hnew, hN'⟩
    · exact Or.inl ⟨r, hr, hk.trans hk', hR _ _ _ hRr hR'⟩
    · exact Or.inr ⟨hk' ▸ hnew, hN _ _ hN' hR'⟩
  · refine Or.inr ⟨?_, hN'⟩
    rcases hhas : t.has (key r'') with - | -
    · rfl
    · rw [hkeys _ hhas] at hnew
      cases hnew

end Evolves

/-! ### Values that move along a relation -/

section Follows

variable {α : Type} {f : ρ → α} {E : α → α → Prop} {t t' t'' : Table ρ}

/-- Every row of `t` is still there, with the same value of `f` or one that `E` allows next. -/
def Follows (f : ρ → α) (E : α → α → Prop) (t t' : Table ρ) : Prop :=
  ∀ r ∈ t, ∃ r' ∈ t', key r' = key r ∧ (f r' = f r ∨ E (f r) (f r'))

omit [DecidableEq κ] in
theorem Follows.refl : Follows f E t t := fun r hr ↦ ⟨r, hr, rfl, Or.inl rfl⟩

theorem Evolves.follows {R : ρ → ρ → Prop} {N : ρ → Prop} (h : Evolves R N t t')
    (hkeys : ∀ k, t.has k = true → t'.has k = true)
    (hR : ∀ a b, R a b → f b = f a ∨ E (f a) (f b)) : Follows f E t t' := by
  intro r hr
  obtain ⟨r', hr', hk⟩ := has_iff.1 (hkeys (key r) (has_iff.2 ⟨r, hr, rfl⟩))
  exact ⟨r', hr', hk, hR r r' (h.rel hr hr' hk)⟩

/-- Every row of `t` whose value is final still has it. -/
def Settled (f : ρ → α) (E : α → α → Prop) (t t' : Table ρ) : Prop :=
  ∀ r ∈ t, (∀ b, ¬E (f r) b) → ∃ r' ∈ t', key r' = key r ∧ f r' = f r

omit [DecidableEq κ] in
theorem Follows.settled (h : Follows f E t t') : Settled f E t t' := by
  intro r hr hfinal
  obtain ⟨r', hr', hk, heq | hE⟩ := h r hr
  · exact ⟨r', hr', hk, heq⟩
  · exact absurd hE (hfinal _)

omit [DecidableEq κ] in
theorem Settled.trans (h : Settled f E t t') (h' : Settled f E t' t'') : Settled f E t t'' := by
  intro r hr hfinal
  obtain ⟨r', hr', hk, heq⟩ := h r hr hfinal
  obtain ⟨r'', hr'', hk', heq'⟩ := h' r' hr' (heq ▸ hfinal)
  exact ⟨r'', hr'', hk'.trans hk, heq'.trans heq⟩

end Follows

end Table

end ZanovixCrm
