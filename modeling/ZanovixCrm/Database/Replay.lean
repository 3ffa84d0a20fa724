import ZanovixCrm.Database.Attributes

/-!
# Flushes that are made again

Attributes of different columns are assigned in any order (`Apart`), and one that is assigned again
stays as it is (`Plain`). So the row that a flush leaves is one that the same assignments leave
alone, even where the database has stored another value than was assigned. A flush of the same
attributes therefore changes nothing but the date (`Flushed.again`). A partial update whose fields
have a plain column each, no two the same, is of this kind (`ColumnPatch.independent`).
-/

namespace ZanovixCrm

/-- The later of two dates counts. -/
class TouchesLast (ρ : Type) [Keyed ρ UUID] [Touched ρ] : Prop where
  touch_touch : ∀ (now now' : Time) (r : ρ),
    (touch now : Assign ρ).fn ((touch now' : Assign ρ).fn r) = (touch now : Assign ρ).fn r

instance : TouchesLast Lead := ⟨fun _ _ _ ↦ rfl⟩
instance : TouchesLast Client := ⟨fun _ _ _ ↦ rfl⟩
instance : TouchesLast Contact := ⟨fun _ _ _ ↦ rfl⟩
instance : TouchesLast Service := ⟨fun _ _ _ ↦ rfl⟩
instance : TouchesLast BillingProfile := ⟨fun _ _ _ ↦ rfl⟩
instance : TouchesLast Ticket := ⟨fun _ _ _ ↦ rfl⟩
instance : TouchesLast Milestone := ⟨fun _ _ _ ↦ rfl⟩

section Undated

variable {ρ : Type} [Keyed ρ UUID] [Touched ρ]

/-- The row without the date of its last change. -/
def undated (r : ρ) : ρ := (touch 0 : Assign ρ).fn r

/-- The same rows, but for the dates of their last changes. -/
def Table.SameUndated (t t' : Table ρ) : Prop := t'.rows.map undated = t.rows.map undated

namespace Table.SameUndated

variable {t : Table ρ}

theorem refl (t : Table ρ) : t.SameUndated t := rfl

theorem alterWhere {p : ρ → Bool} {a : Assign ρ}
    (h : ∀ r ∈ t, p r = true → undated (a.fn r) = undated r) :
    t.SameUndated (t.alterWhere p a) := by
  rw [SameUndated, rows_alterWhere, List.map_map]
  refine List.map_congr_left fun r hr ↦ ?_
  rcases hp : p r with - | -
  · simp [hp]
  · simp [hp, h r hr hp]

theorem alter {k : UUID} {r : ρ} {a : Assign ρ} (hr : t.find? k = some r)
    (h : undated (a.fn r) = undated r) : t.SameUndated (t.alter k a) := by
  refine alterWhere fun x hx hk ↦ ?_
  have hkey : key x = key r := (of_decide_eq_true hk).trans (key_of_find? hr).symm
  rw [eq_of_key_eq hx (mem_of_find? hr) hkey, h]

theorem trans {t' t'' : Table ρ} (h : t.SameUndated t') (h' : t'.SameUndated t'') :
    t.SameUndated t'' := Eq.trans h' h

end Table.SameUndated

end Undated

/-! ### Assignments that are independent -/

section Independent

variable {ρ : Type} [Keyed ρ UUID] [Touched ρ]

/-- The laws of a column that is assigned. -/
structure Column.Plain {β : Type} (c : Column ρ β) : Prop where
  set_set : ∀ b r, c.set b (c.set b r) = c.set b r
  set_get : ∀ r, c.set (c.get r) r = r
  set_touch : ∀ b now r,
    c.set b ((touch now : Assign ρ).fn r) = (touch now : Assign ρ).fn (c.set b r)

/-- An assignment that is made again changes nothing, nor does one of the value that is there; and
it does not matter when the row is dated. -/
structure Change.Plain (x : Change ρ) : Prop where
  again : ∀ a, x.assign = .ok a → ∀ r, a.fn (a.fn r) = a.fn r
  clean : ∀ a, x.assign = .ok a → ∀ r, x.dirty r = false → a.fn r = r
  dated : ∀ a, x.assign = .ok a → ∀ now r,
    a.fn ((touch now : Assign ρ).fn r) = (touch now : Assign ρ).fn (a.fn r)

omit [Touched ρ] in
/-- The assignments may change places. -/
def Change.Commutes (x y : Change ρ) : Prop :=
  ∀ a b, x.assign = .ok a → y.assign = .ok b → ∀ r, a.fn (b.fn r) = b.fn (a.fn r)

omit [Touched ρ] in
/-- The assignments of one list may change places with those of the other. -/
def Apart (cs ds : List (Change ρ)) : Prop := ∀ x ∈ cs, ∀ y ∈ ds, x.Commutes y

/-- Assignments that have nothing to do with each other. -/
structure Independent (cs : List (Change ρ)) : Prop where
  plain : ∀ x ∈ cs, x.Plain
  commute : Apart cs cs

omit [Touched ρ] in
theorem apart_append_left {cs cs' ds : List (Change ρ)} :
    Apart (cs ++ cs') ds ↔ Apart cs ds ∧ Apart cs' ds := List.forall_mem_append

omit [Touched ρ] in
theorem Apart.symm {cs ds : List (Change ρ)} (h : Apart cs ds) : Apart ds cs :=
  fun x hx y hy a b ha hb r ↦ (h y hy x hx b a hb ha r).symm

omit [Touched ρ] in
theorem apart_append_right {cs ds ds' : List (Change ρ)} :
    Apart cs (ds ++ ds') ↔ Apart cs ds ∧ Apart cs ds' :=
  ⟨fun h ↦ ⟨(apart_append_left.1 h.symm).1.symm, (apart_append_left.1 h.symm).2.symm⟩,
    fun h ↦ (apart_append_left.2 ⟨h.1.symm, h.2.symm⟩).symm⟩

theorem independent_append {cs ds : List (Change ρ)} :
    Independent (cs ++ ds) ↔ Independent cs ∧ Independent ds ∧ Apart cs ds := by
  constructor
  · rintro ⟨hplain, hcommute⟩
    obtain ⟨hcs, hds⟩ := List.forall_mem_append.1 hplain
    obtain ⟨hleft, hright⟩ := apart_append_left.1 hcommute
    exact ⟨⟨hcs, (apart_append_right.1 hleft).1⟩, ⟨hds, (apart_append_right.1 hright).2⟩,
      (apart_append_right.1 hleft).2⟩
  · rintro ⟨hcs, hds, hapart⟩
    exact ⟨List.forall_mem_append.2 ⟨hcs.plain, hds.plain⟩, apart_append_left.2
      ⟨apart_append_right.2 ⟨hcs.commute, hapart⟩,
        apart_append_right.2 ⟨hapart.symm, hds.commute⟩⟩⟩

section Columns

variable {β γ raw raw' : Type} [Codec β raw] [DecidableEq raw] [Codec γ raw'] [DecidableEq raw']
  {c : Column ρ β} {d : Column ρ γ}

/-- An attribute that is assigned. -/
theorem independent_assign (h : c.Plain) (v : Option raw) : Independent [c.assign v] := by
  have hput : ∀ a, (c.assign v).assign = .ok a → ∃ b, encode v = .ok b ∧ a = c.put b := by
    intro a ha
    rw [Column.assign] at ha
    rcases hb : (encode v : Except DbError β) with e | b
    · rw [hb] at ha
      cases ha
    · rw [hb] at ha
      exact ⟨b, rfl, (Except.ok.inj ha).symm⟩
  constructor
  · intro x hx
    rw [List.mem_singleton.1 hx]
    constructor
    · intro a ha r
      obtain ⟨b, -, rfl⟩ := hput a ha
      exact h.set_set b r
    · intro a ha r hclean
      obtain ⟨b, hb, rfl⟩ := hput a ha
      -- What is stored is determined by what is loaded from it.
      have hv : decode (c.get r) = v := by simpa [Column.assign] using hclean
      rw [← hv, encode_decode] at hb
      rw [Column.put_fn, ← Except.ok.inj hb, h.set_get]
    · intro a ha now r
      obtain ⟨b, -, rfl⟩ := hput a ha
      exact h.set_touch b now r
  · intro x hx y hy a b ha hb r
    rw [List.mem_singleton.1 hx] at ha
    rw [List.mem_singleton.1 hy] at hb
    rw [Except.ok.inj (ha.symm.trans hb)]

theorem independent_patch (h : c.Plain) (fld : Field raw) : Independent (c.patch fld) := by
  unfold Column.patch
  split
  · exact independent_assign h _
  · exact ⟨fun _ hx ↦ absurd hx List.not_mem_nil, fun _ hx ↦ absurd hx List.not_mem_nil⟩

omit [Touched ρ] in
theorem apart_assign (h : ∀ x y r, c.set x (d.set y r) = d.set y (c.set x r)) (v : Option raw)
    (v' : Option raw') : Apart [c.assign v] [d.assign v'] := by
  intro x hx y hy a b ha hb r
  rw [List.mem_singleton.1 hx, Column.assign] at ha
  rw [List.mem_singleton.1 hy, Column.assign] at hb
  rcases hv : (encode v : Except DbError β) with e | w
  · rw [hv] at ha
    cases ha
  rcases hv' : (encode v' : Except DbError γ) with e | w'
  · rw [hv'] at hb
    cases hb
  rw [hv] at ha
  rw [hv'] at hb
  rw [← Except.ok.inj ha, ← Except.ok.inj hb]
  exact h w w' r

omit [Touched ρ] in
/-- Patches of two columns. -/
theorem apart_patch (h : ∀ x y r, c.set x (d.set y r) = d.set y (c.set x r)) (fld : Field raw)
    (fld' : Field raw') : Apart (c.patch fld) (d.patch fld') := by
  intro x hx y hy
  unfold Column.patch at hx hy
  split at hx
  · split at hy
    · exact apart_assign h _ _ x hx y hy
    · cases hy
  · cases hx

end Columns

/-! ### Patches of several columns -/

/-- The patch of one column, whatever the column holds. -/
structure ColumnPatch (ρ : Type) [Keyed ρ UUID] where
  {β raw : Type}
  [codec : Codec β raw]
  [decEq : DecidableEq raw]
  column : Column ρ β
  field : Field raw

namespace ColumnPatch

omit [Touched ρ] in
/-- What the patch assigns. -/
def changes (q : ColumnPatch ρ) : List (Change ρ) :=
  haveI := q.codec
  haveI := q.decEq
  q.column.patch q.field

omit [Touched ρ] in
/-- The column may be set before or after each of the others. -/
def ApartFrom (q : ColumnPatch ρ) : List (ColumnPatch ρ) → Prop
  | [] => True
  | q' :: qs =>
    (∀ x y r, q.column.set x (q'.column.set y r) = q'.column.set y (q.column.set x r)) ∧
      q.ApartFrom qs

/-- The columns are plain, and each may be set before or after the others. -/
def Separate : List (ColumnPatch ρ) → Prop
  | [] => True
  | q :: qs => q.column.Plain ∧ q.ApartFrom qs ∧ Separate qs

omit [Touched ρ] in
theorem ApartFrom.apart {q q' : ColumnPatch ρ} {qs : List (ColumnPatch ρ)} (h : q.ApartFrom qs)
    (hq : q' ∈ qs) : Apart q.changes q'.changes := by
  induction qs with
  | nil => cases hq
  | cons r qs ih =>
    rcases List.mem_cons.1 hq with rfl | hq
    · exact @apart_patch _ _ _ _ _ _ q.codec q.decEq q'.codec q'.decEq _ _ h.1 _ _
    · exact ih h.2 hq

theorem independent_foldl {qs : List (ColumnPatch ρ)} (h : Separate qs) {cs : List (Change ρ)}
    (hcs : Independent cs) (hapart : ∀ q ∈ qs, Apart cs q.changes) :
    Independent (qs.foldl (fun cs q ↦ cs ++ q.changes) cs) := by
  induction qs generalizing cs with
  | nil => exact hcs
  | cons q qs ih =>
    obtain ⟨hplain, hfrom, hqs⟩ := h
    have hq : Independent q.changes :=
      @independent_patch _ _ _ _ _ q.codec q.decEq _ hplain q.field
    refine ih hqs (independent_append.2 ⟨hcs, hq, hapart q List.mem_cons_self⟩) fun q' hq' ↦ ?_
    exact apart_append_left.2 ⟨hapart q' (List.mem_cons_of_mem q hq'), hfrom.apart hq'⟩

/-- **Patches of separate columns are independent**, one after the other. -/
theorem independent (qs : List (ColumnPatch ρ))
    (h : Separate qs := by (repeat' constructor) <;> intros <;> rfl) :
    Independent (qs.foldl (fun cs q ↦ cs ++ q.changes) []) := by
  refine independent_foldl h ⟨?_, ?_⟩ ?_
  · exact fun _ hx ↦ absurd hx List.not_mem_nil
  · exact fun _ hx ↦ absurd hx List.not_mem_nil
  · exact fun _ _ _ hx ↦ absurd hx List.not_mem_nil

end ColumnPatch

end Independent

/-! ### The same flush again -/

namespace Session

section Again

variable {ρ : Type} [Keyed ρ UUID] [Touched ρ] {now now' : Time} {loaded : ρ}
  {cs : List (Change ρ)}

/-- What an assignment leaves alone, or is one of the assignments, it leaves alone after them. -/
theorem fixed_of_assignments {ds : List (Change ρ)} {as : List (Assign ρ)} {x : Change ρ}
    {a : Assign ρ} {r : ρ} (hx : x.Plain) (ha : x.assign = .ok a)
    (hcommute : ∀ d ∈ ds, x.Commutes d) (has : assignments ds = .ok as)
    (hr : a.fn r = r ∨ x ∈ ds) : a.fn ((Assign.seq as).fn r) = (Assign.seq as).fn r := by
  induction ds generalizing as r with
  | nil =>
    cases has
    exact hr.resolve_right List.not_mem_nil
  | cons d ds ih =>
    obtain ⟨b, bs, hb, hbs, rfl⟩ := assignments_cons_eq_ok.1 has
    rw [Assign.seq_cons_fn]
    refine ih (fun e he ↦ hcommute e (List.mem_cons_of_mem _ he)) hbs ?_
    rcases hr with hr | hr
    · left
      rw [hcommute d List.mem_cons_self a b ha hb, hr]
    · rcases List.mem_cons.1 hr with rfl | hmem
      · left
        rw [← Except.ok.inj (ha.symm.trans hb), hx.again a ha]
      · exact Or.inr hmem

/-- **What a flush leaves, each of its assignments leaves alone.** -/
theorem fixed_of_saved (h : Independent cs) (hflush : Flushes now loaded cs) {x : Change ρ}
    (hx : x ∈ cs) {a : Assign ρ} (ha : x.assign = .ok a) :
    a.fn ((saved now loaded cs).fn loaded) = (saved now loaded cs).fn loaded := by
  have hclean : x ∉ dirty loaded cs → a.fn loaded = loaded := by
    intro hnot
    refine (h.plain x hx).clean a ha loaded (Bool.eq_false_iff.2 fun hdirty ↦ hnot ?_)
    exact List.mem_filter.2 ⟨hx, hdirty⟩
  by_cases hd : (dirty loaded cs).isEmpty = true
  · rw [saved_of_clean hd]
    refine hclean ?_
    rw [List.isEmpty_iff.1 hd]
    exact List.not_mem_nil
  · obtain ⟨b, hb⟩ := hflush.resolve_left hd
    obtain ⟨as, has, rfl⟩ := updateOf_eq_ok hb
    rw [saved_of_updateOf hd hb, Assign.seq_append_fn, Assign.seq_cons_fn, Assign.seq_nil_fn,
      (h.plain x hx).dated a ha]
    congr 1
    refine fixed_of_assignments (h.plain x hx) ha
      (fun d hd ↦ h.commute x hx d (List.mem_of_mem_filter hd)) has ?_
    by_cases hmem : x ∈ dirty loaded cs
    · exact Or.inr hmem
    · exact Or.inl (hclean hmem)

/-- The same flush, of the row that it has left. -/
theorem undated_saved_again [TouchesLast ρ] (h : Independent cs) (hflush : Flushes now loaded cs)
    {r : ρ} (hr : r = (saved now loaded cs).fn loaded) :
    undated ((saved now' r cs).fn r) = undated r := by
  refine saved_keeps (P := fun x ↦ undated x = undated r) (fun x hx a ha y hy ↦ ?_)
    (fun t x hx ↦ ?_) rfl
  · have hdated := (h.plain x hx).dated a ha 0
    have hfixed : a.fn r = r := hr ▸ fixed_of_saved h hflush hx ha
    calc undated (a.fn y) = a.fn (undated y) := (hdated y).symm
      _ = a.fn (undated r) := by rw [hy]
      _ = undated (a.fn r) := hdated r
      _ = undated r := by rw [hfixed]
  · exact (TouchesLast.touch_touch 0 t x).trans hx

/-- **The same flush again** changes nothing but the date. -/
theorem Flushed.again [TouchesLast ρ] [Relation ρ] {db db' : Db} {k : UUID} {old new old' new' : ρ}
    (h : Flushed now cs db k old new) (hcs : Independent cs)
    (hdb' : (Relation.table db' : Table ρ) =
      (Relation.table db : Table ρ).alter k (saved now old cs))
    (h' : Flushed now' cs db' k old' new') :
    (Relation.table db' : Table ρ).SameUndated
      ((Relation.table db' : Table ρ).alter k (saved now' old' cs)) := by
  have hfound := h'.found
  rw [hdb', Table.find?_alter_self h.found] at hfound
  have hold : old' = (saved now old cs).fn old := (Option.some.inj hfound).symm
  exact .alter h'.found (undated_saved_again hcs h.accepted.flushes hold)

end Again

end Session

end ZanovixCrm
