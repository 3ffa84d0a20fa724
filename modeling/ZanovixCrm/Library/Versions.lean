import Mathlib.Order.Lattice
import ZanovixCrm.Library.Table

/-!
# Versions of rows

A table whose rows carry two moments, that of their insertion and that of their last change. A write
at `now` leaves a row as it is or dates it `now` (`WrittenAt`). If the writes come one after the
other, the second moment is a version: two states of a table that agree on it agree on the row
(`Versioned`).

Rows may be deleted and keys may be given out again.
-/

namespace ZanovixCrm.Table

variable {ρ κ τ : Type} [Keyed ρ κ] [DecidableEq κ] (born changed : ρ → τ)

/-- What a write at `now` may do to a row: nothing, or a change that it dates. -/
def Redated (now : τ) (r r' : ρ) : Prop := r' = r ∨ (born r' = born r ∧ changed r' = now)

/-- What a write at `now` may insert. -/
def Inserted (now : τ) (r : ρ) : Prop := born r = now ∧ changed r = now

/-- `t'` is `t` after writes at `now`. -/
def WrittenAt (now : τ) (t t' : Table ρ) : Prop :=
  Evolves (Redated born changed now) (Inserted born changed now) t t'

variable {born changed} {now m : τ} {t t' t'' : Table ρ}

omit [Keyed ρ κ] [DecidableEq κ] in
theorem Redated.refl (r : ρ) : Redated born changed now r r := Or.inl rfl

omit [Keyed ρ κ] [DecidableEq κ] in
theorem Redated.trans {r r' r'' : ρ} (h : Redated born changed now r r')
    (h' : Redated born changed now r' r'') : Redated born changed now r r'' := by
  rcases h' with rfl | ⟨hborn', hchanged'⟩
  · exact h
  · rcases h with rfl | ⟨hborn, -⟩
    · exact Or.inr ⟨hborn', hchanged'⟩
    · exact Or.inr ⟨hborn'.trans hborn, hchanged'⟩

omit [Keyed ρ κ] [DecidableEq κ] in
theorem Inserted.redated {r r' : ρ} (h : Inserted born changed now r)
    (h' : Redated born changed now r r') : Inserted born changed now r' := by
  rcases h' with rfl | ⟨hborn, hchanged⟩
  · exact h
  · exact ⟨hborn.trans h.1, hchanged⟩

namespace WrittenAt

theorem refl (t : Table ρ) : WrittenAt born changed now t t := Evolves.refl Redated.refl

theorem insert {r : ρ} (hnew : t.has (key r) = false) (hr : Inserted born changed now r) :
    WrittenAt born changed now t (t.insert r) :=
  Evolves.insert Redated.refl hnew hr

theorem alterWhere {p : ρ → Bool} {a : Assign ρ} (ha : ∀ r, Redated born changed now r (a.fn r)) :
    WrittenAt born changed now t (t.alterWhere p a) :=
  Evolves.alterWhere Redated.refl ha

theorem alter {k : κ} {r : ρ} {a : Assign ρ} (hr : t.find? k = some r)
    (ha : Redated born changed now r (a.fn r)) : WrittenAt born changed now t (t.alter k a) :=
  Evolves.alter Redated.refl hr ha

theorem erase {k : κ} (h : WrittenAt born changed now t t') :
    WrittenAt born changed now t (t'.erase k) :=
  fun r hr ↦ h r (mem_erase.1 hr).1

/-- Two writes of one moment. -/
theorem trans (h : WrittenAt born changed now t t') (h' : WrittenAt born changed now t' t'')
    (hkeys : ∀ k, t.has k = true → t'.has k = true) : WrittenAt born changed now t t'' :=
  Evolves.trans h h' (fun _ _ _ ↦ Redated.trans) (fun _ _ ↦ Inserted.redated) hkeys

end WrittenAt

variable [LinearOrder τ]

variable (born changed) in
/-- No row is dated after `now`, or before it was inserted. -/
def DatedBy (now : τ) (t : Table ρ) : Prop := ∀ r ∈ t, born r ≤ changed r ∧ changed r ≤ now

theorem DatedBy.written (h : DatedBy born changed m t) (hm : m ≤ now)
    (hw : WrittenAt born changed now t t') : DatedBy born changed now t' := by
  intro r' hr'
  rcases hw r' hr' with ⟨r, hr, -, rfl | ⟨hborn, hchanged⟩⟩ | ⟨-, hborn, hchanged⟩
  · exact ⟨(h _ hr).1, (h _ hr).2.trans hm⟩
  · rw [hborn, hchanged]
    exact ⟨((h r hr).1.trans (h r hr).2).trans hm, le_rfl⟩
  · rw [hborn, hchanged]
    exact ⟨le_rfl, le_rfl⟩

variable (changed) in
/-- The rows of `t'` are those of `t`, up to changes after `m`. -/
def SameUntil (m : τ) (t t' : Table ρ) : Prop :=
  ∀ r ∈ t, ∀ r' ∈ t', key r' = key r → r' = r ∨ m < changed r'

omit [DecidableEq κ] in
theorem SameUntil.refl (t : Table ρ) : SameUntil changed m t t :=
  fun _ hr _ hr' hk ↦ Or.inl (eq_of_key_eq hr' hr hk)

theorem SameUntil.written (h : SameUntil changed m t t') (hm : m < now)
    (hw : WrittenAt born changed now t' t'') : SameUntil changed m t t'' := by
  intro r hr r'' hr'' hk
  rcases hw r'' hr'' with ⟨r', hr', hk', rfl | ⟨-, hchanged⟩⟩ | ⟨-, -, hchanged⟩
  · exact h r hr _ hr' hk
  · exact Or.inr (hchanged ▸ hm)
  · exact Or.inr (hchanged ▸ hm)

variable (born changed) in
/-- **The moment of the last change is a version**: it does not go back, and if it is the same then
so is the row. -/
def Versioned (t t' : Table ρ) : Prop :=
  (∀ r' ∈ t', born r' ≤ changed r') ∧
    ∀ r ∈ t, ∀ r' ∈ t', key r' = key r → changed r ≤ changed r' ∧ (changed r' = changed r → r' = r)

omit [DecidableEq κ] in
theorem SameUntil.versioned (h : SameUntil changed m t t') (ht : DatedBy born changed m t)
    (ht' : DatedBy born changed now t') : Versioned born changed t t' := by
  refine ⟨fun r' hr' ↦ (ht' r' hr').1, fun r hr r' hr' hk ↦ ?_⟩
  rcases h r hr r' hr' hk with rfl | hlt
  · exact ⟨le_rfl, fun _ ↦ rfl⟩
  · have hlt' : changed r < changed r' := (ht r hr).2.trans_lt hlt
    exact ⟨hlt'.le, fun heq ↦ absurd heq hlt'.ne'⟩

end ZanovixCrm.Table
