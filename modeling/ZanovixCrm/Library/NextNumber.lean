import Mathlib.Data.Finset.Card

/-!
# The next number, by counting

Whoever numbers things by counting those that are there gives the next one the count plus one. That
is free as long as nobody chooses a number in another way or takes one back; otherwise it depends on
the number that is chosen or taken back and on whether one other number is given
(`countFree_insert_iff`, `countFree_erase_iff`).
-/

namespace ZanovixCrm.NextNumber

variable {s : Finset ℤ} {n : ℤ}

/-- The count plus one is free. -/
def CountFree (s : Finset ℤ) : Prop := (s.card : ℤ) + 1 ∉ s

theorem countFree_empty : CountFree ∅ := Finset.notMem_empty _

theorem countFree_insert_iff (hn : n ∉ s) :
    CountFree (insert n s) ↔ n ≠ s.card + 2 ∧ (s.card : ℤ) + 2 ∉ s := by
  have hcard : ((insert n s).card : ℤ) + 1 = s.card + 2 := by
    rw [Finset.card_insert_of_notMem hn]
    omega
  rw [CountFree, hcard, Finset.mem_insert, not_or]
  exact and_congr_left fun _ ↦ ne_comm

theorem countFree_erase_iff (hn : n ∈ s) :
    CountFree (s.erase n) ↔ n = s.card ∨ (s.card : ℤ) ∉ s := by
  have hcard : ((s.erase n).card : ℤ) + 1 = s.card := by
    have hsucc := Finset.card_erase_add_one hn
    omega
  rw [CountFree, hcard, Finset.mem_erase, not_and_or, not_not]
  exact or_congr_left eq_comm

end ZanovixCrm.NextNumber
