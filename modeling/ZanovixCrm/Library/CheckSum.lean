import Mathlib.Algebra.Group.Defs
import Mathlib.Data.List.Basic

/-!
# Check sums

A check sum adds up the characters of a text, each weighted by its place. It notices that one
character has been replaced if the weight at that place tells the two apart, and that two neighbours
have been exchanged if the sum of their weights depends on their order. These are the only facts
about a particular scheme that are needed; they concern one place or two, and not the whole text.
-/

namespace ZanovixCrm

variable {α M : Type} [AddCancelCommMonoid M]

/-- The check sum of characters of which the first is at place `i`. -/
def checkSum (weight : ℕ → α → M) (i : ℕ) : List α → M
  | [] => 0
  | a :: as => weight i a + checkSum weight (i + 1) as

namespace CheckSum

variable {weight : ℕ → α → M}

theorem append (i : ℕ) (u v : List α) :
    checkSum weight i (u ++ v) = checkSum weight i u + checkSum weight (i + u.length) v := by
  induction u generalizing i with
  | nil => rw [List.nil_append, checkSum, zero_add, List.length_nil, Nat.add_zero]
  | cons a u ih =>
    have hplace : i + 1 + u.length = i + (u.length + 1) := by omega
    rw [List.cons_append, checkSum, checkSum, ih, List.length_cons, hplace]
    exact (add_assoc _ _ _).symm

/-- **A replaced character is noticed** if its weight changes. -/
theorem weight_eq_of_substitute {i : ℕ} {u v : List α} {a b : α}
    (h : checkSum weight i (u ++ a :: v) = checkSum weight i (u ++ b :: v)) :
    weight (i + u.length) a = weight (i + u.length) b := by
  rw [append, append, checkSum, checkSum] at h
  exact add_right_cancel (add_left_cancel h)

/-- **An exchange of neighbours is noticed** if the sum of their weights changes. -/
theorem weight_eq_of_transpose {i : ℕ} {u v : List α} {a b : α}
    (h : checkSum weight i (u ++ a :: b :: v) = checkSum weight i (u ++ b :: a :: v)) :
    weight (i + u.length) a + weight (i + u.length + 1) b =
      weight (i + u.length) b + weight (i + u.length + 1) a := by
  rw [append, append, checkSum, checkSum, checkSum, checkSum] at h
  have hpair := add_left_cancel h
  rw [← add_assoc, ← add_assoc] at hpair
  exact add_right_cancel hpair

end CheckSum

end ZanovixCrm
