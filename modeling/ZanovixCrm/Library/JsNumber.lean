import Mathlib.Algebra.Order.BigOperators.Group.List
import Mathlib.Algebra.Order.Group.Nat
import Mathlib.Algebra.Ring.Int.Defs
import Mathlib.Algebra.Ring.Nat

/-!
# Whole numbers in JavaScript

A number in JavaScript is a double, which has 53 significant bits. A whole number that needs more is
rounded to the nearest one that does not, and a tie goes to the even significand; that is so when a
number is read, and again after every addition. `roundingError` adds up what the single roundings
miss, which is what the sum misses (`sum_map_ofInt`). Up to `2 ^ 53` nothing is rounded, and a sum
whose terms do not exceed that together is exact (`roundingError_eq_zero`); beyond it may be exact
as well, where the numbers have room or the errors cancel.

Numbers beyond the largest double, which are infinite, do not occur here.
-/

namespace ZanovixCrm.JsNumber

/-- Up to here every whole number is a double. -/
def maxExact : ℕ := 2 ^ 53

/-- A whole number that is a double, and that `String` writes with exactly its digits. Beyond
`maxExact` it writes the shortest digits that are read as the same double, filled up with zeros. -/
structure Whole where
  val : ℤ
  bound : val.natAbs ≤ maxExact

/-- `String(n)`. -/
def Whole.text (n : Whole) : String := toString n.val

/-- The number of low bits for which the significand has no room. -/
def excess (n : ℕ) : ℕ := n.log2 + 1 - 53

/-- The nearest natural number with 53 significant bits. -/
def roundNat (n : ℕ) : ℕ :=
  let unit := 2 ^ excess n
  (if unit < 2 * (n % unit) ∨ (unit = 2 * (n % unit) ∧ n / unit % 2 = 1) then n / unit + 1
  else n / unit) * unit

/-- The number that a whole number is read as. -/
def ofInt (x : ℤ) : ℤ := x.sign * roundNat x.natAbs

/-- `+`. -/
def add (x y : ℤ) : ℤ := ofInt (x + y)

/-- `reduce((sum, x) => sum + x, 0)`. -/
def sum (xs : List ℤ) : ℤ := xs.foldl add 0

theorem excess_eq_zero {n : ℕ} (h : n < maxExact) : excess n = 0 := by
  rcases Nat.eq_zero_or_pos n with rfl | hpos
  · rfl
  · have hlog : n.log2 < 53 := (Nat.log2_lt (Nat.ne_of_gt hpos)).2 h
    rw [excess]
    omega

theorem roundNat_eq {n : ℕ} (h : n ≤ maxExact) : roundNat n = n := by
  rcases Nat.lt_or_eq_of_le h with hlt | rfl
  · simp [roundNat, excess_eq_zero hlt, Nat.mod_one]
  · decide

theorem ofInt_eq {x : ℤ} (h : x.natAbs ≤ maxExact) : ofInt x = x := by
  rw [ofInt, roundNat_eq h]
  exact Int.sign_mul_natAbs x

/-- The sum of the absolute values. -/
def magnitude (xs : List ℤ) : ℕ := (xs.map Int.natAbs).sum

theorem magnitude_perm {xs ys : List ℤ} (h : xs.Perm ys) : magnitude xs = magnitude ys :=
  (h.map _).sum_eq

theorem natAbs_le_magnitude {xs : List ℤ} {x : ℤ} (h : x ∈ xs) : x.natAbs ≤ magnitude xs :=
  List.le_sum_of_mem (List.mem_map_of_mem h)

/-- Nothing is rounded on the way from `x` on. -/
theorem foldl_add {xs : List ℤ} {x : ℤ} (h : x.natAbs + magnitude xs ≤ maxExact) :
    xs.foldl add x = x + xs.sum := by
  induction xs generalizing x with
  | nil => exact (Int.add_zero x).symm
  | cons y ys ih =>
    have hcons : magnitude (y :: ys) = y.natAbs + magnitude ys := by
      rw [magnitude, List.map_cons, List.sum_cons]
      rfl
    have hadd : add x y = x + y := ofInt_eq (by omega)
    rw [List.foldl_cons, hadd, ih (by omega), List.sum_cons]
    omega

/-- **A sum of numbers that are not too large is exact.** -/
theorem sum_eq {xs : List ℤ} (h : magnitude xs ≤ maxExact) : sum xs = xs.sum := by
  rw [sum, foldl_add (by omega)]
  omega

/-- By how much a number is missed when it is rounded. -/
def error (x : ℤ) : ℤ := ofInt x - x

/-- The errors of reading the numbers and of adding each of them to what there is. -/
def errorsFrom (acc : ℤ) : List ℤ → ℤ
  | [] => 0
  | x :: xs => error x + error (acc + ofInt x) + errorsFrom (add acc (ofInt x)) xs

/-- All the errors that are made when the numbers are read and added up. -/
def roundingError (xs : List ℤ) : ℤ := errorsFrom 0 xs

/-- What the sum misses is what the single roundings miss. -/
theorem foldl_add_map_ofInt (xs : List ℤ) (acc : ℤ) :
    (xs.map ofInt).foldl add acc = acc + xs.sum + errorsFrom acc xs := by
  induction xs generalizing acc with
  | nil => simp [errorsFrom]
  | cons x xs ih =>
    rw [List.map_cons, List.foldl_cons, ih, List.sum_cons, errorsFrom, error, error, add]
    omega

theorem sum_map_ofInt (xs : List ℤ) : sum (xs.map ofInt) = xs.sum + roundingError xs := by
  rw [sum, foldl_add_map_ofInt, roundingError, Int.zero_add]

/-- **Numbers that are not too large together** are read as they are, and so is their sum. -/
theorem roundingError_eq_zero {xs : List ℤ} (h : magnitude xs ≤ maxExact) :
    roundingError xs = 0 := by
  have hread : xs.map ofInt = xs :=
    (List.map_congr_left fun _ hx ↦ ofInt_eq (le_trans (natAbs_le_magnitude hx) h)).trans
      (List.map_id _)
  have hsum := sum_map_ofInt xs
  rw [hread, sum_eq h] at hsum
  omega

/-- Two whole numbers are read as the same number. -/
example : ofInt (2 ^ 53 + 1) = 2 ^ 53 := by decide

/-- A larger number can have no more significant bits than there is room for. -/
example : roundingError [2 ^ 54] = 0 := by decide

end ZanovixCrm.JsNumber
