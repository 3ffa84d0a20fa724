import Mathlib.Data.List.Basic
import Mathlib.Data.String.Basic

/-!
# Python's text functions

`str.strip`, `str.isdigit` and `int` on a string, as the handlers use them on raw request text. All
three follow the Unicode tables of the interpreter: `int` accepts any decimal digits, not only
ASCII ones, surrounding white space, a sign, and single underscores between digits; `isdigit` also
accepts characters such as superscripts that `int` refuses.

White space is not one notion. `strip` removes what `isspace` accepts, and that includes the four
separators `U+001C` to `U+001F`; `int` skips ASCII white space as C does, without the separators,
and of the other characters those that `isspace` accepts.

Left out: `int` with a base, and what it makes of values that are not texts.
-/

namespace ZanovixCrm.Python

/-- `str.isspace` of one character. -/
def isSpace (c : Char) : Bool :=
  c.toNat ∈ [0x9, 0xa, 0xb, 0xc, 0xd, 0x1c, 0x1d, 0x1e, 0x1f, 0x20, 0x85, 0xa0, 0x1680, 0x2028,
    0x2029, 0x202f, 0x205f, 0x3000] || (0x2000 ≤ c.toNat && c.toNat ≤ 0x200a)

/-- The characters that `int` skips before and after a number. -/
def isIntSpace (c : Char) : Bool := isSpace c && !(0x1c ≤ c.toNat && c.toNat ≤ 0x1f)

/-- A text without the characters at its ends that satisfy `skip`. -/
def trim (skip : Char → Bool) (cs : List Char) : List Char :=
  ((cs.dropWhile skip).reverse.dropWhile skip).reverse

theorem trim_eq_self {skip : Char → Bool} {cs : List Char} (h : ∀ c ∈ cs, skip c = false) :
    trim skip cs = cs := by
  have hdrop : ∀ l : List Char, (∀ c ∈ l, skip c = false) → l.dropWhile skip = l := by
    intro l hl
    cases l with
    | nil => rfl
    | cons c l =>
      exact List.dropWhile_cons_of_neg (Bool.eq_false_iff.1 (hl c List.mem_cons_self))
  rw [trim, hdrop cs h, hdrop _ fun c hc ↦ h c (List.mem_reverse.1 hc), List.reverse_reverse]

/-- `str.strip`, on characters. -/
def stripChars (cs : List Char) : List Char := trim isSpace cs

/-- `str.strip`. -/
def strip (s : String) : String := String.ofList (stripChars s.toList)

/-- The code points of the decimal digits zero; each begins a run of ten. -/
def decimalZeros : List ℕ :=
  [0x30, 0x660, 0x6f0, 0x7c0, 0x966, 0x9e6, 0xa66, 0xae6, 0xb66, 0xbe6, 0xc66, 0xce6, 0xd66, 0xde6,
    0xe50, 0xed0, 0xf20, 0x1040, 0x1090, 0x17e0, 0x1810, 0x1946, 0x19d0, 0x1a80, 0x1a90, 0x1b50,
    0x1bb0, 0x1c40, 0x1c50, 0xa620, 0xa8d0, 0xa900, 0xa9d0, 0xa9f0, 0xaa50, 0xabf0, 0xff10, 0x104a0,
    0x10d30, 0x11066, 0x110f0, 0x11136, 0x111d0, 0x112f0, 0x11450, 0x114d0, 0x11650, 0x116c0,
    0x11730, 0x118e0, 0x11950, 0x11c50, 0x11d50, 0x11da0, 0x16a60, 0x16ac0, 0x16b50, 0x1d7ce,
    0x1d7d8, 0x1d7e2, 0x1d7ec, 0x1d7f6, 0x1e140, 0x1e2f0, 0x1e950, 0x1fbf0]

/-- The value of a decimal digit. -/
def decimal? (c : Char) : Option ℕ :=
  (decimalZeros.find? fun z ↦ decide (z ≤ c.toNat ∧ c.toNat < z + 10)).map (c.toNat - ·)

/-- The ranges of the characters that are digits without being decimal. -/
def otherDigits : List (ℕ × ℕ) :=
  [(0xb2, 0xb3), (0xb9, 0xb9), (0x1369, 0x1371), (0x19da, 0x19da), (0x2070, 0x2070),
    (0x2074, 0x2079), (0x2080, 0x2089), (0x2460, 0x2468), (0x2474, 0x247c), (0x2488, 0x2490),
    (0x24ea, 0x24ea), (0x24f5, 0x24fd), (0x24ff, 0x24ff), (0x2776, 0x277e), (0x2780, 0x2788),
    (0x278a, 0x2792), (0x10a40, 0x10a43), (0x10e60, 0x10e68), (0x11052, 0x1105a),
    (0x1f100, 0x1f10a)]

/-- `str.isdigit` of one character. -/
def isDigitChar (c : Char) : Bool :=
  (decimal? c).isSome || otherDigits.any fun r ↦ decide (r.1 ≤ c.toNat ∧ c.toNat ≤ r.2)

/-- `str.isdigit`: not empty, and every character is a digit. -/
def isDigit (s : String) : Bool := !s.toList.isEmpty && s.toList.all isDigitChar

/-- Digits with single underscores between them, most significant first: their value from the
value so far, with the number of digits. `digit` says that the previous character was one. -/
def digits? : List Char → (value count : ℕ) → (digit : Bool) → Option (ℕ × ℕ)
  | [], value, count, digit => if digit then some (value, count) else none
  | c :: cs, value, count, digit =>
    if c = '_' then (if digit then digits? cs value count false else none)
    else match decimal? c with
      | some d => digits? cs (value * 10 + d) (count + 1) true
      | none => none

/-- The interpreter's limit on the digits of an integer literal in a string. -/
def maxStrDigits : ℕ := 4300

/-- An unsigned literal. -/
def natural? (cs : List Char) : Option ℕ :=
  match digits? cs 0 0 false with
  | some (value, count) => if count ≤ maxStrDigits then some value else none
  | none => none

/-- `int(s)`, or `none` where it raises `ValueError`. -/
def int? (s : String) : Option ℤ :=
  match trim isIntSpace s.toList with
  | '-' :: cs => (natural? cs).map fun n ↦ -(n : ℤ)
  | '+' :: cs => (natural? cs).map fun n ↦ (n : ℤ)
  | cs => (natural? cs).map fun n ↦ (n : ℤ)

example : int? " +1_0 " = some 10 := by decide

/-- A separator is white space for `strip`, not for `int`. -/
example : strip "\x1c5" = "5" ∧ int? "\x1c5" = none := by decide

end ZanovixCrm.Python
