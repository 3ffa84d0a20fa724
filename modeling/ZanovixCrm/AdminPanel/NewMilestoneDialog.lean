import Mathlib.Data.List.TakeWhile
import ZanovixCrm.Library.JsNumber

/-!
# The dialog for a new milestone

`NewMilestoneDialog` is given the number of milestones that the service has, and fills in the index
for another one when it is opened. The index is a text that the user may change; it is read by
`parseInt` when the form is submitted. The flag that gates the buttons while a request is in flight
is left out.
-/

namespace ZanovixCrm

/-! ### Texts in JavaScript -/

namespace JsText

/-- White space and line terminators. -/
def isSpace (c : Char) : Bool :=
  c.toNat ∈ [0x9, 0xa, 0xb, 0xc, 0xd, 0x20, 0xa0, 0x1680, 0x2028, 0x2029, 0x202f, 0x205f, 0x3000,
    0xfeff] || (0x2000 ≤ c.toNat && c.toNat ≤ 0x200a)

/-- `text.trim()`. -/
def trim (text : String) : String :=
  String.ofList (((text.toList.dropWhile isSpace).reverse.dropWhile isSpace).reverse)

/-- The number that a text begins with, or nothing if it begins with another character. -/
def leadingNumber (cs : List Char) : Option ℤ :=
  if (cs.takeWhile Char.isDigit).isEmpty then none
  else some (JsNumber.ofInt (Nat.ofDigitChars 10 (cs.takeWhile Char.isDigit) 0))

/-- `parseInt(text, 10)`, or nothing for `NaN`. -/
def parseInt (text : String) : Option ℤ :=
  match text.toList.dropWhile isSpace with
  | '-' :: cs => (leadingNumber cs).map fun x ↦ -x
  | '+' :: cs => leadingNumber cs
  | cs => leadingNumber cs

theorem isSpace_of_isDigit {c : Char} (h : c.isDigit = true) : isSpace c = false := by
  obtain ⟨hlow, hhigh⟩ : 48 ≤ c.toNat ∧ c.toNat ≤ 57 := by
    simpa [Char.isDigit, UInt32.le_iff_toNat_le] using h
  simp only [isSpace, List.mem_cons, List.not_mem_nil, or_false, Bool.or_eq_false_iff,
    decide_eq_false_iff_not, Bool.and_eq_false_iff]
  omega

theorem leadingNumber_toDigits {n : ℕ} (h : n ≤ JsNumber.maxExact) :
    leadingNumber (Nat.toDigits 10 n) = some (n : ℤ) := by
  have hdigits : (Nat.toDigits 10 n).takeWhile Char.isDigit = Nat.toDigits 10 n :=
    List.takeWhile_eq_self_iff.2 fun _ hc ↦
      Nat.isDigit_of_mem_toDigits (by decide) (by decide) hc
  have hne : (Nat.toDigits 10 n).isEmpty = false :=
    List.isEmpty_eq_false_iff.2 Nat.toDigits_ne_nil
  have hexact : JsNumber.ofInt (n : ℤ) = n := JsNumber.ofInt_eq h
  rw [leadingNumber, hdigits, hne, Nat.ofDigitChars_ten_toDigits, hexact]
  rfl

/-- **`parseInt` reads back what `String` writes.** -/
theorem parseInt_toString {n : ℕ} (h : n ≤ JsNumber.maxExact) :
    parseInt (toString n) = some (n : ℤ) := by
  have hlist : (toString n).toList = Nat.toDigits 10 n := Nat.toList_repr
  rw [← leadingNumber_toDigits h, parseInt, hlist]
  rcases hd : Nat.toDigits 10 n with - | ⟨c, cs⟩
  · exact absurd hd Nat.toDigits_ne_nil
  · -- The first character is a digit, so it is neither white space nor a sign.
    have hc : c.isDigit = true :=
      Nat.isDigit_of_mem_toDigits (by decide) (by decide) (hd ▸ List.mem_cons_self)
    rw [List.dropWhile_cons, isSpace_of_isDigit hc, if_neg Bool.false_ne_true]
    split
    · next heq =>
      obtain ⟨rfl, -⟩ := List.cons.inj heq
      exact absurd hc (by decide)
    · next heq =>
      obtain ⟨rfl, -⟩ := List.cons.inj heq
      exact absurd hc (by decide)
    · rfl

end JsText

/-! ### The dialog -/

/-- The state of the dialog. -/
structure NewMilestoneDialog where
  /-- `open`. -/
  isOpen : Bool
  n : String
  title : String
  dueDate : String
deriving DecidableEq

/-- What `handleSubmit` passes to `createMilestone`; an index that is `NaN` is nothing. -/
structure NewMilestone where
  n : Option ℤ
  title : String
  dueDate : Option String
deriving DecidableEq

namespace NewMilestoneDialog

/-- The index that the dialog proposes. -/
def proposed (existingCount : ℕ) : String := toString (existingCount + 1)

/-- The dialog is mounted. -/
def mounted (existingCount : ℕ) : NewMilestoneDialog := ⟨false, proposed existingCount, "", ""⟩

def reset (existingCount : ℕ) (d : NewMilestoneDialog) : NewMilestoneDialog :=
  { d with n := proposed existingCount, title := "", dueDate := "" }

def handleOpen (existingCount : ℕ) (isOpen : Bool) (d : NewMilestoneDialog) : NewMilestoneDialog :=
  if isOpen then { d with isOpen := true, n := proposed existingCount }
  else { d with isOpen := false }.reset existingCount

/-- What `handleSubmit` sends. -/
def submission (d : NewMilestoneDialog) : NewMilestone where
  n := JsText.parseInt d.n
  title := JsText.trim d.title
  dueDate := if d.dueDate = "" then none else some d.dueDate

/-- **The index that is submitted** if the one that is proposed is not changed. -/
theorem n_submission_handleOpen {existingCount : ℕ} (h : existingCount < JsNumber.maxExact)
    (d : NewMilestoneDialog) :
    (d.handleOpen existingCount true).submission.n = some ((existingCount : ℤ) + 1) :=
  JsText.parseInt_toString h

end NewMilestoneDialog

end ZanovixCrm
