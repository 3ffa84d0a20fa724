import Mathlib.Algebra.GroupWithZero.Nat
import ZanovixCrm.Platform
import ZanovixCrm.Python.Text

/-!
# Tax identifier validators

Each validator works on the stripped and upper-cased identifier. The regular expressions are
matched on the list of its characters, position by position.

**The characters** of the expressions are ASCII: `str.upper` and `strip` are applied first, and what
is not an ASCII digit or capital letter afterwards matches none of them. The texts of the errors are
left out: Pydantic puts them into a 422 answer, which the model does not open.
-/

namespace ZanovixCrm.TaxId

/-- The control letters of a NIF, by remainder modulo 23. -/
def nifLetters : List Char := "TRWAGMYFPDXBNJZSQVHLCKE".toList

/-- The control letters of a CIF, by check digit. -/
def cifControlLetters : List Char := "JABCDEFGHI".toList

/-- `[0-9]`. -/
def isDigit (c : Char) : Bool := '0' ≤ c && c ≤ '9'

/-- `[A-Z]`. -/
def isUpper (c : Char) : Bool := 'A' ≤ c && c ≤ 'Z'

/-- The value of an ASCII digit. -/
def digit (c : Char) : ℕ := c.toNat - '0'.toNat

/-- The number written by ASCII digits. -/
def number (cs : List Char) : ℕ := cs.foldl (fun n c ↦ n * 10 + digit c) 0

/-- `value.strip().upper()`. -/
def normalize (p : Platform) (value : String) : List Char := (p.upper (Python.strip value)).toList

/-- `_validate_nif`, on the normalised characters. -/
def nifOk (v : List Char) : Bool :=
  match v.splitAt 8 with
  | (digits, [control]) =>
    digits.length == 8 && digits.all isDigit && isUpper control &&
      nifLetters[number digits % 23]? == some control
  | _ => false

/-- `_cif_check_digit`: the check digit of seven digits. -/
def cifCheckDigit (seven : List Char) : ℕ :=
  let d i := digit (seven.getD i '0')
  let oddSum := d 0 + d 2 + d 4 + d 6
  let evenSum := ([1, 3, 5].map fun i ↦ 2 * d i / 10 + 2 * d i % 10).sum
  (10 - (oddSum + evenSum) % 10) % 10

/-- `_validate_cif`, on the normalised characters. -/
def cifOk (v : List Char) : Bool :=
  match v with
  | leading :: rest =>
    match rest.splitAt 7 with
    | (seven, [control]) =>
      let checkInt := cifCheckDigit seven
      let isLetter := cifControlLetters[checkInt]? == some control
      let isDigitForm := control.toNat == '0'.toNat + checkInt
      ("ABCDEFGHJNPQRSUVW".toList.contains leading && seven.length == 7 && seven.all isDigit &&
        (isDigit control || ('A' ≤ control && control ≤ 'J'))) &&
      (if "ABEH".toList.contains leading then isLetter
        else if "CDGJUVW".toList.contains leading then isDigitForm
        else isLetter || isDigitForm)
    | _ => false
  | [] => false

/-- The digit that replaces the prefix of a NIE. -/
def niePrefix : Char → Option Char
  | 'X' => some '0'
  | 'Y' => some '1'
  | 'Z' => some '2'
  | _ => none

/-- `_validate_nie`, on the normalised characters. -/
def nieOk (v : List Char) : Bool :=
  match v with
  | leading :: rest =>
    match niePrefix leading, rest.splitAt 7 with
    | some d, (seven, [control]) =>
      seven.length == 7 && seven.all isDigit && isUpper control &&
        nifLetters[number (d :: seven) % 23]? == some control
    | _, _ => false
  | [] => false

/-- `_validate_vat`, on the normalised characters. -/
def vatOk (v : List Char) : Bool :=
  match v.splitAt 2 with
  | (country, rest) =>
    country.length == 2 && country.all isUpper && 2 ≤ rest.length && rest.length ≤ 12 &&
      rest.all fun c ↦ isUpper c || isDigit c

/-- `_TAX_VALIDATORS[tax_id_type]`. -/
def validator (p : Platform) (t : TaxIdType) (value : String) : Bool :=
  let v := normalize p value
  match t with
  | .nif => nifOk v
  | .cif => cifOk v
  | .nie => nieOk v
  | .vat => vatOk v

end ZanovixCrm.TaxId
