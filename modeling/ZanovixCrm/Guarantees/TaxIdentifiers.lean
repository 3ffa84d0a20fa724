import Mathlib.Data.Nat.Digits.Defs
import ZanovixCrm.Schemas.TaxIdValidators

/-!
# The CIF

The module of the validators cites Decreto 2423/1975 for the CIF. `IsCif` is that definition: an
entity letter, seven digits, and a control character, which is a digit or a letter according to the
entity, for the value that brings the sum of the digits to a multiple of ten, where the digits at
odd places count twice.

The validator differs from it in two ways: it doubles the digits at even places, and its table of
the forms of the control character is another one, in which only the entity letter `F` has the same
entry. `cif_conforms_iff` says for which texts it nevertheless comes to the same verdict.
-/

namespace ZanovixCrm.TaxId

/-! ### The reference -/

/-- The entity letters. -/
def entityLetters : List Char := "ABCDEFGHJNPQRSUVW".toList

/-- The two forms of a control character. -/
inductive ControlForm where
  | digit | letter
deriving DecidableEq

/-- The forms that the decree admits for an entity. -/
def decreeForms (entity : Char) : List ControlForm :=
  if entity ∈ "ABEH".toList then [.digit]
  else if entity ∈ "NPQRSW".toList then [.letter]
  else [.digit, .letter]

/-- A decimal digit. -/
def digitChar (x : Fin 10) : Char := Nat.digitChar x

/-- The control character of a value in a form. -/
def controlChar : ControlForm → Fin 10 → Char
  | .digit, k => digitChar k
  | .letter, k => "JABCDEFGHI".toList.get k

/-- The seven digits of a CIF. -/
structure CifDigits where
  /-- The digits, from the left. -/
  (d₁ d₂ d₃ d₄ d₅ d₆ d₇ : Fin 10)
deriving DecidableEq

/-- The sum of the decimal digits of the double. -/
def doubled (x : Fin 10) : ℕ := (Nat.digits 10 (2 * x)).sum

namespace CifDigits

/-- The digits as text. -/
def chars (d : CifDigits) : List Char :=
  [d.d₁, d.d₂, d.d₃, d.d₄, d.d₅, d.d₆, d.d₇].map digitChar

/-- The sum of the decree, which doubles the digits at odd places. -/
def sum (d : CifDigits) : ℕ :=
  (d.d₂ + d.d₄ + d.d₆ : ℕ) + (doubled d.d₁ + doubled d.d₃ + doubled d.d₅ + doubled d.d₇)

/-- The control value. -/
def control (d : CifDigits) : Fin 10 := ⟨(10 - d.sum % 10) % 10, Nat.mod_lt _ (by decide)⟩

end CifDigits

/-- An entity letter, seven digits and a control character. -/
def cifText (entity : Char) (d : CifDigits) (form : ControlForm) (k : Fin 10) : List Char :=
  entity :: (d.chars ++ [controlChar form k])

/-- **The CIF of the decree.** -/
def IsCif (v : List Char) : Prop :=
  ∃ entity ∈ entityLetters, ∃ d : CifDigits, ∃ form ∈ decreeForms entity,
    v = cifText entity d form d.control

/-! ### When the validator agrees -/

/-- The forms that the validator admits for an entity. -/
def sourceForms (entity : Char) : List ControlForm :=
  if entity ∈ "ABEH".toList then [.letter]
  else if entity ∈ "CDGJUVW".toList then [.digit]
  else [.digit, .letter]

/-- The sum with the places exchanged. -/
def CifDigits.exchangedSum (d : CifDigits) : ℕ :=
  (d.d₁ + d.d₃ + d.d₅ + d.d₇ : ℕ) + (doubled d.d₂ + doubled d.d₄ + doubled d.d₆)

/-- The two sums and the two tables come to the same verdict on a control character. -/
structure ControlConforms (entity : Char) (d : CifDigits) (form : ControlForm) (k : Fin 10) :
    Prop where
  /-- Both admit the form: the value suits both sums or neither. -/
  shared : form ∈ decreeForms entity → form ∈ sourceForms entity →
    (10 ∣ k + d.sum ↔ 10 ∣ k + d.exchangedSum)
  /-- Only the decree admits it: the value does not suit the sum. -/
  missed : form ∈ decreeForms entity → form ∉ sourceForms entity → ¬10 ∣ k + d.sum
  /-- Only the validator admits it: the value does not suit the exchanged sum. -/
  added : form ∉ decreeForms entity → form ∈ sourceForms entity → ¬10 ∣ k + d.exchangedSum

/-- The text does not have the form of a CIF, or the verdicts on its control character agree. -/
def CifConforms (v : List Char) : Prop :=
  ∀ entity ∈ entityLetters, ∀ d form k, v = cifText entity d form k →
    ControlConforms entity d form k

/-! ### Characters -/

/-- A character in a range of ten. -/
theorem exists_of_range (base : ℕ) {c : Char} (hlo : base ≤ c.toNat) (hhi : c.toNat < base + 10) :
    ∃ x : Fin 10, c = Char.ofNat (base + x) := by
  refine ⟨⟨c.toNat - base, by omega⟩, ?_⟩
  show c = Char.ofNat (base + (c.toNat - base))
  rw [Nat.add_sub_cancel' hlo, Char.ofNat_toNat]

theorem isDigit_iff {c : Char} : isDigit c = true ↔ ∃ x, c = digitChar x := by
  constructor
  · intro h
    simp only [isDigit, Bool.and_eq_true, decide_eq_true_eq] at h
    have hlo : 48 ≤ c.toNat := h.1
    have hhi : c.toNat ≤ 57 := h.2
    obtain ⟨x, rfl⟩ := exists_of_range 48 hlo (by omega)
    exact ⟨x, by revert x; decide⟩
  · rintro ⟨x, rfl⟩
    revert x
    decide

/-- Seven digits as text. -/
theorem exists_chars {cs : List Char} (hlength : cs.length = 7)
    (hdigits : cs.all isDigit = true) : ∃ d : CifDigits, d.chars = cs := by
  match cs, hlength with
  | [c₁, c₂, c₃, c₄, c₅, c₆, c₇], _ =>
    simp only [List.all_cons, List.all_nil, Bool.and_true, Bool.and_eq_true, isDigit_iff] at hdigits
    obtain ⟨⟨x₁, rfl⟩, ⟨x₂, rfl⟩, ⟨x₃, rfl⟩, ⟨x₄, rfl⟩, ⟨x₅, rfl⟩, ⟨x₆, rfl⟩, ⟨x₇, rfl⟩⟩ := hdigits
    exact ⟨⟨x₁, x₂, x₃, x₄, x₅, x₆, x₇⟩, rfl⟩

theorem digit_digitChar (x : Fin 10) : digit (digitChar x) = x := by
  revert x
  decide

/-- `[0-9A-J]`. -/
theorem isControl_iff {c : Char} :
    (isDigit c || ('A' ≤ c && c ≤ 'J')) = true ↔ ∃ form k, c = controlChar form k := by
  rw [Bool.or_eq_true, isDigit_iff]
  constructor
  · rintro (⟨x, rfl⟩ | h)
    · exact ⟨.digit, x, rfl⟩
    · simp only [Bool.and_eq_true, decide_eq_true_eq] at h
      have hlo : 65 ≤ c.toNat := h.1
      have hhi : c.toNat ≤ 74 := h.2
      obtain ⟨x, rfl⟩ := exists_of_range 65 hlo (by omega)
      exact ⟨.letter, by revert x; decide⟩
  · rintro ⟨form, k, rfl⟩
    cases form with
    | digit => exact Or.inl ⟨k, rfl⟩
    | letter =>
      right
      revert k
      decide

theorem digitChar_injective : Function.Injective digitChar := by
  intro x y
  revert x y
  decide

theorem controlChar_injective {f f' : ControlForm} {k k' : Fin 10}
    (h : controlChar f k = controlChar f' k') : f = f' ∧ k = k' := by
  revert k k'
  cases f <;> cases f' <;> decide

theorem chars_injective {d d' : CifDigits} (h : d.chars = d'.chars) : d = d' := by
  have hmap := List.map_injective_iff.2 digitChar_injective h
  simp only [List.cons.injEq, and_true] at hmap
  obtain ⟨h₁, h₂, h₃, h₄, h₅, h₆, h₇⟩ := hmap
  cases d
  cases d'
  simp_all

/-- A text is read in one way. -/
theorem cifText_injective {e e' : Char} {d d' : CifDigits} {f f' : ControlForm} {k k' : Fin 10}
    (h : cifText e d f k = cifText e' d' f' k') : e = e' ∧ d = d' ∧ f = f' ∧ k = k' := by
  rw [cifText, cifText, List.cons.injEq] at h
  obtain ⟨he, hrest⟩ := h
  obtain ⟨hchars, hcontrol⟩ := List.append_inj hrest rfl
  exact ⟨he, chars_injective hchars, controlChar_injective (List.cons.inj hcontrol).1⟩

/-! ### The control value -/

/-- The control value is the one that brings the sum to a multiple of ten. -/
theorem eq_control_iff {n : ℕ} {k : Fin 10} : (10 - n % 10) % 10 = k ↔ 10 ∣ k + n := by
  have hk := k.isLt
  omega

theorem isCif_cifText {e : Char} {d : CifDigits} {f : ControlForm} {k : Fin 10} :
    IsCif (cifText e d f k) ↔ e ∈ entityLetters ∧ f ∈ decreeForms e ∧ 10 ∣ k + d.sum := by
  constructor
  · rintro ⟨e', he, d', f', hf, htext⟩
    obtain ⟨rfl, rfl, rfl, rfl⟩ := cifText_injective htext
    exact ⟨he, hf, eq_control_iff.1 rfl⟩
  · rintro ⟨he, hf, hk⟩
    have hcontrol : d.control = k := Fin.ext (eq_control_iff.2 hk)
    exact ⟨e, he, d, f, hf, by rw [hcontrol]⟩

/-- The check digit of the source. -/
theorem cifCheckDigit_chars (d : CifDigits) :
    cifCheckDigit d.chars = (10 - d.exchangedSum % 10) % 10 := by
  have hdouble : ∀ x : Fin 10, 2 * (x : ℕ) / 10 + 2 * (x : ℕ) % 10 = doubled x := by decide
  simp only [cifCheckDigit, CifDigits.chars, List.map_cons, List.map_nil, List.getD_cons_zero,
    List.getD_cons_succ, digit_digitChar, hdouble, List.sum_cons, List.sum_nil,
    CifDigits.exchangedSum]
  congr 2
  omega

theorem letter_matches (x k : Fin 10) (f : ControlForm) :
    (cifControlLetters[(x : ℕ)]? == some (controlChar f k)) = decide (f = .letter ∧ x = k) := by
  revert x k
  cases f <;> decide

theorem digit_matches (x k : Fin 10) (f : ControlForm) :
    ((controlChar f k).toNat == '0'.toNat + x) = decide (f = .digit ∧ x = k) := by
  revert x k
  cases f <;> decide

/-- What the validator looks for in the last character. -/
theorem control_matches (e : Char) (x k : Fin 10) (f : ControlForm) :
    (if "ABEH".toList.contains e then decide (f = .letter ∧ x = k)
      else if "CDGJUVW".toList.contains e then decide (f = .digit ∧ x = k)
      else decide (f = .letter ∧ x = k) || decide (f = .digit ∧ x = k)) =
      decide (f ∈ sourceForms e ∧ x = k) := by
  simp only [List.contains_iff_mem, sourceForms]
  split
  · simp
  · split
    · simp
    · cases f <;> simp

/-- The validator on a text of nine characters. -/
theorem cifOk_eq (e c : Char) {seven : List Char} (hlength : seven.length = 7)
    (hdigits : seven.all isDigit = true) (hcontrol : (isDigit c || ('A' ≤ c && c ≤ 'J')) = true) :
    cifOk (e :: (seven ++ [c])) = ("ABCDEFGHJNPQRSUVW".toList.contains e &&
      (if "ABEH".toList.contains e then cifControlLetters[cifCheckDigit seven]? == some c
        else if "CDGJUVW".toList.contains e then c.toNat == '0'.toNat + cifCheckDigit seven
        else cifControlLetters[cifCheckDigit seven]? == some c ||
          c.toNat == '0'.toNat + cifCheckDigit seven)) := by
  have hsplit : (seven ++ [c]).splitAt 7 = (seven, [c]) := by
    rw [List.splitAt_eq, List.take_left' hlength, List.drop_left' hlength]
  simp only [cifOk, hsplit, hlength, hdigits, hcontrol, beq_self_eq_true, Bool.and_true]

theorem cifOk_cifText {e : Char} {d : CifDigits} {f : ControlForm} {k : Fin 10} :
    cifOk (cifText e d f k) = true ↔
      e ∈ entityLetters ∧ f ∈ sourceForms e ∧ 10 ∣ k + d.exchangedSum := by
  have hdigits : d.chars.all isDigit = true := by
    rw [CifDigits.chars, List.all_map, List.all_eq_true]
    exact fun x _ ↦ isDigit_iff.2 ⟨x, rfl⟩
  have hcontrol := isControl_iff.2 ⟨f, k, rfl⟩
  obtain ⟨x, hx⟩ : ∃ x : Fin 10, cifCheckDigit d.chars = x :=
    ⟨⟨_, Nat.mod_lt _ (by decide)⟩, cifCheckDigit_chars d⟩
  have hxk : x = k ↔ 10 ∣ k + d.exchangedSum := by
    rw [← eq_control_iff, ← cifCheckDigit_chars, hx, Fin.ext_iff]
  rw [cifText, cifOk_eq e _ rfl hdigits hcontrol, hx, letter_matches, digit_matches,
    control_matches, Bool.and_eq_true, List.contains_iff_mem, decide_eq_true_eq, hxk]
  rfl

/-- What the validator accepts has the form of a CIF. -/
theorem exists_cifText {v : List Char} (h : cifOk v = true) :
    ∃ e d f k, v = cifText e d f k := by
  unfold cifOk at h
  split at h
  · next e rest =>
    rcases hsplit : rest.splitAt 7 with ⟨seven, tail⟩
    rw [hsplit] at h
    have happend : seven ++ tail = rest := by
      rw [List.splitAt_eq] at hsplit
      obtain ⟨rfl, rfl⟩ := Prod.mk.inj hsplit
      exact List.take_append_drop 7 rest
    split at h
    · next control heq =>
      obtain ⟨rfl, rfl⟩ := Prod.mk.inj heq
      simp only [Bool.and_eq_true, beq_iff_eq] at h
      obtain ⟨⟨⟨⟨-, hlength⟩, hdigits⟩, hcontrol⟩, -⟩ := h
      obtain ⟨f, k, rfl⟩ := isControl_iff.1 hcontrol
      obtain ⟨d, hd⟩ := exists_chars hlength hdigits
      exact ⟨e, d, f, k, by rw [cifText, hd, happend]⟩
    · cases h
  · cases h

/-- **The verdict of the validator is the decree's exactly on the texts that conform.** -/
theorem cif_conforms_iff (p : Platform) (value : String) :
    (validator p .cif value = true ↔ IsCif (normalize p value)) ↔
      CifConforms (normalize p value) := by
  show (cifOk (normalize p value) = true ↔ _) ↔ _
  generalize normalize p value = v
  constructor
  · rintro hv e he d f k rfl
    rw [cifOk_cifText, isCif_cifText] at hv
    have hboth : f ∈ sourceForms e ∧ 10 ∣ k + d.exchangedSum ↔
        f ∈ decreeForms e ∧ 10 ∣ k + d.sum :=
      ⟨fun h ↦ (hv.1 ⟨he, h⟩).2, fun h ↦ (hv.2 ⟨he, h⟩).2⟩
    exact ⟨fun hd hs ↦ ⟨fun h ↦ (hboth.2 ⟨hd, h⟩).2, fun h ↦ (hboth.1 ⟨hs, h⟩).2⟩,
      fun hd hs h ↦ hs (hboth.2 ⟨hd, h⟩).1, fun hd hs h ↦ hd (hboth.1 ⟨hs, h⟩).1⟩
  · intro hv
    constructor
    · intro hok
      obtain ⟨e, d, f, k, rfl⟩ := exists_cifText hok
      obtain ⟨he, hs, hk⟩ := cifOk_cifText.1 hok
      have hconforms := hv e he d f k rfl
      by_cases hd : f ∈ decreeForms e
      · exact isCif_cifText.2 ⟨he, hd, (hconforms.shared hd hs).2 hk⟩
      · exact absurd hk (hconforms.added hd hs)
    · rintro ⟨e, he, d, f, hd, rfl⟩
      have hk : 10 ∣ d.control + d.sum := eq_control_iff.1 rfl
      have hconforms := hv e he d f d.control rfl
      by_cases hs : f ∈ sourceForms e
      · exact cifOk_cifText.2 ⟨he, hs, (hconforms.shared hd hs).1 hk⟩
      · exact absurd hk (hconforms.missed hd hs)

/-- A correct CIF is refused, and an incorrect one accepted. -/
theorem cif_not_conforms :
    (IsCif (normalize .sample "B12345674") ∧ validator .sample .cif "B12345674" = false) ∧
    (¬IsCif (normalize .sample "A1234567I") ∧ validator .sample .cif "A1234567I" = true) := by
  have hB : normalize .sample "B12345674" = cifText 'B' ⟨1, 2, 3, 4, 5, 6, 7⟩ .digit 4 := by decide
  have hA : normalize .sample "A1234567I" = cifText 'A' ⟨1, 2, 3, 4, 5, 6, 7⟩ .letter 9 := by decide
  refine ⟨⟨?_, by decide⟩, ?_, by decide⟩
  · rw [hB, isCif_cifText]
    decide
  · rw [hA, isCif_cifText]
    decide

end ZanovixCrm.TaxId
