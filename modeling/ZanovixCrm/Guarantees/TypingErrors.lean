import Mathlib.Algebra.Field.ZMod
import Mathlib.Tactic.LinearCombination
import Mathlib.Tactic.NormNum.Prime
import ZanovixCrm.Guarantees.TaxIdentifiers
import ZanovixCrm.Library.CheckSum

/-!
# Typing errors

The last character of an identifier is a check on the others. That of a NIF or a NIE is the
remainder of a number modulo 23; its digits have the powers of ten as weights, and these are
invertible, 23 being prime. That of a CIF brings a sum to a multiple of ten, in which the digits at
even places are doubled; doubling permutes the digits, and moves all of them by different amounts
but 0 and 9.

So no two accepted identifiers differ in one character, or in the order of two neighbours
(`checkCharacters_catch`). The proofs compare two accepted texts: they have the same check
character, and therefore the same check sum.
-/

namespace ZanovixCrm.TaxId

instance prime_twentyThree : Fact (Nat.Prime 23) := ⟨by norm_num⟩

/-! ### Digits -/

theorem digit_lt {c : Char} (h : isDigit c = true) : digit c < 10 := by
  obtain ⟨x, rfl⟩ := isDigit_iff.1 h
  rw [digit_digitChar]
  exact x.isLt

theorem digit_injOn {c c' : Char} (h : isDigit c = true) (h' : isDigit c' = true)
    (heq : digit c = digit c') : c = c' := by
  obtain ⟨x, rfl⟩ := isDigit_iff.1 h
  obtain ⟨x', rfl⟩ := isDigit_iff.1 h'
  rw [digit_digitChar, digit_digitChar] at heq
  rw [Fin.ext heq]

/-- No capital letter is a digit. -/
theorem not_isUpper_of_isDigit {c : Char} (h : isDigit c = true) : isUpper c = false := by
  obtain ⟨x, rfl⟩ := isDigit_iff.1 h
  revert x
  decide

/-! ### The sum of a NIF -/

/-- The weight of a digit of a NIF at a place, modulo 23. -/
def nifWeight (i : ℕ) (c : Char) : ZMod 23 := 10 ^ (7 - i) * (digit c : ZMod 23)

theorem cast_foldl_number {ds : List Char} {i : ℕ} (h : i + ds.length = 8) (n : ℕ) :
    ((ds.foldl (fun n c ↦ n * 10 + digit c) n : ℕ) : ZMod 23) =
      n * 10 ^ ds.length + checkSum nifWeight i ds := by
  induction ds generalizing i n with
  | nil => rw [List.foldl_nil, List.length_nil, pow_zero, mul_one, checkSum, add_zero]
  | cons c ds ih =>
    rw [List.length_cons] at h
    have hplace : 7 - i = ds.length := by omega
    rw [List.foldl_cons, ih (i := i + 1) (by omega), checkSum, nifWeight, hplace, List.length_cons]
    push_cast
    ring

theorem cast_number {ds : List Char} (h : ds.length = 8) :
    (number ds : ZMod 23) = checkSum nifWeight 0 ds := by
  rw [number, cast_foldl_number (i := 0) (by omega), Nat.cast_zero, zero_mul, zero_add]

theorem cast_digit_inj {c c' : Char} (h : isDigit c = true) (h' : isDigit c' = true)
    (heq : (digit c : ZMod 23) = digit c') : c = c' := by
  have hmod := (ZMod.natCast_eq_natCast_iff' _ _ _).1 heq
  have hlt := digit_lt h
  have hlt' := digit_lt h'
  exact digit_injOn h h' (by omega)

/-- The powers of ten are invertible. -/
theorem pow_ten_ne_zero (n : ℕ) : (10 : ZMod 23) ^ n ≠ 0 := pow_ne_zero n (by decide)

theorem nifWeight_inj {i : ℕ} {c c' : Char} (h : isDigit c = true) (h' : isDigit c' = true)
    (heq : nifWeight i c = nifWeight i c') : c = c' :=
  cast_digit_inj h h' (mul_left_cancel₀ (pow_ten_ne_zero _) heq)

/-- The weights of neighbours differ by a factor of ten. -/
theorem nifWeight_transpose {i : ℕ} (hi : i < 7) {c c' : Char} (h : isDigit c = true)
    (h' : isDigit c' = true)
    (heq : nifWeight i c + nifWeight (i + 1) c' = nifWeight i c' + nifWeight (i + 1) c) :
    c = c' := by
  have hpow : 7 - i = (7 - (i + 1)) + 1 := by omega
  have hnine : (10 : ZMod 23) ^ (7 - (i + 1)) * 9 ≠ 0 :=
    mul_ne_zero (pow_ten_ne_zero _) (by decide)
  refine cast_digit_inj h h' (mul_left_cancel₀ hnine ?_)
  rw [nifWeight, nifWeight, nifWeight, nifWeight, hpow] at heq
  linear_combination heq

/-! ### NIF -/

/-- Eight digits and their letter. -/
structure IsNif (ds : List Char) (control : Char) : Prop where
  length : ds.length = 8
  digits : ds.all isDigit = true
  upper : isUpper control = true
  letter : nifLetters[number ds % 23]? = some control

theorem exists_of_nifOk {v : List Char} (h : nifOk v = true) :
    ∃ ds control, v = ds ++ [control] ∧ IsNif ds control := by
  unfold nifOk at h
  rw [List.splitAt_eq] at h
  split at h
  · next ds control heq =>
    simp only [Bool.and_eq_true, beq_iff_eq] at h
    obtain ⟨⟨⟨hlength, hdigits⟩, hupper⟩, hletter⟩ := h
    obtain ⟨rfl, hcontrol⟩ := Prod.mk.inj heq
    refine ⟨v.take 8, control, ?_, hlength, hdigits, hupper, hletter⟩
    rw [← hcontrol, List.take_append_drop]
  · cases h

theorem IsNif.digit {ds : List Char} {control : Char} (h : IsNif ds control) {c : Char}
    (hc : c ∈ ds) : isDigit c = true :=
  List.all_eq_true.1 h.digits c hc

/-- **The same letter, the same sum.** -/
theorem IsNif.sum_eq {ds ds' : List Char} {control : Char} (h : IsNif ds control)
    (h' : IsNif ds' control) : checkSum nifWeight 0 ds = checkSum nifWeight 0 ds' := by
  have hlt : number ds % 23 < nifLetters.length := Nat.mod_lt _ (by decide)
  have hmod : number ds % 23 = number ds' % 23 :=
    (List.getElem?_inj hlt (by decide)).1 (h.letter.trans h'.letter.symm)
  rw [← cast_number h.length, ← cast_number h'.length]
  exact (ZMod.natCast_eq_natCast_iff' _ _ _).2 hmod

/-- **No two NIFs differ in one character.** -/
theorem nif_substitute {a b : List Char} {c c' : Char} (h : nifOk (a ++ c :: b) = true)
    (h' : nifOk (a ++ c' :: b) = true) : c = c' := by
  obtain ⟨ds, control, hv, hds⟩ := exists_of_nifOk h
  obtain ⟨ds', control', hv', hds'⟩ := exists_of_nifOk h'
  rcases List.eq_nil_or_concat' b with rfl | ⟨b, x, rfl⟩
  · -- The letter of the same digits.
    obtain ⟨rfl, hc⟩ := List.append_inj' hv rfl
    obtain ⟨rfl, hc'⟩ := List.append_inj' hv' rfl
    obtain rfl := (List.cons.inj hc).1
    obtain rfl := (List.cons.inj hc').1
    exact Option.some.inj (hds.letter.symm.trans hds'.letter)
  · rw [← List.cons_append, ← List.append_assoc] at hv hv'
    obtain ⟨rfl, hx⟩ := List.append_inj' hv rfl
    obtain ⟨rfl, hx'⟩ := List.append_inj' hv' rfl
    obtain rfl := (List.cons.inj hx).1
    obtain rfl := (List.cons.inj hx').1
    have hsum := CheckSum.weight_eq_of_substitute (hds.sum_eq hds')
    exact nifWeight_inj (hds.digit (by simp)) (hds'.digit (by simp)) hsum

/-- **No two NIFs differ in the order of neighbours.** -/
theorem nif_transpose {a b : List Char} {c d : Char} (h : nifOk (a ++ c :: d :: b) = true)
    (h' : nifOk (a ++ d :: c :: b) = true) : c = d := by
  obtain ⟨ds, control, hv, hds⟩ := exists_of_nifOk h
  obtain ⟨ds', control', hv', hds'⟩ := exists_of_nifOk h'
  rcases List.eq_nil_or_concat' b with rfl | ⟨b, x, rfl⟩
  · -- A digit and the letter change places, and a digit is no letter.
    rw [show a ++ [c, d] = (a ++ [c]) ++ [d] by simp] at hv
    rw [show a ++ [d, c] = (a ++ [d]) ++ [c] by simp] at hv'
    obtain ⟨rfl, -⟩ := List.append_inj' hv rfl
    obtain ⟨-, hc⟩ := List.append_inj' hv' rfl
    obtain rfl := (List.cons.inj hc).1
    have hdigit : isDigit c = true := hds.digit (by simp)
    exact absurd hds'.upper (by rw [not_isUpper_of_isDigit hdigit]; decide)
  · rw [← List.cons_append, ← List.cons_append, ← List.append_assoc] at hv hv'
    obtain ⟨rfl, hx⟩ := List.append_inj' hv rfl
    obtain ⟨rfl, hx'⟩ := List.append_inj' hv' rfl
    obtain rfl := (List.cons.inj hx).1
    obtain rfl := (List.cons.inj hx').1
    have hsum := CheckSum.weight_eq_of_transpose (hds.sum_eq hds')
    have hplace : 0 + a.length < 7 := by
      have hlength := hds.length
      simp only [List.length_append, List.length_cons] at hlength
      omega
    exact nifWeight_transpose hplace (hds.digit (by simp)) (hds.digit (by simp)) hsum

/-! ### NIE -/

theorem niePrefix_cases {c d : Char} (h : niePrefix c = some d) :
    (c = 'X' ∧ d = '0') ∨ (c = 'Y' ∧ d = '1') ∨ (c = 'Z' ∧ d = '2') := by
  unfold niePrefix at h
  split at h <;> cases h <;> simp

theorem niePrefix_injOn {c c' d : Char} (h : niePrefix c = some d) (h' : niePrefix c' = some d) :
    c = c' := by
  rcases niePrefix_cases h with ⟨rfl, rfl⟩ | ⟨rfl, rfl⟩ | ⟨rfl, rfl⟩ <;>
    rcases niePrefix_cases h' with ⟨rfl, hd⟩ | ⟨rfl, hd⟩ | ⟨rfl, hd⟩ <;>
    first | rfl | exact absurd hd (by decide)

/-- The prefix of a NIE is no digit, and is replaced by one. -/
theorem isDigit_of_niePrefix {c d : Char} (h : niePrefix c = some d) :
    isDigit c = false ∧ isDigit d = true := by
  rcases niePrefix_cases h with ⟨rfl, rfl⟩ | ⟨rfl, rfl⟩ | ⟨rfl, rfl⟩ <;> decide

/-- **A NIE is a NIF** with a digit for its prefix. -/
theorem nifOk_of_nieOk {l : Char} {rest : List Char} (h : nieOk (l :: rest) = true) :
    ∃ d, niePrefix l = some d ∧ nifOk (d :: rest) = true := by
  dsimp only [nieOk] at h
  rw [List.splitAt_eq] at h
  split at h
  · next d seven control hd heq =>
    obtain ⟨rfl, hcontrol⟩ := Prod.mk.inj heq
    simp only [Bool.and_eq_true, beq_iff_eq] at h
    obtain ⟨⟨⟨hlength, hdigits⟩, hupper⟩, hletter⟩ := h
    refine ⟨d, hd, ?_⟩
    have hdigit : isDigit d = true := (isDigit_of_niePrefix hd).2
    rw [nifOk, List.splitAt_eq, List.take_succ_cons, List.drop_succ_cons, hcontrol]
    simp only [List.length_cons, hlength, List.all_cons, hdigit, hdigits, hupper, hletter,
      beq_self_eq_true, Bool.and_self]
  · cases h

theorem nie_substitute {a b : List Char} {c c' : Char} (h : nieOk (a ++ c :: b) = true)
    (h' : nieOk (a ++ c' :: b) = true) : c = c' := by
  cases a with
  | nil =>
    obtain ⟨d, hd, hnif⟩ := nifOk_of_nieOk h
    obtain ⟨d', hd', hnif'⟩ := nifOk_of_nieOk h'
    obtain rfl : d = d' := nif_substitute (a := []) hnif hnif'
    exact niePrefix_injOn hd hd'
  | cons l a =>
    obtain ⟨d, hd, hnif⟩ := nifOk_of_nieOk h
    obtain ⟨d', hd', hnif'⟩ := nifOk_of_nieOk h'
    obtain rfl := Option.some.inj (hd.symm.trans hd')
    exact nif_substitute (a := d :: a) hnif hnif'

theorem nie_transpose {a b : List Char} {c d : Char} (h : nieOk (a ++ c :: d :: b) = true)
    (h' : nieOk (a ++ d :: c :: b) = true) : c = d := by
  cases a with
  | nil =>
    -- The second character is a digit, and so cannot be a prefix.
    obtain ⟨x, -, hnif⟩ := nifOk_of_nieOk h
    obtain ⟨x', hx', -⟩ := nifOk_of_nieOk h'
    obtain ⟨ds, control, hv, hds⟩ := exists_of_nifOk hnif
    have hmem : d ∈ ds := by
      have htake : ds = (x :: d :: b).take 8 := by rw [hv, List.take_left' hds.length]
      rw [htake]
      simp
    have hdigit := hds.digit hmem
    rw [(isDigit_of_niePrefix hx').1] at hdigit
    cases hdigit
  | cons l a =>
    obtain ⟨x, hx, hnif⟩ := nifOk_of_nieOk h
    obtain ⟨x', hx', hnif'⟩ := nifOk_of_nieOk h'
    obtain rfl := Option.some.inj (hx.symm.trans hx')
    exact nif_transpose (a := x :: a) hnif hnif'

/-! ### CIF -/

/-- The weight of a digit of a CIF at a place. -/
def cifWeight (i : ℕ) (c : Char) : ZMod 10 :=
  if i % 2 = 0 then (digit c : ZMod 10) else ((2 * digit c / 10 + 2 * digit c % 10 : ℕ) : ZMod 10)

theorem checkSum_chars (d : CifDigits) : checkSum cifWeight 0 d.chars = d.exchangedSum := by
  have hdouble : ∀ x : Fin 10, 2 * (x : ℕ) / 10 + 2 * (x : ℕ) % 10 = doubled x := by decide
  simp only [CifDigits.chars, List.map_cons, List.map_nil, checkSum, cifWeight, digit_digitChar,
    hdouble, CifDigits.exchangedSum]
  norm_num
  ring

/-- Doubling permutes the digits. -/
theorem cifWeight_inj {i : ℕ} {x y : Fin 10}
    (h : cifWeight i (digitChar x) = cifWeight i (digitChar y)) : x = y := by
  unfold cifWeight at h
  rw [digit_digitChar, digit_digitChar] at h
  split at h
  · revert x y
    decide
  · revert x y
    decide

/-- By doubling all digits move by different amounts, except for 0 and 9. -/
theorem cifWeight_transpose {i : ℕ} {x y : Fin 10}
    (h : cifWeight i (digitChar x) + cifWeight (i + 1) (digitChar y) =
      cifWeight i (digitChar y) + cifWeight (i + 1) (digitChar x)) :
    x = y ∨ (x = 0 ∧ y = 9) ∨ (x = 9 ∧ y = 0) := by
  unfold cifWeight at h
  rw [digit_digitChar, digit_digitChar] at h
  rcases Nat.mod_two_eq_zero_or_one i with hi | hi
  · have hnext : ¬(i + 1) % 2 = 0 := by omega
    simp only [if_pos hi, if_neg hnext] at h
    revert x y
    decide
  · have hnext : (i + 1) % 2 = 0 := by omega
    have hnot : ¬i % 2 = 0 := by omega
    simp only [if_neg hnot, if_pos hnext] at h
    revert x y
    decide

/-- **The same control character, the same sum.** -/
theorem cif_sum_eq {e k : Char} {s s' : List Char} (h : cifOk (e :: (s ++ [k])) = true)
    (h' : cifOk (e :: (s' ++ [k])) = true) :
    ∃ d d' : CifDigits, s = d.chars ∧ s' = d'.chars ∧
      checkSum cifWeight 0 s = checkSum cifWeight 0 s' := by
  obtain ⟨e₁, d, f, x, htext⟩ := exists_cifText h
  obtain ⟨e₂, d', f', x', htext'⟩ := exists_cifText h'
  obtain ⟨-, -, hx⟩ := cifOk_cifText.1 (htext ▸ h)
  obtain ⟨-, -, hx'⟩ := cifOk_cifText.1 (htext' ▸ h')
  obtain ⟨rfl, hk⟩ := List.append_inj' (List.cons.inj htext).2 rfl
  obtain ⟨rfl, hk'⟩ := List.append_inj' (List.cons.inj htext').2 rfl
  obtain ⟨rfl, rfl⟩ := controlChar_injective
    ((List.cons.inj hk).1.symm.trans (List.cons.inj hk').1)
  refine ⟨d, d', rfl, rfl, ?_⟩
  rw [checkSum_chars, checkSum_chars]
  exact (ZMod.natCast_eq_natCast_iff' _ _ _).2 (by omega)

theorem length_of_cifOk {v : List Char} (h : cifOk v = true) : v.length = 9 := by
  obtain ⟨e, d, f, x, rfl⟩ := exists_cifText h
  rfl

/-- The entity letter and the control character around seven places. -/
theorem exists_frame {u w : List Char} (hu : 1 ≤ u.length) (hw : w ≠ []) :
    ∃ e u' w' k, u = e :: u' ∧ w = w' ++ [k] := by
  obtain ⟨e, u', rfl⟩ := List.exists_cons_of_length_pos hu
  obtain ⟨w', k, rfl⟩ := (List.eq_nil_or_concat' w).resolve_left hw
  exact ⟨e, u', w', k, rfl, rfl⟩

theorem exists_digitChar {d : CifDigits} {c : Char} (h : c ∈ d.chars) : ∃ x, digitChar x = c := by
  obtain ⟨x, -, hx⟩ := List.mem_map.1 h
  exact ⟨x, hx⟩

/-- **No two CIFs differ in one of the middle digits.** -/
theorem cif_substitute {u w : List Char} {c c' : Char} (hu : 1 ≤ u.length) (hu' : u.length ≤ 7)
    (h : cifOk (u ++ c :: w) = true) (h' : cifOk (u ++ c' :: w) = true) : c = c' := by
  have hw : w ≠ [] := by
    rintro rfl
    have hlength := length_of_cifOk h
    rw [List.length_append, List.length_singleton] at hlength
    omega
  obtain ⟨e, u, w, k, rfl, rfl⟩ := exists_frame hu hw
  have hframe : ∀ c, e :: u ++ c :: (w ++ [k]) = e :: ((u ++ c :: w) ++ [k]) := by simp
  rw [hframe] at h h'
  obtain ⟨d, d', hd, hd', hsum⟩ := cif_sum_eq h h'
  obtain ⟨x, rfl⟩ := exists_digitChar (d := d) (c := c) (by rw [← hd]; simp)
  obtain ⟨x', rfl⟩ := exists_digitChar (d := d') (c := c') (by rw [← hd']; simp)
  rw [cifWeight_inj (CheckSum.weight_eq_of_substitute hsum)]

/-- **No two CIFs differ in the order of neighbours** among the middle digits, other than 0
and 9. -/
theorem cif_transpose {u w : List Char} {c d : Char} (hu : 1 ≤ u.length) (hu' : u.length + 1 ≤ 7)
    (h : cifOk (u ++ c :: d :: w) = true) (h' : cifOk (u ++ d :: c :: w) = true) :
    c = d ∨ (c = '0' ∧ d = '9') ∨ (c = '9' ∧ d = '0') := by
  have hw : w ≠ [] := by
    rintro rfl
    have hlength := length_of_cifOk h
    rw [List.length_append, List.length_cons, List.length_singleton] at hlength
    omega
  obtain ⟨e, u, w, k, rfl, rfl⟩ := exists_frame hu hw
  have hframe : ∀ c d, e :: u ++ c :: d :: (w ++ [k]) = e :: ((u ++ c :: d :: w) ++ [k]) := by simp
  rw [hframe] at h h'
  obtain ⟨ds, ds', hds, -, hsum⟩ := cif_sum_eq h h'
  obtain ⟨x, rfl⟩ := exists_digitChar (d := ds) (c := c) (by rw [← hds]; simp)
  obtain ⟨y, rfl⟩ := exists_digitChar (d := ds) (c := d) (by rw [← hds]; simp)
  rcases cifWeight_transpose (CheckSum.weight_eq_of_transpose hsum) with
    rfl | ⟨rfl, rfl⟩ | ⟨rfl, rfl⟩
  · exact Or.inl rfl
  · exact Or.inr (Or.inl ⟨rfl, rfl⟩)
  · exact Or.inr (Or.inr ⟨rfl, rfl⟩)

/-! ### Texts as they are written -/

/-- **`str.upper`** maps each character by itself, and leaves digits and capital letters alone. -/
structure UppersByCharacter (p : Platform) : Prop where
  append : ∀ s t, p.upper (s ++ t) = p.upper s ++ p.upper t
  plain : ∀ c, (isDigit c || isUpper c) = true →
    p.upper (String.singleton c) = String.singleton c

/-- The characters of a text in upper case. -/
def uppered (p : Platform) (cs : List Char) : List Char := (p.upper (String.ofList cs)).toList

/-- The place, in the normalised text, of what is written after `a`: the number of characters that
come of `a`. -/
def place (p : Platform) (a : List Char) : ℕ := (uppered p (a.dropWhile Python.isSpace)).length

namespace UppersByCharacter

variable {p : Platform} (hp : UppersByCharacter p)

include hp

theorem uppered_append (a b : List Char) : uppered p (a ++ b) = uppered p a ++ uppered p b := by
  rw [uppered, String.ofList_append, hp.append, String.toList_append]
  rfl

theorem uppered_cons {c : Char} (hc : (isDigit c || isUpper c) = true) (a : List Char) :
    uppered p (c :: a) = c :: uppered p a := by
  rw [← List.singleton_append, hp.uppered_append]
  have hsingle : uppered p [c] = [c] := by
    rw [uppered, ← String.singleton_eq_ofList, hp.plain c hc, String.toList_singleton]
  rw [hsingle, List.singleton_append]

theorem uppered_nil : uppered p [] = [] := by
  have hlength := congrArg List.length (hp.uppered_append [] [])
  rw [List.append_nil, List.length_append] at hlength
  exact List.eq_nil_of_length_eq_zero (by omega)

theorem uppered_plain {a : List Char} (ha : ∀ c ∈ a, (isDigit c || isUpper c) = true) :
    uppered p a = a := by
  induction a with
  | nil => exact hp.uppered_nil
  | cons c a ih =>
    rw [hp.uppered_cons (ha c List.mem_cons_self), ih fun x hx ↦ ha x (List.mem_cons_of_mem c hx)]

end UppersByCharacter

theorem toNat_of_plain {c : Char} (h : (isDigit c || isUpper c) = true) :
    48 ≤ c.toNat ∧ c.toNat ≤ 90 := by
  simp only [isDigit, isUpper, Bool.or_eq_true, Bool.and_eq_true, decide_eq_true_eq] at h
  rcases h with ⟨hlo, hhi⟩ | ⟨hlo, hhi⟩
  · have hlo' : 48 ≤ c.toNat := hlo
    have hhi' : c.toNat ≤ 57 := hhi
    omega
  · have hlo' : 65 ≤ c.toNat := hlo
    have hhi' : c.toNat ≤ 90 := hhi
    omega

/-- Digits and capital letters are no white space. -/
theorem isSpace_of_plain {c : Char} (h : (isDigit c || isUpper c) = true) :
    Python.isSpace c = false := by
  have hrange := toNat_of_plain h
  rw [Python.isSpace, Bool.or_eq_false_iff]
  constructor
  · rw [decide_eq_false_iff_not]
    simp only [List.mem_cons, List.not_mem_nil, or_false]
    omega
  · rw [Bool.and_eq_false_iff, decide_eq_false_iff_not]
    omega

/-- White space is dropped up to the first other character. -/
theorem dropWhile_append_cons {q : Char → Bool} {c : Char} (hc : q c = false) (a b : List Char) :
    (a ++ c :: b).dropWhile q = a.dropWhile q ++ c :: b := by
  induction a with
  | nil => rw [List.nil_append, List.dropWhile_cons_of_neg (by rw [hc]; decide)]; rfl
  | cons x a ih =>
    rw [List.cons_append, List.dropWhile_cons, List.dropWhile_cons]
    split
    · exact ih
    · rfl

/-- What comes after the last dropped character. -/
def rstripped (b : List Char) : List Char := (b.reverse.dropWhile Python.isSpace).reverse

theorem rstripped_append_cons {c : Char} (hc : Python.isSpace c = false) (a b : List Char) :
    rstripped (a ++ c :: b) = a ++ c :: rstripped b := by
  have hreverse : (a ++ c :: b).reverse = b.reverse ++ c :: a.reverse := by simp
  rw [rstripped, hreverse, dropWhile_append_cons hc]
  simp [rstripped]

theorem stripChars_append_cons {c : Char} (hc : Python.isSpace c = false) (a b : List Char) :
    Python.stripChars (a ++ c :: b) = a.dropWhile Python.isSpace ++ c :: rstripped b := by
  show rstripped ((a ++ c :: b).dropWhile Python.isSpace) = _
  rw [dropWhile_append_cons hc, rstripped_append_cons hc]

section Normalize

variable {p : Platform} (hp : UppersByCharacter p)

include hp

/-- **The normalised text around a digit.** -/
theorem normalize_append_cons {c : Char} (hc : isDigit c = true) (a b : List Char) :
    normalize p (String.ofList (a ++ c :: b)) =
      uppered p (a.dropWhile Python.isSpace) ++ c :: uppered p (rstripped b) := by
  have hplain : (isDigit c || isUpper c) = true := by rw [hc, Bool.true_or]
  rw [normalize, Python.strip, String.toList_ofList,
    stripChars_append_cons (isSpace_of_plain hplain)]
  show uppered p _ = _
  rw [hp.uppered_append, hp.uppered_cons hplain]

/-- A text of digits and capital letters is normalised. -/
theorem normalize_plain {cs : List Char} (h : ∀ c ∈ cs, (isDigit c || isUpper c) = true) :
    normalize p (String.ofList cs) = cs := by
  have hstrip : Python.stripChars cs = cs := by
    rcases cs with - | ⟨c, cs⟩
    · rfl
    · rcases List.eq_nil_or_concat' cs with rfl | ⟨cs, x, rfl⟩
      · have hc := isSpace_of_plain (h c List.mem_cons_self)
        exact stripChars_append_cons hc [] []
      · have hc := isSpace_of_plain (h c List.mem_cons_self)
        have hx := isSpace_of_plain (h x (by simp))
        rw [← List.nil_append (c :: (cs ++ [x])), stripChars_append_cons hc,
          rstripped_append_cons hx]
        rfl
  rw [normalize, Python.strip, String.toList_ofList, hstrip]
  exact hp.uppered_plain h

end Normalize

theorem plain_of_nifOk {v : List Char} (h : nifOk v = true) :
    ∀ c ∈ v, (isDigit c || isUpper c) = true := by
  obtain ⟨ds, control, rfl, hds⟩ := exists_of_nifOk h
  intro c hc
  rcases List.mem_append.1 hc with hc | hc
  · rw [hds.digit hc, Bool.true_or]
  · rw [List.mem_singleton.1 hc, hds.upper, Bool.or_true]

theorem plain_of_nieOk {v : List Char} (h : nieOk v = true) :
    ∀ c ∈ v, (isDigit c || isUpper c) = true := by
  rcases v with - | ⟨l, rest⟩
  · cases h
  obtain ⟨d, hd, hnif⟩ := nifOk_of_nieOk h
  intro c hc
  rcases List.mem_cons.1 hc with rfl | hc
  · rcases niePrefix_cases hd with ⟨rfl, -⟩ | ⟨rfl, -⟩ | ⟨rfl, -⟩ <;> rfl
  · exact plain_of_nifOk hnif c (List.mem_cons_of_mem d hc)

/-- A check on texts of digits and capital letters that notices a replaced character, or an exchange
of neighbours. -/
structure Catches (ok : List Char → Bool) : Prop where
  plain : ∀ {v}, ok v = true → ∀ c ∈ v, (isDigit c || isUpper c) = true
  substitute : ∀ {a b c c'}, ok (a ++ c :: b) = true → ok (a ++ c' :: b) = true → c = c'
  transpose : ∀ {a b c d}, ok (a ++ c :: d :: b) = true → ok (a ++ d :: c :: b) = true → c = d

theorem catches_nifOk : Catches nifOk := ⟨plain_of_nifOk, nif_substitute, nif_transpose⟩

theorem catches_nieOk : Catches nieOk := ⟨plain_of_nieOk, nie_substitute, nie_transpose⟩

/-- `ok` rejects what a typing error makes of an accepted text. -/
theorem Catches.rejects {ok : List Char → Bool} (h : Catches ok) {p : Platform}
    (hp : UppersByCharacter p) {v : String} (hv : ok (normalize p v) = true)
    (hupper : p.upper v = v) (hstrip : Python.strip v = v) :
    (∀ a c b c', v = String.ofList (a ++ c :: b) → c' ≠ c → (isDigit c' || isUpper c') = true →
      ok (normalize p (String.ofList (a ++ c' :: b))) = false) ∧
    ∀ a c d b, v = String.ofList (a ++ c :: d :: b) → c ≠ d →
      ok (normalize p (String.ofList (a ++ d :: c :: b))) = false := by
  have hself : normalize p v = v.toList := by rw [normalize, hstrip, hupper]
  rw [hself] at hv
  have hplain := h.plain hv
  constructor
  · rintro a c b c' rfl hne hc'
    rw [String.toList_ofList] at hv hplain
    rw [normalize_plain hp, Bool.eq_false_iff]
    · exact fun hok ↦ hne (h.substitute hok hv)
    · intro x hx
      rcases List.mem_append.1 hx with hx | hx
      · exact hplain x (List.mem_append_left _ hx)
      · rcases List.mem_cons.1 hx with rfl | hx
        · exact hc'
        · exact hplain x (List.mem_append_right _ (List.mem_cons_of_mem c hx))
  · rintro a c d b rfl hne
    rw [String.toList_ofList] at hv hplain
    rw [normalize_plain hp, Bool.eq_false_iff]
    · exact fun hok ↦ hne (h.transpose hv hok)
    · intro x hx
      refine hplain x ?_
      simp only [List.mem_append, List.mem_cons] at hx ⊢
      tauto

/-! ### Every typing error is caught -/

/-- **The check characters catch typing errors**: in a NIF or a NIE every replaced character, and
every exchange of neighbours; in a CIF, as it is written, every replaced digit among the seven in
the middle, and every exchange of neighbours among them other than 0 and 9. -/
theorem checkCharacters_catch (p : Platform) (hp : UppersByCharacter p) :
    (∀ t, t = .nif ∨ t = .nie → ∀ v, validator p t v = true → p.upper v = v → Python.strip v = v →
      (∀ a c b c', v = String.ofList (a ++ c :: b) → c' ≠ c → (isDigit c' || isUpper c') = true →
        validator p t (String.ofList (a ++ c' :: b)) = false) ∧
      ∀ a c d b, v = String.ofList (a ++ c :: d :: b) → c ≠ d →
        validator p t (String.ofList (a ++ d :: c :: b)) = false) ∧
    ∀ v, validator p .cif v = true →
      (∀ a c b c', v = String.ofList (a ++ c :: b) → isDigit c = true →
        1 ≤ place p a → place p a ≤ 7 → isDigit c' = true → c' ≠ c →
        validator p .cif (String.ofList (a ++ c' :: b)) = false) ∧
      ∀ a c d b, v = String.ofList (a ++ c :: d :: b) → isDigit c = true → isDigit d = true →
        1 ≤ place p a → place p a + 1 ≤ 7 → c ≠ d → ¬(c = '0' ∧ d = '9') → ¬(c = '9' ∧ d = '0') →
        validator p .cif (String.ofList (a ++ d :: c :: b)) = false := by
  refine ⟨fun t ht v hv hupper hstrip ↦ ?_, fun v hv ↦ ⟨?_, ?_⟩⟩
  · rcases ht with rfl | rfl
    · exact catches_nifOk.rejects hp hv hupper hstrip
    · exact catches_nieOk.rejects hp hv hupper hstrip
  · rintro a c b c' rfl hc hlo hhi hc' hne
    rw [Bool.eq_false_iff]
    intro hok
    have hv' : cifOk (normalize p _) = true := hv
    have hok' : cifOk (normalize p _) = true := hok
    rw [normalize_append_cons hp hc] at hv'
    rw [normalize_append_cons hp hc'] at hok'
    exact hne (cif_substitute hlo hhi hok' hv')
  · rintro a c d b rfl hc hd hlo hhi hne h₁ h₂
    rw [Bool.eq_false_iff]
    intro hok
    have hspace : ∀ {x : Char}, isDigit x = true → Python.isSpace x = false := fun hx ↦
      isSpace_of_plain (by rw [hx, Bool.true_or])
    have hpair : ∀ {x : Char}, isDigit x = true →
        uppered p (rstripped (x :: b)) = x :: uppered p (rstripped b) := by
      intro x hx
      rw [← List.nil_append (x :: b), rstripped_append_cons (hspace hx), List.nil_append,
        hp.uppered_cons (by rw [hx, Bool.true_or])]
    have hv' : cifOk (normalize p _) = true := hv
    have hok' : cifOk (normalize p _) = true := hok
    rw [normalize_append_cons hp hc, hpair hd] at hv'
    rw [normalize_append_cons hp hd, hpair hc] at hok'
    rcases cif_transpose hlo hhi hv' hok' with h | h | h
    · exact hne h
    · exact h₁ h
    · exact h₂ h

theorem uppersByCharacter_sample : UppersByCharacter .sample where
  append s t := by simp [Platform.sample]
  plain c hc := by
    have hfixed : c.toUpper = c := by
      have hrange := toNat_of_plain hc
      unfold Char.toUpper
      exact dif_neg fun h ↦ absurd (show 97 ≤ c.toNat from h.1) (by omega)
    show String.ofList (((String.singleton c).toList).map Char.toUpper) = _
    rw [String.toList_singleton, List.map_singleton, hfixed, String.singleton_eq_ofList]

/-- Some typing errors in a NIF, a NIE and a CIF. -/
theorem checkCharacters_catch_sample :
    validator .sample .nif "12345679Z" = false ∧ validator .sample .nif "12345687Z" = false ∧
      validator .sample .nie "Y1234567L" = false ∧ validator .sample .cif " a1234568i" = false ∧
      validator .sample .cif " a1234576i" = false := by
  have h := checkCharacters_catch .sample uppersByCharacter_sample
  have hnif := h.1 .nif (Or.inl rfl) "12345678Z" (by decide) (by decide) (by decide)
  have hnie := h.1 .nie (Or.inr rfl) "X1234567L" (by decide) (by decide) (by decide)
  have hcif := h.2 " a1234567i" (by decide)
  refine ⟨?_, ?_, ?_, ?_, ?_⟩
  · exact hnif.1 "1234567".toList '8' ['Z'] '9' (by decide) (by decide) (by decide)
  · exact hnif.2 "123456".toList '7' '8' ['Z'] (by decide) (by decide)
  · exact hnie.1 [] 'X' "1234567L".toList 'Y' (by decide) (by decide) (by decide)
  · exact hcif.1 " a123456".toList '7' ['i'] '8' (by decide) (by decide) (by decide) (by decide)
      (by decide) (by decide)
  · exact hcif.2 " a12345".toList '6' '7' ['i'] (by decide) (by decide) (by decide) (by decide)
      (by decide) (by decide) (by decide) (by decide)

end ZanovixCrm.TaxId
