import Mathlib.Data.List.Nodup
import Mathlib.Data.List.TakeWhile
import Mathlib.Data.Nat.Digits.Defs
import Mathlib.Data.Nat.Digits.Lemmas
import ZanovixCrm.Library.PythonText

/-!
# JSON texts

`json.dumps` and `json.loads` of the Python standard library, and that the second undoes the first
(`loads_dumps`).

Texts of Python are sequences of code points, in which surrogates are allowed. `dumps` writes ASCII;
what is outside is escaped, by a pair of surrogates where it does not fit in four hexadecimal
digits. Since `loads` puts such pairs together again, a text in which a high surrogate is followed
by a low one is read back as another text; that is the only kind of text that is.

A floating-point number is given by the text that `repr` has for it, or `NaN` and the like. What
`repr` makes of the number that a literal denotes is a parameter.
-/

namespace ZanovixCrm

/-- What `json.dumps` writes. -/
inductive PyJson where
  | none
  | bool (b : Bool)
  | int (n : ℤ)
  /-- A floating-point number, by what `dumps` writes for it. -/
  | float (text : PyStr)
  | str (s : PyStr)
  | list (items : List PyJson)
  | dict (members : List (PyStr × PyJson))

/-- Why a text or a value is refused. -/
inductive JsonError where
  /-- `JSONDecodeError`. -/
  | decode
  /-- `ValueError`: an integer has more digits than the interpreter converts. -/
  | tooManyDigits
deriving DecidableEq

namespace PyJson

/-! ### Code points -/

/-- A high surrogate. -/
def isHigh (c : ℕ) : Bool := decide (0xd800 ≤ c ∧ c < 0xdc00)

/-- A low surrogate. -/
def isLow (c : ℕ) : Bool := decide (0xdc00 ≤ c ∧ c < 0xe000)

/-- The code units of a code point, in UTF-16. -/
def units (c : ℕ) : PyStr :=
  if c < 0x10000 then [c] else [0xd800 + (c - 0x10000) / 0x400, 0xdc00 + (c - 0x10000) % 0x400]

/-- A code unit of a JSON text. -/
structure CodeUnit where
  unit : ℕ
  /-- It was written with a backslash. -/
  escaped : Bool

/-- Put pairs of escaped surrogates together. -/
def join : List CodeUnit → PyStr
  | h :: l :: us =>
    if h.escaped && isHigh h.unit && (l.escaped && isLow l.unit) then
      (0x10000 + (h.unit - 0xd800) * 0x400 + (l.unit - 0xdc00)) :: join us
    else h.unit :: join (l :: us)
  | [u] => [u.unit]
  | [] => []

/-- A text of Python, in which no surrogates form a pair. -/
structure IsText (s : PyStr) : Prop where
  codePoint : ∀ c ∈ s, c < 0x110000
  noPair : s.IsChain fun a b ↦ ¬(isHigh a = true ∧ isLow b = true)

theorem join_cons_of_not_high {u : CodeUnit} (hu : isHigh u.unit = false) (us : List CodeUnit) :
    join (u :: us) = u.unit :: join us := by
  cases us with
  | nil => rfl
  | cons l us => rw [join, hu, Bool.and_false, Bool.false_and, if_neg Bool.false_ne_true]

theorem join_cons_of_not_low {u l : CodeUnit} (hl : isLow l.unit = false) (us : List CodeUnit) :
    join (u :: l :: us) = u.unit :: join (l :: us) := by
  rw [join, hl, Bool.and_false, Bool.and_false, if_neg Bool.false_ne_true]

/-- A character that needs no escape. -/
def isPlain (c : ℕ) : Bool := decide (0x20 ≤ c ∧ c ≤ 0x7e ∧ c ≠ 0x22 ∧ c ≠ 0x5c)

/-- The code units of a character in a text that `dumps` has written. -/
def written (c : ℕ) : List CodeUnit := (units c).map fun u ↦ ⟨u, !isPlain c⟩

theorem written_of_lt {c : ℕ} (h : c < 0x10000) : written c = [⟨c, !isPlain c⟩] := by
  rw [written, units, if_pos h]
  rfl

theorem written_of_ge {c : ℕ} (h : ¬c < 0x10000) :
    written c = [⟨0xd800 + (c - 0x10000) / 0x400, true⟩,
      ⟨0xdc00 + (c - 0x10000) % 0x400, true⟩] := by
  have hplain : isPlain c = false := decide_eq_false (by omega)
  rw [written, units, if_neg h, hplain]
  rfl

/-- **The code units of a text** can be put together again. -/
theorem join_written {s : PyStr} (h : IsText s) : join (s.flatMap written) = s := by
  obtain ⟨hrange, hpair⟩ := h
  induction s with
  | nil => rfl
  | cons c s ih =>
    have ih := ih (fun a ha ↦ hrange a (List.mem_cons_of_mem c ha)) hpair.of_cons
    have hc := hrange c List.mem_cons_self
    rw [List.flatMap_cons]
    by_cases hsmall : c < 0x10000
    swap
    · -- A pair that `units` has made.
      have hhigh : isHigh (0xd800 + (c - 0x10000) / 0x400) = true := decide_eq_true (by omega)
      have hlow : isLow (0xdc00 + (c - 0x10000) % 0x400) = true := decide_eq_true (by omega)
      rw [written_of_ge hsmall, List.cons_append, List.cons_append, List.nil_append, join, hhigh,
        hlow, ih]
      refine (if_pos rfl).trans ?_
      dsimp only
      have hsum : 0x10000 + (0xd800 + (c - 0x10000) / 0x400 - 0xd800) * 0x400 +
          (0xdc00 + (c - 0x10000) % 0x400 - 0xdc00) = c := by omega
      rw [hsum]
    rw [written_of_lt hsmall, List.cons_append, List.nil_append]
    rcases hh : isHigh c with - | -
    · rw [join_cons_of_not_high hh, ih]
    -- A lone high surrogate: what follows does not begin with a low one.
    cases s with
    | nil => rfl
    | cons d s =>
      have hd := hrange d (List.mem_cons_of_mem c List.mem_cons_self)
      have hlow : isLow d = false := by
        rw [← Bool.not_eq_true]
        exact fun hl ↦ (List.isChain_cons_cons.1 hpair).1 ⟨hh, hl⟩
      rw [List.flatMap_cons] at ih ⊢
      by_cases hdsmall : d < 0x10000
      · rw [written_of_lt hdsmall, List.cons_append, List.nil_append] at ih ⊢
        rw [join_cons_of_not_low hlow, ih]
      · have hlow' : isLow (0xd800 + (d - 0x10000) / 0x400) = false := decide_eq_false (by omega)
        rw [written_of_ge hdsmall, List.cons_append] at ih ⊢
        rw [join_cons_of_not_low hlow', ih]

/-! ### Strings -/

/-- A hexadecimal digit. -/
def hexDigit (d : ℕ) : ℕ := if d < 10 then 0x30 + d else 0x57 + d

/-- The value of a hexadecimal digit, in either case. -/
def hexValue? (c : ℕ) : Option ℕ :=
  if 0x30 ≤ c ∧ c ≤ 0x39 then some (c - 0x30)
  else if 0x61 ≤ c ∧ c ≤ 0x66 then some (c - 0x57)
  else if 0x41 ≤ c ∧ c ≤ 0x46 then some (c - 0x37)
  else Option.none

/-- The escape of a code unit: a backslash, a `u` and four digits. -/
def unicodeEscape (u : ℕ) : PyStr :=
  [0x5c, 0x75, hexDigit (u / 0x1000), hexDigit (u / 0x100 % 16), hexDigit (u / 0x10 % 16),
    hexDigit (u % 16)]

/-- The letters after a backslash that stand for one character, with that character. -/
def simpleEscapes : List (ℕ × ℕ) :=
  [(0x22, 0x22), (0x5c, 0x5c), (0x2f, 0x2f), (0x62, 0x08), (0x66, 0x0c), (0x6e, 0x0a),
    (0x72, 0x0d), (0x74, 0x09)]

/-- How `dumps` writes a code point. -/
def escape (c : ℕ) : PyStr :=
  if isPlain c then [c]
  else if c = 0x22 then [0x5c, 0x22]
  else if c = 0x5c then [0x5c, 0x5c]
  else if c = 0x0a then [0x5c, 0x6e]
  else if c = 0x0d then [0x5c, 0x72]
  else if c = 0x09 then [0x5c, 0x74]
  else if c = 0x0c then [0x5c, 0x66]
  else if c = 0x08 then [0x5c, 0x62]
  else (units c).flatMap unicodeEscape

/-- A string with its quotation marks. -/
def quote (s : PyStr) : PyStr := 0x22 :: (s.flatMap escape ++ [0x22])

/-- The value of four hexadecimal digits. -/
def hex4? (a b c d : ℕ) : Option ℕ := do
  let a ← hexValue? a
  let b ← hexValue? b
  let c ← hexValue? c
  let d ← hexValue? d
  return a * 0x1000 + b * 0x100 + c * 0x10 + d

/-- One more code unit in front. -/
def push (u : CodeUnit) :
    Except JsonError (List CodeUnit × PyStr) → Except JsonError (List CodeUnit × PyStr)
  | .ok (us, rest) => .ok (u :: us, rest)
  | .error e => .error e

/-- The code units up to the closing quotation mark, and what follows it. -/
def scanUnits : PyStr → Except JsonError (List CodeUnit × PyStr)
  | [] => .error .decode
  | c :: cs =>
    if c = 0x22 then .ok ([], cs)
    else if c = 0x5c then
      match cs with
      | [] => .error .decode
      | e :: cs =>
        if e = 0x75 then
          match cs with
          | a :: b :: c :: d :: cs =>
            match hex4? a b c d with
            | some u => push ⟨u, true⟩ (scanUnits cs)
            | Option.none => .error .decode
          | _ => .error .decode
        else
          match simpleEscapes.lookup e with
          | some u => push ⟨u, true⟩ (scanUnits cs)
          | Option.none => .error .decode
    else if c < 0x20 then .error .decode
    else push ⟨c, false⟩ (scanUnits cs)

/-- `scanstring`, after the opening quotation mark. -/
def scanString (cs : PyStr) : Except JsonError (PyStr × PyStr) :=
  (scanUnits cs).map fun r ↦ (join r.1, r.2)

theorem hexValue?_hexDigit {d : ℕ} (h : d < 16) : hexValue? (hexDigit d) = some d := by
  revert d
  decide

/-- Four digits after a backslash and a `u` are one code unit. -/
theorem scanUnits_hex {a b c d u : ℕ} (h : hex4? a b c d = some u) (cs : PyStr) :
    scanUnits (0x5c :: 0x75 :: a :: b :: c :: d :: cs) = push ⟨u, true⟩ (scanUnits cs) := by
  rw [scanUnits.eq_def]
  simp [h]

/-- A letter after a backslash is one code unit. -/
theorem scanUnits_simple {e u : ℕ} (he : e ≠ 0x75) (h : simpleEscapes.lookup e = some u)
    (cs : PyStr) : scanUnits (0x5c :: e :: cs) = push ⟨u, true⟩ (scanUnits cs) := by
  rw [scanUnits.eq_def]
  simp [he, h]

/-- A character that needs no escape is one code unit. -/
theorem scanUnits_plain {c : ℕ} (h : isPlain c = true) (cs : PyStr) :
    scanUnits (c :: cs) = push ⟨c, false⟩ (scanUnits cs) := by
  obtain ⟨hlow, -, hquote, hback⟩ := of_decide_eq_true h
  rw [scanUnits.eq_def]
  simp only [if_neg hquote, if_neg hback, if_neg (Nat.not_lt.2 hlow)]

/-- The closing quotation mark. -/
theorem scanUnits_quote (cs : PyStr) : scanUnits (0x22 :: cs) = .ok ([], cs) := by
  rw [scanUnits.eq_def]
  rfl

theorem scanUnits_unicodeEscape {u : ℕ} (h : u < 0x10000) (cs : PyStr) :
    scanUnits (unicodeEscape u ++ cs) = push ⟨u, true⟩ (scanUnits cs) := by
  refine scanUnits_hex ?_ cs
  rw [hex4?, hexValue?_hexDigit (by omega), hexValue?_hexDigit (by omega),
    hexValue?_hexDigit (by omega), hexValue?_hexDigit (by omega)]
  exact congrArg some (by omega)

theorem units_lt {c u : ℕ} (hc : c < 0x110000) (hu : u ∈ units c) : u < 0x10000 := by
  unfold units at hu
  split at hu
  · next h =>
    rw [List.mem_singleton.1 hu]
    exact h
  · simp only [List.mem_cons, List.not_mem_nil, or_false] at hu
    omega

/-- Code units in front. -/
def pushAll (us : List CodeUnit) (r : Except JsonError (List CodeUnit × PyStr)) :
    Except JsonError (List CodeUnit × PyStr) :=
  us.foldr push r

theorem pushAll_ok (us vs : List CodeUnit) (rest : PyStr) :
    pushAll us (.ok (vs, rest)) = .ok (us ++ vs, rest) := by
  induction us with
  | nil => rfl
  | cons u us ih =>
    rw [pushAll, List.foldr_cons]
    change push u (pushAll us (.ok (vs, rest))) = _
    rw [ih]
    rfl

theorem scanUnits_unicodeEscapes {us : PyStr} (h : ∀ u ∈ us, u < 0x10000) (cs : PyStr) :
    scanUnits (us.flatMap unicodeEscape ++ cs) =
      pushAll (us.map fun u ↦ ⟨u, true⟩) (scanUnits cs) := by
  induction us with
  | nil => rfl
  | cons u us ih =>
    rw [List.flatMap_cons, List.append_assoc, scanUnits_unicodeEscape (h u List.mem_cons_self),
      ih fun v hv ↦ h v (List.mem_cons_of_mem u hv)]
    rfl

/-- **What a character is written as** is read as its code units. -/
theorem scanUnits_escape {c : ℕ} (hc : c < 0x110000) (cs : PyStr) :
    scanUnits (escape c ++ cs) = pushAll (written c) (scanUnits cs) := by
  unfold escape
  split_ifs with h h₁ h₂ h₃ h₄ h₅ h₆ h₇
  · have hsmall : c < 0x10000 := by
      have := of_decide_eq_true h
      omega
    rw [written_of_lt hsmall, h]
    exact scanUnits_plain h cs
  · subst h₁
    exact scanUnits_simple (by decide) rfl cs
  · subst h₂
    exact scanUnits_simple (by decide) rfl cs
  · subst h₃
    exact scanUnits_simple (by decide) rfl cs
  · subst h₄
    exact scanUnits_simple (by decide) rfl cs
  · subst h₅
    exact scanUnits_simple (by decide) rfl cs
  · subst h₆
    exact scanUnits_simple (by decide) rfl cs
  · subst h₇
    exact scanUnits_simple (by decide) rfl cs
  · rw [scanUnits_unicodeEscapes (fun u hu ↦ units_lt hc hu), written,
      Bool.eq_false_of_not_eq_true h]
    rfl

/-- **A quoted text is read back.** -/
theorem scanString_quote {s : PyStr} (h : IsText s) (rest : PyStr) :
    scanString (s.flatMap escape ++ 0x22 :: rest) = .ok (s, rest) := by
  have hunits : ∀ s : PyStr, (∀ c ∈ s, c < 0x110000) →
      scanUnits (s.flatMap escape ++ 0x22 :: rest) = .ok (s.flatMap written, rest) := by
    intro s hs
    induction s with
    | nil => exact scanUnits_quote rest
    | cons c s ih =>
      rw [List.flatMap_cons, List.append_assoc, scanUnits_escape (hs c List.mem_cons_self),
        ih fun a ha ↦ hs a (List.mem_cons_of_mem c ha), pushAll_ok, List.flatMap_cons]
  rw [scanString, hunits s h.codePoint]
  exact congrArg (fun t ↦ Except.ok (t, rest)) (join_written h)

/-! ### Numbers -/

/-- A decimal digit. -/
def isDigit (c : ℕ) : Bool := decide (0x30 ≤ c ∧ c ≤ 0x39)

/-- A character that may stand in a number. -/
def isNumeric (c : ℕ) : Bool := isDigit c || decide (c ∈ [0x2b, 0x2d, 0x2e, 0x45, 0x65])

/-- The decimal digits of a number. -/
def natDigits (n : ℕ) : PyStr :=
  if n = 0 then [0x30] else (Nat.digits 10 n).reverse.map (0x30 + ·)

/-- `int.__repr__`. -/
def intRepr (n : ℤ) : PyStr := if n < 0 then 0x2d :: natDigits n.natAbs else natDigits n.natAbs

/-- How many digits the interpreter converts, `sys.get_int_max_str_digits()`. -/
def maxStrDigits : ℕ := 4300

/-- The number that digits denote. -/
def natValue (digits : PyStr) : ℕ := Nat.ofDigits 10 (digits.reverse.map (· - 0x30))

/-- A literal: a sign, the digits before the point, and what makes it a floating-point number. -/
structure NumberLiteral where
  negative : Bool
  digits : PyStr
  fraction : PyStr
  exponent : PyStr

/-- The text of a literal. -/
def NumberLiteral.text (l : NumberLiteral) : PyStr :=
  (if l.negative then [0x2d] else []) ++ l.digits ++ l.fraction ++ l.exponent

/-- The digits before the point: a zero, or digits that do not begin with one. -/
def scanDigits : PyStr → Option (PyStr × PyStr)
  | [] => Option.none
  | c :: cs =>
    if c = 0x30 then some ([c], cs)
    else if isDigit c then some (c :: cs.takeWhile isDigit, cs.dropWhile isDigit)
    else Option.none

/-- A point with digits, if there is one. -/
def scanFraction (cs : PyStr) : PyStr × PyStr :=
  match cs with
  | p :: d :: ds =>
    if p = 0x2e ∧ isDigit d then (p :: d :: ds.takeWhile isDigit, ds.dropWhile isDigit)
    else ([], cs)
  | _ => ([], cs)

/-- A sign, if there is one. -/
def scanSign (cs : PyStr) : PyStr × PyStr :=
  match cs with
  | c :: ds => if c = 0x2b ∨ c = 0x2d then ([c], ds) else ([], cs)
  | [] => ([], cs)

/-- An exponent with digits, if there is one. -/
def scanExponent (cs : PyStr) : PyStr × PyStr :=
  match cs with
  | e :: ds =>
    let (sign, rest) := scanSign ds
    if (e = 0x45 ∨ e = 0x65) ∧ rest.takeWhile isDigit ≠ [] then
      (e :: sign ++ rest.takeWhile isDigit, rest.dropWhile isDigit)
    else ([], cs)
  | [] => ([], cs)

/-- A number after its sign. -/
def scanUnsigned (negative : Bool) (cs : PyStr) : Option (NumberLiteral × PyStr) :=
  (scanDigits cs).map fun d ↦
    let f := scanFraction d.2
    let e := scanExponent f.2
    (⟨negative, d.1, f.1, e.1⟩, e.2)

/-- `_match_number`. -/
def scanNumber : PyStr → Option (NumberLiteral × PyStr)
  | [] => Option.none
  | c :: cs => if c = 0x2d then scanUnsigned true cs else scanUnsigned false (c :: cs)

/-- The value of a literal. -/
def NumberLiteral.value (canon : PyStr → PyStr) (l : NumberLiteral) : Except JsonError PyJson :=
  if l.fraction = [] ∧ l.exponent = [] then
    if maxStrDigits < l.digits.length then .error .tooManyDigits
    else .ok (.int (if l.negative then -(natValue l.digits : ℤ) else natValue l.digits))
  else .ok (.float (canon l.text))

/-! ### Values -/

/-- `null`, `true`, `false`, and `NaN`, `Infinity` and `-Infinity`, which Python adds. -/
def words : List (PyStr × PyJson) :=
  [([0x6e, 0x75, 0x6c, 0x6c], .none), ([0x74, 0x72, 0x75, 0x65], .bool true),
    ([0x66, 0x61, 0x6c, 0x73, 0x65], .bool false),
    ([0x4e, 0x61, 0x4e], .float [0x4e, 0x61, 0x4e]),
    ([0x49, 0x6e, 0x66, 0x69, 0x6e, 0x69, 0x74, 0x79],
      .float [0x49, 0x6e, 0x66, 0x69, 0x6e, 0x69, 0x74, 0x79]),
    ([0x2d, 0x49, 0x6e, 0x66, 0x69, 0x6e, 0x69, 0x74, 0x79],
      .float [0x2d, 0x49, 0x6e, 0x66, 0x69, 0x6e, 0x69, 0x74, 0x79])]

/-- The word that a text begins with. -/
def scanWord (cs : PyStr) : Option (PyJson × PyStr) :=
  words.findSome? fun w ↦
    if w.1.isPrefixOf cs then some (w.2, cs.drop w.1.length) else Option.none

/-- Space, tabulator, line feed and carriage return. -/
def isWhitespace (c : ℕ) : Bool := decide (c ∈ [0x20, 0x09, 0x0a, 0x0d])

def skipWhitespace (cs : PyStr) : PyStr := cs.dropWhile isWhitespace

/-- The `dict` of these members: of two with one name the last one counts, in the place of the
first. -/
def dictOf (members : List (PyStr × PyJson)) : List (PyStr × PyJson) :=
  members.foldl (fun d m ↦
    if d.any fun m' ↦ decide (m'.1 = m.1) then d.map fun m' ↦ if m'.1 = m.1 then m else m'
    else d ++ [m]) []

mutual

/-- What `dumps` writes. -/
def write : PyJson → PyStr
  | .none => [0x6e, 0x75, 0x6c, 0x6c]
  | .bool true => [0x74, 0x72, 0x75, 0x65]
  | .bool false => [0x66, 0x61, 0x6c, 0x73, 0x65]
  | .int n => intRepr n
  | .float text => text
  | .str s => quote s
  | .list items => 0x5b :: (writeItems items ++ [0x5d])
  | .dict members => 0x7b :: (writeMembers members ++ [0x7d])

/-- Items with `, ` between them. -/
def writeItems : List PyJson → PyStr
  | [] => []
  | [v] => write v
  | v :: v' :: vs => write v ++ 0x2c :: 0x20 :: writeItems (v' :: vs)

/-- Members with `, ` between them. -/
def writeMembers : List (PyStr × PyJson) → PyStr
  | [] => []
  | [(k, v)] => quote k ++ 0x3a :: 0x20 :: write v
  | (k, v) :: m :: ms =>
    quote k ++ 0x3a :: 0x20 :: (write v ++ 0x2c :: 0x20 :: writeMembers (m :: ms))

end

mutual

/-- Every integer in the value has few enough digits. -/
def fits : PyJson → Bool
  | .int n => decide ((natDigits n.natAbs).length ≤ maxStrDigits)
  | .list items => fitItems items
  | .dict members => fitMembers members
  | _ => true

def fitItems : List PyJson → Bool
  | [] => true
  | v :: vs => fits v && fitItems vs

def fitMembers : List (PyStr × PyJson) → Bool
  | [] => true
  | (_, v) :: ms => fits v && fitMembers ms

end

/-- `json.dumps`. -/
def dumps (v : PyJson) : Except JsonError PyStr :=
  if fits v then .ok (write v) else .error .tooManyDigits

/-- What follows the white space, which must be this character. -/
def expect (c : ℕ) (cs : PyStr) : Except JsonError PyStr :=
  match skipWhitespace cs with
  | c' :: rest => if c' = c then .ok rest else .error .decode
  | [] => .error .decode

mutual

/-- `scan_once`: the value that a text begins with. The fuel is spent one level or item at a
time. -/
def scanOnce (canon : PyStr → PyStr) : ℕ → PyStr → Except JsonError (PyJson × PyStr)
  | fuel + 1, c :: cs =>
    if c = 0x22 then do
      let (s, cs) ← scanString cs
      return (.str s, cs)
    else if c = 0x5b then do
      if (skipWhitespace cs).head? = some 0x5d then return (.list [], (skipWhitespace cs).tail)
      let (items, cs) ← scanItems canon fuel (skipWhitespace cs)
      return (.list items, cs)
    else if c = 0x7b then do
      if (skipWhitespace cs).head? = some 0x7d then return (.dict [], (skipWhitespace cs).tail)
      let (members, cs) ← scanMembers canon fuel (skipWhitespace cs)
      return (.dict (dictOf members), cs)
    else
      match scanWord (c :: cs), scanNumber (c :: cs) with
      | some r, _ => .ok r
      | Option.none, some (l, cs) => do return (← l.value canon, cs)
      | Option.none, Option.none => .error .decode
  | _, _ => .error .decode

/-- The items of an array, and its end. -/
def scanItems (canon : PyStr → PyStr) : ℕ → PyStr → Except JsonError (List PyJson × PyStr)
  | fuel + 1, cs => do
    let (v, cs) ← scanOnce canon fuel cs
    if (skipWhitespace cs).head? = some 0x5d then return ([v], (skipWhitespace cs).tail)
    let cs ← expect 0x2c cs
    let (vs, cs) ← scanItems canon fuel (skipWhitespace cs)
    return (v :: vs, cs)
  | 0, _ => .error .decode

/-- The members of an object, and its end. -/
def scanMembers (canon : PyStr → PyStr) :
    ℕ → PyStr → Except JsonError (List (PyStr × PyJson) × PyStr)
  | fuel + 1, cs => do
    let cs ← expect 0x22 cs
    let (k, cs) ← scanString cs
    let cs ← expect 0x3a cs
    let (v, cs) ← scanOnce canon fuel (skipWhitespace cs)
    if (skipWhitespace cs).head? = some 0x7d then return ([(k, v)], (skipWhitespace cs).tail)
    let cs ← expect 0x2c cs
    let (ms, cs) ← scanMembers canon fuel (skipWhitespace cs)
    return ((k, v) :: ms, cs)
  | 0, _ => .error .decode

end

/-- `json.loads`. -/
def loads (canon : PyStr → PyStr) (cs : PyStr) : Except JsonError PyJson := do
  if cs.head? = some 0xfeff then throw .decode
  let (v, rest) ← scanOnce canon (2 * cs.length + 1) (skipWhitespace cs)
  if skipWhitespace rest = [] then return v else throw .decode

/-! ### The round trip -/

/-- What follows a number in a text that `dumps` has written. -/
def Delimits (rest : PyStr) : Prop := ∀ c ∈ rest.head?, isNumeric c = false

theorem Delimits.nil : Delimits [] := fun _ h ↦ nomatch h

theorem Delimits.cons {c : ℕ} (h : isNumeric c = false) (rest : PyStr) : Delimits (c :: rest) := by
  rintro c' hc
  rw [← Option.some.inj hc]
  exact h

theorem isNumeric_of_isDigit {c : ℕ} (h : isDigit c = true) : isNumeric c = true := by
  rw [isNumeric, h, Bool.true_or]

theorem Delimits.digits {rest : PyStr} (h : Delimits rest) (cs : PyStr) :
    (cs ++ rest).takeWhile isDigit = cs.takeWhile isDigit ∧
      (cs ++ rest).dropWhile isDigit = cs.dropWhile isDigit ++ rest := by
  induction cs with
  | nil =>
    cases rest with
    | nil => exact ⟨rfl, rfl⟩
    | cons c rest =>
      have hc : ¬isDigit c = true := fun hd ↦
        Bool.false_ne_true ((h c rfl).symm.trans (isNumeric_of_isDigit hd))
      exact ⟨List.takeWhile_cons_of_neg hc, List.dropWhile_cons_of_neg hc⟩
  | cons c cs ih =>
    rw [List.cons_append]
    by_cases hc : isDigit c = true
    · rw [List.takeWhile_cons_of_pos hc, List.dropWhile_cons_of_pos hc,
        List.takeWhile_cons_of_pos hc, List.dropWhile_cons_of_pos hc, ih.1, ih.2]
      exact ⟨rfl, rfl⟩
    · rw [List.takeWhile_cons_of_neg hc, List.dropWhile_cons_of_neg hc,
        List.takeWhile_cons_of_neg hc, List.dropWhile_cons_of_neg hc]
      exact ⟨rfl, rfl⟩

theorem scanDigits_append {cs digits cs' rest : PyStr} (h : scanDigits cs = some (digits, cs'))
    (hrest : Delimits rest) : scanDigits (cs ++ rest) = some (digits, cs' ++ rest) := by
  cases cs with
  | nil => nomatch h
  | cons c cs =>
    rw [scanDigits] at h
    rw [List.cons_append, scanDigits, (hrest.digits cs).1, (hrest.digits cs).2]
    split_ifs at h ⊢ with hzero hdigit
    · cases h
      rfl
    · cases h
      rfl

theorem scanFraction_append {rest : PyStr} (hrest : Delimits rest) (cs : PyStr) :
    scanFraction (cs ++ rest) = ((scanFraction cs).1, (scanFraction cs).2 ++ rest) := by
  rcases cs with - | ⟨p, - | ⟨d, cs⟩⟩
  · rcases rest with - | ⟨p, - | ⟨d, rest⟩⟩
    · rfl
    · rfl
    · have hp : p ≠ 0x2e := by
        rintro rfl
        exact Bool.false_ne_true ((hrest 0x2e rfl).symm.trans rfl)
      exact if_neg fun h ↦ hp h.1
  · rcases rest with - | ⟨d, rest⟩
    · rfl
    · exact if_neg fun h ↦
        Bool.false_ne_true ((hrest d rfl).symm.trans (isNumeric_of_isDigit h.2))
  · rw [List.cons_append, List.cons_append, scanFraction, (hrest.digits cs).1,
      (hrest.digits cs).2, scanFraction]
    split_ifs <;> rfl

theorem scanSign_append {rest : PyStr} (hrest : Delimits rest) (cs : PyStr) :
    scanSign (cs ++ rest) = ((scanSign cs).1, (scanSign cs).2 ++ rest) := by
  cases cs with
  | nil =>
    cases rest with
    | nil => rfl
    | cons c rest =>
      refine if_neg ?_
      rintro (rfl | rfl) <;> exact Bool.false_ne_true ((hrest _ rfl).symm.trans rfl)
  | cons c cs =>
    rw [List.cons_append, scanSign, scanSign]
    split_ifs <;> rfl

theorem scanExponent_append {rest : PyStr} (hrest : Delimits rest) (cs : PyStr) :
    scanExponent (cs ++ rest) = ((scanExponent cs).1, (scanExponent cs).2 ++ rest) := by
  cases cs with
  | nil =>
    cases rest with
    | nil => rfl
    | cons c rest =>
      refine if_neg fun h ↦ ?_
      rcases h.1 with rfl | rfl <;> exact Bool.false_ne_true ((hrest _ rfl).symm.trans rfl)
  | cons c cs =>
    rw [List.cons_append, scanExponent, scanExponent]
    dsimp only
    rw [scanSign_append hrest]
    dsimp only
    rw [(hrest.digits _).1, (hrest.digits _).2]
    split_ifs <;> rfl

theorem scanUnsigned_append {negative : Bool} {cs cs' rest : PyStr} {l : NumberLiteral}
    (h : scanUnsigned negative cs = some (l, cs')) (hrest : Delimits rest) :
    scanUnsigned negative (cs ++ rest) = some (l, cs' ++ rest) := by
  obtain ⟨⟨digits, ds⟩, hdigits, h⟩ := Option.map_eq_some_iff.1 h
  rw [scanUnsigned, scanDigits_append hdigits hrest, Option.map_some]
  dsimp only at h ⊢
  rw [scanFraction_append hrest, scanExponent_append hrest]
  cases h
  rfl

/-- **A number ends where the text that follows begins.** -/
theorem scanNumber_append {cs cs' rest : PyStr} {l : NumberLiteral}
    (h : scanNumber cs = some (l, cs')) (hrest : Delimits rest) :
    scanNumber (cs ++ rest) = some (l, cs' ++ rest) := by
  cases cs with
  | nil => nomatch h
  | cons c cs =>
    rw [scanNumber] at h
    rw [List.cons_append, scanNumber, ← List.cons_append]
    split_ifs at h ⊢ with hminus
    · exact scanUnsigned_append h hrest
    · exact scanUnsigned_append h hrest

theorem isDigit_natDigits {n c : ℕ} (hc : c ∈ natDigits n) : isDigit c = true := by
  unfold natDigits at hc
  split at hc
  · rw [List.mem_singleton.1 hc]
    rfl
  · obtain ⟨d, hd, rfl⟩ := List.mem_map.1 hc
    have hlt := Nat.digits_lt_base (by norm_num) (List.mem_reverse.1 hd)
    exact decide_eq_true (by omega)

theorem natValue_natDigits (n : ℕ) : natValue (natDigits n) = n := by
  unfold natDigits
  split
  · next h =>
    rw [h]
    rfl
  · have hsub : (fun c ↦ c - 0x30) ∘ (fun d ↦ 0x30 + d) = id := funext fun d ↦ by
      show 0x30 + d - 0x30 = d
      omega
    rw [natValue, ← List.map_reverse, List.reverse_reverse, List.map_map, hsub, List.map_id,
      Nat.ofDigits_digits]

theorem scanDigits_natDigits (n : ℕ) : scanDigits (natDigits n) = some (natDigits n, []) := by
  rcases hd : natDigits n with - | ⟨c, cs⟩
  · unfold natDigits at hd
    split at hd
    · cases hd
    · next h =>
      exact absurd (List.reverse_eq_nil_iff.1 (List.map_eq_nil_iff.1 hd))
        (Nat.digits_ne_nil_iff_ne_zero.2 h)
  have hall : ∀ x ∈ c :: cs, isDigit x = true := fun x hx ↦ isDigit_natDigits (hd ▸ hx)
  rw [scanDigits]
  split_ifs with hzero hdigit
  · subst hzero
    suffices cs = [] by rw [this]
    unfold natDigits at hd
    split at hd
    · exact (List.cons.inj hd).2.symm
    · next h =>
      -- The digits of a number that is not zero do not begin with one.
      obtain ⟨d, ds, hds, hc, -⟩ := List.map_eq_cons_iff.1 hd
      have hlast : (Nat.digits 10 n).getLast? = some d := by
        rw [← List.head?_reverse, hds]
        rfl
      have hne := Nat.getLast_digit_ne_zero 10 h
      rw [List.getLast?_eq_some_getLast (Nat.digits_ne_nil_iff_ne_zero.2 h)] at hlast
      have := Option.some.inj hlast
      omega
  · have htail : ∀ x ∈ cs, isDigit x = true := fun x hx ↦ hall x (List.mem_cons_of_mem c hx)
    rw [List.takeWhile_eq_self_iff.2 htail, List.dropWhile_eq_nil_iff.2 htail]
  · exact absurd (hall c List.mem_cons_self) hdigit

/-- **What `int.__repr__` writes** is a literal without a fraction and an exponent. -/
theorem scanNumber_intRepr (n : ℤ) :
    scanNumber (intRepr n) = some (⟨decide (n < 0), natDigits n.natAbs, [], []⟩, []) := by
  have hunsigned : ∀ negative, scanUnsigned negative (natDigits n.natAbs) =
      some (⟨negative, natDigits n.natAbs, [], []⟩, []) := by
    intro negative
    rw [scanUnsigned, scanDigits_natDigits]
    rfl
  unfold intRepr
  split
  · next h => rw [scanNumber, if_pos rfl, hunsigned, decide_eq_true h]
  · next h =>
    rcases hd : natDigits n.natAbs with - | ⟨c, cs⟩
    · have := scanDigits_natDigits n.natAbs
      rw [hd] at this
      nomatch this
    · have hc : c ≠ 0x2d := by
        rintro rfl
        have hminus : isDigit 0x2d = true :=
          isDigit_natDigits (n := n.natAbs) (hd ▸ List.mem_cons_self)
        nomatch hminus
      rw [scanNumber, if_neg hc, ← hd, hunsigned, decide_eq_false h]

theorem value_int (canon : PyStr → PyStr) {n : ℤ}
    (h : (natDigits n.natAbs).length ≤ maxStrDigits) :
    (NumberLiteral.mk (decide (n < 0)) (natDigits n.natAbs) [] []).value canon = .ok (.int n) := by
  rw [NumberLiteral.value, if_pos ⟨rfl, rfl⟩, if_neg (Nat.not_lt.2 h), natValue_natDigits]
  congr 2
  split
  · next hneg =>
    have := of_decide_eq_true hneg
    omega
  · next hneg =>
    have : ¬n < 0 := fun hlt ↦ hneg (decide_eq_true hlt)
    omega

theorem scanFraction_text (cs : PyStr) : (scanFraction cs).1 ++ (scanFraction cs).2 = cs := by
  rcases cs with - | ⟨p, - | ⟨d, cs⟩⟩
  · rfl
  · rfl
  · rw [scanFraction]
    split
    · rw [List.cons_append, List.cons_append, List.takeWhile_append_dropWhile]
    · rfl

theorem scanSign_text (cs : PyStr) : (scanSign cs).1 ++ (scanSign cs).2 = cs := by
  cases cs with
  | nil => rfl
  | cons c cs =>
    rw [scanSign]
    split <;> rfl

theorem scanExponent_text (cs : PyStr) : (scanExponent cs).1 ++ (scanExponent cs).2 = cs := by
  cases cs with
  | nil => rfl
  | cons c cs =>
    rw [scanExponent]
    dsimp only
    split
    · rw [List.append_assoc, List.takeWhile_append_dropWhile, List.cons_append, scanSign_text]
    · rfl

/-- **A literal is the text that has been read.** -/
theorem scanNumber_text {cs rest : PyStr} {l : NumberLiteral}
    (h : scanNumber cs = some (l, rest)) : l.text ++ rest = cs := by
  have hunsigned : ∀ {negative cs}, scanUnsigned negative cs = some (l, rest) →
      l.negative = negative ∧ l.digits ++ l.fraction ++ l.exponent ++ rest = cs := by
    intro negative cs h
    obtain ⟨⟨digits, ds⟩, hdigits, h⟩ := Option.map_eq_some_iff.1 h
    obtain ⟨rfl, rfl⟩ := Prod.mk.inj h
    refine ⟨rfl, ?_⟩
    dsimp only
    rw [List.append_assoc, List.append_assoc, scanExponent_text, scanFraction_text]
    cases cs with
    | nil => nomatch hdigits
    | cons c cs =>
      rw [scanDigits] at hdigits
      split_ifs at hdigits
      · cases hdigits
        rfl
      · cases hdigits
        rw [List.cons_append, List.takeWhile_append_dropWhile]
  cases cs with
  | nil => nomatch h
  | cons c cs =>
    rw [scanNumber] at h
    split_ifs at h with hc
    · obtain ⟨hneg, htext⟩ := hunsigned h
      rw [NumberLiteral.text, hneg, if_pos rfl, hc, ← htext]
      simp
    · obtain ⟨hneg, htext⟩ := hunsigned h
      rw [NumberLiteral.text, hneg, if_neg Bool.false_ne_true, ← htext]
      rfl

/-- The text of a floating-point number: a word, or a literal that `repr` would write as it is. -/
def IsFloat (canon : PyStr → PyStr) (text : PyStr) : Prop :=
  (text, PyJson.float text) ∈ words ∨
    ∃ l, scanNumber text = some (l, []) ∧ ¬(l.fraction = [] ∧ l.exponent = []) ∧
      canon text = text

mutual

/-- The value of an object of Python. -/
def IsData (canon : PyStr → PyStr) : PyJson → Prop
  | .float text => IsFloat canon text
  | .str s => IsText s
  | .list items => ItemsData canon items
  | .dict members => (members.map Prod.fst).Nodup ∧ MembersData canon members
  | _ => True

def ItemsData (canon : PyStr → PyStr) : List PyJson → Prop
  | [] => True
  | v :: vs => IsData canon v ∧ ItemsData canon vs

def MembersData (canon : PyStr → PyStr) : List (PyStr × PyJson) → Prop
  | [] => True
  | (k, v) :: ms => IsText k ∧ IsData canon v ∧ MembersData canon ms

end

/-- The text begins as that of a number. -/
def beginsNumber : PyStr → Bool
  | c :: cs => isDigit c || decide (c = 0x2d) && cs.head?.any isDigit
  | [] => false

theorem isDigit_of_scanDigits {c : ℕ} {cs : PyStr} {r : PyStr × PyStr}
    (h : scanDigits (c :: cs) = some r) : isDigit c = true := by
  rw [scanDigits] at h
  split_ifs at h with hzero hdigit
  · rw [hzero]
    rfl
  · exact hdigit

theorem beginsNumber_of_scanNumber {cs : PyStr} {r : NumberLiteral × PyStr}
    (h : scanNumber cs = some r) : beginsNumber cs = true := by
  cases cs with
  | nil => nomatch h
  | cons c cs =>
    rw [scanNumber] at h
    split_ifs at h with hc
    · obtain ⟨d, hd, -⟩ := Option.map_eq_some_iff.1 h
      cases cs with
      | nil => nomatch hd
      | cons c' cs =>
        rw [beginsNumber, decide_eq_true hc, Bool.true_and, List.head?_cons, Option.any_some,
          isDigit_of_scanDigits hd, Bool.or_true]
    · obtain ⟨d, hd, -⟩ := Option.map_eq_some_iff.1 h
      rw [beginsNumber, isDigit_of_scanDigits hd, Bool.true_or]

/-- The first two characters decide how a text begins. -/
theorem beginsNumber_of_prefix {w cs : PyStr} (hw : w <+: cs) (hlen : 2 ≤ w.length) :
    beginsNumber cs = beginsNumber w := by
  obtain ⟨rest, rfl⟩ := hw
  match w, hlen with
  | a :: b :: w, _ => rfl

/-- A number is not a word. -/
theorem scanWord_of_beginsNumber {cs : PyStr} (h : beginsNumber cs = true) :
    scanWord cs = Option.none := by
  have hwords : ∀ w ∈ words, 2 ≤ w.1.length ∧ beginsNumber w.1 = false := by decide
  refine List.findSome?_eq_none_iff.2 fun w hw ↦ if_neg fun hprefix ↦ ?_
  obtain ⟨hlen, hno⟩ := hwords w hw
  rw [← beginsNumber_of_prefix (List.isPrefixOf_iff_prefix.1 hprefix) hlen, h] at hno
  cases hno

section RoundTrip

variable {canon : PyStr → PyStr} {fuel : ℕ} {rest : PyStr}

theorem skipWhitespace_cons {c : ℕ} (h : isWhitespace c = false) (cs : PyStr) :
    skipWhitespace (c :: cs) = c :: cs :=
  List.dropWhile_cons_of_neg (Bool.eq_false_iff.1 h)

theorem skipWhitespace_space (cs : PyStr) : skipWhitespace (0x20 :: cs) = skipWhitespace cs :=
  List.dropWhile_cons_of_pos rfl

theorem expect_cons {c : ℕ} (h : isWhitespace c = false) (cs : PyStr) :
    expect c (c :: cs) = .ok cs := by
  rw [expect, skipWhitespace_cons h]
  exact if_pos rfl

theorem scanOnce_str {s : PyStr} (h : IsText s) :
    scanOnce canon (fuel + 1) (quote s ++ rest) = .ok (.str s, rest) := by
  rw [quote, List.cons_append, List.append_assoc, scanOnce, if_pos rfl]
  change (scanString (s.flatMap escape ++ 0x22 :: rest) >>= _) = _
  rw [scanString_quote h]
  rfl

/-- A text that begins as a number is scanned as one. -/
theorem scanOnce_number {cs : PyStr} {l : NumberLiteral} {v : PyJson}
    (h : scanNumber cs = some (l, [])) (hv : l.value canon = .ok v) (hrest : Delimits rest) :
    scanOnce canon (fuel + 1) (cs ++ rest) = .ok (v, rest) := by
  have hnumber := scanNumber_append h hrest
  rw [List.nil_append] at hnumber
  have hbegins := beginsNumber_of_scanNumber hnumber
  rcases hcs : cs ++ rest with - | ⟨c, cs'⟩
  · rw [hcs] at hbegins
    cases hbegins
  rw [hcs] at hnumber hbegins
  have hne : c ≠ 0x22 ∧ c ≠ 0x5b ∧ c ≠ 0x7b := by
    refine ⟨?_, ?_, ?_⟩ <;> rintro rfl <;> exact Bool.false_ne_true hbegins
  rw [scanOnce, if_neg hne.1, if_neg hne.2.1, if_neg hne.2.2, scanWord_of_beginsNumber hbegins,
    hnumber]
  dsimp only
  rw [hv]
  rfl

theorem scanOnce_word {w : PyStr × PyJson} (h : w ∈ words) :
    scanOnce canon (fuel + 1) (w.1 ++ rest) = .ok (w.2, rest) := by
  simp only [words, List.mem_cons, List.not_mem_nil, or_false] at h
  rcases h with rfl | rfl | rfl | rfl | rfl | rfl <;> rfl

theorem dictOf_of_nodup {members : List (PyStr × PyJson)} (h : (members.map Prod.fst).Nodup) :
    dictOf members = members := by
  induction members using List.reverseRecOn with
  | nil => rfl
  | append_singleton ms m ih =>
    rw [List.map_append, List.map_singleton] at h
    have hnew : ¬ms.any (fun m' ↦ decide (m'.1 = m.1)) = true := by
      rintro hany
      obtain ⟨m', hm', heq⟩ := List.any_eq_true.1 hany
      exact List.disjoint_of_nodup_append h (List.mem_map_of_mem hm')
        (of_decide_eq_true heq ▸ List.mem_singleton_self _)
    have hms := ih h.of_append_left
    rw [dictOf] at hms
    rw [dictOf, List.foldl_append, hms, List.foldl_cons, List.foldl_nil, if_neg hnew]

/-- What is written begins with no white space, no closing bracket and no byte order mark. -/
theorem write_head {v : PyJson} (h : IsData canon v) :
    ∃ c cs, write v = c :: cs ∧ isWhitespace c = false ∧ c ≠ 0x5d ∧ c ≠ 0xfeff := by
  have hnumber : ∀ {text : PyStr}, beginsNumber text = true →
      ∃ c cs, text = c :: cs ∧ isWhitespace c = false ∧ c ≠ 0x5d ∧ c ≠ 0xfeff := by
    intro text htext
    cases text with
    | nil => cases htext
    | cons c cs =>
      refine ⟨c, cs, rfl, ?_⟩
      have hc : 0x2d ≤ c ∧ c ≤ 0x39 := by
        rw [beginsNumber, Bool.or_eq_true, Bool.and_eq_true] at htext
        rcases htext with hd | ⟨hm, -⟩
        · have := of_decide_eq_true hd
          omega
        · have := of_decide_eq_true hm
          omega
      refine ⟨decide_eq_false ?_, by omega, by omega⟩
      simp only [List.mem_cons, List.not_mem_nil, or_false]
      omega
  match v with
  | .none => exact ⟨_, _, rfl, rfl, by decide, by decide⟩
  | .bool true => exact ⟨_, _, rfl, rfl, by decide, by decide⟩
  | .bool false => exact ⟨_, _, rfl, rfl, by decide, by decide⟩
  | .int n => exact hnumber (beginsNumber_of_scanNumber (scanNumber_intRepr n))
  | .float text =>
    rcases h with hw | ⟨l, hl, -⟩
    · simp only [words, List.mem_cons, Prod.mk.injEq, reduceCtorEq, and_false, false_or,
        List.not_mem_nil, or_false] at hw
      rcases hw with ⟨rfl, -⟩ | ⟨rfl, -⟩ | ⟨rfl, -⟩
      · exact ⟨_, _, rfl, rfl, by decide, by decide⟩
      · exact ⟨_, _, rfl, rfl, by decide, by decide⟩
      · exact ⟨_, _, rfl, rfl, by decide, by decide⟩
    · exact hnumber (beginsNumber_of_scanNumber hl)
  | .str s => exact ⟨_, _, rfl, rfl, by decide, by decide⟩
  | .list items => exact ⟨_, _, rfl, rfl, by decide, by decide⟩
  | .dict members => exact ⟨_, _, rfl, rfl, by decide, by decide⟩

theorem writeItems_head {v : PyJson} (h : IsData canon v) (vs : List PyJson) :
    ∃ c cs, writeItems (v :: vs) = c :: cs ∧ isWhitespace c = false ∧ c ≠ 0x5d := by
  obtain ⟨c, cs, hhead, hspace, hbracket, -⟩ := write_head h
  cases vs with
  | nil => exact ⟨c, cs, hhead, hspace, hbracket⟩
  | cons v' vs =>
    have hwrite : writeItems (v :: v' :: vs) =
        c :: (cs ++ 0x2c :: 0x20 :: writeItems (v' :: vs)) := by
      rw [writeItems, hhead, List.cons_append]
    exact ⟨c, _, hwrite, hspace, hbracket⟩

theorem writeMembers_head (m : PyStr × PyJson) (ms : List (PyStr × PyJson)) :
    ∃ cs, writeMembers (m :: ms) = 0x22 :: cs := by
  cases ms with
  | nil => exact ⟨_, rfl⟩
  | cons m' ms => exact ⟨_, rfl⟩

/-- A member of an object, and then what follows it. -/
theorem scanMembers_cons {k tail : PyStr} {v : PyJson} (hk : IsText k) (hdata : IsData canon v)
    (hv : scanOnce canon fuel (write v ++ tail) = .ok (v, tail)) :
    scanMembers canon (fuel + 1) (quote k ++ 0x3a :: 0x20 :: (write v ++ tail)) =
      if (skipWhitespace tail).head? = some 0x7d then
        .ok ([(k, v)], (skipWhitespace tail).tail)
      else do
        let cs ← expect 0x2c tail
        let (ms, cs) ← scanMembers canon fuel (skipWhitespace cs)
        return ((k, v) :: ms, cs) := by
  obtain ⟨c, cs, hhead, hspace, -⟩ := write_head hdata
  rw [quote, List.cons_append, List.append_assoc, List.singleton_append, scanMembers,
    expect_cons rfl]
  dsimp only [Bind.bind, Except.bind]
  rw [scanString_quote hk]
  dsimp only
  rw [expect_cons rfl]
  dsimp only
  rw [skipWhitespace_space, hhead, List.cons_append, skipWhitespace_cons hspace,
    ← List.cons_append, ← hhead, hv]
  rfl

mutual

/-- **What is written** is scanned as the value that it was written for. -/
theorem scanOnce_write (canon : PyStr → PyStr) : ∀ (v : PyJson) (fuel : ℕ) (rest : PyStr),
    IsData canon v → fits v = true → (write v).length < fuel → Delimits rest →
      scanOnce canon fuel (write v ++ rest) = .ok (v, rest)
  | v, 0, _, _, _, hfuel, _ => absurd hfuel (Nat.not_lt_zero _)
  | .none, fuel + 1, rest, _, _, _, _ => scanOnce_word (w := (_, .none)) (by simp [words])
  | .bool true, fuel + 1, rest, _, _, _, _ =>
    scanOnce_word (w := (_, .bool true)) (by simp [words])
  | .bool false, fuel + 1, rest, _, _, _, _ =>
    scanOnce_word (w := (_, .bool false)) (by simp [words])
  | .int n, fuel + 1, rest, _, hfits, _, hrest =>
    scanOnce_number (scanNumber_intRepr n) (value_int canon (of_decide_eq_true hfits)) hrest
  | .float text, fuel + 1, rest, h, _, _, hrest => by
    rcases h with hw | ⟨l, hl, hfloat, hcanon⟩
    · exact scanOnce_word hw
    · refine scanOnce_number hl ?_ hrest
      have htext := scanNumber_text hl
      rw [List.append_nil] at htext
      rw [NumberLiteral.value, if_neg hfloat, htext, hcanon]
  | .str s, fuel + 1, rest, h, _, _, _ => scanOnce_str h
  | .list [], fuel + 1, rest, _, _, _, _ => rfl
  | .list (v :: vs), fuel + 1, rest, h, hfits, hfuel, _ => by
    obtain ⟨c, cs, hhead, hspace, hbracket⟩ := writeItems_head h.1 vs
    rw [write, List.length_cons, List.length_append, List.length_singleton] at hfuel
    have hitems := scanItems_write canon (v :: vs) fuel rest (List.cons_ne_nil v vs) h hfits
      (by omega)
    rw [hhead, List.cons_append] at hitems
    rw [write, List.cons_append, List.append_assoc, List.singleton_append, hhead, List.cons_append,
      scanOnce, if_neg (by decide), if_pos rfl, skipWhitespace_cons hspace, List.head?_cons,
      if_neg fun heq ↦ hbracket (Option.some.inj heq)]
    dsimp only [Bind.bind, Except.bind, pure, Except.pure]
    rw [hitems]
  | .dict [], fuel + 1, rest, _, _, _, _ => rfl
  | .dict (m :: ms), fuel + 1, rest, h, hfits, hfuel, _ => by
    obtain ⟨cs, hhead⟩ := writeMembers_head m ms
    rw [write, List.length_cons, List.length_append, List.length_singleton] at hfuel
    have hmembers := scanMembers_write canon (m :: ms) fuel rest (List.cons_ne_nil m ms) h.2 hfits
      (by omega)
    rw [hhead, List.cons_append] at hmembers
    rw [write, List.cons_append, List.append_assoc, List.singleton_append, hhead, List.cons_append,
      scanOnce, if_neg (by decide), if_neg (by decide), if_pos rfl, skipWhitespace_cons rfl,
      List.head?_cons, if_neg (by decide)]
    dsimp only [Bind.bind, Except.bind, pure, Except.pure]
    rw [hmembers]
    dsimp only
    rw [dictOf_of_nodup h.1]

/-- The same for the items of a list. -/
theorem scanItems_write (canon : PyStr → PyStr) : ∀ (vs : List PyJson) (fuel : ℕ) (rest : PyStr),
    vs ≠ [] → ItemsData canon vs → fitItems vs = true → (writeItems vs).length + 1 < fuel →
      scanItems canon fuel (writeItems vs ++ 0x5d :: rest) = .ok (vs, rest)
  | _, 0, _, _, _, _, hfuel => absurd hfuel (Nat.not_lt_zero _)
  | [], _, _, hne, _, _, _ => absurd rfl hne
  | [v], fuel + 1, rest, _, h, hfits, hfuel => by
    rw [fitItems, Bool.and_eq_true] at hfits
    rw [writeItems] at hfuel
    have hv := scanOnce_write canon v fuel (0x5d :: rest) h.1 hfits.1 (by omega)
      (Delimits.cons rfl rest)
    rw [writeItems, scanItems]
    dsimp only [Bind.bind, Except.bind]
    rw [hv]
    rfl
  | v :: v' :: vs, fuel + 1, rest, _, h, hfits, hfuel => by
    rw [fitItems, Bool.and_eq_true] at hfits
    rw [writeItems, List.length_append, List.length_cons, List.length_cons] at hfuel
    have hv := scanOnce_write canon v fuel
      (0x2c :: 0x20 :: (writeItems (v' :: vs) ++ 0x5d :: rest)) h.1 hfits.1 (by omega)
      (Delimits.cons rfl _)
    have hvs := scanItems_write canon (v' :: vs) fuel rest (List.cons_ne_nil v' vs) h.2 hfits.2
      (by omega)
    obtain ⟨c, cs, hhead, hspace, -⟩ := writeItems_head h.2.1 vs
    rw [writeItems, List.append_assoc, List.cons_append, List.cons_append, scanItems]
    dsimp only [Bind.bind, Except.bind]
    rw [hv]
    dsimp only
    rw [skipWhitespace_cons rfl, List.head?_cons, if_neg (by decide), expect_cons rfl]
    dsimp only
    rw [skipWhitespace_space, hhead, List.cons_append, skipWhitespace_cons hspace,
      ← List.cons_append, ← hhead, hvs]
    rfl

/-- The same for the members of a dictionary. -/
theorem scanMembers_write (canon : PyStr → PyStr) :
    ∀ (ms : List (PyStr × PyJson)) (fuel : ℕ) (rest : PyStr), ms ≠ [] →
      MembersData canon ms → fitMembers ms = true → (writeMembers ms).length + 1 < fuel →
        scanMembers canon fuel (writeMembers ms ++ 0x7d :: rest) = .ok (ms, rest)
  | _, 0, _, _, _, _, hfuel => absurd hfuel (Nat.not_lt_zero _)
  | [], _, _, hne, _, _, _ => absurd rfl hne
  | [(k, v)], fuel + 1, rest, _, h, hfits, hfuel => by
    rw [fitMembers, Bool.and_eq_true] at hfits
    rw [writeMembers, List.length_append, List.length_cons, List.length_cons] at hfuel
    have hv := scanOnce_write canon v fuel (0x7d :: rest) h.2.1 hfits.1 (by omega)
      (Delimits.cons rfl rest)
    rw [writeMembers, List.append_assoc, List.cons_append, List.cons_append,
      scanMembers_cons h.1 h.2.1 hv]
    rfl
  | (k, v) :: m :: ms, fuel + 1, rest, _, h, hfits, hfuel => by
    rw [fitMembers, Bool.and_eq_true] at hfits
    rw [writeMembers, List.length_append, List.length_cons, List.length_cons, List.length_append,
      List.length_cons, List.length_cons] at hfuel
    have hv := scanOnce_write canon v fuel
      (0x2c :: 0x20 :: (writeMembers (m :: ms) ++ 0x7d :: rest)) h.2.1 hfits.1 (by omega)
      (Delimits.cons rfl _)
    have hms := scanMembers_write canon (m :: ms) fuel rest (List.cons_ne_nil m ms) h.2.2 hfits.2
      (by omega)
    obtain ⟨cs, hhead⟩ := writeMembers_head m ms
    rw [writeMembers, List.append_assoc, List.cons_append, List.cons_append, List.append_assoc,
      List.cons_append, List.cons_append, scanMembers_cons h.1 h.2.1 hv, skipWhitespace_cons rfl,
      List.head?_cons, if_neg (by decide), expect_cons rfl]
    dsimp only [Bind.bind, Except.bind]
    rw [skipWhitespace_space, hhead, List.cons_append, skipWhitespace_cons rfl,
      ← List.cons_append, ← hhead, hms]
    rfl

end

/-- **`loads` undoes `dumps`**, for values of Python whose texts hold no surrogate pairs. -/
theorem loads_dumps {v : PyJson} {text : PyStr} (h : IsData canon v) (hdumps : dumps v = .ok text) :
    loads canon text = .ok v := by
  rw [dumps] at hdumps
  split at hdumps
  swap
  · cases hdumps
  next hfits =>
    cases hdumps
    obtain ⟨c, cs, hhead, hspace, -, hmark⟩ := write_head h
    have hscan := scanOnce_write canon v (2 * (write v).length + 1) [] h hfits (by omega) .nil
    rw [List.append_nil] at hscan
    rw [loads, hhead, List.head?_cons, if_neg fun heq ↦ hmark (Option.some.inj heq),
      skipWhitespace_cons hspace, ← hhead]
    dsimp only [Bind.bind, Except.bind, pure, Except.pure]
    rw [hscan]
    rfl

end RoundTrip

end PyJson

end ZanovixCrm
