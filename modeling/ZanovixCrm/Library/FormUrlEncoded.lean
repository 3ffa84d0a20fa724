import Mathlib.Data.List.SplitBy
import ZanovixCrm.Library.PythonJson

/-!
# Query strings

`URLSearchParams.toString` and `encodeURIComponent` of a browser, and `parse_qsl` of the Python
standard library, on texts given by their code points.

A text is encoded in UTF-8, and a byte outside a set of characters is written as a percent sign and
two digits. The decoder replaces malformed bytes by U+FFFD, as `errors="replace"` does, so that it
accepts everything; on what has been encoded it gives the text back (`unquotePlus_encode`).
A list of pairs survives the way from the browser to the server (`parseQsl_serialize`).
-/

namespace ZanovixCrm

open PyJson (hexValue?)

/-! ### UTF-8 -/

/-- The bytes of a code point. -/
def utf8Bytes (c : ℕ) : List ℕ :=
  if c < 0x80 then [c]
  else if c < 0x800 then [0xc0 + c / 0x40, 0x80 + c % 0x40]
  else if c < 0x10000 then [0xe0 + c / 0x1000, 0x80 + c / 0x40 % 0x40, 0x80 + c % 0x40]
  else [0xf0 + c / 0x40000, 0x80 + c / 0x1000 % 0x40, 0x80 + c / 0x40 % 0x40, 0x80 + c % 0x40]

/-- A character whose first bytes have been read. -/
structure Utf8Pending where
  /-- The number of bytes that it lacks. -/
  need : ℕ
  /-- The range of the next byte. -/
  low : ℕ
  high : ℕ
  bits : ℕ

/-- The first byte of a character of several bytes. -/
def utf8Lead (b : ℕ) : Option Utf8Pending :=
  if 0xc2 ≤ b ∧ b ≤ 0xdf then some ⟨1, 0x80, 0xbf, b - 0xc0⟩
  else if 0xe0 ≤ b ∧ b ≤ 0xef then
    some ⟨2, if b = 0xe0 then 0xa0 else 0x80, if b = 0xed then 0x9f else 0xbf, b - 0xe0⟩
  else if 0xf0 ≤ b ∧ b ≤ 0xf4 then
    some ⟨3, if b = 0xf0 then 0x90 else 0x80, if b = 0xf4 then 0x8f else 0xbf, b - 0xf0⟩
  else none

/-- Decode bytes, after the first bytes of a character or not. -/
def utf8From : Option Utf8Pending → List ℕ → PyStr
  | none, [] => []
  | some _, [] => [0xfffd]
  | st, b :: bs =>
    let fresh :=
      if b < 0x80 then b :: utf8From none bs
      else
        match utf8Lead b with
        | some p => utf8From (some p) bs
        | none => 0xfffd :: utf8From none bs
    match st with
    | none => fresh
    | some p =>
      if p.low ≤ b ∧ b ≤ p.high then
        if p.need = 1 then (p.bits * 0x40 + (b - 0x80)) :: utf8From none bs
        else utf8From (some ⟨p.need - 1, 0x80, 0xbf, p.bits * 0x40 + (b - 0x80)⟩) bs
      else 0xfffd :: fresh

/-- `bytes.decode("utf-8", errors="replace")`. -/
def utf8Decode (bs : List ℕ) : PyStr := utf8From none bs

theorem utf8From_lead {b : ℕ} {p : Utf8Pending} (hb : ¬b < 0x80) (h : utf8Lead b = some p)
    (bs : List ℕ) : utf8From none (b :: bs) = utf8From (some p) bs := by
  rw [utf8From]
  simp only [if_neg hb, h]

theorem utf8From_last {low high bits b : ℕ} (hb : low ≤ b ∧ b ≤ high) (bs : List ℕ) :
    utf8From (some ⟨1, low, high, bits⟩) (b :: bs) =
      (bits * 0x40 + (b - 0x80)) :: utf8From none bs := by
  rw [utf8From]
  simp only [if_pos hb, if_true]

theorem utf8From_next {n low high bits b : ℕ} (hb : low ≤ b ∧ b ≤ high) (bs : List ℕ) :
    utf8From (some ⟨n + 2, low, high, bits⟩) (b :: bs) =
      utf8From (some ⟨n + 1, 0x80, 0xbf, bits * 0x40 + (b - 0x80)⟩) bs := by
  have hneed : n + 2 ≠ 1 := by omega
  rw [utf8From]
  simp only [if_pos hb, if_neg hneed]
  rfl

/-- **The bytes of a code point** are decoded as the code point. -/
theorem utf8From_utf8Bytes {c : ℕ} (h : IsScalar c) (bs : List ℕ) :
    utf8From none (utf8Bytes c ++ bs) = c :: utf8From none bs := by
  unfold IsScalar at h
  unfold utf8Bytes
  split_ifs with h₁ h₂ h₃
  · rw [List.singleton_append, utf8From]
    exact if_pos h₁
  · have hlead : utf8Lead (0xc0 + c / 0x40) = some ⟨1, 0x80, 0xbf, c / 0x40⟩ := by
      rw [utf8Lead, if_pos (by omega), Nat.add_sub_cancel_left]
    have hbits : c / 0x40 * 0x40 + (0x80 + c % 0x40 - 0x80) = c := by omega
    rw [List.cons_append, List.cons_append, List.nil_append, utf8From_lead (by omega) hlead,
      utf8From_last (by omega), hbits]
  · have hlead : utf8Lead (0xe0 + c / 0x1000) =
        some ⟨2, if 0xe0 + c / 0x1000 = 0xe0 then 0xa0 else 0x80,
          if 0xe0 + c / 0x1000 = 0xed then 0x9f else 0xbf, c / 0x1000⟩ := by
      rw [utf8Lead, if_neg (by omega), if_pos (by omega), Nat.add_sub_cancel_left]
    have hbits : (c / 0x1000 * 0x40 + (0x80 + c / 0x40 % 0x40 - 0x80)) * 0x40 +
        (0x80 + c % 0x40 - 0x80) = c := by omega
    rw [List.cons_append, List.cons_append, List.cons_append, List.nil_append,
      utf8From_lead (by omega) hlead, utf8From_next (by split_ifs <;> omega),
      utf8From_last (by omega), hbits]
  · have hlead : utf8Lead (0xf0 + c / 0x40000) =
        some ⟨3, if 0xf0 + c / 0x40000 = 0xf0 then 0x90 else 0x80,
          if 0xf0 + c / 0x40000 = 0xf4 then 0x8f else 0xbf, c / 0x40000⟩ := by
      rw [utf8Lead, if_neg (by omega), if_neg (by omega), if_pos (by omega),
        Nat.add_sub_cancel_left]
    have hbits : ((c / 0x40000 * 0x40 + (0x80 + c / 0x1000 % 0x40 - 0x80)) * 0x40 +
        (0x80 + c / 0x40 % 0x40 - 0x80)) * 0x40 + (0x80 + c % 0x40 - 0x80) = c := by omega
    rw [List.cons_append, List.cons_append, List.cons_append, List.cons_append, List.nil_append,
      utf8From_lead (by omega) hlead, utf8From_next (by split_ifs <;> omega),
      utf8From_next (by omega), utf8From_last (by omega), hbits]

/-- A text comes back from UTF-8. -/
theorem utf8Decode_flatMap {s : PyStr} (h : ∀ c ∈ s, IsScalar c) :
    utf8Decode (s.flatMap utf8Bytes) = s := by
  induction s with
  | nil => rfl
  | cons c s ih =>
    rw [utf8Decode, List.flatMap_cons, utf8From_utf8Bytes (h c List.mem_cons_self)]
    exact congrArg (c :: ·) (ih fun d hd ↦ h d (List.mem_cons_of_mem c hd))

theorem utf8Bytes_lt {c b : ℕ} (h : IsScalar c) (hb : b ∈ utf8Bytes c) : b < 0x100 := by
  unfold IsScalar at h
  unfold utf8Bytes at hb
  split_ifs at hb <;> simp only [List.mem_cons, List.not_mem_nil, or_false] at hb <;> omega

/-! ### Percent signs -/

/-- An upper-case hexadecimal digit. -/
def hexUpper (d : ℕ) : ℕ := if d < 10 then 0x30 + d else 0x37 + d

/-- A byte, as a percent sign and two digits. -/
def percent (b : ℕ) : PyStr := [0x25, hexUpper (b / 16), hexUpper (b % 16)]

/-- Letters and digits of ASCII. -/
def isAlphanumeric (c : ℕ) : Bool :=
  decide (0x30 ≤ c ∧ c ≤ 0x39 ∨ 0x41 ≤ c ∧ c ≤ 0x5a ∨ 0x61 ≤ c ∧ c ≤ 0x7a)

/-- A byte in `encodeURIComponent`. -/
def uriByte (b : ℕ) : PyStr :=
  if isAlphanumeric b || decide (b ∈ [0x21, 0x27, 0x28, 0x29, 0x2a, 0x2d, 0x2e, 0x5f, 0x7e]) then
    [b]
  else percent b

/-- `encodeURIComponent`. -/
def encodeURIComponent (s : PyStr) : PyStr := (s.flatMap utf8Bytes).flatMap uriByte

/-- A byte in `application/x-www-form-urlencoded`. -/
def formByte (b : ℕ) : PyStr :=
  if b = 0x20 then [0x2b]
  else if isAlphanumeric b || decide (b ∈ [0x2a, 0x2d, 0x2e, 0x5f]) then [b]
  else percent b

/-- A name or a value of a form. -/
def formEncode (s : PyStr) : PyStr := (s.flatMap utf8Bytes).flatMap formByte

/-- `URLSearchParams.toString`. -/
def serialize (pairs : List (PyStr × PyStr)) : PyStr :=
  [0x26].intercalate (pairs.map fun p ↦ formEncode p.1 ++ 0x3d :: formEncode p.2)

/-- What the parser of a URL escapes in a query. -/
def urlQuery (s : PyStr) : PyStr :=
  s.flatMap fun c ↦
    if c < 0x21 ∨ 0x7e < c ∨ c ∈ [0x22, 0x23, 0x27, 0x3c, 0x3e] then
      (utf8Bytes c).flatMap percent
    else [c]

/-- `unquote_to_bytes`. -/
def unquoteToBytes : PyStr → List ℕ
  | c :: a :: b :: cs =>
    if c = 0x25 then
      match hexValue? a, hexValue? b with
      | some x, some y => (x * 16 + y) :: unquoteToBytes cs
      | _, _ => c :: unquoteToBytes (a :: b :: cs)
    else c :: unquoteToBytes (a :: b :: cs)
  | c :: cs => c :: unquoteToBytes cs
  | [] => []

/-- A character of ASCII. -/
def isAscii (c : ℕ) : Bool := decide (c < 0x80)

/-- `unquote`. Runs of ASCII are decoded, what is between them stays. -/
def unquote (s : PyStr) : PyStr :=
  (s.splitBy fun a b ↦ isAscii a == isAscii b).flatMap fun run ↦
    if run.all isAscii then utf8Decode (unquoteToBytes run) else run

/-- `unquote(s.replace("+", " "))`. -/
def unquotePlus (s : PyStr) : PyStr := unquote (s.map fun c ↦ if c = 0x2b then 0x20 else c)

/-- `parse_qsl(query, keep_blank_values=True)`. -/
def parseQsl (query : PyStr) : List (PyStr × PyStr) :=
  ((query.splitOn 0x26).filter (· ≠ [])).map fun nameValue ↦
    (unquotePlus (nameValue.takeWhile (· ≠ 0x3d)),
      unquotePlus ((nameValue.dropWhile (· ≠ 0x3d)).drop 1))

/-- `QueryParams.get`: of several values with one name, the last. -/
def queryParam (query name : PyStr) : Option PyStr := (parseQsl query).reverse.lookup name

/-! ### The round trip -/

/-- A way to write bytes that `unquotePlus` reads. -/
def IsByteCode (code : ℕ → PyStr) : Prop :=
  ∀ b < 0x100, code b = percent b ∨ b = 0x20 ∧ code b = [0x2b] ∨
    code b = [b] ∧ b < 0x80 ∧ b ≠ 0x25 ∧ b ≠ 0x2b

theorem isByteCode_formByte : IsByteCode formByte := by
  intro b _
  unfold formByte isAlphanumeric
  split_ifs with hspace hkeep
  · exact Or.inr (Or.inl ⟨hspace, rfl⟩)
  · refine Or.inr (Or.inr ⟨rfl, ?_⟩)
    simp only [List.mem_cons, List.not_mem_nil, or_false, Bool.or_eq_true, decide_eq_true_eq]
      at hkeep
    omega
  · exact Or.inl rfl

theorem urlQuery_percent {b : ℕ} (hb : b < 0x100) : urlQuery (percent b) = percent b := by
  have hdigit : ∀ d < 16, ¬(hexUpper d < 0x21 ∨ 0x7e < hexUpper d ∨
      hexUpper d ∈ [0x22, 0x23, 0x27, 0x3c, 0x3e]) := by decide
  rw [percent, urlQuery, List.flatMap_cons, List.flatMap_cons, List.flatMap_cons,
    if_neg (by decide), if_neg (hdigit _ (by omega)), if_neg (hdigit _ (by omega))]
  rfl

/-- Of the bytes that `encodeURIComponent` keeps, the query of a URL escapes the apostrophe. -/
theorem isByteCode_uriByte : IsByteCode fun b ↦ urlQuery (uriByte b) := by
  intro b hb
  dsimp only
  unfold uriByte
  split_ifs with hkeep
  swap
  · exact Or.inl (urlQuery_percent hb)
  by_cases hquote : b = 0x27
  · subst hquote
    exact Or.inl rfl
  simp only [isAlphanumeric, List.mem_cons, List.not_mem_nil, or_false, Bool.or_eq_true,
    decide_eq_true_eq] at hkeep
  have hsafe : ¬(b < 0x21 ∨ 0x7e < b ∨ b ∈ [0x22, 0x23, 0x27, 0x3c, 0x3e]) := by
    simp only [List.mem_cons, List.not_mem_nil, or_false]
    omega
  refine Or.inr (Or.inr ⟨?_, by omega, by omega, by omega⟩)
  rw [urlQuery, List.flatMap_singleton, if_neg hsafe]

theorem unquoteToBytes_plain {c : ℕ} (h : c ≠ 0x25) (cs : PyStr) :
    unquoteToBytes (c :: cs) = c :: unquoteToBytes cs := by
  match cs with
  | [] => rfl
  | [a] => rfl
  | a :: b :: cs => rw [unquoteToBytes, if_neg h]

theorem hexValue?_hexUpper {d : ℕ} (h : d < 16) : hexValue? (hexUpper d) = some d := by
  revert d
  decide

theorem unquoteToBytes_percent {b : ℕ} (h : b < 0x100) (cs : PyStr) :
    unquoteToBytes (percent b ++ cs) = b :: unquoteToBytes cs := by
  have hb : b / 16 * 16 + b % 16 = b := by omega
  rw [percent, List.cons_append, List.cons_append, List.cons_append, List.nil_append,
    unquoteToBytes, if_pos rfl, hexValue?_hexUpper (by omega), hexValue?_hexUpper (by omega)]
  dsimp only
  rw [hb]

/-- The plus signs of a form. -/
def spaces (s : PyStr) : PyStr := s.map fun c ↦ if c = 0x2b then 0x20 else c

theorem spaces_percent {b : ℕ} (h : b < 0x100) : spaces (percent b) = percent b := by
  have hdigit : ∀ d < 16, hexUpper d ≠ 0x2b := by decide
  rw [spaces, percent, List.map_cons, List.map_cons, List.map_cons, List.map_nil,
    if_neg (by decide), if_neg (hdigit _ (by omega)), if_neg (hdigit _ (by omega))]

/-- **Bytes are read back.** -/
theorem unquoteToBytes_flatMap {code : ℕ → PyStr} (hcode : IsByteCode code) {bs : List ℕ}
    (hbs : ∀ b ∈ bs, b < 0x100) : unquoteToBytes (spaces (bs.flatMap code)) = bs := by
  induction bs with
  | nil => rfl
  | cons b bs ih =>
    have hb := hbs b List.mem_cons_self
    have ih := ih fun b' hb' ↦ hbs b' (List.mem_cons_of_mem b hb')
    rw [List.flatMap_cons, spaces, List.map_append]
    change unquoteToBytes (spaces (code b) ++ spaces (bs.flatMap code)) = _
    rcases hcode b hb with hpercent | ⟨rfl, hplus⟩ | ⟨hself, -, hpercent, hplus⟩
    · rw [hpercent, spaces_percent hb, unquoteToBytes_percent hb, ih]
    · rw [hplus]
      exact (unquoteToBytes_plain (by decide) _).trans (congrArg _ ih)
    · have hspaces : spaces [b] = [b] := congrArg (fun c ↦ [c]) (if_neg hplus)
      rw [hself, hspaces]
      exact (unquoteToBytes_plain hpercent _).trans (congrArg _ ih)

theorem isAscii_of_mem_flatMap {code : ℕ → PyStr} (hcode : IsByteCode code) {bs : List ℕ}
    (hbs : ∀ b ∈ bs, b < 0x100) {c : ℕ} (hc : c ∈ spaces (bs.flatMap code)) :
    isAscii c = true := by
  obtain ⟨c', hc', rfl⟩ := List.mem_map.1 hc
  obtain ⟨b, hb, hcb⟩ := List.mem_flatMap.1 hc'
  have hlt : c' < 0x80 := by
    have hdigit : ∀ d < 16, hexUpper d < 0x80 := by decide
    have hb' := hbs b hb
    rcases hcode b hb' with hpercent | ⟨rfl, hplus⟩ | ⟨hself, hlow, -, -⟩
    · rw [hpercent, percent] at hcb
      simp only [List.mem_cons, List.not_mem_nil, or_false] at hcb
      rcases hcb with rfl | rfl | rfl
      · decide
      · exact hdigit _ (by omega)
      · exact hdigit _ (by omega)
    · rw [hplus] at hcb
      rw [List.mem_singleton.1 hcb]
      decide
    · rw [hself] at hcb
      rw [List.mem_singleton.1 hcb]
      exact hlow
  refine decide_eq_true ?_
  split <;> omega

theorem unquote_of_ascii {s : PyStr} (h : ∀ c ∈ s, isAscii c = true) :
    unquote s = utf8Decode (unquoteToBytes s) := by
  by_cases hs : s = []
  · rw [hs]
    rfl
  have hchain : s.IsChain fun a b ↦ (isAscii a == isAscii b) = true := by
    refine List.Pairwise.isChain ?_
    refine List.pairwise_iff_forall_sublist.2 fun {a b} hab ↦ ?_
    rw [h a (hab.subset (by simp)), h b (hab.subset (by simp))]
    rfl
  rw [unquote, List.splitBy_of_isChain hs hchain, List.flatMap_singleton,
    if_pos (List.all_eq_true.2 h)]

/-- **What has been encoded is read back.** -/
theorem unquotePlus_encode {code : ℕ → PyStr} (hcode : IsByteCode code) {s : PyStr}
    (hs : ∀ c ∈ s, IsScalar c) : unquotePlus ((s.flatMap utf8Bytes).flatMap code) = s := by
  have hbs : ∀ b ∈ s.flatMap utf8Bytes, b < 0x100 := by
    intro b hb
    obtain ⟨c, hc, hcb⟩ := List.mem_flatMap.1 hb
    exact utf8Bytes_lt (hs c hc) hcb
  have hread := unquoteToBytes_flatMap hcode hbs
  have hascii := unquote_of_ascii fun c hc ↦ isAscii_of_mem_flatMap hcode hbs hc
  rw [hread, utf8Decode_flatMap hs] at hascii
  exact hascii

theorem unquotePlus_formEncode {s : PyStr} (hs : ∀ c ∈ s, IsScalar c) :
    unquotePlus (formEncode s) = s :=
  unquotePlus_encode isByteCode_formByte hs

/-! ### Lists of pairs -/

/-- No byte is written with a separator. -/
def NoSeparator (code : ℕ → PyStr) : Prop := ∀ b < 0x100, 0x26 ∉ code b ∧ 0x3d ∉ code b

theorem notMem_percent {b : ℕ} (h : b < 0x100) : 0x26 ∉ percent b ∧ 0x3d ∉ percent b := by
  have hdigit : ∀ d < 16, hexUpper d ≠ 0x26 ∧ hexUpper d ≠ 0x3d := by decide
  have hhigh := hdigit (b / 16) (by omega)
  have hlow := hdigit (b % 16) (by omega)
  simp only [percent, List.mem_cons, List.not_mem_nil, or_false]
  omega

theorem noSeparator_formByte : NoSeparator formByte := by
  intro b hb
  unfold formByte isAlphanumeric
  split_ifs with hspace hkeep
  · decide
  · simp only [List.mem_cons, List.not_mem_nil, or_false, Bool.or_eq_true, decide_eq_true_eq]
      at hkeep
    simp only [List.mem_singleton]
    omega
  · exact notMem_percent hb

theorem noSeparator_uriByte : NoSeparator fun b ↦ urlQuery (uriByte b) := by
  intro b hb
  dsimp only
  unfold uriByte
  split_ifs with hkeep
  swap
  · rw [urlQuery_percent hb]
    exact notMem_percent hb
  by_cases hquote : b = 0x27
  · subst hquote
    decide
  simp only [isAlphanumeric, List.mem_cons, List.not_mem_nil, or_false, Bool.or_eq_true,
    decide_eq_true_eq] at hkeep
  have hsafe : ¬(b < 0x21 ∨ 0x7e < b ∨ b ∈ [0x22, 0x23, 0x27, 0x3c, 0x3e]) := by
    simp only [List.mem_cons, List.not_mem_nil, or_false]
    omega
  rw [urlQuery, List.flatMap_singleton, if_neg hsafe]
  simp only [List.mem_singleton]
  omega

theorem notMem_encode {code : ℕ → PyStr} (hcode : NoSeparator code) {s : PyStr}
    (hs : ∀ c ∈ s, IsScalar c) :
    0x26 ∉ (s.flatMap utf8Bytes).flatMap code ∧ 0x3d ∉ (s.flatMap utf8Bytes).flatMap code := by
  have hbyte : ∀ b ∈ s.flatMap utf8Bytes, 0x26 ∉ code b ∧ 0x3d ∉ code b := by
    intro b hb
    obtain ⟨c, hc, hcb⟩ := List.mem_flatMap.1 hb
    exact hcode b (utf8Bytes_lt (hs c hc) hcb)
  constructor <;> intro hmem <;> obtain ⟨b, hb, hin⟩ := List.mem_flatMap.1 hmem
  · exact (hbyte b hb).1 hin
  · exact (hbyte b hb).2 hin

/-- A query, from its pieces. -/
theorem parseQsl_intercalate (pieces : List (PyStr × PyStr))
    (h : ∀ p ∈ pieces, (0x26 ∉ p.1 ∧ 0x3d ∉ p.1) ∧ 0x26 ∉ p.2) :
    parseQsl ([0x26].intercalate (pieces.map fun p ↦ p.1 ++ 0x3d :: p.2)) =
      pieces.map fun p ↦ (unquotePlus p.1, unquotePlus p.2) := by
  by_cases hnil : pieces = []
  · rw [hnil]
    rfl
  have hsplit : ([0x26].intercalate (pieces.map fun p ↦ p.1 ++ 0x3d :: p.2)).splitOn 0x26 =
      pieces.map fun p ↦ p.1 ++ 0x3d :: p.2 := by
    have hne : pieces.map (fun p ↦ p.1 ++ 0x3d :: p.2) ≠ [] := fun hmap ↦
      hnil (List.map_eq_nil_iff.1 hmap)
    refine List.splitOn_intercalate 0x26 (fun l hl ↦ ?_) hne
    obtain ⟨p, hp, rfl⟩ := List.mem_map.1 hl
    rw [List.mem_append, List.mem_cons]
    rintro (hmem | heq | hmem)
    · exact (h p hp).1.1 hmem
    · cases heq
    · exact (h p hp).2 hmem
  have hkept : (pieces.map fun p ↦ p.1 ++ 0x3d :: p.2).filter (· ≠ []) =
      pieces.map fun p ↦ p.1 ++ 0x3d :: p.2 := by
    refine List.filter_eq_self.2 fun l hl ↦ decide_eq_true ?_
    obtain ⟨p, -, rfl⟩ := List.mem_map.1 hl
    exact List.append_ne_nil_of_right_ne_nil _ (List.cons_ne_nil _ _)
  rw [parseQsl, hsplit, hkept, List.map_map]
  refine List.map_congr_left fun p hp ↦ ?_
  have hname : ∀ c ∈ p.1, decide (c ≠ 0x3d) = true := fun c hc ↦
    decide_eq_true fun heq ↦ (h p hp).1.2 (heq ▸ hc)
  have htake : (p.1 ++ 0x3d :: p.2).takeWhile (· ≠ 0x3d) = p.1 := by
    rw [List.takeWhile_append_of_pos hname, List.takeWhile_cons_of_neg (by simp), List.append_nil]
  have hdrop : (p.1 ++ 0x3d :: p.2).dropWhile (· ≠ 0x3d) = 0x3d :: p.2 := by
    rw [List.dropWhile_append_of_pos hname, List.dropWhile_cons_of_neg (by simp)]
  exact congrArg₂ Prod.mk (congrArg unquotePlus htake)
    (congrArg (fun l ↦ unquotePlus (List.drop 1 l)) hdrop)

/-- **A form comes back.** -/
theorem parseQsl_serialize {pairs : List (PyStr × PyStr)}
    (h : ∀ p ∈ pairs, (∀ c ∈ p.1, IsScalar c) ∧ ∀ c ∈ p.2, IsScalar c) :
    parseQsl (serialize pairs) = pairs := by
  have hpieces := parseQsl_intercalate (pairs.map fun p ↦ (formEncode p.1, formEncode p.2))
    (fun q hq ↦ by
      obtain ⟨p, hp, rfl⟩ := List.mem_map.1 hq
      exact ⟨notMem_encode noSeparator_formByte (h p hp).1,
        (notMem_encode noSeparator_formByte (h p hp).2).1⟩)
  rw [List.map_map, List.map_map] at hpieces
  refine hpieces.trans ?_
  conv_rhs => rw [← List.map_id pairs]
  refine List.map_congr_left fun p hp ↦ ?_
  exact Prod.ext (unquotePlus_formEncode (h p hp).1) (unquotePlus_formEncode (h p hp).2)

theorem urlQuery_append (s t : PyStr) : urlQuery (s ++ t) = urlQuery s ++ urlQuery t :=
  List.flatMap_append

/-- A query that the parser of a URL leaves as it is. -/
theorem urlQuery_eq_self {s : PyStr}
    (h : ∀ c ∈ s, ¬(c < 0x21 ∨ 0x7e < c ∨ c ∈ [0x22, 0x23, 0x27, 0x3c, 0x3e])) :
    urlQuery s = s := by
  induction s with
  | nil => rfl
  | cons c s ih =>
    rw [urlQuery, List.flatMap_cons, if_neg (h c List.mem_cons_self)]
    exact congrArg (c :: ·) (ih fun d hd ↦ h d (List.mem_cons_of_mem c hd))

theorem mem_of_mem_intercalate {x c : ℕ} {ls : List PyStr} (h : c ∈ [x].intercalate ls) :
    c = x ∨ ∃ l ∈ ls, c ∈ l := by
  induction ls with
  | nil => cases h
  | cons l ls ih =>
    cases ls with
    | nil =>
      rw [List.intercalate_singleton] at h
      exact Or.inr ⟨l, List.mem_cons_self, h⟩
    | cons l' ls =>
      rw [List.intercalate_cons_cons, List.append_assoc, List.mem_append, List.mem_append,
        List.mem_singleton] at h
      rcases h with h | h | h
      · exact Or.inr ⟨l, List.mem_cons_self, h⟩
      · exact Or.inl h
      · rcases ih h with heq | ⟨m, hm, hcm⟩
        · exact Or.inl heq
        · exact Or.inr ⟨m, List.mem_cons_of_mem l hm, hcm⟩

/-- A form needs no more escapes. -/
theorem urlQuery_serialize {pairs : List (PyStr × PyStr)}
    (h : ∀ p ∈ pairs, (∀ c ∈ p.1, IsScalar c) ∧ ∀ c ∈ p.2, IsScalar c) :
    urlQuery (serialize pairs) = serialize pairs := by
  have hbyte : ∀ b < 0x100, ∀ c ∈ formByte b,
      ¬(c < 0x21 ∨ 0x7e < c ∨ c ∈ [0x22, 0x23, 0x27, 0x3c, 0x3e]) := by
    intro b hb c hc
    unfold formByte isAlphanumeric at hc
    simp only [List.mem_cons, List.not_mem_nil, or_false]
    split_ifs at hc with hspace hkeep
    · rw [List.mem_singleton.1 hc]
      decide
    · simp only [List.mem_cons, List.not_mem_nil, or_false, Bool.or_eq_true, decide_eq_true_eq]
        at hkeep
      rw [List.mem_singleton.1 hc]
      omega
    · have hdigit : ∀ d < 16, 0x30 ≤ hexUpper d ∧ hexUpper d ≤ 0x46 ∧ hexUpper d ≠ 0x3c ∧
          hexUpper d ≠ 0x3e := by decide
      have hhigh := hdigit (b / 16) (by omega)
      have hlow := hdigit (b % 16) (by omega)
      simp only [percent, List.mem_cons, List.not_mem_nil, or_false] at hc
      rcases hc with rfl | rfl | rfl <;> omega
  have htext : ∀ s : PyStr, (∀ c ∈ s, IsScalar c) → ∀ c ∈ formEncode s,
      ¬(c < 0x21 ∨ 0x7e < c ∨ c ∈ [0x22, 0x23, 0x27, 0x3c, 0x3e]) := by
    intro s hs c hc
    obtain ⟨b, hb, hcb⟩ := List.mem_flatMap.1 hc
    obtain ⟨d, hd, hbd⟩ := List.mem_flatMap.1 hb
    exact hbyte b (utf8Bytes_lt (hs d hd) hbd) c hcb
  refine urlQuery_eq_self fun c hc ↦ ?_
  rcases mem_of_mem_intercalate hc with rfl | ⟨l, hl, hcl⟩
  · decide
  obtain ⟨p, hp, rfl⟩ := List.mem_map.1 hl
  rw [List.mem_append, List.mem_cons] at hcl
  rcases hcl with hcl | rfl | hcl
  · exact htext p.1 (h p hp).1 c hcl
  · decide
  · exact htext p.2 (h p hp).2 c hcl

/-- A single parameter, written by hand with `encodeURIComponent`. -/
theorem parseQsl_component {name value : PyStr} (hname : 0x26 ∉ name ∧ 0x3d ∉ name)
    (hvalue : ∀ c ∈ value, IsScalar c) :
    parseQsl (name ++ 0x3d :: urlQuery (encodeURIComponent value)) =
      [(unquotePlus name, value)] := by
  have hcode : urlQuery (encodeURIComponent value) =
      (value.flatMap utf8Bytes).flatMap fun b ↦ urlQuery (uriByte b) := by
    rw [urlQuery, encodeURIComponent, List.flatMap_assoc]
    rfl
  rw [hcode]
  have hpiece := parseQsl_intercalate
    [(name, (value.flatMap utf8Bytes).flatMap fun b ↦ urlQuery (uriByte b))] (fun p hp ↦ by
      rw [List.mem_singleton.1 hp]
      exact ⟨hname, (notMem_encode noSeparator_uriByte hvalue).1⟩)
  rw [List.map_singleton, List.intercalate_singleton, List.map_singleton,
    unquotePlus_encode isByteCode_uriByte hvalue] at hpiece
  exact hpiece

end ZanovixCrm
