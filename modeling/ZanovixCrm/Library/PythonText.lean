import Mathlib.Data.List.Basic
import Mathlib.Data.String.Basic

/-!
# Texts by their code points

A `str` of Python is a sequence of code points, and surrogates are allowed in it: `json.loads` puts
one where a text has an escape such as `\ud800` without its other half. Such a text cannot be
encoded in UTF-8, so that it can be neither stored nor answered. Every other text is a `String`
(`text_ofString`).

Left out: indexing and slicing, which nothing here needs, and how the interpreter lays a text out in
memory.
-/

namespace ZanovixCrm

/-- A `str`, by its code points. -/
abbrev PyStr : Type := List ℕ

/-- A code point that is not a surrogate. -/
def IsScalar (c : ℕ) : Prop := c < 0xd800 ∨ 0xe000 ≤ c ∧ c < 0x110000

instance (c : ℕ) : Decidable (IsScalar c) := inferInstanceAs (Decidable (_ ∨ _))

theorem isScalar_toNat (c : Char) : IsScalar c.toNat := by
  rcases c.valid with h | ⟨hlow, hhigh⟩
  · exact Or.inl h
  · exact Or.inr ⟨hlow, hhigh⟩

namespace PyStr

/-- A text without surrogates, as a `str`. -/
def ofString (s : String) : PyStr := s.toList.map Char.toNat

/-- A text, from its code points. -/
def text (s : PyStr) : String := String.ofList (s.map Char.ofNat)

theorem isScalar_of_mem {s : String} {c : ℕ} (hc : c ∈ ofString s) : IsScalar c := by
  obtain ⟨d, -, rfl⟩ := List.mem_map.1 hc
  exact isScalar_toNat d

theorem text_ofString (s : String) : (ofString s).text = s := by
  have hmap : (ofString s).map Char.ofNat = s.toList := by
    rw [ofString, List.map_map]
    refine (List.map_congr_left fun c _ ↦ ?_).trans (List.map_id _)
    exact Char.ofNat_toNat c
  rw [text, hmap, String.ofList_toList]

theorem ofString_injective : Function.Injective ofString :=
  Function.LeftInverse.injective text_ofString

end PyStr

end ZanovixCrm
