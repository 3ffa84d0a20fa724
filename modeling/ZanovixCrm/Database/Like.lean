import Mathlib.Data.List.Infix
import ZanovixCrm.Database.Session

/-!
# Patterns

What `LIKE` makes of a text that is put between two `%` and not escaped. If the text has no special
character, the pattern looks for the text (`like_percent_plain`). If it has one, the pattern means
something else; the shortest text that it matches is then not the text itself (`squash`).
-/

namespace ZanovixCrm.Session

/-- The characters with a meaning in patterns. -/
def isSpecial (c : Char) : Bool := c = '%' || c = '_' || c = '\\'

/-- The shortest text that a pattern matches if a `%` follows: `%` stands for nothing, `_` for some
character, and a backslash at the end takes the `%` literally. -/
def squash : List Char → List Char
  | [] => []
  | ['\\'] => ['%']
  | '\\' :: c :: P => c :: squash P
  | c :: P => if c = '%' then squash P else if c = '_' then '%' :: squash P else c :: squash P

section Like

variable {P s : List Char} {c d : Char}

theorem like_percent (P s : List Char) : like ('%' :: P) s = s.tails.any fun t ↦ like P t := by
  cases P with
  | nil => rfl
  | cons c P => rfl

theorem like_cons (hc : c ≠ '\\') (hp : c ≠ '%') (P : List Char) (d : Char) (s : List Char) :
    like (c :: P) (d :: s) = ((c == '_' || c == d) && like P s) := by
  rw [like.eq_5 _ _ _ _ (fun h _ ↦ hc h) (fun _ _ h _ ↦ hc h), if_neg hp]

theorem like_cons_nil (hc : c ≠ '\\') (hp : c ≠ '%') (P : List Char) :
    like (c :: P) [] = false := by
  rw [like.eq_6 _ _ (fun h _ ↦ hc h) (fun _ _ h _ ↦ hc h), if_neg hp]

theorem squash_cons (hc : c ≠ '\\') (P : List Char) : squash (c :: P) =
    if c = '%' then squash P else if c = '_' then '%' :: squash P else c :: squash P :=
  squash.eq_4 _ _ (fun h _ ↦ hc h) (fun _ _ h _ ↦ hc h)

/-- How a text begins: it is over, ends with a lone backslash, begins with an escaped character, or
with another one. -/
theorem pattern_induction {motive : List Char → Prop} (hnil : motive []) (hlone : motive ['\\'])
    (hescape : ∀ c P, motive P → motive ('\\' :: c :: P))
    (hcons : ∀ c P, c ≠ '\\' → motive P → motive (c :: P)) (P : List Char) : motive P := by
  match P with
  | [] => exact hnil
  | [c] =>
    by_cases hc : c = '\\'
    · exact hc ▸ hlone
    · exact hcons c [] hc hnil
  | c :: d :: P =>
    by_cases hc : c = '\\'
    · exact hc ▸ hescape d P (pattern_induction hnil hlone hescape hcons P)
    · exact hcons c (d :: P) hc (pattern_induction hnil hlone hescape hcons (d :: P))

/-- It is matched. -/
theorem like_squash (P : List Char) : like (P ++ ['%']) (squash P) = true := by
  induction P using pattern_induction with
  | hnil => rfl
  | hlone => rfl
  | hescape c P ih =>
    show (c == c && like (P ++ ['%']) (squash P)) = true
    rw [ih, beq_self_eq_true]
    rfl
  | hcons c P hc ih =>
    rw [List.cons_append, squash_cons hc]
    by_cases hp : c = '%'
    · rw [if_pos hp, hp, like_percent]
      exact List.any_eq_true.2 ⟨squash P, (List.mem_tails _ _).2 List.suffix_rfl, ih⟩
    · rw [if_neg hp]
      by_cases hu : c = '_'
      · rw [if_pos hu, like_cons hc hp, ih, hu]
        rfl
      · rw [if_neg hu, like_cons hc hp, ih, beq_self_eq_true, Bool.or_true]
        rfl

/-- Nothing shorter is. -/
theorem length_squash_le (h : like (P ++ ['%']) s = true) : (squash P).length ≤ s.length := by
  induction P using pattern_induction generalizing s with
  | hnil => exact Nat.zero_le _
  | hlone =>
    cases s with
    | nil => cases h
    | cons d s => exact Nat.succ_le_succ (Nat.zero_le _)
  | hescape c P ih =>
    cases s with
    | nil => cases h
    | cons d s =>
      have hP : (c == d && like (P ++ ['%']) s) = true := h
      exact Nat.succ_le_succ (ih (Bool.and_eq_true_iff.1 hP).2)
  | hcons c P hc ih =>
    rw [List.cons_append] at h
    rw [squash_cons hc]
    by_cases hp : c = '%'
    · rw [hp, like_percent] at h
      obtain ⟨t, ht, hmatch⟩ := List.any_eq_true.1 h
      rw [if_pos hp]
      exact (ih hmatch).trans ((List.mem_tails _ _).1 ht).length_le
    · rw [if_neg hp]
      cases s with
      | nil =>
        rw [like_cons_nil hc hp] at h
        cases h
      | cons d s =>
        rw [like_cons hc hp] at h
        have hle := ih (Bool.and_eq_true_iff.1 h).2
        split
        · exact Nat.succ_le_succ hle
        · exact Nat.succ_le_succ hle

/-- A text is not shorter than what it matches at the least. -/
theorem length_squash_le_length (P : List Char) : (squash P).length ≤ P.length := by
  induction P using pattern_induction with
  | hnil => exact le_rfl
  | hlone => exact le_rfl
  | hescape c P ih => exact (Nat.succ_le_succ ih).trans (Nat.le_succ _)
  | hcons c P hc ih =>
    rw [squash_cons hc]
    split
    · exact ih.trans (Nat.le_succ _)
    · split
      · exact Nat.succ_le_succ ih
      · exact Nat.succ_le_succ ih

theorem mem_squash (h : c ∈ squash P) : c ∈ P ∨ c = '%' := by
  induction P using pattern_induction with
  | hnil => cases h
  | hlone => exact Or.inr (List.mem_singleton.1 h)
  | hescape d P ih =>
    rcases List.mem_cons.1 h with rfl | h
    · exact Or.inl (List.mem_cons_of_mem _ List.mem_cons_self)
    · exact (ih h).imp_left fun h ↦ List.mem_cons_of_mem _ (List.mem_cons_of_mem _ h)
  | hcons d P hd ih =>
    rw [squash_cons hd] at h
    split at h
    · exact (ih h).imp_left (List.mem_cons_of_mem d)
    · split at h
      · rcases List.mem_cons.1 h with rfl | h
        · exact Or.inr rfl
        · exact (ih h).imp_left (List.mem_cons_of_mem d)
      · rcases List.mem_cons.1 h with rfl | h
        · exact Or.inl List.mem_cons_self
        · exact (ih h).imp_left (List.mem_cons_of_mem d)

/-- Only a text without special characters matches itself at the least. -/
theorem squash_ne {P : List Char} (h : P.any isSpecial = true) : squash P ≠ P := by
  induction P using pattern_induction with
  | hnil => cases h
  | hlone => exact (by decide : ['%'] ≠ ['\\'])
  | hescape c P ih =>
    intro heq
    have hlength : (squash P).length + 1 = P.length + 2 := congrArg List.length heq
    have hle := length_squash_le_length P
    omega
  | hcons c P hc ih =>
    intro heq
    rw [squash_cons hc] at heq
    split at heq
    · have hlength : (squash P).length = P.length + 1 := congrArg List.length heq
      have hle := length_squash_le_length P
      omega
    · next hp =>
      split at heq
      · next hu =>
        rw [hu] at heq
        exact absurd (List.head_eq_of_cons_eq heq) (by decide : '%' ≠ '_')
      · next hu =>
        refine ih ?_ (List.tail_eq_of_cons_eq heq)
        have hnot : isSpecial c = false := by simp [isSpecial, hp, hu, hc]
        rwa [List.any_cons, hnot, Bool.false_or] at h

/-- Folding the case of the text folds what it matches. -/
theorem squash_map {fold : Char → Char} (hfold : ∀ c d, isSpecial d = true → (fold c = d ↔ c = d))
    (P : List Char) : squash (P.map fold) = (squash P).map fold := by
  have hfix : ∀ d, isSpecial d = true → fold d = d := fun d hd ↦ (hfold d d hd).2 rfl
  induction P using pattern_induction with
  | hnil => rfl
  | hlone =>
    rw [List.map_singleton, hfix '\\' rfl]
    show ['%'] = [fold '%']
    rw [hfix '%' rfl]
  | hescape c P ih =>
    rw [List.map_cons, List.map_cons, hfix '\\' rfl]
    show fold c :: squash (P.map fold) = fold c :: (squash P).map fold
    rw [ih]
  | hcons c P hc ih =>
    have hc' : fold c ≠ '\\' := fun h ↦ hc ((hfold c '\\' rfl).1 h)
    rw [List.map_cons, squash_cons hc', squash_cons hc, ih]
    by_cases hp : c = '%'
    · rw [if_pos hp, if_pos ((hfold c '%' rfl).2 hp)]
    · rw [if_neg hp, if_neg fun h ↦ hp ((hfold c '%' rfl).1 h)]
      by_cases hu : c = '_'
      · rw [if_pos hu, if_pos ((hfold c '_' rfl).2 hu), List.map_cons, hfix '%' rfl]
      · rw [if_neg hu, if_neg fun h ↦ hu ((hfold c '_' rfl).1 h), List.map_cons]

/-- Without special characters, the beginning of the text is compared. -/
theorem like_plain (h : P.any isSpecial = false) : like (P ++ ['%']) s = true ↔ P <+: s := by
  induction P generalizing s with
  | nil =>
    rw [List.nil_append, like_percent]
    refine iff_of_true (List.any_eq_true.2 ⟨[], ?_, rfl⟩) List.nil_prefix
    exact (List.mem_tails _ _).2 List.nil_suffix
  | cons c P ih =>
    obtain ⟨hc, hP⟩ := Bool.or_eq_false_iff.1 (List.any_cons ▸ h)
    simp only [isSpecial, Bool.or_eq_false_iff, decide_eq_false_iff_not] at hc
    obtain ⟨⟨hp, hu⟩, hb⟩ := hc
    rw [List.cons_append]
    cases s with
    | nil =>
      rw [like_cons_nil hb hp]
      exact iff_of_false Bool.false_ne_true fun h ↦ List.cons_ne_nil _ _ (List.prefix_nil.1 h)
    | cons d s =>
      rw [like_cons hb hp, beq_false_of_ne hu, Bool.false_or, Bool.and_eq_true, beq_iff_eq, ih hP,
        List.cons_prefix_cons]

/-- **Between two `%`, a text without special characters is looked for.** -/
theorem like_percent_plain (h : P.any isSpecial = false) :
    like ('%' :: (P ++ ['%'])) s = true ↔ P <:+: s := by
  rw [like_percent, List.any_eq_true, List.infix_iff_prefix_suffix]
  constructor
  · rintro ⟨t, ht, hmatch⟩
    exact ⟨t, (like_plain h).1 hmatch, (List.mem_tails _ _).1 ht⟩
  · rintro ⟨t, hprefix, ht⟩
    exact ⟨t, (List.mem_tails _ _).2 ht, (like_plain h).2 hprefix⟩

/-- The shortest text is found, and nothing shorter. -/
theorem like_percent_squash (P : List Char) : like ('%' :: (P ++ ['%'])) (squash P) = true := by
  rw [like_percent, List.any_eq_true]
  exact ⟨squash P, (List.mem_tails _ _).2 List.suffix_rfl, like_squash P⟩

theorem length_squash_le_of_percent (h : like ('%' :: (P ++ ['%'])) s = true) :
    (squash P).length ≤ s.length := by
  rw [like_percent, List.any_eq_true] at h
  obtain ⟨t, ht, hmatch⟩ := h
  exact (length_squash_le hmatch).trans ((List.mem_tails _ _).1 ht).length_le

end Like

end ZanovixCrm.Session
