import Mathlib.Data.List.Count
import Mathlib.Data.List.Nodup
import ZanovixCrm.Library.Program

/-!
# Get or create

A program that creates what is not there yet. For one key after another it looks up the rows with
this key; it goes on if there is one, adds one if there is none, and fails if there are several.
What it adds is kept back until a flush, and a lookup does not see it.

`Ensured` is the state of such a program as far as keys are concerned: those of the rows in the
table, those of the rows kept back, and the ones that have been looked up. **Every key that has been
looked up belongs to exactly one row**, in the table or kept back, as long as none is looked up
twice. After the last flush a second run therefore finds a row for each of them.

The loops of such programs are `foldlM`; `ensures_foldlM` is their invariant rule, and
`run_foldlM_of_idle` that of a run that writes nothing.
-/

namespace ZanovixCrm

/-! ### Keys -/

section Keys

variable {κ : Type} [DecidableEq κ]

/-- The keys of the rows in the table, of those kept back, and the keys looked up so far. -/
structure Ensured (flushed pending keys : List κ) : Prop where
  /-- A key that has been looked up has one row. -/
  count_eq_one : ∀ a ∈ keys, (flushed ++ pending).count a = 1
  /-- Nothing else is kept back. -/
  mem_of_pending : ∀ a ∈ pending, a ∈ keys

namespace Ensured

variable {flushed pending keys : List κ} {a : κ}

theorem start (flushed : List κ) : Ensured flushed [] [] :=
  ⟨fun _ h ↦ absurd h List.not_mem_nil, fun _ h ↦ absurd h List.not_mem_nil⟩

/-- A key that has not been looked up is not kept back. -/
theorem count_pending (h : Ensured flushed pending keys) (ha : a ∉ keys) : pending.count a = 0 :=
  List.count_eq_zero.2 fun hmem ↦ ha (h.mem_of_pending a hmem)

/-- There is a row in the table. -/
theorem found (h : Ensured flushed pending keys) (ha : a ∉ keys) (hcount : flushed.count a = 1) :
    Ensured flushed pending (keys ++ [a]) where
  count_eq_one := by
    intro b hb
    rcases List.mem_append.1 hb with hb | hb
    · exact h.count_eq_one b hb
    · rw [List.mem_singleton.1 hb, List.count_append, hcount, h.count_pending ha]
  mem_of_pending b hb := List.mem_append_left [a] (h.mem_of_pending b hb)

/-- There is none, and one is added. -/
theorem created (h : Ensured flushed pending keys) (ha : a ∉ keys) (hcount : flushed.count a = 0) :
    Ensured flushed (pending ++ [a]) (keys ++ [a]) where
  count_eq_one := by
    intro b hb
    rcases List.mem_append.1 hb with hb | hb
    · have hne : a ≠ b := fun heq ↦ ha (heq ▸ hb)
      rw [← List.append_assoc, List.count_append, h.count_eq_one b hb, List.count_singleton,
        if_neg (by simpa using hne)]
    · rw [List.mem_singleton.1 hb, List.count_append, List.count_append, hcount,
        h.count_pending ha, List.count_singleton_self]
  mem_of_pending := by
    intro b hb
    rcases List.mem_append.1 hb with hb | hb
    · exact List.mem_append_left [a] (h.mem_of_pending b hb)
    · exact List.mem_append_right keys hb

/-- The rows kept back are flushed. -/
theorem flush (h : Ensured flushed pending keys) : Ensured (flushed ++ pending) [] keys where
  count_eq_one b hb := by
    rw [List.append_nil]
    exact h.count_eq_one b hb
  mem_of_pending _ hb := absurd hb List.not_mem_nil

theorem count_flushed (h : Ensured flushed [] keys) (ha : a ∈ keys) : flushed.count a = 1 := by
  simpa using h.count_eq_one a ha

end Ensured

/-! ### Rows with a key -/

variable {ρ : Type} {k : ρ → κ} {a : κ} {rows : List ρ}

theorem count_map_eq_length_filter :
    (rows.map k).count a = (rows.filter fun r ↦ decide (k r = a)).length := by
  rw [List.count, List.countP_map, List.countP_eq_length_filter]
  rfl

/-- The lookup finds nothing. -/
theorem count_eq_zero_of_filter (h : rows.filter (fun r ↦ decide (k r = a)) = []) :
    (rows.map k).count a = 0 := by
  rw [count_map_eq_length_filter, h, List.length_nil]

/-- It finds one row. -/
theorem count_eq_one_of_filter {r : ρ} (h : rows.filter (fun r ↦ decide (k r = a)) = [r]) :
    (rows.map k).count a = 1 := by
  rw [count_map_eq_length_filter, h, List.length_singleton]

/-- The row that it finds. -/
theorem mem_of_filter_eq_singleton {r : ρ} (h : rows.filter (fun r ↦ decide (k r = a)) = [r]) :
    r ∈ rows ∧ k r = a := by
  have hmem : r ∈ rows.filter fun r ↦ decide (k r = a) := h ▸ List.mem_singleton_self r
  obtain ⟨hrow, hk⟩ := List.mem_filter.1 hmem
  exact ⟨hrow, of_decide_eq_true hk⟩

theorem exists_filter_of_count (h : (rows.map k).count a = 1) :
    ∃ r ∈ rows, k r = a ∧ rows.filter (fun r ↦ decide (k r = a)) = [r] := by
  rw [count_map_eq_length_filter] at h
  obtain ⟨r, hr⟩ := List.length_eq_one_iff.1 h
  obtain ⟨hrow, hk⟩ := mem_of_filter_eq_singleton hr
  exact ⟨r, hrow, hk, hr⟩

end Keys

/-! ### Loops -/

/-- The element that a loop has come to. -/
theorem mem_of_isPrefix {α : Type} {l done : List α} {a : α} (h : done ++ [a] <+: l) : a ∈ l :=
  h.subset (List.mem_append_right done (List.mem_singleton_self a))

/-- It has not been there before, if the keys are told apart. -/
theorem not_mem_map_of_isPrefix {α β : Type} {f : α → β} {l done : List α} {a : α}
    (hl : (l.map f).Nodup) (h : done ++ [a] <+: l) : f a ∉ done.map f := by
  have hnodup : ((done ++ [a]).map f).Nodup := hl.sublist (h.sublist.map f)
  rw [List.map_append] at hnodup
  exact fun hmem ↦ List.disjoint_of_nodup_append hnodup hmem (by simp)

namespace Prog

variable {σ ω ε κ α β : Type} [Store σ ω ε κ]

/-- **The invariant of a loop.** Beside the accumulator it may speak of the elements that the loop
has been through. -/
theorem ensures_foldlM {f : β → α → Prog σ ω ε β} {I : List α → β → σ → Prop} {l : List α} {b : β}
    {s : σ} (hstart : I [] b s)
    (hstep : ∀ done a b s, done ++ [a] <+: l → I done b s →
      (f b a).Ensures s fun b' s' ↦ I (done ++ [a]) b' s') :
    (l.foldlM f b).Ensures s fun b' s' ↦ I l b' s' := by
  suffices hgen : ∀ (rest done : List α) (b : β) (s : σ), done ++ rest = l → I done b s →
      (rest.foldlM f b).Ensures s fun b' s' ↦ I l b' s' from hgen l [] b s rfl hstart
  intro rest
  induction rest with
  | nil =>
    intro done b s hl hI
    rw [List.append_nil] at hl
    exact ensures_ret.2 (hl ▸ hI)
  | cons a rest ih =>
    intro done b s hl hI
    rw [List.foldlM_cons, ensures_bind]
    have hsplit : done ++ [a] ++ rest = l := by rw [List.append_assoc, List.singleton_append, hl]
    exact (hstep done a b s ⟨rest, hsplit⟩ hI).mono fun b' s' hI' ↦
      ih (done ++ [a]) b' s' hsplit hI'

/-- **A loop that writes nothing.** -/
theorem run_foldlM_of_idle {f : β → α → Prog σ ω ε β} {J : List α → β → Prop} {l : List α} {b : β}
    {s : σ} (hstart : J [] b)
    (hstep : ∀ done a b, done ++ [a] <+: l → J done b →
      ∃ b', (f b a).run s = .ok (b', s) ∧ J (done ++ [a]) b') :
    ∃ b', (l.foldlM f b).run s = .ok (b', s) ∧ J l b' := by
  suffices hgen : ∀ (rest done : List α) (b : β), done ++ rest = l → J done b →
      ∃ b', (rest.foldlM f b).run s = .ok (b', s) ∧ J l b' from hgen l [] b rfl hstart
  intro rest
  induction rest with
  | nil =>
    intro done b hl hJ
    rw [List.append_nil] at hl
    exact ⟨b, rfl, hl ▸ hJ⟩
  | cons a rest ih =>
    intro done b hl hJ
    have hsplit : done ++ [a] ++ rest = l := by rw [List.append_assoc, List.singleton_append, hl]
    obtain ⟨b', hrun, hJ'⟩ := hstep done a b ⟨rest, hsplit⟩ hJ
    rw [List.foldlM_cons, run_bind_ok hrun]
    exact ih (done ++ [a]) b' hsplit hJ'

end Prog

end ZanovixCrm
