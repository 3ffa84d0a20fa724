import Mathlib.Data.List.Induction
import Mathlib.Data.List.Nodup
import Mathlib.Order.Lattice

/-!
# Reading a growing log through a cursor

A reader asks again and again for what is newer than its cursor, and moves the cursor to the last
row that it gets. Rows carry a stamp, and an answer is a page: the oldest rows that are due, up to
some number. Rows with the same stamp are possible, and so are rows that enter the log with a stamp
that the cursor has already passed.

The reader never gets a row twice (`Reader.Sound`). It misses a row as soon as the cursor has passed
the row's stamp without it, and then for good. So it has missed nothing (`Reader.Complete`) exactly
if every row entered the log ahead of the cursor, and no page was cut between rows with the same
stamp.
-/

namespace ZanovixCrm

variable {ρ τ : Type} [LinearOrder τ]

/-- A reader, and what it has got so far. -/
structure Reader (ρ τ : Type) where
  cursor : Option τ
  received : List ρ

namespace Reader

/-- A reader that has not asked yet. -/
def start : Reader ρ τ := ⟨none, []⟩

/-- The row is ahead of the cursor. -/
def due (stamp : ρ → τ) (cursor : Option τ) (r : ρ) : Bool :=
  cursor.all fun t ↦ decide (t < stamp r)

/-- The reader takes a page. -/
def read (stamp : ρ → τ) (R : Reader ρ τ) (page : List ρ) : Reader ρ τ :=
  ⟨(page.getLast?.map stamp).or R.cursor, R.received ++ page⟩

/-- **Nothing twice.** -/
structure Sound (stamp : ρ → τ) (R : Reader ρ τ) (log : ρ → Prop) : Prop where
  nodup : R.received.Nodup
  logged : ∀ r ∈ R.received, log r
  passed : ∀ r ∈ R.received, due stamp R.cursor r = false

/-- **Nothing missed.** -/
def Complete (stamp : ρ → τ) (R : Reader ρ τ) (log : ρ → Prop) : Prop :=
  ∀ r, log r → due stamp R.cursor r = false → r ∈ R.received

section Reader

variable {stamp : ρ → τ} {R : Reader ρ τ} {log log' : ρ → Prop} {page rest : List ρ}

theorem due_some {t : τ} {r : ρ} : due stamp (some t) r = true ↔ t < stamp r := by
  rw [due, Option.all_some, decide_eq_true_eq]

@[simp] theorem due_none (r : ρ) : due stamp none r = true := rfl

theorem sound_start : Sound stamp start log where
  nodup := List.nodup_nil
  logged _ hr := nomatch hr
  passed _ hr := nomatch hr

theorem complete_start : Complete stamp start log := fun r _ h ↦ nomatch (due_none r).symm.trans h

omit [LinearOrder τ] in
@[simp] theorem read_nil : R.read stamp [] = R := by
  rw [read, List.append_nil]
  rfl

/-- **What is due after a page**: what was due before and is newer than all of the page. -/
theorem due_read_iff (hsorted : page.Pairwise fun a b ↦ stamp a ≤ stamp b)
    (hdue : ∀ r ∈ page, due stamp R.cursor r = true) (r : ρ) :
    due stamp (R.read stamp page).cursor r = true ↔
      due stamp R.cursor r = true ∧ ∀ a ∈ page, stamp a < stamp r := by
  induction page using List.reverseRecOn with
  | nil =>
    rw [read_nil]
    exact ⟨fun h ↦ ⟨h, fun a ha ↦ nomatch ha⟩, And.left⟩
  | append_singleton page last _ =>
    have hcursor : (R.read stamp (page ++ [last])).cursor = some (stamp last) := by
      rw [read, List.getLast?_concat]
      rfl
    have hlast : ∀ a ∈ page ++ [last], stamp a ≤ stamp last := by
      intro a ha
      rcases List.mem_append.1 ha with ha | ha
      · exact (List.pairwise_append.1 hsorted).2.2 a ha last (List.mem_singleton_self last)
      · rw [List.mem_singleton.1 ha]
    rw [hcursor, due_some]
    constructor
    · refine fun hr ↦ ⟨?_, fun a ha ↦ (hlast a ha).trans_lt hr⟩
      have hbefore := hdue last (by simp)
      rcases hc : R.cursor with - | t
      · exact due_none r
      · rw [hc, due_some] at hbefore
        exact due_some.2 (hbefore.trans hr)
    · exact fun hr ↦ hr.2 last (by simp)

/-- **A page of rows that are due** is taken once. -/
theorem Sound.read (h : R.Sound stamp log) (hnodup : page.Nodup)
    (hsorted : page.Pairwise fun a b ↦ stamp a ≤ stamp b)
    (hlog : ∀ r ∈ page, log r) (hdue : ∀ r ∈ page, due stamp R.cursor r = true) :
    (R.read stamp page).Sound stamp log where
  nodup := by
    refine List.nodup_append.2 ⟨h.nodup, hnodup, fun r hr r' hr' heq ↦ ?_⟩
    have hpassed := h.passed r hr
    rw [heq, hdue r' hr'] at hpassed
    exact nomatch hpassed
  logged r hr := (List.mem_append.1 hr).elim (h.logged r) (hlog r)
  passed r hr := by
    refine Bool.eq_false_iff.2 fun hafter ↦ ?_
    obtain ⟨hbefore, hnewer⟩ := (due_read_iff hsorted hdue r).1 hafter
    rcases List.mem_append.1 hr with hr | hr
    · rw [h.passed r hr] at hbefore
      exact nomatch hbefore
    · exact lt_irrefl _ (hnewer r hr)

/-- The log may grow. -/
theorem Sound.mono (h : R.Sound stamp log) (hlog : ∀ r, log r → log' r) : R.Sound stamp log' :=
  ⟨h.nodup, fun r hr ↦ hlog r (h.logged r hr), h.passed⟩

/-- **Rows enter the log**: nothing is missed if they do so ahead of the cursor, and only then. -/
theorem complete_mono_iff (h : R.Sound stamp log) (hlog : ∀ r, log r → log' r) :
    R.Complete stamp log' ↔
      R.Complete stamp log ∧ ∀ r, log' r → ¬log r → due stamp R.cursor r = true := by
  constructor
  · intro hc
    refine ⟨fun r hr ↦ hc r (hlog r hr), fun r hr hnew ↦ ?_⟩
    by_contra hdue
    exact hnew (h.logged r (hc r hr (eq_false_of_ne_true hdue)))
  · rintro ⟨hc, hahead⟩ r hr hpassed
    by_cases hold : log r
    · exact hc r hold hpassed
    · rw [hahead r hr hold] at hpassed
      exact nomatch hpassed

/-- **A page is read**: nothing is missed if it is not cut between rows with the same stamp, and
only then. The rows that are due are those of the page and, after them, the rest. -/
theorem complete_read_iff (h : R.Sound stamp log)
    (hdues : ∀ r, r ∈ page ++ rest ↔ log r ∧ due stamp R.cursor r = true)
    (hsorted : (page ++ rest).Pairwise fun a b ↦ stamp a ≤ stamp b)
    (hnodup : (page ++ rest).Nodup) :
    (R.read stamp page).Complete stamp log ↔
      R.Complete stamp log ∧ ∀ a ∈ page, ∀ b ∈ rest, stamp a < stamp b := by
  have hpage : ∀ r ∈ page, due stamp R.cursor r = true := fun r hr ↦
    ((hdues r).1 (List.mem_append_left rest hr)).2
  have hafter := due_read_iff (List.pairwise_append.1 hsorted).1 hpage
  constructor
  · refine fun hc ↦ ⟨fun r hr hpassed ↦ ?_, fun a ha b hb ↦ ?_⟩
    · have hpassed' : due stamp (R.read stamp page).cursor r = false :=
        Bool.eq_false_iff.2 fun hdue ↦ by
          rw [((hafter r).1 hdue).1] at hpassed
          exact nomatch hpassed
      rcases List.mem_append.1 (hc r hr hpassed') with hr' | hr'
      · exact hr'
      · rw [hpage r hr'] at hpassed
        exact nomatch hpassed
    · obtain ⟨hlog, hdue⟩ := (hdues b).1 (List.mem_append_right page hb)
      by_contra hle
      have hpassed : due stamp (R.read stamp page).cursor b = false :=
        Bool.eq_false_iff.2 fun hdue' ↦ hle (((hafter b).1 hdue').2 a ha)
      rcases List.mem_append.1 (hc b hlog hpassed) with hb' | hb'
      · rw [h.passed b hb'] at hdue
        exact nomatch hdue
      · exact (List.nodup_append.1 hnodup).2.2 b hb' b hb rfl
  · rintro ⟨hc, hcut⟩ r hr hpassed
    rcases hdue : due stamp R.cursor r with - | -
    · exact List.mem_append_left page (hc r hr hdue)
    · rcases List.mem_append.1 ((hdues r).2 ⟨hr, hdue⟩) with hr' | hr'
      · exact List.mem_append_right _ hr'
      · rw [(hafter r).2 ⟨hdue, fun a ha ↦ hcut a ha r hr'⟩] at hpassed
        exact nomatch hpassed

/-- **A reader to whom nothing is due** has got every row once if it has missed nothing, and only
then. -/
theorem count_eq_one_iff [DecidableEq ρ] (h : R.Sound stamp log)
    (hnone : ∀ r, log r → due stamp R.cursor r = false) :
    (∀ r, log r → R.received.count r = 1) ↔ R.Complete stamp log := by
  constructor
  · intro hall r hr _
    exact List.count_pos_iff.1 (by rw [hall r hr]; exact Nat.one_pos)
  · exact fun hc r hr ↦ List.count_eq_one_of_mem h.nodup (hc r hr (hnone r hr))

end Reader

end Reader

/-- **A part of an ordered log without gaps** is a beginning of it. -/
theorem isPrefix_of_noGaps {stamp : ρ → τ} {part log : List ρ}
    (hlog : log.Pairwise fun a b ↦ stamp a < stamp b)
    (hpart : part.Pairwise fun a b ↦ stamp a < stamp b) (hsub : ∀ r ∈ part, r ∈ log)
    (hgaps : ∀ r ∈ log, ∀ x ∈ part, stamp r < stamp x → r ∈ part) : part <+: log := by
  induction log generalizing part with
  | nil =>
    obtain rfl : part = [] := List.eq_nil_iff_forall_not_mem.2 fun r hr ↦ nomatch hsub r hr
    exact List.nil_prefix
  | cons first log ih =>
    rw [List.pairwise_cons] at hlog
    cases part with
    | nil => exact List.nil_prefix
    | cons r part =>
      rw [List.pairwise_cons] at hpart
      have hfirst : r = first := by
        rcases List.mem_cons.1 (hsub r List.mem_cons_self) with hr | hr
        · exact hr
        · have hlt := hlog.1 r hr
          rcases List.mem_cons.1 (hgaps first List.mem_cons_self r List.mem_cons_self hlt)
            with h | h
          · exact h.symm
          · exact absurd hlt (lt_asymm (hpart.1 first h))
      subst hfirst
      refine List.cons_prefix_cons.2 ⟨rfl, ih hlog.2 hpart.2 (fun x hx ↦ ?_) fun x hx y hy hlt ↦ ?_⟩
      · refine (List.mem_cons.1 (hsub x (List.mem_cons_of_mem r hx))).resolve_left fun heq ↦ ?_
        exact lt_irrefl _ (heq ▸ hpart.1 x hx)
      · have hx' := hgaps x (List.mem_cons_of_mem r hx) y (List.mem_cons_of_mem r hy) hlt
        refine (List.mem_cons.1 hx').resolve_left fun heq ↦ ?_
        exact lt_irrefl _ (heq ▸ hlog.1 x hx)

end ZanovixCrm
