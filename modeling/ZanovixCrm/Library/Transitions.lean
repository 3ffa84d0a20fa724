import Mathlib.Data.List.Induction

/-!
# Runs of a transition function

A system that takes one step for each event, and conditions on its steps. Three ways to get from one
step to all runs: what every step preserves holds at the end (`foldl_invariant`); what a step
restores exactly under a condition holds at the end exactly if every step has met the condition
(`holds_foldl_iff`); and what holds at every moment does so exactly if every step has met the
condition under which it keeps it (`everyMoment_iff`).
-/

namespace ZanovixCrm

variable {σ ε : Type} {f : σ → ε → σ} {s : σ} {I G : σ → Prop} {P : σ → ε → Prop}
  {events : List ε} {e : ε}

/-- Every step of the run meets a condition on the state before it and the event. -/
def EveryStep (f : σ → ε → σ) (P : σ → ε → Prop) : σ → List ε → Prop
  | _, [] => True
  | s, e :: events => P s e ∧ EveryStep f P (f s e) events

/-- The states of the run, from the first to the last. -/
def EveryMoment (f : σ → ε → σ) (G : σ → Prop) : σ → List ε → Prop
  | s, [] => G s
  | s, e :: events => G s ∧ EveryMoment f G (f s e) events

instance decidableEveryStep [∀ s e, Decidable (P s e)] :
    (s : σ) → (events : List ε) → Decidable (EveryStep f P s events)
  | _, [] => isTrue trivial
  | s, e :: events =>
    haveI := decidableEveryStep (f s e) events
    inferInstanceAs (Decidable (P s e ∧ EveryStep f P (f s e) events))

theorem foldl_concat (f : σ → ε → σ) (s : σ) (events : List ε) (e : ε) :
    (events ++ [e]).foldl f s = f (events.foldl f s) e := by
  rw [List.foldl_append]
  rfl

theorem everyStep_concat :
    EveryStep f P s (events ++ [e]) ↔ EveryStep f P s events ∧ P (events.foldl f s) e := by
  induction events generalizing s with
  | nil => exact and_comm
  | cons e' events ih =>
    rw [List.cons_append, EveryStep, EveryStep, ih, and_assoc]
    rfl

theorem EveryMoment.last (h : EveryMoment f G s events) : G (events.foldl f s) := by
  induction events generalizing s with
  | nil => exact h
  | cons e events ih => exact ih h.2

/-- **What every step preserves.** -/
theorem foldl_invariant (hstart : I s) (hstep : ∀ s e, I s → I (f s e)) (events : List ε) :
    I (events.foldl f s) := by
  induction events generalizing s with
  | nil => exact hstart
  | cons e events ih => exact ih (hstep s e hstart)

/-- **What every step preserves under a condition.** -/
theorem foldl_invariant_of (hstart : I s) (hstep : ∀ s e, I s → P s e → I (f s e))
    (h : EveryStep f P s events) : I (events.foldl f s) := by
  induction events generalizing s with
  | nil => exact hstart
  | cons e events ih => exact ih (hstep s e hstart h.1) h.2

/-- **What is lost for good** as soon as a step does not meet a condition. -/
theorem holds_foldl_iff (hinv : I s) (hstep : ∀ s e, I s → I (f s e)) (hstart : G s)
    (hiff : ∀ s e, I s → (G (f s e) ↔ G s ∧ P s e)) (events : List ε) :
    G (events.foldl f s) ↔ EveryStep f P s events := by
  induction events using List.reverseRecOn with
  | nil => exact iff_of_true hstart trivial
  | append_singleton events e ih =>
    rw [foldl_concat, everyStep_concat, ← ih]
    exact hiff _ e (foldl_invariant hinv hstep events)

/-- **What holds at every moment**, exactly if every step meets the condition under which it keeps
it. -/
theorem everyMoment_iff (hinv : I s) (hstep : ∀ s e, I s → I (f s e)) (hstart : G s)
    (hiff : ∀ s e, I s → G s → (G (f s e) ↔ P s e)) (events : List ε) :
    EveryMoment f G s events ↔ EveryStep f P s events := by
  induction events generalizing s with
  | nil => exact iff_of_true hstart trivial
  | cons e events ih =>
    rw [EveryMoment, EveryStep]
    constructor
    · rintro ⟨-, hrest⟩
      have hnext : G (f s e) := by
        cases events with
        | nil => exact hrest
        | cons e' events => exact hrest.1
      exact ⟨(hiff s e hinv hstart).1 hnext, (ih (hstep s e hinv) hnext).1 hrest⟩
    · rintro ⟨hok, hrest⟩
      have hnext := (hiff s e hinv hstart).2 hok
      exact ⟨hstart, (ih (hstep s e hinv) hnext).2 hrest⟩

end ZanovixCrm
