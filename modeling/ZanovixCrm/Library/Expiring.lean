import Mathlib.Algebra.Order.Group.Int
import Mathlib.Logic.Function.Basic

/-!
# Keys that expire

A store in which a key is set for a limited time, such as a Redis database that is written with
`SETEX` alone. The state is the deadline of each key, and a key is there before its deadline and not
from then on. Setting a key again replaces its deadline, so **a store in which every key is set for
the same time only ever extends**: `Holds.setex` is what an invariant over later writes needs.
-/

namespace ZanovixCrm

/-- The deadline of each key that has been set, on the clock `ℤ`. -/
def Expiring (κ : Type) : Type := κ → Option ℤ

namespace Expiring

variable {κ : Type}

/-- No key has been set. -/
def empty : Expiring κ := fun _ ↦ none

/-- The key is there at this time. -/
def live (m : Expiring κ) (k : κ) (now : ℤ) : Bool :=
  (m k).any fun deadline ↦ decide (now < deadline)

/-- The key is there until `deadline` at least. -/
def Holds (m : Expiring κ) (k : κ) (deadline : ℤ) : Prop := ∃ d, m k = some d ∧ deadline ≤ d

theorem Holds.live {m : Expiring κ} {k : κ} {deadline now : ℤ} (h : m.Holds k deadline)
    (hnow : now < deadline) : m.live k now = true := by
  obtain ⟨d, hd, hle⟩ := h
  rw [Expiring.live, hd, Option.any_some, decide_eq_true_eq]
  omega

variable [DecidableEq κ]

/-- Set a key for a time. -/
def setex (m : Expiring κ) (k : κ) (ttl now : ℤ) : Expiring κ :=
  Function.update m k (some (now + ttl))

theorem setex_self (m : Expiring κ) (k : κ) (ttl now : ℤ) :
    m.setex k ttl now k = some (now + ttl) := Function.update_self k _ m

theorem setex_of_ne (m : Expiring κ) {k k' : κ} (hk : k' ≠ k) (ttl now : ℤ) :
    m.setex k ttl now k' = m k' := Function.update_of_ne hk _ m

theorem live_setex_self (m : Expiring κ) (k : κ) (ttl now t : ℤ) :
    (m.setex k ttl now).live k t = decide (t < now + ttl) := by
  rw [live, setex_self, Option.any_some]

theorem live_setex_of_ne (m : Expiring κ) {k k' : κ} (hk : k' ≠ k) (ttl now t : ℤ) :
    (m.setex k ttl now).live k' t = m.live k' t := by
  rw [live, setex_of_ne m hk, live]

theorem holds_setex_self (m : Expiring κ) (k : κ) (ttl now : ℤ) :
    (m.setex k ttl now).Holds k (now + ttl) :=
  ⟨now + ttl, setex_self m k ttl now, le_rfl⟩

/-- A later write with the same time to live takes nothing away. -/
theorem Holds.setex {m : Expiring κ} {k : κ} {ttl now : ℤ} (h : m.Holds k (now + ttl)) (k' : κ)
    {later : ℤ} (hlater : now ≤ later) : (m.setex k' ttl later).Holds k (now + ttl) := by
  by_cases hk : k = k'
  · subst hk
    exact ⟨later + ttl, setex_self m k ttl later, by omega⟩
  · obtain ⟨d, hd, hle⟩ := h
    exact ⟨d, (setex_of_ne m hk ttl later).trans hd, hle⟩

end Expiring

end ZanovixCrm
