import Mathlib.Data.List.Induction
import Mathlib.Data.List.Count

/-!
# The sliding-window log

The reference behaviour of a rate limiter: it keeps the times of all requests it has seen, and
admits a request if fewer than `limit` of the earlier ones are recent, that is, less than `w` old.
Requests that are turned away count as well.

Times are nondecreasing. Then **no `limit + 1` of the admitted requests are pairwise less than `w`
apart** (`countP_admitted_le`): the last of them has seen all others as recent. And an admitted
request knows how many of the requests that come next will be admitted, whenever they come
(`admits_next`).
-/

namespace ZanovixCrm.SlidingWindow

variable {limit w : ℕ} {log : List ℕ} {t : ℕ}

/-- How many of the times in the log are recent at `t`. -/
def recent (w : ℕ) (log : List ℕ) (t : ℕ) : ℕ := log.countP fun x ↦ decide (x ≤ t ∧ t < x + w)

/-- A request at `t` is admitted. -/
def admits (limit w : ℕ) (log : List ℕ) (t : ℕ) : Bool := decide (recent w log t < limit)

/-- The times of the admitted requests among `ts`, which come after those of the log. -/
def admittedAfter (limit w : ℕ) : List ℕ → List ℕ → List ℕ
  | _, [] => []
  | log, t :: ts =>
    if admits limit w log t then t :: admittedAfter limit w (log ++ [t]) ts
    else admittedAfter limit w (log ++ [t]) ts

/-- The times of the admitted requests. -/
def admitted (limit w : ℕ) (ts : List ℕ) : List ℕ := admittedAfter limit w [] ts

theorem recent_append (w : ℕ) (log log' : List ℕ) (t : ℕ) :
    recent w (log ++ log') t = recent w log t + recent w log' t := List.countP_append

theorem recent_le_length (w : ℕ) (log : List ℕ) (t : ℕ) : recent w log t ≤ log.length :=
  List.countP_le_length

/-- What is recent later has been recent before, as far as it is in the log. -/
theorem recent_anti {t' : ℕ} (hlog : ∀ x ∈ log, x ≤ t) (ht : t ≤ t') :
    recent w log t' ≤ recent w log t := by
  refine List.countP_mono_left fun x hx h ↦ ?_
  obtain ⟨-, hlt⟩ := of_decide_eq_true h
  exact decide_eq_true ⟨hlog x hx, by omega⟩

theorem admittedAfter_append (limit w : ℕ) (log ts ts' : List ℕ) :
    admittedAfter limit w log (ts ++ ts') =
      admittedAfter limit w log ts ++ admittedAfter limit w (log ++ ts) ts' := by
  induction ts generalizing log with
  | nil => rw [List.append_nil]; rfl
  | cons t ts ih =>
    have htail := ih (log ++ [t])
    rw [List.append_assoc, List.singleton_append] at htail
    rw [List.cons_append, admittedAfter, admittedAfter, htail]
    split
    · rfl
    · rfl

theorem admitted_append_singleton (limit w : ℕ) (ts : List ℕ) (t : ℕ) :
    admitted limit w (ts ++ [t]) =
      admitted limit w ts ++ if admits limit w ts t then [t] else [] := by
  rw [admitted, admittedAfter_append, List.nil_append]
  show _ ++ (if admits limit w ts t then [t] else []) = _
  rfl

/-- The admitted requests are among all requests. -/
theorem admitted_sublist (limit w : ℕ) (ts : List ℕ) : (admitted limit w ts).Sublist ts := by
  induction ts using List.reverseRecOn with
  | nil => exact List.Sublist.refl []
  | append_singleton ts t ih =>
    rw [admitted_append_singleton]
    refine ih.append ?_
    split
    · exact List.Sublist.refl [t]
    · exact List.nil_sublist [t]

/-- **The limit**: of any times that are pairwise less than `w` apart, at most `limit`
are admitted. -/
theorem countP_admitted_le {ts : List ℕ} (hts : ts.Pairwise (· ≤ ·)) {S : ℕ → Bool}
    (hS : ∀ t t', S t = true → S t' = true → t' < t + w) :
    (admitted limit w ts).countP S ≤ limit := by
  induction ts using List.reverseRecOn with
  | nil => exact Nat.zero_le limit
  | append_singleton ts t ih =>
    obtain ⟨hts, -, hle⟩ := List.pairwise_append.1 hts
    rw [admitted_append_singleton]
    by_cases hadmits : admits limit w ts t = true
    · rw [if_pos hadmits, List.countP_append, List.countP_singleton]
      by_cases ht : S t = true
      · -- All earlier times in `S` are recent at `t`.
        have hsub : (admitted limit w ts).countP S ≤ ts.countP S :=
          (admitted_sublist limit w ts).countP_le
        have hrecent : ts.countP S ≤ recent w ts t := by
          refine List.countP_mono_left fun x hx hxS ↦ ?_
          exact decide_eq_true ⟨hle x hx t (List.mem_singleton_self t), hS x t hxS ht⟩
        have hlt : recent w ts t < limit := of_decide_eq_true hadmits
        rw [if_pos ht]
        omega
      · rw [if_neg ht]
        exact ih hts
    · rw [if_neg hadmits, List.append_nil]
      exact ih hts

/-- **The requests after an admitted one**: of those, `limit - 1` minus the number of recent ones
are admitted for certain. -/
theorem admits_next {between : List ℕ} {t' : ℕ} (hlog : ∀ x ∈ log, x ≤ t) (ht : t ≤ t')
    (hroom : recent w log t + 1 + between.length < limit) :
    admits limit w (log ++ t :: between) t' = true := by
  have hanti : recent w log t' ≤ recent w log t := recent_anti hlog ht
  have hbetween : recent w (t :: between) t' ≤ between.length + 1 := recent_le_length w _ t'
  have hsplit : recent w (log ++ t :: between) t' = recent w log t' + recent w (t :: between) t' :=
    recent_append w log _ t'
  refine decide_eq_true ?_
  omega

end ZanovixCrm.SlidingWindow
