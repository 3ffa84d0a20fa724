import ZanovixCrm.Guarantees.Intake
import ZanovixCrm.Shared.FastapiErrors

/-!
# When to try again

A request that the limiter refuses raises an exception with a `Retry-After` header. Its handler
builds an answer of its own, without the header. So the senders of a history are told honestly when
to come back exactly if nobody is turned away, that is, if no request has 20 earlier ones of its
identifier in its window (`retryAfter_honest_iff`).

The number itself, which the text of the answer has, would not do either: requests that have been
turned away count, so the window can be full again when the oldest request has left it.
-/

namespace ZanovixCrm

open RedisSlidingWindowLimiter

/-- `enforce_lead_post_rate_limit`, with the headers of the exception. -/
def RateLimit.enforceLeadPostRateLimit (result : RateLimitResult) : Option HTTPException :=
  if result.allowed then none
  else
    some
      { status := .tooManyRequests
        detail := .rateLimitExceeded result.retryAfter
        headers := [("Retry-After", toString result.retryAfter)] }

/-- The identifier of a check sends nothing else for `r` seconds, and is admitted when it comes
back. -/
def AdmitsAfter (v : Verdict) (r : ℤ) : Prop :=
  ∀ (between : List Check) (c : Check),
    Orderly (v.earlier ++ v.check :: between ++ [c]) → requestsOf v.check.identifier between = [] →
    c.identifier = v.check.identifier → (v.check.nowMs : ℤ) + r * 1000 ≤ c.nowMs →
    ∀ v' ∈ RateLimit.leadPostLimiter.verdicts (v.earlier ++ v.check :: between ++ [c]),
      v'.earlier = v.earlier ++ v.check :: between → v'.result.allowed = true

/-- **Who is turned away is told honestly when to come back.** -/
def RetryAfterHonest (posts : List Post) : Prop :=
  ∀ v ∈ RateLimit.leadPostLimiter.verdicts (posts.map Post.check),
    ∀ exc, RateLimit.enforceLeadPostRateLimit v.result = some exc →
      ∃ r : ℤ, (httpExceptionHandler exc).header "Retry-After" = some (toString r) ∧
        1 ≤ r ∧ r ≤ 60 ∧ AdmitsAfter v r

section RetryAfter

variable {p : Platform} {s : Settings} {db : Db} {sub : Except Fault String} {q : Post}
  {result : RateLimitResult} {exc : HTTPException}

/-- The exception is raised exactly if the request is not allowed. -/
theorem enforceLeadPostRateLimit_isSome :
    (RateLimit.enforceLeadPostRateLimit result).isSome = !result.allowed := by
  rw [RateLimit.enforceLeadPostRateLimit]
  cases result.allowed with
  | false => rfl
  | true => rfl

/-- Every check of a history has its verdict. -/
theorem exists_mem_verdictsFrom (l : RedisSlidingWindowLimiter)
    (m : RedisSlidingWindowLimiter.Store) (earlier before rest : List Check) (c : Check) :
    ∃ v ∈ l.verdictsFrom m earlier (before ++ c :: rest),
      v.earlier = earlier ++ before ∧ v.check = c := by
  induction before generalizing m earlier with
  | nil => exact ⟨_, List.mem_cons_self, (List.append_nil earlier).symm, rfl⟩
  | cons c' before ih =>
    obtain ⟨v, hv, hearlier, hc⟩ := ih (l.step m c') (earlier ++ [c'])
    refine ⟨v, List.mem_cons_of_mem _ hv, ?_, hc⟩
    rw [hearlier, List.append_assoc, List.singleton_append]

/-- The verdicts follow the log. -/
theorem allowed_iff_inWindow {posts : List Post} (h : Orderly (posts.map Post.check)) {v : Verdict}
    (hv : v ∈ RateLimit.leadPostLimiter.verdicts (posts.map Post.check)) :
    (∃ rest, posts.map Post.check = v.earlier ++ v.check :: rest) ∧
      (v.result.allowed = true ↔
        RateLimit.leadPostLimiter.inWindow v.earlier v.check < RateLimit.maxRequests) := by
  obtain ⟨hrest, hdecision⟩ := decision_verdictsFrom (tracks_empty _) h hv
  exact ⟨hrest, allowed_iff_of_decision hdecision⟩

/-- One refusal is enough: its answer lacks the header. -/
theorem inWindow_lt_of_honest {posts : List Post} (h : Orderly (posts.map Post.check))
    (hhonest : RetryAfterHonest posts) (earlier rest : List Check) (c : Check)
    (hchecks : posts.map Post.check = earlier ++ c :: rest) :
    RateLimit.leadPostLimiter.inWindow earlier c < RateLimit.maxRequests := by
  obtain ⟨v, hv, hearlier, hc⟩ := exists_mem_verdictsFrom RateLimit.leadPostLimiter
    .empty [] earlier rest c
  rw [List.nil_append] at hearlier
  rw [← hchecks] at hv
  rw [← hearlier, ← hc, ← (allowed_iff_inWindow h hv).2]
  by_contra hrefused
  have hsome : (RateLimit.enforceLeadPostRateLimit v.result).isSome = true := by
    rw [enforceLeadPostRateLimit_isSome, Bool.eq_false_of_not_eq_true hrefused]
    rfl
  obtain ⟨exc, hexc⟩ := Option.isSome_iff_exists.1 hsome
  obtain ⟨r, hr, -⟩ := hhonest v hv exc hexc
  rw [header_httpExceptionHandler] at hr
  exact Option.some_ne_none _ hr.symm

/-- **Retry-After.** In a history with Redis available and a clock that does not go back, whoever
is turned away is told honestly when to come back exactly if every request has fewer than 20 earlier
ones of its identifier in its window. -/
theorem retryAfter_honest_iff (posts : List Post) (h : Orderly (posts.map Post.check)) :
    RetryAfterHonest posts ↔
      ∀ (earlier rest : List Check) (c : Check), posts.map Post.check = earlier ++ c :: rest →
        RateLimit.leadPostLimiter.inWindow earlier c < 20 := by
  constructor
  · intro hhonest earlier rest c hchecks
    exact inWindow_lt_of_honest h hhonest earlier rest c hchecks
  · intro hroom v hv exc hexc
    obtain ⟨⟨rest, hrest⟩, hallowed⟩ := allowed_iff_inWindow h hv
    have hok := hallowed.2 (hroom v.earlier rest v.check hrest)
    rw [RateLimit.enforceLeadPostRateLimit, if_pos hok] at hexc
    exact absurd hexc.symm (Option.some_ne_none exc)

end RetryAfter

/-- A sender whose 20 requests are all let through. -/
theorem retryAfter_honest_twenty : RetryAfterHonest (unvarying.take 20) := by
  have horderly : Orderly ((unvarying.take 20).map Post.check) := by
    rw [List.map_take]
    exact orderly_unvarying.sublist (List.take_sublist _ _)
  refine (retryAfter_honest_iff (unvarying.take 20) horderly).2 fun earlier rest c hchecks ↦ ?_
  have hlength : 20 = earlier.length + (rest.length + 1) := by
    simpa [unvarying] using congrArg List.length hchecks
  have hle : RateLimit.leadPostLimiter.inWindow earlier c ≤ earlier.length := List.countP_le_length
  omega

/-- **The 21st request** is refused, and its answer lacks the header. Its text says 59 seconds; who
waits as long is refused again. -/
theorem retryAfter_missing :
    Orderly (unvarying.map Post.check) ∧ ¬RetryAfterHonest unvarying ∧
      ((RateLimit.leadPostLimiter.verdicts
          ((unvarying ++ [postClaiming "203.0.113.5" 59020]).map Post.check)).drop 20).map
        (fun v ↦ (v.check.nowMs, v.result.allowed, v.result.retryAfter)) =
          [(20, false, 59), (59020, false, 1)] := by
  refine ⟨orderly_unvarying, fun hhonest ↦ ?_, by decide +kernel⟩
  have hlt := inWindow_lt_of_honest orderly_unvarying hhonest
    ((unvarying.take 20).map Post.check) [] (postClaiming "203.0.113.5" 20).check
    (by decide +kernel)
  exact absurd hlt (by decide +kernel)

end ZanovixCrm
