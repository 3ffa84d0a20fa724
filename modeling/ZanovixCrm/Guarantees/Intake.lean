import ZanovixCrm.Middleware.RateLimit

/-!
# The limit on the public intake

The limiter decides as the log of all requests would, each identifier by itself
(`limiter_slidingWindow`). Whether that bounds what one sender gets through depends on the
identifier. It is the first value of `X-Forwarded-For`, if there is one, and that is the part of the
header that the sender writes, with or without a proxy. A sender who counts up in it has a window of
its own for each request (`intake_unbounded`); a sender whom the code knows by one identifier is
held to the limit (`intake_bounded`), and so is one who leaves the header alone
(`Post.clientIp_of_bare`).
-/

namespace ZanovixCrm

open RedisSlidingWindowLimiter

/-- **The limiter is a sliding-window log.** A check is allowed if fewer than `limit` earlier checks
of its identifier are in the window that ends with it, and told how many more are; so many more are
allowed; no window contains more than `limit` allowed checks of an identifier; and an identifier is
answered as if there were no other. -/
theorem limiter_slidingWindow (l : RedisSlidingWindowLimiter) (checks : List Check)
    (h : Orderly checks) :
    (∀ v ∈ l.verdicts checks,
      (v.result.allowed = true ↔ l.inWindow v.earlier v.check < l.limit) ∧
        (v.result.allowed = true →
          v.result.remaining = (l.limit : ℤ) - 1 - l.inWindow v.earlier v.check)) ∧
      (∀ v ∈ l.verdicts checks, ∀ v' ∈ l.verdicts checks, ∀ between : List Check,
        v.result.allowed = true → v'.earlier = v.earlier ++ v.check :: between →
        v'.check.identifier = v.check.identifier →
        ((requestsOf v.check.identifier between).length : ℤ) < v.result.remaining →
        v'.result.allowed = true) ∧
      (∀ (k : String) (a : ℤ), (admittedTimes k (l.verdicts checks)).countP
        (fun t : ℕ ↦ decide (a ≤ t ∧ t < a + l.windowMs)) ≤ l.limit) ∧
      ∀ k : String, decisionsOf k (l.verdicts checks) =
        decisionsOf k (l.verdicts (requestsOf k checks)) := by
  have hdecision : ∀ v ∈ l.verdicts checks,
      (∃ rest, [] ++ checks = v.earlier ++ v.check :: rest) ∧
        v.result.decision = l.logDecision v.earlier v.check :=
    fun v hv ↦ decision_verdictsFrom (tracks_empty l) h hv
  refine ⟨fun v hv ↦ ?_, fun v hv v' hv' between hallowed hbetween hk hroom ↦ ?_,
    countP_admittedTimes_le h, fun k ↦ ?_⟩
  · obtain ⟨-, hv⟩ := hdecision v hv
    exact ⟨allowed_iff_of_decision hv, remaining_of_decision hv⟩
  · obtain ⟨-, hv⟩ := hdecision v hv
    obtain ⟨⟨rest, hrest⟩, hv'⟩ := hdecision v' hv'
    have hlater : Orderly (v'.earlier ++ v'.check :: rest) := hrest ▸ h
    have hsooner : Orderly (v.earlier ++ v.check :: (between ++ v'.check :: rest)) := by
      rw [hbetween, List.append_assoc, List.cons_append] at hlater
      exact hlater
    have hmem : v.check ∈ v'.earlier := by
      rw [hbetween]
      exact List.mem_append_right _ List.mem_cons_self
    have hearlier : ∀ t ∈ timesOf v.check.identifier v.earlier, t ≤ v.check.nowMs := by
      intro t ht
      obtain ⟨c, hc, -, rfl⟩ := mem_timesOf.1 ht
      exact hsooner.next.1 c hc
    rw [remaining_of_decision hv hallowed, inWindow_eq_recent] at hroom
    have hadmits : SlidingWindow.admits l.limit l.windowMs
        (timesOf v.check.identifier v.earlier ++
          v.check.nowMs :: timesOf v.check.identifier between) v'.check.nowMs = true := by
      have hlength : (timesOf v.check.identifier between).length =
          (requestsOf v.check.identifier between).length := List.length_map _
      exact SlidingWindow.admits_next hearlier (hlater.next.1 v.check hmem) (by omega)
    have htimes : timesOf v'.check.identifier v'.earlier =
        timesOf v.check.identifier v.earlier ++
          v.check.nowMs :: timesOf v.check.identifier between := by
      rw [hk, hbetween, timesOf, requestsOf_append, requestsOf_cons, if_pos rfl, List.map_append]
      rfl
    rw [allowed_iff_of_decision hv', inWindow_eq_recent, htimes]
    exact of_decide_eq_true hadmits
  · exact decisionsOf_verdictsFrom (tracks_empty l) h (tracks_empty l)

/-- Three requests of one identifier around one of another, for a limiter that allows one
a second. -/
def secondly : List Check :=
  [{ nowMs := 0, uuid := 0, identifier := "a" }, { nowMs := 1, uuid := 1, identifier := "b" },
    { nowMs := 500, uuid := 2, identifier := "a" }, { nowMs := 1600, uuid := 3, identifier := "a" }]

theorem limiter_secondly :
    admittedTimes "a" (RedisSlidingWindowLimiter.verdicts ⟨"test", 1, 1⟩ secondly) = [0, 1600] ∧
      decisionsOf "a" (RedisSlidingWindowLimiter.verdicts ⟨"test", 1, 1⟩ secondly) =
        decisionsOf "a" (RedisSlidingWindowLimiter.verdicts ⟨"test", 1, 1⟩
          (requestsOf "a" secondly)) := by
  have horderly : Orderly secondly := ⟨by decide, by decide, by decide⟩
  refine ⟨by decide +kernel, ?_⟩
  exact (limiter_slidingWindow ⟨"test", 1, 1⟩ secondly horderly).2.2.2 "a"

/-- The requests of a sender that get to `LeadService.create` within a minute from `a`. -/
def admittedInMinute (p : Platform) (s : Settings) (posts : List Post) (sender : String)
    (a : ℤ) : ℕ :=
  (intake posts).countP fun o ↦ decide (o.1.sender = sender ∧ o.1.admitted p s o.2 = true ∧
    a ≤ o.1.checkEnv.nowMs ∧ o.1.checkEnv.nowMs < a + 60000)

/-- The identifier is allowed to go on, within a minute from `a`. -/
def allowedInMinute (ip : String) (a : ℤ) (o : Check × RateLimitResult) : Bool :=
  decide ((o.1.identifier = ip ∧ o.2.allowed = true) ∧ a ≤ o.1.nowMs ∧ o.1.nowMs < a + 60000)

theorem countP_allowedInMinute (verdicts : List Verdict) (ip : String) (a : ℤ) :
    (verdicts.map fun v ↦ (v.check, v.result)).countP (allowedInMinute ip a) =
      (admittedTimes ip verdicts).countP fun t : ℕ ↦ decide (a ≤ t ∧ t < a + 60000) := by
  rw [List.countP_map, admittedTimes, List.countP_map, List.countP_filter]
  refine List.countP_congr fun v _ ↦ ?_
  simp only [allowedInMinute, Function.comp_apply, Bool.and_eq_true, decide_eq_true_eq]
  exact and_comm

/-- **A sender whom the code knows by one identifier is held to the limit.** -/
theorem intake_bounded (p : Platform) (s : Settings) (posts : List Post)
    (h : Orderly (posts.map Post.check)) (sender : String) (ip : String)
    (hip : ∀ q ∈ posts, q.sender = sender → RateLimit.clientIp q.inbound = ip) (a : ℤ) :
    admittedInMinute p s posts sender a ≤ 20 := by
  have hmember : ∀ o ∈ intake posts, o.1 ∈ posts := fun o ho ↦ (List.of_mem_zip ho).1
  calc admittedInMinute p s posts sender a
    _ ≤ (intake posts).countP (allowedInMinute ip a ∘ fun o ↦ (o.1.check, o.2)) := by
      refine List.countP_mono_left fun o ho hadmitted ↦ ?_
      obtain ⟨hsender, hadmitted, htime⟩ := of_decide_eq_true hadmitted
      exact decide_eq_true
        ⟨⟨hip o.1 (hmember o ho) hsender, Post.allowed_of_admitted hadmitted⟩, htime⟩
    _ = ((intake posts).map fun o ↦ (o.1.check, o.2)).countP (allowedInMinute ip a) :=
      List.countP_map.symm
    _ = (admittedTimes ip (RateLimit.leadPostLimiter.verdicts (posts.map Post.check))).countP
        (fun t : ℕ ↦ decide (a ≤ t ∧ t < a + 60000)) := by
      rw [map_intake, countP_allowedInMinute]
    _ ≤ 20 := by
      have hlimit := countP_admittedTimes_le (l := RateLimit.leadPostLimiter) h ip a
      have hwindow : (RateLimit.leadPostLimiter.windowMs : ℤ) = 60000 := rfl
      rw [hwindow] at hlimit
      exact hlimit

/-! ### A sender who counts up -/

/-- A request of one sender, at a time, that says where it comes from. -/
def postClaiming (forwardedFor : String) (nowMs : ℕ) : Post where
  sender := "203.0.113.5"
  headers := [("X-Forwarded-For", forwardedFor)]
  proxy := none
  body :=
    { name := "Ada", email := "ada@example.com", phone := none, company := none,
      vertical := .general,
      channel := .webForm, sourceUrl := none, notes := none, role := none }
  user := .error .unhandled
  env := .sample nowMs
  checkEnv := { nowMs, uuid := nowMs }

/-- Requests that each claim to come from somewhere else, one in each millisecond. -/
def countingUp : List Post := (List.range 21).map fun n ↦ postClaiming (toString n) n

/-- Requests that all claim to come from the same place. -/
def unvarying : List Post := (List.range 21).map fun n ↦ postClaiming "203.0.113.5" n

theorem orderly_countingUp : Orderly (countingUp.map Post.check) :=
  ⟨by decide +kernel, by decide +kernel, by decide +kernel⟩

theorem orderly_unvarying : Orderly (unvarying.map Post.check) :=
  ⟨by decide +kernel, by decide +kernel, by decide +kernel⟩

/-- A sender who does not vary the header. -/
theorem intake_bounded_unvarying :
    admittedInMinute .sample .sample unvarying "203.0.113.5" 0 ≤ 20 :=
  intake_bounded .sample .sample unvarying orderly_unvarying "203.0.113.5" "203.0.113.5"
    (by decide +kernel) 0

/-- **A sender who counts up** gets 21 requests through within 21 milliseconds. -/
theorem intake_unbounded :
    ¬∀ posts : List Post, Orderly (posts.map Post.check) → ∀ (sender : String) (a : ℤ),
      admittedInMinute .sample .sample posts sender a ≤ 20 := by
  intro hall
  have hcount : admittedInMinute .sample .sample countingUp "203.0.113.5" 0 = 21 := by
    decide +kernel
  have hle := hall countingUp orderly_countingUp "203.0.113.5" 0
  omega

end ZanovixCrm
