import ZanovixCrm.Database.Columns
import ZanovixCrm.Library.SlidingWindow
import ZanovixCrm.Library.SortedSets

/-!
# The rate limiter

`RedisSlidingWindowLimiter` keeps the requests of each identifier in a sorted set, scored by their
time in milliseconds. A check is one pipeline, which Redis executes as a whole: drop what has left
the window, count, add the request, set the time to live. A request that is turned away has been
added as well; `ZRANGE` then asks for the oldest one, in a command of its own, and by then other
pipelines may have been executed.

The set holds fewer requests than have been made, and it vanishes when no request comes for a while.
What it never lacks is a request that can still be in the window of a later one (`Tracks`). So the
answers are those of the log of all requests (`decision_verdictsFrom`).
-/

namespace ZanovixCrm

/-- `RateLimitResult`. -/
structure RateLimitResult where
  allowed : Bool
  remaining : ℤ := 0
  retryAfter : ℤ := 0
  failOpen : Bool := false
deriving DecidableEq

/-- A member of the set: the time and a fresh UUID, joined by a hyphen. -/
structure Member where
  nowMs : ℕ
  uuid : UUID
deriving DecidableEq

/-- How the connection to Redis fares in a check. -/
inductive Connection where
  | up
  /-- The pipeline does not reach the server. -/
  | unreached
  /-- The pipeline is executed, but its answer does not arrive. -/
  | unanswered
  /-- `ZRANGE` fails. -/
  | noRange
deriving DecidableEq

/-- What a check takes from its surroundings. -/
structure CheckEnv where
  /-- The time, in milliseconds. -/
  nowMs : ℕ
  /-- `uuid.uuid4()`. -/
  uuid : UUID
  connection : Connection := .up
  /-- The number of other pipelines that Redis executes before it gets to the `ZRANGE`. -/
  lag : ℕ := 0
  /-- When it gets there. -/
  rangedAt : ℕ := 0
deriving DecidableEq

/-- A call of `check`. -/
structure Check extends CheckEnv where
  identifier : String
deriving DecidableEq

/-- Whether the request is allowed, and how many more are. -/
def RateLimitResult.decision (r : RateLimitResult) : Bool × ℤ := (r.allowed, r.remaining)

/-- The answer when Redis raises. -/
def RateLimitResult.open : RateLimitResult where
  allowed := true
  remaining := -1
  failOpen := true

/-- `RedisSlidingWindowLimiter`. -/
structure RedisSlidingWindowLimiter where
  keyPrefix : String
  limit : ℕ
  windowSeconds : ℕ

namespace RedisSlidingWindowLimiter

variable (l : RedisSlidingWindowLimiter)

/-- The key of an identifier. -/
def key (identifier : String) : String := l.keyPrefix ++ ":" ++ identifier

/-- The window, in milliseconds. -/
def windowMs : ℕ := l.windowSeconds * 1000

/-- What Redis stores. -/
abbrev Store : Type := SortedSets String Member

/-- The pipeline, with the answer to `ZCARD`. -/
def pipeline (m : Store) (c : Check) : Store × ℕ :=
  let key := l.key c.identifier
  let m := m.zremrangebyscore key 0 ((c.nowMs : ℤ) - l.windowMs) c.nowMs
  let countBefore := m.zcard key c.nowMs
  let m := m.zadd key ⟨⟨c.nowMs, c.uuid⟩, c.nowMs⟩ c.nowMs
  (m.expire key ((l.windowSeconds + 5) * 1000) c.nowMs, countBefore)

/-- What a check leaves in Redis. -/
def step (m : Store) (c : Check) : Store :=
  if c.connection = .unreached then m else (l.pipeline m c).1

/-- What a sequence of checks leaves in Redis. -/
def after (m : Store) (checks : List Check) : Store := checks.foldl l.step m

/-- `retry_after`, from the score of the oldest request. -/
def retryAfter (c : Check) : Option ℕ → ℤ
  | none => l.windowSeconds
  | some oldestScoreMs => max 1 (((oldestScoreMs : ℤ) + l.windowMs - c.nowMs).tdiv 1000)

/-- `check`, where Redis is in state `m` for the pipeline and in state `m'` for the `ZRANGE`. -/
def check (m : Store) (c : Check) (m' : Store) : RateLimitResult :=
  let countBefore := (l.pipeline m c).2
  match c.connection with
  | .unreached | .unanswered => .open
  | .up | .noRange =>
    if l.limit ≤ countBefore then
      if c.connection = .noRange then .open
      else
        { allowed := false
          retryAfter := l.retryAfter c (m'.zrangeFirst (l.key c.identifier) c.rangedAt) }
    else { allowed := true, remaining := l.limit - countBefore - 1 }

/-- A check, with the checks before it and its answer. -/
structure Verdict where
  earlier : List Check
  check : Check
  result : RateLimitResult
deriving DecidableEq

/-- The verdicts on the checks `later`, which come after `earlier`, from a state of Redis. -/
def verdictsFrom (m : Store) (earlier : List Check) : (later : List Check) → List Verdict
  | [] => []
  | c :: later =>
    ⟨earlier, c, l.check m c (l.after (l.step m c) (later.take c.lag))⟩ ::
      verdictsFrom (l.step m c) (earlier ++ [c]) later

/-- **The verdicts on a sequence of checks**, in the order in which Redis gets to
their pipelines. -/
def verdicts (checks : List Check) : List Verdict := l.verdictsFrom .empty [] checks

/-! ### The log of all requests -/

/-- The requests of an identifier. -/
def requestsOf (k : String) (checks : List Check) : List Check :=
  checks.filter fun c ↦ decide (c.identifier = k)

/-- The times of the requests of an identifier. -/
def timesOf (k : String) (checks : List Check) : List ℕ := (requestsOf k checks).map (·.nowMs)

/-- **The set holds what matters of the log**: of each identifier, exactly the requests that a
window from now on can contain, and nothing that was never requested. -/
structure Tracks (m : Store) (earlier : List Check) : Prop where
  window : ∀ k t t', (∀ c ∈ earlier, c.nowMs ≤ t) → t ≤ t' →
    (m.entries (l.key k) t).countP (fun x ↦ decide (t' < x.score + l.windowMs)) =
      SlidingWindow.recent l.windowMs (timesOf k earlier) t'
  known : ∀ k t, ∀ x ∈ m.entries (l.key k) t, ∃ c ∈ earlier, c.uuid = x.member.uuid

/-- **What the limiter relies on**: one clock, fresh UUIDs, and Redis. -/
structure Orderly (checks : List Check) : Prop where
  clock : checks.Pairwise fun c c' ↦ c.nowMs ≤ c'.nowMs
  uuids : (checks.map (·.uuid)).Nodup
  up : ∀ c ∈ checks, c.connection = .up

section Pipeline

variable {l} {m : Store} {c : Check} {k : String} {earlier : List Check}

theorem key_inj {k k' : String} : l.key k = l.key k' ↔ k = k' := String.append_right_inj _

theorem pipeline_of_ne (hk : k ≠ c.identifier) : (l.pipeline m c).1 (l.key k) = m (l.key k) := by
  have hne : l.key k ≠ l.key c.identifier := fun h ↦ hk (key_inj.1 h)
  calc (l.pipeline m c).1 (l.key k)
    _ = _ := SortedSets.expire_of_ne hne _
    _ = _ := SortedSets.zadd_of_ne hne _
    _ = m (l.key k) := SortedSets.zremrangebyscore_of_ne hne _ _

/-- What the pipeline does not drop is in the window. -/
theorem not_inRange (w t : ℕ) (x : Scored Member) :
    (!SortedSets.inRange 0 ((t : ℤ) - w) x) = decide (t < x.score + w) := by
  rw [SortedSets.inRange, ← decide_not]
  exact decide_eq_decide.2 (by omega)

/-- The count is that of the window. -/
theorem pipeline_snd : (l.pipeline m c).2 =
    (m.entries (l.key c.identifier) c.nowMs).countP fun x ↦
      decide (c.nowMs < x.score + l.windowMs) := by
  show SortedSets.zcard _ _ _ = _
  rw [SortedSets.zcard, SortedSets.entries_zremrangebyscore, ← List.countP_eq_length_filter]
  exact List.countP_congr fun x _ ↦ by rw [not_inRange]

/-- The entries after the pipeline, as long as they last. -/
theorem entries_pipeline
    (hfresh : ∀ x ∈ m.entries (l.key c.identifier) c.nowMs, x.member.uuid ≠ c.uuid) (t : ℕ) :
    (l.pipeline m c).1.entries (l.key c.identifier) t =
      if t ≤ c.nowMs + (l.windowSeconds + 5) * 1000 then
        (m.entries (l.key c.identifier) c.nowMs).filter
          (fun x ↦ decide (c.nowMs < x.score + l.windowMs)) ++ [⟨⟨c.nowMs, c.uuid⟩, c.nowMs⟩]
      else [] := by
  have hremaining : (m.zremrangebyscore (l.key c.identifier) 0 ((c.nowMs : ℤ) - l.windowMs)
      c.nowMs).entries (l.key c.identifier) c.nowMs =
        (m.entries (l.key c.identifier) c.nowMs).filter
          fun x ↦ decide (c.nowMs < x.score + l.windowMs) := by
    rw [SortedSets.entries_zremrangebyscore]
    exact List.filter_congr fun x _ ↦ not_inRange _ _ x
  show (SortedSets.expire _ _ _ _).entries _ _ = _
  rw [SortedSets.entries_expire, SortedSets.entries_zadd, hremaining]
  intro x hx hmember
  rw [hremaining] at hx
  exact hfresh x (List.mem_filter.1 hx).1 (congrArg Member.uuid hmember)

theorem requestsOf_cons (k : String) (c : Check) (checks : List Check) :
    requestsOf k (c :: checks) =
      if c.identifier = k then c :: requestsOf k checks else requestsOf k checks := by
  rw [requestsOf, List.filter_cons]
  by_cases hk : c.identifier = k
  · rw [if_pos hk, if_pos (decide_eq_true hk)]
    rfl
  · rw [if_neg hk, if_neg (by simpa using hk)]
    rfl

theorem requestsOf_append (k : String) (checks checks' : List Check) :
    requestsOf k (checks ++ checks') = requestsOf k checks ++ requestsOf k checks' :=
  List.filter_append _ _

theorem requestsOf_requestsOf (k : String) (checks : List Check) :
    requestsOf k (requestsOf k checks) = requestsOf k checks := by
  rw [requestsOf, requestsOf, List.filter_filter]
  simp only [Bool.and_self]

theorem timesOf_cons (k : String) (c : Check) (checks : List Check) :
    timesOf k (c :: checks) =
      if c.identifier = k then c.nowMs :: timesOf k checks else timesOf k checks := by
  rw [timesOf, requestsOf_cons]
  split
  · rfl
  · rfl

theorem timesOf_concat (k : String) (checks : List Check) (c : Check) :
    timesOf k (checks ++ [c]) = timesOf k checks ++ if c.identifier = k then [c.nowMs] else [] := by
  rw [timesOf, requestsOf_append, requestsOf_cons, List.map_append]
  split
  · rfl
  · rfl

theorem mem_timesOf {t : ℕ} {checks : List Check} :
    t ∈ timesOf k checks ↔ ∃ c ∈ checks, c.identifier = k ∧ c.nowMs = t := by
  rw [timesOf, List.mem_map]
  constructor
  · rintro ⟨c, hc, rfl⟩
    obtain ⟨hc, hk⟩ := List.mem_filter.1 hc
    exact ⟨c, hc, of_decide_eq_true hk, rfl⟩
  · rintro ⟨c, hc, hk, rfl⟩
    exact ⟨c, List.mem_filter.2 ⟨hc, decide_eq_true hk⟩, rfl⟩

theorem tracks_empty (l : RedisSlidingWindowLimiter) : l.Tracks .empty [] where
  window _ _ _ _ _ := rfl
  known _ _ _ hx := nomatch hx

/-- **One pipeline.** -/
theorem Tracks.step (h : l.Tracks m earlier) (hclock : ∀ c' ∈ earlier, c'.nowMs ≤ c.nowMs)
    (huuid : ∀ c' ∈ earlier, c'.uuid ≠ c.uuid) :
    l.Tracks (l.pipeline m c).1 (earlier ++ [c]) := by
  have hfresh : ∀ x ∈ m.entries (l.key c.identifier) c.nowMs, x.member.uuid ≠ c.uuid := by
    intro x hx hx'
    obtain ⟨c', hc', hc''⟩ := h.known _ _ x hx
    exact huuid c' hc' (hc''.trans hx')
  constructor
  · intro k t t' hle ht
    have hnow : c.nowMs ≤ t := hle c (by simp)
    have hle' : ∀ c' ∈ earlier, c'.nowMs ≤ t := fun c' hc' ↦ hle c' (List.mem_append_left _ hc')
    by_cases hk : k = c.identifier
    · subst hk
      rw [entries_pipeline hfresh, timesOf_concat, if_pos rfl, SlidingWindow.recent_append]
      split
      · next hlive =>
        have hold := h.window c.identifier c.nowMs t' hclock (hnow.trans ht)
        have hdropped : ((m.entries (l.key c.identifier) c.nowMs).filter
            fun x ↦ decide (c.nowMs < x.score + l.windowMs)).countP
              (fun x ↦ decide (t' < x.score + l.windowMs)) =
            (m.entries (l.key c.identifier) c.nowMs).countP
              fun x ↦ decide (t' < x.score + l.windowMs) := by
          rw [List.countP_filter]
          refine List.countP_congr fun x _ ↦ ?_
          simp only [Bool.and_eq_true, decide_eq_true_eq]
          omega
        rw [List.countP_append, hdropped, hold]
        simp only [SlidingWindow.recent, List.countP_singleton, decide_eq_true_eq]
        have hc : c.nowMs ≤ t' := hnow.trans ht
        simp only [hc, true_and]
      · next hgone =>
        -- The key has expired, and so has every request.
        have hnone : ∀ ts : List ℕ, (∀ x ∈ ts, x ≤ c.nowMs) →
            SlidingWindow.recent l.windowMs ts t' = 0 := by
          refine fun ts hts ↦ List.countP_eq_zero.2 fun x hx hrecent ↦ ?_
          obtain ⟨-, hlt⟩ := of_decide_eq_true hrecent
          have hle := hts x hx
          rw [windowMs] at hlt
          omega
        rw [hnone, hnone]
        · rfl
        · simp
        · intro x hx
          obtain ⟨c', hc', -, rfl⟩ := mem_timesOf.1 hx
          exact hclock c' hc'
    · rw [SortedSets.entries_congr (pipeline_of_ne hk), timesOf_concat, if_neg (Ne.symm hk),
        List.append_nil]
      exact h.window k t t' hle' ht
  · intro k t x hx
    by_cases hk : k = c.identifier
    · subst hk
      rw [entries_pipeline hfresh] at hx
      split at hx
      · rcases List.mem_append.1 hx with hx | hx
        · obtain ⟨c', hc', hc''⟩ := h.known _ _ x (List.mem_filter.1 hx).1
          exact ⟨c', List.mem_append_left _ hc', hc''⟩
        · obtain rfl := List.mem_singleton.1 hx
          exact ⟨c, by simp, rfl⟩
      · exact nomatch hx
    · rw [SortedSets.entries_congr (pipeline_of_ne hk)] at hx
      obtain ⟨c', hc', hc''⟩ := h.known k t x hx
      exact ⟨c', List.mem_append_left _ hc', hc''⟩

end Pipeline

/-! ### The answers -/

/-- The number of requests of the identifier in the window that ends with the check. -/
def inWindow (earlier : List Check) (c : Check) : ℕ :=
  earlier.countP fun c' ↦ decide (c'.identifier = c.identifier ∧
    (c.nowMs : ℤ) - l.windowMs < c'.nowMs ∧ c'.nowMs ≤ c.nowMs)

/-- The decision of the log. -/
def logDecision (earlier : List Check) (c : Check) : Bool × ℤ :=
  if l.inWindow earlier c < l.limit then (true, l.limit - 1 - l.inWindow earlier c) else (false, 0)

section Answers

variable {l} {m m' : Store} {c : Check} {k : String} {earlier later : List Check}

theorem inWindow_eq_recent (l : RedisSlidingWindowLimiter) (earlier : List Check) (c : Check) :
    l.inWindow earlier c =
      SlidingWindow.recent l.windowMs (timesOf c.identifier earlier) c.nowMs := by
  rw [SlidingWindow.recent, timesOf, requestsOf, List.countP_map, List.countP_filter, inWindow]
  refine List.countP_congr fun c' _ ↦ ?_
  simp only [Function.comp_apply, Bool.and_eq_true, decide_eq_true_eq]
  constructor
  · rintro ⟨hk, hlt, hle⟩
    exact ⟨⟨hle, by omega⟩, hk⟩
  · rintro ⟨⟨hle, hlt⟩, hk⟩
    exact ⟨hk, by omega, hle⟩

/-- The requests of other identifiers do not count. -/
theorem logDecision_requestsOf (l : RedisSlidingWindowLimiter) (earlier : List Check) (c : Check) :
    l.logDecision (requestsOf c.identifier earlier) c = l.logDecision earlier c := by
  have hsame : l.inWindow (requestsOf c.identifier earlier) c = l.inWindow earlier c := by
    rw [inWindow_eq_recent, inWindow_eq_recent, timesOf, requestsOf_requestsOf, ← timesOf]
  rw [logDecision, logDecision, hsame]

/-- **The answer of a check**, where Redis has what matters of the log. -/
theorem check_of_tracks (h : l.Tracks m earlier) (hup : c.connection = .up)
    (hclock : ∀ c' ∈ earlier, c'.nowMs ≤ c.nowMs) (m' : Store) :
    (l.check m c m').decision = l.logDecision earlier c := by
  have hcount : (l.pipeline m c).2 = l.inWindow earlier c := by
    rw [pipeline_snd, inWindow_eq_recent]
    exact h.window c.identifier c.nowMs c.nowMs hclock le_rfl
  simp only [check, hup, hcount]
  split
  · next hfull =>
    have hfull' : ¬ l.inWindow earlier c < l.limit := Nat.not_lt.2 hfull
    rw [logDecision, if_neg hfull']
    rfl
  · next hroom =>
    have hroom' : l.inWindow earlier c < l.limit := Nat.lt_of_not_le hroom
    rw [logDecision, if_pos hroom']
    refine Prod.ext rfl ?_
    show (l.limit : ℤ) - l.inWindow earlier c - 1 = (l.limit : ℤ) - 1 - l.inWindow earlier c
    omega

theorem step_of_up (hup : c.connection = .up) : l.step m c = (l.pipeline m c).1 := by
  rw [step, hup]
  rfl

/-- The first of the checks that are left is made in order. -/
theorem Orderly.next (h : Orderly (earlier ++ c :: later)) :
    (∀ c' ∈ earlier, c'.nowMs ≤ c.nowMs) ∧ (∀ c' ∈ earlier, c'.uuid ≠ c.uuid) ∧
      c.connection = .up := by
  refine ⟨fun c' hc' ↦ ?_, fun c' hc' ↦ ?_, h.up c (by simp)⟩
  · exact (List.pairwise_append.1 h.clock).2.2 c' hc' c List.mem_cons_self
  · have huuids := h.uuids
    rw [List.map_append, List.nodup_append] at huuids
    exact huuids.2.2 _ (List.mem_map_of_mem hc') _ (by simp)

theorem Orderly.sublist {checks checks' : List Check} (h : Orderly checks)
    (hsub : checks'.Sublist checks) : Orderly checks' where
  clock := h.clock.sublist hsub
  uuids := h.uuids.sublist (hsub.map _)
  up c hc := h.up c (hsub.subset hc)

theorem Tracks.next (h : l.Tracks m earlier) (ho : Orderly (earlier ++ c :: later)) :
    l.Tracks (l.step m c) (earlier ++ [c]) := by
  obtain ⟨hclock, huuid, hup⟩ := ho.next
  rw [step_of_up hup]
  exact h.step hclock huuid

/-- Every check has a verdict. -/
theorem map_check_verdictsFrom (m : Store) (earlier later : List Check) :
    (l.verdictsFrom m earlier later).map Verdict.check = later := by
  induction later generalizing m earlier with
  | nil => rfl
  | cons c later ih => rw [verdictsFrom, List.map_cons, ih]

/-- **Every decision is that of the log.** -/
theorem decision_verdictsFrom (h : l.Tracks m earlier) (ho : Orderly (earlier ++ later))
    {v : Verdict}
    (hv : v ∈ l.verdictsFrom m earlier later) :
    (∃ rest, earlier ++ later = v.earlier ++ v.check :: rest) ∧
      v.result.decision = l.logDecision v.earlier v.check := by
  induction later generalizing m earlier with
  | nil => exact nomatch hv
  | cons c later ih =>
    rcases List.mem_cons.1 hv with rfl | hv
    · obtain ⟨hclock, -, hup⟩ := ho.next
      exact ⟨⟨later, rfl⟩, check_of_tracks h hup hclock _⟩
    · have happend : earlier ++ c :: later = earlier ++ [c] ++ later := by simp
      rw [happend]
      exact ih (h.next ho) (happend ▸ ho) hv

theorem allowed_iff_of_decision {r : RateLimitResult} (h : r.decision = l.logDecision earlier c) :
    r.allowed = true ↔ l.inWindow earlier c < l.limit := by
  have hallowed : r.allowed = (l.logDecision earlier c).1 := congrArg Prod.fst h
  rw [hallowed, logDecision]
  split
  · next hroom => exact iff_of_true rfl hroom
  · next hfull => exact iff_of_false Bool.false_ne_true hfull

theorem remaining_of_decision {r : RateLimitResult} (h : r.decision = l.logDecision earlier c)
    (hallowed : r.allowed = true) : r.remaining = (l.limit : ℤ) - 1 - l.inWindow earlier c := by
  have hremaining : r.remaining = (l.logDecision earlier c).2 := congrArg Prod.snd h
  rw [hremaining, logDecision, if_pos ((allowed_iff_of_decision h).1 hallowed)]

/-! ### One identifier -/

/-- The times at which an identifier is admitted. -/
def admittedTimes (k : String) (verdicts : List Verdict) : List ℕ :=
  (verdicts.filter fun v ↦ decide (v.check.identifier = k ∧ v.result.allowed = true)).map fun v ↦
    v.check.nowMs

theorem admittedTimes_cons (k : String) (v : Verdict) (verdicts : List Verdict) :
    admittedTimes k (v :: verdicts) =
      if v.check.identifier = k ∧ v.result.allowed = true then
        v.check.nowMs :: admittedTimes k verdicts
      else admittedTimes k verdicts := by
  rw [admittedTimes, List.filter_cons]
  by_cases hv : v.check.identifier = k ∧ v.result.allowed = true
  · rw [if_pos hv, if_pos (decide_eq_true hv)]
    rfl
  · rw [if_neg hv, if_neg (by simpa using hv)]
    rfl

/-- **The admitted requests of an identifier** are those that the log of its own requests admits. -/
theorem admittedTimes_verdictsFrom (h : l.Tracks m earlier) (ho : Orderly (earlier ++ later))
    (k : String) : admittedTimes k (l.verdictsFrom m earlier later) =
      SlidingWindow.admittedAfter l.limit l.windowMs (timesOf k earlier) (timesOf k later) := by
  induction later generalizing m earlier with
  | nil => rfl
  | cons c later ih =>
    obtain ⟨hclock, -, hup⟩ := ho.next
    have happend : earlier ++ c :: later = earlier ++ [c] ++ later := by simp
    have htail := ih (h.next ho) (happend ▸ ho)
    have hanswer := allowed_iff_of_decision (check_of_tracks h hup hclock
      (l.after (l.step m c) (later.take c.lag)))
    rw [inWindow_eq_recent] at hanswer
    rw [verdictsFrom, admittedTimes_cons, htail, timesOf_cons, timesOf_concat]
    by_cases hk : c.identifier = k
    · subst hk
      simp only [true_and, if_true]
      rw [SlidingWindow.admittedAfter]
      by_cases hadmits : SlidingWindow.admits l.limit l.windowMs (timesOf c.identifier earlier)
          c.nowMs = true
      · rw [if_pos (hanswer.2 (of_decide_eq_true hadmits)), if_pos hadmits]
      · rw [if_neg fun hallowed ↦ hadmits (decide_eq_true (hanswer.1 hallowed)), if_neg hadmits]
    · rw [if_neg fun h ↦ hk h.1, if_neg hk, if_neg hk, List.append_nil]

/-- What an identifier gets to hear. -/
def decisionsOf (k : String) (verdicts : List Verdict) : List (Check × Bool × ℤ) :=
  (verdicts.filter fun v ↦ decide (v.check.identifier = k)).map fun v ↦ (v.check, v.result.decision)

theorem decisionsOf_cons (k : String) (v : Verdict) (verdicts : List Verdict) :
    decisionsOf k (v :: verdicts) =
      if v.check.identifier = k then (v.check, v.result.decision) :: decisionsOf k verdicts
      else decisionsOf k verdicts := by
  rw [decisionsOf, List.filter_cons]
  by_cases hk : v.check.identifier = k
  · rw [if_pos hk, if_pos (decide_eq_true hk)]
    rfl
  · rw [if_neg hk, if_neg (by simpa using hk)]
    rfl

/-- **An identifier gets to hear the same as if it were alone.** -/
theorem decisionsOf_verdictsFrom (h : l.Tracks m earlier) (ho : Orderly (earlier ++ later))
    (h' : l.Tracks m' (requestsOf k earlier)) :
    decisionsOf k (l.verdictsFrom m earlier later) =
      decisionsOf k (l.verdictsFrom m' (requestsOf k earlier) (requestsOf k later)) := by
  induction later generalizing m m' earlier with
  | nil => rfl
  | cons c later ih =>
    obtain ⟨hclock, -, hup⟩ := ho.next
    have happend : earlier ++ c :: later = earlier ++ [c] ++ later := by simp
    have hnext := h.next ho
    have hconcat := requestsOf_append k earlier [c]
    rw [requestsOf_cons] at hconcat
    rw [verdictsFrom, decisionsOf_cons, requestsOf_cons]
    by_cases hk : c.identifier = k
    · subst hk
      rw [if_pos rfl] at hconcat
      rw [if_pos rfl, if_pos rfl, verdictsFrom, decisionsOf_cons, if_pos rfl]
      have ho' := ho.sublist (List.filter_sublist
        (p := fun c' ↦ decide (c'.identifier = c.identifier)))
      rw [← requestsOf, requestsOf_append, requestsOf_cons, if_pos rfl] at ho'
      have htail := ih hnext (happend ▸ ho) (hconcat ▸ h'.next ho')
      have hdecision := check_of_tracks h hup hclock (l.after (l.step m c) (later.take c.lag))
      have hdecision' := check_of_tracks h' hup ho'.next.1
        (l.after (l.step m' c) ((requestsOf c.identifier later).take c.lag))
      rw [logDecision_requestsOf] at hdecision'
      rw [htail, hdecision, hdecision', hconcat]
      rfl
    · rw [if_neg hk] at hconcat
      have hsame : requestsOf k (earlier ++ [c]) = requestsOf k earlier := by
        rw [hconcat]
        exact List.append_nil _
      rw [if_neg hk, if_neg hk, ih hnext (happend ▸ ho) (hsame ▸ h'), hsame]

theorem timesOf_pairwise {checks : List Check} (ho : Orderly checks) (k : String) :
    (timesOf k checks).Pairwise (· ≤ ·) :=
  List.pairwise_map.2 (ho.clock.sublist List.filter_sublist)

/-- **The limit**: at most `limit` admitted requests of an identifier in a window. -/
theorem countP_admittedTimes_le {checks : List Check} (ho : Orderly checks) (k : String) (a : ℤ) :
    (admittedTimes k (l.verdicts checks)).countP
      (fun t : ℕ ↦ decide (a ≤ t ∧ t < a + l.windowMs)) ≤ l.limit := by
  have hwindow : ∀ t t' : ℕ, decide (a ≤ t ∧ t < a + l.windowMs) = true →
      decide (a ≤ t' ∧ t' < a + l.windowMs) = true → t' < t + l.windowMs := by
    intro t t' ht ht'
    simp only [decide_eq_true_eq] at ht ht'
    omega
  rw [verdicts, admittedTimes_verdictsFrom (tracks_empty l) ho]
  exact SlidingWindow.countP_admitted_le (timesOf_pairwise ho k) hwindow

end Answers

end RedisSlidingWindowLimiter

end ZanovixCrm
