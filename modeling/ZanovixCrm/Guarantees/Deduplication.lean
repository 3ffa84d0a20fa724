import Mathlib.Data.List.Nodup
import Mathlib.Order.Nat
import ZanovixCrm.AdminPanel.ApiClient
import ZanovixCrm.Library.Transitions

/-!
# Shared requests

The map of the client is exact: it has an entry for an endpoint as long as a `GET` for it is in
flight, and there is never more than one (`ApiClient.Consistent`). But it knows endpoints only. A
`GET` that is called after a mutation, or under another token, is answered by a request from before
if one is still in flight, and so somebody who logs in can be answered that they are not logged in
(`login_stale`). Nothing else makes an answer stale: every answer comes from a request that was
started, with the caller's token, after all that the client had done before the call, exactly if no
call has met an older request (`deduplication_fresh_iff`).
-/

namespace ZanovixCrm

namespace ApiClient

/-- The request with this number and token is newer than all that the client had done before the
call. -/
def Fresh (caller : Caller) (fetch : ℕ) (token : Option String) : Prop :=
  caller.lastAction < fetch ∧ token = caller.token

/-- **Every call is answered by a fresh request**, or waits for one. -/
structure AllFresh (c : ApiClient) : Prop where
  waiting : ∀ r ∈ c.requests, ∀ caller ∈ r.callers, Fresh caller r.id r.token
  answered : ∀ o ∈ c.outcomes, Fresh o.caller o.fetch o.fetchToken

/-- A `GET` meets no request from before the last action. -/
def Timely (c : ApiClient) : ApiEvent → Prop
  | .get endpoint => ∀ id ∈ c.inflight endpoint, c.lastAction < id
  | _ => True

instance (c : ApiClient) : (e : ApiEvent) → Decidable (c.Timely e)
  | .get endpoint => inferInstanceAs (Decidable (∀ id ∈ c.inflight endpoint, c.lastAction < id))
  | .send _ _ | .setToken _ | .headers _ _ | .body _ _ | .fail _ => isTrue trivial

/-- **The map is exact**, and a request that is newer than the last action carries the token. The
requests go by numbers below `bound`. -/
structure Consistent (bound : ℕ) (c : ApiClient) : Prop where
  ids : (c.requests.map InFlight.id).Nodup
  below : ∀ r ∈ c.requests, r.id < bound
  entry : ∀ e id, c.inflight e = some id ↔
    ∃ r ∈ c.requests, r.id = id ∧ r.purpose = .get ∧ r.endpoint = e
  token : ∀ r ∈ c.requests, c.lastAction < r.id → r.token = c.token
  lastAction : c.lastAction < bound

section Consistent

variable {c : ApiClient} {bound : ℕ}

theorem Consistent.mono {bound' : ℕ} (h : c.Consistent bound) (hle : bound ≤ bound') :
    c.Consistent bound' :=
  { h with
    below := fun r hr ↦ (h.below r hr).trans_le hle
    lastAction := h.lastAction.trans_le hle }

/-- **At most one `GET` for an endpoint** is in flight. -/
theorem Consistent.unique (h : c.Consistent bound) {r r' : InFlight} (hr : r ∈ c.requests)
    (hr' : r' ∈ c.requests) (hget : r.purpose = .get) (hget' : r'.purpose = .get)
    (hendpoint : r.endpoint = r'.endpoint) : r = r' := by
  have hentry : c.inflight r.endpoint = some r.id := (h.entry _ _).2 ⟨r, hr, rfl, hget, rfl⟩
  have hentry' : c.inflight r.endpoint = some r'.id :=
    (h.entry _ _).2 ⟨r', hr', rfl, hget', hendpoint.symm⟩
  exact List.inj_on_of_nodup_map h.ids hr hr' (Option.some.inj (hentry.symm.trans hentry'))

/-- Requests may learn of their status and of further callers. -/
theorem Consistent.map (h : c.Consistent bound) {g : InFlight → InFlight}
    (hid : ∀ r, (g r).id = r.id) (hendpoint : ∀ r, (g r).endpoint = r.endpoint)
    (hpurpose : ∀ r, (g r).purpose = r.purpose) (htoken : ∀ r, (g r).token = r.token) :
    Consistent bound { c with requests := c.requests.map g } where
  ids := by
    have hsame : (c.requests.map g).map InFlight.id = c.requests.map InFlight.id := by
      rw [List.map_map]
      exact List.map_congr_left fun r _ ↦ hid r
    exact hsame ▸ h.ids
  below r hr := by
    obtain ⟨r₀, hr₀, rfl⟩ := List.mem_map.1 hr
    rw [hid]
    exact h.below r₀ hr₀
  entry e id := by
    rw [h.entry]
    constructor
    · rintro ⟨r, hr, hr'⟩
      refine ⟨g r, List.mem_map_of_mem hr, ?_⟩
      rwa [hid, hpurpose, hendpoint]
    · rintro ⟨_, hr, hr'⟩
      obtain ⟨r₀, hr₀, rfl⟩ := List.mem_map.1 hr
      rw [hid, hpurpose, hendpoint] at hr'
      exact ⟨r₀, hr₀, hr'⟩
  token r hr hlt := by
    obtain ⟨r₀, hr₀, rfl⟩ := List.mem_map.1 hr
    rw [hid] at hlt
    rw [htoken]
    exact h.token r₀ hr₀ hlt
  lastAction := h.lastAction

/-- The client acts: it resolves another method, or sets the token. -/
theorem Consistent.act (h : c.Consistent c.clock) (token : Option String) :
    Consistent (c.clock + 1) { c with token := token, lastAction := c.clock } where
  ids := h.ids
  below r hr := (h.below r hr).trans (Nat.lt_succ_self _)
  entry := h.entry
  token r hr hlt := absurd hlt (Nat.lt_asymm (h.below r hr))
  lastAction := Nat.lt_succ_self _

/-- A request is started. -/
theorem Consistent.append (h : c.Consistent c.clock) {r : InFlight} (hid : r.id = c.clock)
    (htoken : r.token = c.token) {inflight : String → Option ℕ}
    (hentry : ∀ e id, inflight e = some id ↔ c.inflight e = some id ∨
      id = c.clock ∧ r.purpose = .get ∧ r.endpoint = e) :
    Consistent (c.clock + 1) { c with inflight := inflight, requests := c.requests ++ [r] } where
  ids := by
    rw [List.map_append]
    refine List.nodup_append.2 ⟨h.ids, List.nodup_singleton _, fun id hid' id' hid'' ↦ ?_⟩
    obtain ⟨r₀, hr₀, rfl⟩ := List.mem_map.1 hid'
    rw [List.mem_singleton.1 hid'', hid]
    exact (h.below r₀ hr₀).ne
  below r' hr' := by
    rcases List.mem_append.1 hr' with hr' | hr'
    · exact (h.below r' hr').trans (Nat.lt_succ_self _)
    · rw [List.mem_singleton.1 hr', hid]
      exact Nat.lt_succ_self _
  entry e id := by
    rw [hentry, h.entry]
    constructor
    · rintro (⟨r', hr', hr''⟩ | ⟨rfl, hr''⟩)
      · exact ⟨r', List.mem_append_left _ hr', hr''⟩
      · exact ⟨r, List.mem_append_right _ (List.mem_singleton_self r), hid, hr''⟩
    · rintro ⟨r', hr', rfl, hr''⟩
      rcases List.mem_append.1 hr' with hr' | hr'
      · exact Or.inl ⟨r', hr', rfl, hr''⟩
      · obtain rfl := List.mem_singleton.1 hr'
        exact Or.inr ⟨hid, hr''⟩
  token r' hr' hlt := by
    rcases List.mem_append.1 hr' with hr' | hr'
    · exact h.token r' hr' hlt
    · rw [List.mem_singleton.1 hr', htoken]
  lastAction := h.lastAction.trans (Nat.lt_succ_self _)

/-- A request settles. -/
theorem Consistent.settle (h : c.Consistent bound) {r : InFlight} (hr : r ∈ c.requests)
    (value : Option String) : (c.settle r value).Consistent bound := by
  have hrest : ∀ r', r' ∈ c.requests.filter (fun r' ↦ !decide (r'.id = r.id)) ↔
      r' ∈ c.requests ∧ r'.id ≠ r.id := by
    intro r'
    rw [List.mem_filter, Bool.not_eq_true', decide_eq_false_iff_not]
  have hids : ((c.requests.filter fun r' ↦ !decide (r'.id = r.id)).map InFlight.id).Nodup :=
    h.ids.sublist (List.filter_sublist.map _)
  rw [ApiClient.settle]
  split
  · next hget =>
    refine ⟨hids, fun r' hr' ↦ h.below r' ((hrest r').1 hr').1, fun e id ↦ ?_,
      fun r' hr' ↦ h.token r' ((hrest r').1 hr').1, h.lastAction⟩
    show (if e = r.endpoint then none else c.inflight e) = some id ↔ _
    split
    · next he =>
      refine iff_of_false (fun h ↦ nomatch h) ?_
      rintro ⟨r', hr', -, hget', hendpoint⟩
      obtain ⟨hr', hne⟩ := (hrest r').1 hr'
      rw [h.unique hr' hr hget' hget (hendpoint.trans he)] at hne
      exact hne rfl
    · next he =>
      rw [h.entry]
      constructor
      · rintro ⟨r', hr', hid, hget', rfl⟩
        refine ⟨r', (hrest r').2 ⟨hr', fun hid' ↦ he ?_⟩, hid, hget', rfl⟩
        rw [List.inj_on_of_nodup_map h.ids hr' hr hid']
      · rintro ⟨r', hr', hr''⟩
        exact ⟨r', ((hrest r').1 hr').1, hr''⟩
  · next hget =>
    refine ⟨hids, fun r' hr' ↦ h.below r' ((hrest r').1 hr').1, fun e id ↦ ?_,
      fun r' hr' ↦ h.token r' ((hrest r').1 hr').1, h.lastAction⟩
    show c.inflight e = some id ↔ _
    rw [h.entry]
    constructor
    · rintro ⟨r', hr', hid, hget', hendpoint⟩
      refine ⟨r', (hrest r').2 ⟨hr', fun hid' ↦ hget ?_⟩, hid, hget', hendpoint⟩
      rwa [List.inj_on_of_nodup_map h.ids hr' hr hid'] at hget'
    · rintro ⟨r', hr', hr''⟩
      exact ⟨r', ((hrest r').1 hr').1, hr''⟩

/-! ### One event -/

theorem mem_requests_of_find? {id : ℕ} {r : InFlight} (h : c.find? id = some r) : r ∈ c.requests :=
  List.mem_of_find?_eq_some h

/-- The caller of another method goes on. -/
theorem Consistent.proceed (h : c.Consistent c.clock) (purpose : Purpose) (reply : Option Reply) :
    (c.proceed purpose reply).Consistent (c.clock + 1) := by
  have hsame := h.mono (Nat.le_succ _)
  rw [ApiClient.proceed.eq_def]
  split
  · exact hsame
  · exact h.act c.token
  · exact hsame
  · exact h.act _
  · exact hsame
  · exact h.act none

theorem clock_settle (r : InFlight) (value : Option String) :
    (c.settle r value).clock = c.clock := by
  rw [ApiClient.settle]
  split
  · rfl
  · rfl

/-- A request is resolved or rejected. -/
theorem Consistent.finish (h : c.Consistent c.clock) {r : InFlight} (hr : r ∈ c.requests)
    (reply : Option Reply) : (c.finish r reply).Consistent (c.clock + 1) := by
  have hsettled := h.settle hr (reply.map Reply.text)
  rw [← clock_settle r (reply.map Reply.text)] at hsettled ⊢
  exact hsettled.proceed r.purpose reply

/-- What an event does to a consistent client. -/
theorem Consistent.perform (h : c.Consistent c.clock) (e : ApiEvent) :
    (c.perform e).Consistent (c.clock + 1) := by
  have hlater : c.Consistent (c.clock + 1) := h.mono (Nat.le_succ _)
  cases e with
  | get endpoint =>
    rw [ApiClient.perform, ApiClient.get]
    split
    · exact hlater.map (fun r ↦ by split <;> rfl) (fun r ↦ by split <;> rfl)
        (fun r ↦ by split <;> rfl) fun r ↦ by split <;> rfl
    · next hnone =>
      refine h.append rfl rfl fun e id ↦ ?_
      show (if e = endpoint then some c.clock else c.inflight e) = some id ↔ _
      split
      · next he =>
        subst he
        rw [hnone]
        simp [eq_comm]
      · next he => simp [Ne.symm he]
  | send endpoint purpose =>
    rw [ApiClient.perform]
    split
    · exact hlater
    · next hpurpose => exact h.append rfl rfl fun e id ↦ by simp [hpurpose]
  | setToken token => exact h.act token
  | headers id status =>
    rw [ApiClient.perform, ApiClient.headers]
    let learned : ApiClient := { c with
      requests := c.requests.map fun r ↦ if r.id = id then { r with status := some status } else r }
    have hlearned : learned.Consistent learned.clock :=
      h.map (fun r ↦ by split <;> rfl) (fun r ↦ by split <;> rfl) (fun r ↦ by split <;> rfl)
        fun r ↦ by split <;> rfl
    split
    · show (if status = 401 then learned.setToken none else learned).Consistent _
      split
      · exact hlearned.act none
      · exact hlearned.mono (Nat.le_succ _)
    · exact hlater
  | body id reply =>
    rw [ApiClient.perform]
    split
    · next r hr =>
      split
      · exact h.finish (mem_requests_of_find? hr) _
      · exact hlater
    · exact hlater
  | fail id =>
    rw [ApiClient.perform]
    split
    · next r hr => exact h.finish (mem_requests_of_find? hr) _
    · exact hlater

theorem Consistent.step (h : c.Consistent c.clock) (e : ApiEvent) :
    (c.step e).Consistent (c.step e).clock :=
  { h.perform e with }

theorem consistent_new : new.Consistent new.clock where
  ids := List.nodup_nil
  below _ hr := nomatch hr
  entry _ _ := ⟨fun h ↦ (nomatch h), fun ⟨_, hr, _⟩ ↦ (nomatch hr)⟩
  token _ hr := nomatch hr
  lastAction := Nat.one_pos

/-! ### Fresh answers -/

/-- Requests may learn of their status. -/
theorem allFresh_map {g : InFlight → InFlight} (hid : ∀ r, (g r).id = r.id)
    (htoken : ∀ r, (g r).token = r.token) (hcallers : ∀ r, (g r).callers = r.callers) :
    AllFresh { c with requests := c.requests.map g } ↔ c.AllFresh := by
  constructor
  · refine fun h ↦ ⟨fun r hr caller hcaller ↦ ?_, h.answered⟩
    have hfresh := h.waiting (g r) (List.mem_map_of_mem hr) caller (hcallers r ▸ hcaller)
    rwa [hid, htoken] at hfresh
  · refine fun h ↦ ⟨fun r hr caller hcaller ↦ ?_, h.answered⟩
    obtain ⟨r₀, hr₀, rfl⟩ := List.mem_map.1 hr
    rw [hid, htoken]
    exact h.waiting r₀ hr₀ caller (hcallers r₀ ▸ hcaller)

theorem allFresh_congr {c' : ApiClient} (hrequests : c'.requests = c.requests)
    (houtcomes : c'.outcomes = c.outcomes) : c'.AllFresh ↔ c.AllFresh := by
  constructor
  · exact fun h ↦ ⟨hrequests ▸ h.waiting, houtcomes ▸ h.answered⟩
  · exact fun h ↦ ⟨hrequests.symm ▸ h.waiting, houtcomes.symm ▸ h.answered⟩

/-- Who waits for a request is answered by it. -/
theorem allFresh_settle (h : c.Consistent bound) {r : InFlight} (hr : r ∈ c.requests)
    (value : Option String) : (c.settle r value).AllFresh ↔ c.AllFresh := by
  have hrequests : (c.settle r value).requests =
      c.requests.filter fun r' ↦ !decide (r'.id = r.id) := by
    rw [ApiClient.settle]
    split <;> rfl
  have houtcomes : (c.settle r value).outcomes =
      c.outcomes ++ r.callers.map fun caller ↦ ⟨caller, r.id, r.token, value⟩ := by
    rw [ApiClient.settle]
    split <;> rfl
  constructor
  · refine fun hfresh ↦ ⟨fun r' hr' caller hcaller ↦ ?_, fun o ho ↦ hfresh.answered o ?_⟩
    · by_cases hid : r'.id = r.id
      · obtain rfl := List.inj_on_of_nodup_map h.ids hr' hr hid
        refine hfresh.answered ⟨caller, r'.id, r'.token, value⟩ ?_
        rw [houtcomes]
        exact List.mem_append_right _ (List.mem_map_of_mem hcaller)
      · refine hfresh.waiting r' ?_ caller hcaller
        rw [hrequests, List.mem_filter]
        exact ⟨hr', by simpa using hid⟩
    · rw [houtcomes]
      exact List.mem_append_left _ ho
  · refine fun hfresh ↦ ⟨fun r' hr' ↦ ?_, fun o ho ↦ ?_⟩
    · rw [hrequests] at hr'
      exact hfresh.waiting r' (List.mem_filter.1 hr').1
    · rw [houtcomes] at ho
      rcases List.mem_append.1 ho with ho | ho
      · exact hfresh.answered o ho
      · obtain ⟨caller, hcaller, rfl⟩ := List.mem_map.1 ho
        exact hfresh.waiting r hr caller hcaller

theorem allFresh_finish (h : c.Consistent bound) {r : InFlight} (hr : r ∈ c.requests)
    (reply : Option Reply) : (c.finish r reply).AllFresh ↔ c.AllFresh := by
  rw [← allFresh_settle h hr (reply.map Reply.text), ApiClient.finish, ApiClient.proceed.eq_def]
  refine allFresh_congr ?_ ?_
  · split <;> rfl
  · split <;> rfl

/-- **A `GET` that joins a request** is answered afresh if the request is newer than the
last action. -/
theorem allFresh_join_iff (h : c.Consistent bound) {endpoint : String} {id : ℕ}
    (hid : c.inflight endpoint = some id) :
    AllFresh { c with
        requests := c.requests.map fun r ↦
          if r.id = id then { r with callers := r.callers ++ [c.caller] } else r } ↔
      c.AllFresh ∧ c.lastAction < id := by
  constructor
  · refine fun hfresh ↦ ⟨⟨fun r hr caller hcaller ↦ ?_, hfresh.answered⟩, ?_⟩
    · have hmem := List.mem_map_of_mem
        (f := fun r ↦ if r.id = id then { r with callers := r.callers ++ [c.caller] } else r) hr
      have hwaiting := hfresh.waiting _ hmem caller
      split at hwaiting
      · exact hwaiting (List.mem_append_left _ hcaller)
      · exact hwaiting hcaller
    · obtain ⟨r, hr, hid', -⟩ := (h.entry endpoint id).1 hid
      have hmem := List.mem_map_of_mem
        (f := fun r ↦ if r.id = id then { r with callers := r.callers ++ [c.caller] } else r) hr
      have hwaiting := hfresh.waiting _ hmem c.caller
      rw [if_pos hid'] at hwaiting
      exact hid' ▸ (hwaiting (List.mem_append_right _ (List.mem_singleton_self _))).1
  · rintro ⟨hfresh, hlt⟩
    refine ⟨fun r hr caller hcaller ↦ ?_, hfresh.answered⟩
    obtain ⟨r₀, hr₀, rfl⟩ := List.mem_map.1 hr
    by_cases hid' : r₀.id = id
    · rw [if_pos hid'] at hcaller ⊢
      rcases List.mem_append.1 hcaller with hcaller | hcaller
      · exact hfresh.waiting r₀ hr₀ caller hcaller
      · rw [List.mem_singleton.1 hcaller]
        have hnewer : c.lastAction < r₀.id := hid'.symm ▸ hlt
        exact ⟨hnewer, h.token r₀ hr₀ hnewer⟩
    · rw [if_neg hid'] at hcaller ⊢
      exact hfresh.waiting r₀ hr₀ caller hcaller

/-- A request is started, by a caller or by another method. -/
theorem allFresh_append {r : InFlight} (hr : ∀ caller ∈ r.callers, Fresh caller r.id r.token) :
    AllFresh { c with requests := c.requests ++ [r] } ↔ c.AllFresh := by
  constructor
  · exact fun hfresh ↦
      ⟨fun r' hr' ↦ hfresh.waiting r' (List.mem_append_left _ hr'), hfresh.answered⟩
  · refine fun hfresh ↦ ⟨fun r' hr' ↦ ?_, hfresh.answered⟩
    rcases List.mem_append.1 hr' with hr' | hr'
    · exact hfresh.waiting r' hr'
    · rw [List.mem_singleton.1 hr']
      exact hr

/-- **One event**: all answers stay fresh if no call meets an older request, and only then. -/
theorem allFresh_step_iff (h : c.Consistent c.clock) (e : ApiEvent) :
    (c.step e).AllFresh ↔ c.AllFresh ∧ c.Timely e := by
  have hclock : (c.step e).AllFresh ↔ (c.perform e).AllFresh := allFresh_congr rfl rfl
  rw [hclock]
  cases e with
  | get endpoint =>
    rw [ApiClient.perform, ApiClient.get, Timely]
    rcases hid : c.inflight endpoint with - | id
    · have hnew : Fresh c.caller c.clock c.token := ⟨h.lastAction, rfl⟩
      have hset : ((c.doRequest endpoint .get [c.caller]).setInflight endpoint
          (some c.clock)).AllFresh ↔ (c.doRequest endpoint .get [c.caller]).AllFresh :=
        allFresh_congr rfl rfl
      have happend : (c.doRequest endpoint .get [c.caller]).AllFresh ↔ c.AllFresh :=
        allFresh_append fun caller hcaller ↦ List.mem_singleton.1 hcaller ▸ hnew
      refine hset.trans (happend.trans ?_)
      simp
    · rw [allFresh_join_iff h hid]
      simp
  | send endpoint purpose =>
    show _ ↔ c.AllFresh ∧ True
    rw [and_true, ApiClient.perform]
    split
    · rfl
    · exact allFresh_append fun caller hcaller ↦ nomatch hcaller
  | setToken token =>
    show _ ↔ c.AllFresh ∧ True
    rw [and_true]
    exact allFresh_congr rfl rfl
  | headers id status =>
    have hlearned := allFresh_map (c := c)
      (g := fun r ↦ if r.id = id then { r with status := some status } else r)
      (fun r ↦ by split <;> rfl) (fun r ↦ by split <;> rfl) fun r ↦ by split <;> rfl
    show _ ↔ c.AllFresh ∧ True
    rw [and_true, ApiClient.perform, ApiClient.headers]
    split
    · rw [← hlearned]
      refine allFresh_congr ?_ ?_
      · dsimp only
        split <;> rfl
      · dsimp only
        split <;> rfl
    · rfl
  | body id reply =>
    show _ ↔ c.AllFresh ∧ True
    rw [and_true, ApiClient.perform]
    split
    · next r hr =>
      split
      · exact allFresh_finish h (mem_requests_of_find? hr) _
      · rfl
    · rfl
  | fail id =>
    show _ ↔ c.AllFresh ∧ True
    rw [and_true, ApiClient.perform]
    split
    · next r hr => exact allFresh_finish h (mem_requests_of_find? hr) _
    · rfl

theorem allFresh_new : new.AllFresh where
  waiting _ hr := nomatch hr
  answered _ ho := nomatch ho

end Consistent

end ApiClient

/-- **Shared requests.** After any sequence of events the map has an entry for an endpoint if and
only if a `GET` for it is in flight, of which there is at most one. And every `GET` is answered by a
request that was started, with the token in force, after the last action of the client, if and only
if no call has met an older request. -/
theorem deduplication_fresh_iff (events : List ApiEvent) :
    (∀ e id, (events.foldl ApiClient.step .new).inflight e = some id ↔
      ∃ r ∈ (events.foldl ApiClient.step .new).requests,
        r.id = id ∧ r.purpose = .get ∧ r.endpoint = e) ∧
    (∀ r ∈ (events.foldl ApiClient.step .new).requests,
      ∀ r' ∈ (events.foldl ApiClient.step .new).requests,
        r.purpose = .get → r'.purpose = .get → r.endpoint = r'.endpoint → r = r') ∧
    ((events.foldl ApiClient.step .new).AllFresh ↔
      EveryStep ApiClient.step ApiClient.Timely .new events) := by
  have hconsistent : (events.foldl ApiClient.step .new).Consistent _ :=
    foldl_invariant (I := fun c : ApiClient ↦ c.Consistent c.clock) ApiClient.consistent_new
      (fun _ e h ↦ h.step e) events
  refine ⟨hconsistent.entry, fun r hr r' hr' ↦ hconsistent.unique hr hr', ?_⟩
  exact holds_foldl_iff (I := fun c : ApiClient ↦ c.Consistent c.clock) ApiClient.consistent_new
    (fun _ e h ↦ h.step e) ApiClient.allFresh_new
    (fun _ e h ↦ ApiClient.allFresh_step_iff h e) events

/-- Somebody logs in while the first `getMe` of the page is in flight, and calls `getMe` again. -/
def loginDuringGetMe : List ApiEvent :=
  [.get "/api/auth/me", .send "/api/auth/login" .login, .headers 2 200, .body 2 ⟨"", some "token"⟩,
    .get "/api/auth/me", .headers 1 401, .body 1 ⟨"", none⟩]

/-- **A stale answer**: the second call, under the new token, is rejected by the first request,
which carried none. -/
theorem login_stale :
    ¬∀ events : List ApiEvent, ∀ o ∈ (events.foldl ApiClient.step .new).outcomes,
      ApiClient.Fresh o.caller o.fetch o.fetchToken := by
  intro hall
  have hmem : (⟨⟨5, 4, some "token"⟩, 1, none, none⟩ : Outcome) ∈
      (loginDuringGetMe.foldl ApiClient.step .new).outcomes := by decide
  obtain ⟨hlt, -⟩ := hall loginDuringGetMe _ hmem
  exact absurd hlt (by decide)

end ZanovixCrm
