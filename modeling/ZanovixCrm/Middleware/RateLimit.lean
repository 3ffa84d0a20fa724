import ZanovixCrm.Api.Steps
import ZanovixCrm.Shared.RateLimiter

/-!
# The limit on the public intake

`POST /api/leads` asks the limiter before anything else, under an identifier that `_client_ip` takes
from the request. The requests come from a sender directly, or through a proxy that appends the
address it sees to `X-Forwarded-For`. In either case the sender chooses the headers.
-/

namespace ZanovixCrm

namespace RateLimit

/-- `WINDOW_SECONDS`. -/
def windowSeconds : ℕ := 60

/-- `MAX_REQUESTS`. -/
def maxRequests : ℕ := 20

/-- `KEY_PREFIX`. -/
def keyPrefix : String := "rate_limit:leads:post"

/-- `get_lead_post_limiter`. -/
def leadPostLimiter : RedisSlidingWindowLimiter := ⟨keyPrefix, maxRequests, windowSeconds⟩

/-- `_client_ip`, which the payload sanitizer has as well. -/
def clientIp (r : Inbound) : String := PayloadSanitizer.clientIp r

/-- `enforce_lead_post_rate_limit`: the seconds after which to retry, if the request is refused. -/
def enforce (result : RateLimitResult) : Option ℤ :=
  if result.allowed then none else some result.retryAfter

end RateLimit

/-- A request for `POST /api/leads`. -/
structure Post where
  /-- The address of the sender. -/
  sender : String
  /-- The headers that the sender has put into the request. -/
  headers : List (String × String)
  /-- The address of the proxy through which the request comes, if it does. -/
  proxy : Option String
  body : LeadCreate
  /-- What the dependencies of other endpoints would make of the token. -/
  user : Except Fault User
  env : Env
  checkEnv : CheckEnv

namespace Post

/-- The header is `X-Forwarded-For`. -/
def isForwardedFor (h : String × String) : Bool :=
  PayloadSanitizer.lower h.1 == PayloadSanitizer.lower "X-Forwarded-For"

/-- The request as the proxy passes it on: all values of `X-Forwarded-For`, and then the address of
the sender, in one header. -/
def forwarded (q : Post) (proxy : String) : Inbound where
  headers := q.headers.filter (fun h ↦ !isForwardedFor h) ++
    [("X-Forwarded-For",
      ", ".intercalate ((q.headers.filter isForwardedFor).map Prod.snd ++ [q.sender]))]
  peer := some proxy

/-- The request as it arrives. -/
def inbound (q : Post) : Inbound :=
  match q.proxy with
  | none => ⟨q.headers, some q.sender⟩
  | some proxy => q.forwarded proxy

/-- The check that the request gives rise to. -/
def check (q : Post) : Check := { q.checkEnv with identifier := RateLimit.clientIp q.inbound }

/-- The request, as it is routed. -/
def request (q : Post) : Request := .createLead q.inbound q.body

/-- The surroundings of the endpoint, once the limiter has answered. -/
def envAfter (q : Post) (result : RateLimitResult) : Env :=
  { q.env with retryAfter := RateLimit.enforce result }

/-- **The request gets to `LeadService.create`**: it passes the schema check and the dependency. -/
def admitted (p : Platform) (s : Settings) (q : Post) (result : RateLimitResult) : Bool :=
  match q.request.validate? p with
  | none => false
  | some r => ((route p s (q.envAfter result) r).guard q.user).isOk

end Post

/-- The answers of the limiter to a sequence of requests. -/
def intake (posts : List Post) : List (Post × RateLimitResult) :=
  posts.zip ((RateLimit.leadPostLimiter.verdicts (posts.map Post.check)).map (·.result))

section Intake

variable {p : Platform} {s : Settings} {db : Db} {sub : Except Fault String} {q : Post}
  {result : RateLimitResult}

/-- The dependency raises what the limiter says. -/
theorem Post.guard_request (body : LeadCreate) (user : Except Fault User) :
    ((route p s (q.envAfter result) (.createLead q.inbound body)).guard user).isOk =
        result.allowed ∧
      (result.allowed = false →
        (route p s (q.envAfter result) (.createLead q.inbound body)).guard user =
          .error (.http .tooManyRequests (.rateLimitExceeded result.retryAfter))) := by
  rcases h : result.allowed with - | -
  · simp [route, Post.envAfter, RateLimit.enforce, h, Handler.guard, Except.isOk, Except.toBool]
  · simp [route, Post.envAfter, RateLimit.enforce, h, Handler.guard, Except.isOk, Except.toBool]

/-- Only what the limiter allows gets to `LeadService.create`. -/
theorem Post.allowed_of_admitted (h : q.admitted p s result = true) : result.allowed = true := by
  delta Post.admitted at h
  split at h
  · exact nomatch h
  · next r hr =>
    obtain ⟨body, -, rfl⟩ := Option.map_eq_some_iff.1 hr
    rwa [(Post.guard_request body q.user).1] at h

/-- **A request that is not allowed** is answered with 429, and nothing is stored. -/
theorem Post.handle_of_refused (hallowed : result.allowed = false) :
    handle p s (q.envAfter result) db sub (.bound q.request) =
      ((Fault.http .tooManyRequests (.rateLimitExceeded result.retryAfter)).response, db) := by
  have hmounted : mounted s q.request = true := Bool.or_true _
  rcases hv : q.request.validate? p with - | r
  · have hguard := (Post.guard_request (p := p) (s := s) (q := q) q.body (currentUser db sub)).2
      hallowed
    rw [handle_of_invalid hmounted hv, reject, Post.request, hguard]
  · obtain ⟨body, -, rfl⟩ := Option.map_eq_some_iff.1 hv
    exact ZanovixCrm.handle_of_refused hmounted hv ((Post.guard_request body _).2 hallowed)

/-- The answers belong to the checks. -/
theorem map_intake (posts : List Post) :
    (intake posts).map (fun o ↦ (o.1.check, o.2)) =
      (RateLimit.leadPostLimiter.verdicts (posts.map Post.check)).map fun v ↦
        (v.check, v.result) := by
  have hchecks := RateLimit.leadPostLimiter.map_check_verdictsFrom .empty [] (posts.map Post.check)
  calc (intake posts).map (fun o ↦ (o.1.check, o.2))
    _ = (posts.map Post.check).zip
        ((RateLimit.leadPostLimiter.verdicts (posts.map Post.check)).map (·.result)) :=
      (List.zip_map_left ..).symm
    _ = _ := by
      conv_lhs => enter [1]; rw [← hchecks]
      exact List.zip_map' ..

/-- **A sender whose headers say nothing of where they come from** is known by one identifier, on
either way. -/
theorem Post.clientIp_of_bare (h : q.headers.filter Post.isForwardedFor = []) :
    RateLimit.clientIp q.inbound =
      match q.proxy with
      | none => q.sender
      | some proxy =>
        if q.sender = "" then proxy
        else Python.strip (String.ofList (q.sender.toList.takeWhile (· ≠ ','))) := by
  rcases hproxy : q.proxy with - | proxy
  · have hnone : PayloadSanitizer.header q.inbound "X-Forwarded-For" = none := by
      rw [PayloadSanitizer.header, Post.inbound, hproxy, Option.map_eq_none_iff, List.find?_eq_none]
      exact List.filter_eq_nil_iff.1 h
    rw [RateLimit.clientIp, PayloadSanitizer.clientIp, hnone, Post.inbound, hproxy]
    rfl
  · have hinbound : q.inbound =
        ⟨q.headers.filter (fun h ↦ !isForwardedFor h) ++ [("X-Forwarded-For", q.sender)],
          some proxy⟩ := by
      rw [Post.inbound, hproxy]
      show q.forwarded proxy = _
      rw [Post.forwarded, h]
      rfl
    have hothers : (q.headers.filter fun h ↦ !isForwardedFor h).find? isForwardedFor = none := by
      refine List.find?_eq_none.2 fun x hx hx' ↦ ?_
      have hnot := (List.mem_filter.1 hx).2
      rw [hx'] at hnot
      exact nomatch hnot
    have hsome : PayloadSanitizer.header q.inbound "X-Forwarded-For" = some q.sender := by
      rw [hinbound]
      show ((List.find? isForwardedFor _).map Prod.snd) = _
      have hself : isForwardedFor ("X-Forwarded-For", q.sender) = true := beq_self_eq_true _
      rw [List.find?_append, hothers, List.find?_cons_of_pos hself]
      rfl
    rw [RateLimit.clientIp, PayloadSanitizer.clientIp, hsome, hinbound]
    rfl

end Intake

end ZanovixCrm
