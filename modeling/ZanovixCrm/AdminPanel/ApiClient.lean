import Mathlib.Data.Nat.Notation
import Mathlib.Order.Basic

/-!
# The API client

`ApiClient` keeps the token and, for all its callers, a map of the `GET` requests in flight: whoever
asks for an endpoint that is already being fetched gets the same promise. An entry is taken out
before the promise settles. `request` is asynchronous, so the calls, the arrival of the headers and
that of the body are events that can be interleaved in any way.

Beside what the client itself knows, the state has the requests in flight with those who wait for
them, and what the callers have been answered. It numbers the events, and a request goes by the
number of the event that has started it.
-/

namespace ZanovixCrm

/-- A body, as far as the client looks at it. -/
structure Reply where
  text : String
  /-- `access_token`. -/
  accessToken : Option String
deriving DecidableEq

/-- What a request is made for. -/
inductive Purpose where
  /-- `GET`, by any method of the client. -/
  | get
  /-- `POST`, `PATCH`, `PUT` or `DELETE`. -/
  | mutation
  | login
  | logout
deriving DecidableEq

/-- A `GET` call that waits for a request or has been answered by it. -/
structure Caller where
  /-- The number of the call. -/
  call : ℕ
  /-- The last event before the call that resolved another method or set the token. -/
  lastAction : ℕ
  /-- The token in force at the call. -/
  token : Option String
deriving DecidableEq

/-- A request in flight. -/
structure InFlight where
  /-- The event that has started it. -/
  id : ℕ
  endpoint : String
  purpose : Purpose
  /-- The token that it carries. -/
  token : Option String
  /-- The status, once the headers have arrived. -/
  status : Option ℕ
  /-- The `GET` calls that share it. -/
  callers : List Caller
deriving DecidableEq

/-- A `GET` call that has settled. -/
structure Outcome where
  caller : Caller
  /-- The request that has answered it, and the token that this carried. -/
  fetch : ℕ
  fetchToken : Option String
  /-- The value, or nothing if the call is rejected. -/
  value : Option String
deriving DecidableEq

/-- The state of an `ApiClient`, of the requests that it has in flight and of its callers. -/
structure ApiClient where
  token : Option String
  /-- The map, from an endpoint to the request that is in flight for it. -/
  inflight : String → Option ℕ
  requests : List InFlight
  outcomes : List Outcome
  /-- The number of the next event. -/
  clock : ℕ
  /-- The last event that resolved another method than `GET` or set the token. -/
  lastAction : ℕ

/-- What happens. -/
inductive ApiEvent where
  | get (endpoint : String)
  /-- A call of another method. -/
  | send (endpoint : String) (purpose : Purpose)
  | setToken (token : Option String)
  /-- The headers of a response arrive. -/
  | headers (id status : ℕ)
  /-- The body arrives, and the request settles. -/
  | body (id : ℕ) (reply : Reply)
  /-- The request fails on the network. -/
  | fail (id : ℕ)
deriving DecidableEq

namespace ApiClient

/-- `new ApiClient(baseUrl)`. -/
def new : ApiClient := ⟨none, fun _ ↦ none, [], [], 1, 0⟩

/-- `setToken`. -/
def setToken (c : ApiClient) (token : Option String) : ApiClient :=
  { c with token := token, lastAction := c.clock }

/-- `inflight.set` and `inflight.delete`. -/
def setInflight (c : ApiClient) (endpoint : String) (id : Option ℕ) : ApiClient :=
  { c with inflight := fun e ↦ if e = endpoint then id else c.inflight e }

/-- A `GET` call, as it is made now. -/
def caller (c : ApiClient) : Caller := ⟨c.clock, c.lastAction, c.token⟩

/-- `_doRequest`, up to the response. -/
def doRequest (c : ApiClient) (endpoint : String) (purpose : Purpose) (callers : List Caller) :
    ApiClient :=
  { c with requests := c.requests ++ [⟨c.clock, endpoint, purpose, c.token, none, callers⟩] }

/-- `request` with method `GET`: join the request in flight, or start one. -/
def get (c : ApiClient) (endpoint : String) : ApiClient :=
  match c.inflight endpoint with
  | some id =>
    { c with
      requests := c.requests.map fun r ↦
        if r.id = id then { r with callers := r.callers ++ [c.caller] } else r }
  | none => (c.doRequest endpoint .get [c.caller]).setInflight endpoint (some c.clock)

/-- The headers of a response arrive. After a 401 there is no token. -/
def headers (c : ApiClient) (id status : ℕ) : ApiClient :=
  if c.requests.any fun r ↦ decide (r.id = id ∧ r.status = none) then
    let c := { c with
      requests := c.requests.map fun r ↦ if r.id = id then { r with status := some status } else r }
    if status = 401 then c.setToken none else c
  else c

/-- `response.ok`. -/
def isOk (status : ℕ) : Bool := decide (200 ≤ status ∧ status < 300)

/-- The request settles: its entry is taken out of the map, and its callers go on. `value` is
nothing if it is rejected. -/
def settle (c : ApiClient) (r : InFlight) (value : Option String) : ApiClient :=
  let c := { c with
    requests := c.requests.filter fun r' ↦ !decide (r'.id = r.id)
    outcomes := c.outcomes ++ r.callers.map fun caller ↦ ⟨caller, r.id, r.token, value⟩ }
  if r.purpose = .get then c.setInflight r.endpoint none else c

/-- What the caller of another method does when it is resolved with a reply, or rejected. -/
def proceed (c : ApiClient) (purpose : Purpose) (reply : Option Reply) : ApiClient :=
  match purpose, reply with
  | .get, _ => c
  | .mutation, some _ => { c with lastAction := c.clock }
  | .mutation, none => c
  | .login, some reply => c.setToken reply.accessToken
  | .login, none => c
  | .logout, _ => c.setToken none

/-- The request is resolved with a reply, or rejected. -/
def finish (c : ApiClient) (r : InFlight) (reply : Option Reply) : ApiClient :=
  (c.settle r (reply.map Reply.text)).proceed r.purpose reply

/-- The request of a number. -/
def find? (c : ApiClient) (id : ℕ) : Option InFlight := c.requests.find? fun r ↦ decide (r.id = id)

/-- What an event does. -/
def perform (c : ApiClient) : ApiEvent → ApiClient
  | .get endpoint => c.get endpoint
  | .send endpoint purpose => if purpose = .get then c else c.doRequest endpoint purpose []
  | .setToken token => c.setToken token
  | .headers id status => c.headers id status
  | .body id reply =>
    match c.find? id with
    | some r =>
      match r.status with
      | some status => c.finish r (if isOk status then some reply else none)
      | none => c
    | none => c
  | .fail id =>
    match c.find? id with
    | some r => c.finish r none
    | none => c

/-- **One event.** -/
def step (c : ApiClient) (e : ApiEvent) : ApiClient :=
  { c.perform e with clock := c.clock + 1 }

end ApiClient

end ZanovixCrm
