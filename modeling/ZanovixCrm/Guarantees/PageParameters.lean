import ZanovixCrm.Api.Steps
import ZanovixCrm.Services.Listings

/-!
# Raw `limit` and `offset`

Six routes read `limit` and `offset` from the raw query string. Each is a copy of the same few
lines: a limit above 200 is refused, a limit that `isdigit` does not like is replaced by 50, and an
offset goes through `int` as it is. Three of the routes then hand the integers to a schema with
bounds; the others hand them to the query.

So a page is served as it was asked for, or the request refused, for some pairs of texts only
(`RawPage.Sound`), and `serves_exactly_iff` says that for no others.
-/

namespace ZanovixCrm

open Python

/-! ### The routes -/

/-- The listing routes that read the raw query string. -/
inductive RawListing where
  | leads | clients | services | clientTickets | clientMessages | activity
deriving DecidableEq

/-- The route passes limit and offset through a schema with bounds. -/
def RawListing.bounded : RawListing → Bool
  | .leads | .clients | .services => true
  | .clientTickets | .clientMessages | .activity => false

/-- The route of a request, with its limit and its offset. -/
def Request.rawListing? : Request → Option (RawListing × RawPage)
  | .listLeads query => some (.leads, query.page)
  | .listClients query => some (.clients, query.page)
  | .listServices query => some (.services, query.page)
  | .listClientTickets _ _ _ page => some (.clientTickets, page)
  | .listClientMessages _ page => some (.clientMessages, page)
  | .getActivity _ page => some (.activity, page)
  | _ => none

/-- `LeadFilters(…)`, given limit and offset. -/
def LeadQuery.filters (q : LeadQuery) (limit offset : ℤ) : Except Fault LeadFilters := do
  let vertical ← parseOpt TextEnum.ofText? q.vertical
  let channel ← parseOpt TextEnum.ofText? q.channel
  let status ← parseOpt TextEnum.ofText? q.status
  checkPage limit offset
  return { vertical, channel, status, limit, offset }

/-- `ClientFilters(…)`, given limit and offset. -/
def ClientQuery.filters (p : Platform) (q : ClientQuery) (limit offset : ℤ) :
    Except Fault ClientFilters := do
  let ownerId ← parseOpt p.pydanticUUID q.ownerId
  checkPage limit offset
  return { stage := q.stage, ownerId, sector := q.sector, q := q.q, limit, offset }

/-- `ServiceFilters(…)`, given limit and offset. -/
def ServiceQuery.filters (p : Platform) (q : ServiceQuery) (limit offset : ℤ) :
    Except Fault ServiceFilters := do
  let clientId ← parseOpt p.pydanticUUID q.clientId
  let ownerId ← parseOpt p.pydanticUUID q.ownerId
  checkPage limit offset
  return { state := q.state, clientId, ownerId, type := q.type, limit, offset }

/-- **What a route does with its limit and its offset.** -/
def Request.serve (p : Platform) (user : User) (limit offset : ℤ) : Request → Tx Response
  | .listLeads query => do
    let f ← .liftExcept (query.filters limit offset)
    let (rows, total) ← LeadService.listForUser user f
    return ⟨200, .leads ⟨rows.map LeadRead.ofLead, total, f.limit, f.offset⟩⟩
  | .listClients query => do
    let f ← .liftExcept (query.filters p limit offset)
    let (rows, total) ← ClientService.listClients p user f
    return ⟨200, .clients ⟨rows, total, f.limit, f.offset⟩⟩
  | .listServices query => do
    let f ← .liftExcept (query.filters p limit offset)
    let (rows, total) ← ServiceService.listServices user f
    return servicesAnswer p rows total f.limit f.offset
  | .listClientTickets clientId status priority _ => do
    let (rows, total) ← TicketService.listTickets (some clientId) limit offset status priority
    return ⟨200, .tickets ⟨rows, total, limit, offset⟩⟩
  | .listClientMessages clientId _ => do
    let (rows, total) ← MessageService.listMessages clientId limit offset none
    return ⟨200, .messages ⟨rows, total, limit, offset⟩⟩
  | .getActivity clientId _ => do
    let clientId ← .liftExcept (activityClientId p clientId)
    let (items, total) ← ActivityLogService.listActivity limit offset clientId
    return ⟨200, .activity ⟨items, total, limit, offset⟩⟩
  | _ => return ⟨404, .noContent⟩

/-- What the handlers of the six routes have in common. -/
def Request.paged (p : Platform) (user : User) (page : RawPage) (r : Request) : Tx Response := do
  let limit ← .liftExcept page.limit?
  let offset ← .liftExcept page.offset?
  r.serve p user limit offset

/-- An answer that puts it down to the client. -/
def Response.IsClientError (a : Response) : Prop := 400 ≤ a.status ∧ a.status < 500

/-! ### The texts -/

/-- The integer that a text writes, or the default where there is no text. -/
def Written (text : Option String) (default n : ℤ) : Prop :=
  text.elim (n = default) fun s ↦ int? s = some n

/-- **The pairs of texts that are read as they are written, or refused.** -/
inductive RawPage.Sound (bounded : Bool) (page : RawPage) : Prop
  /-- A limit above the maximum. -/
  | tooLarge {s : String} {n : ℤ} (hs : page.limit = some s) (hn : int? s = some n)
    (hlarge : 200 < n)
  /-- Integers that the schema of the filters refuses. -/
  | outOfBounds (hbounded : bounded = true)
    (hlimit : ∀ s, page.limit = some s → isDigit s = true → int? s ≠ none)
    (hoffset : ∀ s, page.offset = some s → int? s ≠ none)
    (hout : (∃ s n, page.limit = some s ∧ isDigit s = true ∧ int? s = some n ∧ n < 1) ∨
      ∃ s n, page.offset = some s ∧ int? s = some n ∧ n < 0)
  /-- A limit from 1 to 200 in digits alone, or 50 in any way, and an offset within `bigint`. -/
  | inBounds {limit offset : ℤ} (hlimit : Written page.limit 50 limit)
    (hoffset : Written page.offset 0 offset) (hrange : 1 ≤ limit ∧ limit ≤ 200)
    (hdigits : ∀ s, page.limit = some s → isDigit s = true ∨ limit = 50)
    (hzero : 0 ≤ offset) (hbigint : offset ≤ Session.maxBigint)

namespace RawPage

/-- How a limit is read. -/
theorem limit?_cases (page : RawPage) :
    (∃ s n, page.limit = some s ∧ int? s = some n ∧ 200 < n ∧
      page.limit? = .error (.http .badRequest (.limitExceedsMax maxLimit))) ∨
    (∃ s, page.limit = some s ∧ isDigit s = true ∧ int? s = none ∧
      page.limit? = .error .unhandled) ∨
    (∃ s n, page.limit = some s ∧ isDigit s = true ∧ int? s = some n ∧ n ≤ 200 ∧
      page.limit? = .ok n) ∨
    (∃ s, page.limit = some s ∧ isDigit s = false ∧ (∀ n, int? s = some n → n ≤ 200) ∧
      page.limit? = .ok 50) ∨
    (page.limit = none ∧ page.limit? = .ok 50) := by
  rw [limit?]
  rcases page.limit with - | s
  · exact Or.inr (Or.inr (Or.inr (Or.inr ⟨rfl, rfl⟩)))
  rcases hs : int? s with - | n
  · rcases hd : isDigit s with - | -
    · refine Or.inr (Or.inr (Or.inr (Or.inl ⟨s, rfl, hd, ?_, by simp [hs, hd]⟩)))
      simp only [hs, reduceCtorEq, false_implies, implies_true]
    · exact Or.inr (Or.inl ⟨s, rfl, hd, hs, by simp [hs, hd]⟩)
  · by_cases hlarge : 200 < n
    · refine Or.inl ⟨s, n, rfl, hs, hlarge, ?_⟩
      simp [hs, hlarge, maxLimit]
    · have hle : n ≤ 200 := not_lt.1 hlarge
      rcases hd : isDigit s with - | -
      · refine Or.inr (Or.inr (Or.inr (Or.inl ⟨s, rfl, hd, fun m hm ↦ ?_, ?_⟩)))
        · rw [hs] at hm
          exact Option.some.inj hm ▸ hle
        · simp [hs, hd, hlarge, maxLimit]
      · refine Or.inr (Or.inr (Or.inl ⟨s, n, rfl, hd, hs, hle, ?_⟩))
        simp [hs, hd, hlarge, maxLimit]

/-- How an offset is read. -/
theorem offset?_cases (page : RawPage) :
    (∃ s, page.offset = some s ∧ int? s = none ∧ page.offset? = .error .unhandled) ∨
    ∃ n, Written page.offset 0 n ∧ page.offset? = .ok n := by
  rw [offset?]
  rcases page.offset with - | s
  · exact Or.inr ⟨0, rfl, rfl⟩
  · rcases hs : int? s with - | n
    · exact Or.inl ⟨s, rfl, hs, by simp only [hs]⟩
    · exact Or.inr ⟨n, hs, by simp only [hs]⟩

theorem limit?_of_tooLarge {page : RawPage} {s : String} {n : ℤ} (hs : page.limit = some s)
    (hn : int? s = some n) (hlarge : 200 < n) :
    page.limit? = .error (.http .badRequest (.limitExceedsMax maxLimit)) := by
  have hany : (int? s).any (maxLimit < ·) = true := by
    rw [hn]
    exact decide_eq_true hlarge
  simp only [limit?, hs, if_pos hany]

theorem limit?_of_written {page : RawPage} {n : ℤ} (hn : Written page.limit 50 n) (hle : n ≤ 200)
    (hdigits : ∀ s, page.limit = some s → isDigit s = true ∨ n = 50) : page.limit? = .ok n := by
  rcases page.limit?_cases with ⟨s, m, hs, hm, hlarge, -⟩ | ⟨s, hs, -, hm, -⟩ |
    ⟨s, m, hs, -, hm, -, h⟩ | ⟨s, hs, hd, -, h⟩ | ⟨hs, h⟩
  · rw [Written, hs] at hn
    cases hm.symm.trans hn
    omega
  · rw [Written, hs] at hn
    cases hm.symm.trans hn
  · rw [Written, hs] at hn
    cases hm.symm.trans hn
    exact h
  · rcases hdigits s hs with hd' | rfl
    · exact absurd (hd.symm.trans hd') Bool.false_ne_true
    · exact h
  · rw [Written, hs] at hn
    cases hn
    exact h

/-- Why a limit is not read. -/
theorem of_limit?_error {page : RawPage} {f : Fault} (h : page.limit? = .error f) :
    (∃ s n, page.limit = some s ∧ int? s = some n ∧ 200 < n) ∨
      ∃ s, page.limit = some s ∧ int? s = none ∧ f = .unhandled := by
  rcases page.limit?_cases with ⟨s, n, hs, hn, hlarge, -⟩ | ⟨s, hs, -, hn, h'⟩ |
    ⟨s, n, -, -, -, -, h'⟩ | ⟨s, -, -, -, h'⟩ | ⟨-, h'⟩
  · exact Or.inl ⟨s, n, hs, hn, hlarge⟩
  · exact Or.inr ⟨s, hs, hn, Except.error.inj (h.symm.trans h')⟩
  · cases h.symm.trans h'
  · cases h.symm.trans h'
  · cases h.symm.trans h'

/-- Where a limit comes from: digits, or the default. -/
theorem of_limit?_ok {page : RawPage} {limit : ℤ} (h : page.limit? = .ok limit) :
    limit ≤ 200 ∧ (limit = 50 ∨ ∃ s, page.limit = some s ∧ isDigit s = true ∧
      int? s = some limit) ∧ ∀ s, page.limit = some s →
        isDigit s = true ∧ int? s = some limit ∨ isDigit s = false ∧ limit = 50 := by
  rcases page.limit?_cases with ⟨s, n, -, -, -, h'⟩ | ⟨s, -, -, -, h'⟩ |
    ⟨s, n, hs, hd, hn, hle, h'⟩ | ⟨s, hs, hd, -, h'⟩ | ⟨hs, h'⟩
  · cases h.symm.trans h'
  · cases h.symm.trans h'
  · cases h.symm.trans h'
    refine ⟨hle, Or.inr ⟨s, hs, hd, hn⟩, fun s' hs' ↦ ?_⟩
    cases hs.symm.trans hs'
    exact Or.inl ⟨hd, hn⟩
  · cases h.symm.trans h'
    refine ⟨by decide, Or.inl rfl, fun s' hs' ↦ ?_⟩
    cases hs.symm.trans hs'
    exact Or.inr ⟨hd, rfl⟩
  · cases h.symm.trans h'
    refine ⟨by decide, Or.inl rfl, fun s' hs' ↦ ?_⟩
    cases hs.symm.trans hs'

/-- Digits that `int` reads are refused, or read so. -/
theorem limit?_of_readable {page : RawPage}
    (hread : ∀ s, page.limit = some s → isDigit s = true → int? s ≠ none) :
    page.limit? = .error (.http .badRequest (.limitExceedsMax maxLimit)) ∨
      ∃ limit, page.limit? = .ok limit ∧
        ∀ s n, page.limit = some s → isDigit s = true → int? s = some n → limit = n := by
  rcases page.limit?_cases with ⟨s, m, -, -, -, h⟩ | ⟨s, hs, hd, hm, -⟩ | ⟨s, m, hs, -, hm, -, h⟩ |
    ⟨s, hs, hd, -, h⟩ | ⟨hs, h⟩
  · exact Or.inl h
  · exact absurd hm (hread s hs hd)
  · refine Or.inr ⟨m, h, fun s' n hs' _ hn ↦ ?_⟩
    cases hs.symm.trans hs'
    exact Option.some.inj (hm.symm.trans hn)
  · refine Or.inr ⟨50, h, fun s' n hs' hd' _ ↦ ?_⟩
    cases hs.symm.trans hs'
    exact absurd (hd.symm.trans hd') Bool.false_ne_true
  · refine Or.inr ⟨50, h, fun s' n hs' _ _ ↦ ?_⟩
    cases hs.symm.trans hs'

theorem offset?_of_written {page : RawPage} {n : ℤ} (hn : Written page.offset 0 n) :
    page.offset? = .ok n := by
  rcases page.offset?_cases with ⟨s, hs, hm, -⟩ | ⟨m, hm, h⟩
  · rw [Written, hs] at hn
    cases hm.symm.trans hn
  · rw [h]
    rw [Written] at hm hn
    rcases hs : page.offset with - | s
    · rw [hs] at hm hn
      exact congrArg Except.ok (hm.trans hn.symm)
    · rw [hs] at hm hn
      exact congrArg Except.ok (Option.some.inj (hm.symm.trans hn))

end RawPage

/-! ### Serving a page -/

/-- The answer to what a service returns or raises. -/
def answered {α : Type} (answer : α → Response) : Except Fault α → Response
  | .ok a => answer a
  | .error f => f.response

section Routes

variable {p : Platform} {s : Settings} {env : Env} {db : Db} {sub : Except Fault String}
  {user : User} {route : RawListing} {page : RawPage} {r : Request}

theorem Response.isClientError_of_status {a : Response} {n : ℕ} (h : a.status = n)
    (hn : 400 ≤ n ∧ n < 500) : a.IsClientError := by
  rw [IsClientError, h]
  exact hn

/-- A filter that is built from limit and offset, and what is done with it. -/
theorem liftExcept_bind {α β γ : Type} (x : Except Fault α) (f : α → Except Fault β)
    (m : β → Tx γ) :
    (Prog.liftExcept (x >>= f) >>= m) =
      Prog.liftExcept x >>= fun a ↦ Prog.liftExcept (f a) >>= m := by
  rcases x with e | a
  · rfl
  · rfl

/-- A guard that lets staff in. -/
theorem guard_requireRole (roles : List Role) (m : User → Tx Response) :
    (Handler.requireRole roles m).guard (.ok user) = .ok (m user) ∨
      (Handler.requireRole roles m).guard (.ok user) = .error (Handler.forbidden roles) := by
  by_cases hrole : user.role ∈ roles
  · exact Or.inl (if_pos hrole)
  · exact Or.inr (if_neg hrole)

theorem guard_listing (h : r.rawListing? = some (route, page)) :
    (ZanovixCrm.route p s env r).guard (.ok user) = .ok (r.paged p user page) ∨
      ∃ roles,
        (ZanovixCrm.route p s env r).guard (.ok user) = .error (Handler.forbidden roles) := by
  cases r with
  | listLeads query =>
    cases h
    refine Or.inl (congrArg Except.ok ?_)
    show (Prog.liftExcept (query.page.limit? >>= fun limit ↦ query.page.offset? >>= fun offset ↦
      query.filters limit offset) >>= _) = _
    simp only [liftExcept_bind]
    rfl
  | listClients query =>
    cases h
    refine Or.inl (congrArg Except.ok ?_)
    show (Prog.liftExcept (query.page.limit? >>= fun limit ↦ query.page.offset? >>= fun offset ↦
      query.filters p limit offset) >>= _) = _
    simp only [liftExcept_bind]
    rfl
  | listServices query =>
    cases h
    refine Or.inl (congrArg Except.ok ?_)
    show (Prog.liftExcept (query.page.limit? >>= fun limit ↦ query.page.offset? >>= fun offset ↦
      query.filters p limit offset) >>= _) = _
    simp only [liftExcept_bind]
    rfl
  | listClientTickets clientId status priority page =>
    cases h
    exact (guard_requireRole _ _).imp_right fun h ↦ ⟨_, h⟩
  | listClientMessages clientId page =>
    cases h
    exact (guard_requireRole _ _).imp_right fun h ↦ ⟨_, h⟩
  | getActivity clientId page =>
    cases h
    exact (guard_requireRole _ _).imp_right fun h ↦ ⟨_, h⟩
  | _ => cases h

/-- **The six routes**, for an authenticated user: the request is refused before its parameters are
looked at, or they are read and the page is served. -/
theorem handle_listing (h : r.rawListing? = some (route, page))
    (huser : currentUser db sub = .ok user) :
    (handle p s env db sub (.bound r)).1.IsClientError ∨
      handle p s env db sub (.bound r) = respond (r.paged p user page) db := by
  have hvalid : r.validate? p = some r := by
    cases r with
    | listLeads _ | listClients _ | listServices _ | listClientTickets _ _ _ _
    | listClientMessages _ _ | getActivity _ _ => rfl
    | _ => cases h
  cases hm : mounted s r with
  | false =>
    rw [handle_of_not_mounted hm]
    exact Or.inl (Response.isClientError_of_status rfl (by decide : 400 ≤ 404 ∧ 404 < 500))
  | true =>
    have hguard : (ZanovixCrm.route p s env r).guard (.ok user) = .ok (r.paged p user page) ∨
        ∃ roles, (ZanovixCrm.route p s env r).guard (.ok user) = .error (Handler.forbidden roles) :=
      guard_listing h
    rcases hguard with hg | ⟨roles, hg⟩
    · exact Or.inr (handle_of_admitted hm hvalid (huser ▸ hg))
    · rw [handle_of_refused hm hvalid (huser ▸ hg)]
      exact Or.inl (Response.isClientError_of_status rfl (by decide : 400 ≤ 403 ∧ 403 < 500))

/-- The answer of a listing, from what the service makes of it. -/
theorem respond_listing {ρ α : Type} [Keyed ρ UUID] {L : Listing ρ} {limit offset : ℤ} {m : Tx α}
    {g : List ρ × ℕ → α} (hrun : m.run db = (L.answer db limit offset).map fun a ↦ (g a, db))
    (answer : α → Response) :
    (respond (m >>= fun a ↦ return answer a) db).1 =
      answered (fun a ↦ answer (g a)) (L.answer db limit offset) := by
  rcases hL : L.answer db limit offset with f | a
  · rw [hL] at hrun
    rw [respond, Prog.transact_of_error (Prog.run_bind_error hrun _)]
    rfl
  · rw [hL] at hrun
    rw [respond, Prog.transact_of_ok (Prog.run_bind_ok hrun _)]
    rfl

/-- Within bounds, only a text with a NUL is an error. -/
theorem status_answered {ρ : Type} [Keyed ρ UUID] {L : Listing ρ} {limit offset : ℤ}
    {answer : List ρ × ℕ → Response} (hpage : Request.pageOk limit offset = true)
    (hoffset : offset ≤ Session.maxBigint) (hanswer : ∀ a, (answer a).status ≠ 500) :
    (answered answer (L.answer db limit offset)).status = 500 ↔ L.bindable = false := by
  have hlimit := Request.inBigint_of_pageOk hpage hoffset
  rw [Listing.answer]
  cases L.bindable with
  | false => exact iff_of_true rfl rfl
  | true =>
    rw [if_pos rfl, Listing.pageOf, Session.limitOffset, if_pos hlimit]
    exact iff_of_false (hanswer _) (by decide)

theorem status_servicesAnswer (items : List ServiceWithMilestones) (total : ℕ)
    (limit offset : ℤ) : (servicesAnswer p items total limit offset).status ≠ 500 := by
  rw [servicesAnswer]
  split
  · exact (by decide : 200 ≠ 500)
  · exact (by decide : 400 ≠ 500)

theorem parseOpt_cases {α : Type} (f : String → Option α) (text : Option String) :
    parseOpt f text = .error .validation ∨ ∃ a, parseOpt f text = .ok a := by
  rcases text with - | s
  · exact Or.inr ⟨none, rfl⟩
  · rcases hs : f s with - | a
    · exact Or.inl (by simp only [parseOpt, hs])
    · exact Or.inr ⟨some a, by simp only [parseOpt, hs]⟩

/-- The check of the page comes last. -/
theorem checkPage_bind {F : Type} (limit offset : ℤ) (filters : F) :
    (do
      checkPage limit offset
      return filters : Except Fault F) = (checkPage limit offset).map fun _ ↦ filters := by
  rcases checkPage limit offset with f | u
  · rfl
  · rfl

/-- Other parameters may fail to parse, or else it is all about the page. -/
theorem LeadQuery.filters_cases (q : LeadQuery) :
    (∀ limit offset, q.filters limit offset = .error .validation) ∨
      ∃ vertical channel status, ∀ limit offset, q.filters limit offset =
        (checkPage limit offset).map fun _ ↦ { vertical, channel, status, limit, offset } := by
  rcases parseOpt_cases (TextEnum.ofText? : String → Option LeadVertical) q.vertical
    with h | ⟨vertical, hvertical⟩
  · exact Or.inl fun _ _ ↦ by rw [filters, h]; rfl
  rcases parseOpt_cases (TextEnum.ofText? : String → Option LeadChannel) q.channel
    with h | ⟨channel, hchannel⟩
  · exact Or.inl fun _ _ ↦ by rw [filters, hvertical, h]; rfl
  rcases parseOpt_cases (TextEnum.ofText? : String → Option LeadStatus) q.status
    with h | ⟨status, hstatus⟩
  · exact Or.inl fun _ _ ↦ by rw [filters, hvertical, hchannel, h]; rfl
  refine Or.inr ⟨vertical, channel, status, fun limit offset ↦ ?_⟩
  rw [filters, hvertical, hchannel, hstatus]
  exact checkPage_bind limit offset _

theorem ClientQuery.filters_cases (p : Platform) (q : ClientQuery) :
    (∀ limit offset, q.filters p limit offset = .error .validation) ∨
      ∃ ownerId, ∀ limit offset, q.filters p limit offset = (checkPage limit offset).map fun _ ↦
        { stage := q.stage, ownerId, sector := q.sector, q := q.q, limit, offset } := by
  rcases parseOpt_cases p.pydanticUUID q.ownerId with h | ⟨ownerId, howner⟩
  · exact Or.inl fun _ _ ↦ by rw [filters, h]; rfl
  refine Or.inr ⟨ownerId, fun limit offset ↦ ?_⟩
  rw [filters, howner]
  exact checkPage_bind limit offset _

theorem ServiceQuery.filters_cases (p : Platform) (q : ServiceQuery) :
    (∀ limit offset, q.filters p limit offset = .error .validation) ∨
      ∃ clientId ownerId, ∀ limit offset, q.filters p limit offset =
        (checkPage limit offset).map fun _ ↦
          { state := q.state, clientId, ownerId, type := q.type, limit, offset } := by
  rcases parseOpt_cases p.pydanticUUID q.clientId with h | ⟨clientId, hclient⟩
  · exact Or.inl fun _ _ ↦ by rw [filters, h]; rfl
  rcases parseOpt_cases p.pydanticUUID q.ownerId with h | ⟨ownerId, howner⟩
  · exact Or.inl fun _ _ ↦ by rw [filters, hclient, h]; rfl
  refine Or.inr ⟨clientId, ownerId, fun limit offset ↦ ?_⟩
  rw [filters, hclient, howner]
  exact checkPage_bind limit offset _

/-- What a route with bounds does with the filters. -/
theorem respond_filters {F : Type} {x : ℤ → ℤ → Except Fault F} {mk : ℤ → ℤ → F}
    (hx : ∀ limit offset, x limit offset = (checkPage limit offset).map fun _ ↦ mk limit offset)
    (m : F → Tx Response) (limit offset : ℤ) :
    respond (Prog.liftExcept (x limit offset) >>= m) db =
      if Request.pageOk limit offset then respond (m (mk limit offset)) db
      else (Fault.validation.response, db) := by
  rw [hx, checkPage]
  split
  · rfl
  · rfl

/-- Out of bounds, the schema of the filters refuses the page. -/
theorem status_serve_of_not_pageOk (h : r.rawListing? = some (route, page))
    (hbounded : route.bounded = true) {limit offset : ℤ}
    (hpage : ¬Request.pageOk limit offset = true) :
    (respond (r.serve p user limit offset) db).1.status = 400 := by
  cases r with
  | listLeads query =>
    rw [Request.serve]
    rcases query.filters_cases with hx | ⟨vertical, channel, status, hx⟩
    · rw [hx]; rfl
    · rw [respond_filters hx, if_neg hpage]; rfl
  | listClients query =>
    rw [Request.serve]
    rcases query.filters_cases p with hx | ⟨ownerId, hx⟩
    · rw [hx]; rfl
    · rw [respond_filters hx, if_neg hpage]; rfl
  | listServices query =>
    rw [Request.serve]
    rcases query.filters_cases p with hx | ⟨clientId, ownerId, hx⟩
    · rw [hx]; rfl
    · rw [respond_filters hx, if_neg hpage]; rfl
  | listClientTickets _ _ _ _ | listClientMessages _ _ | getActivity _ _ =>
    cases h
    exact absurd hbounded (by decide)
  | _ => cases h

/-- Within bounds, a listing fails on its texts alone. -/
theorem status_respond_listing {ρ α : Type} [Keyed ρ UUID] {L : Listing ρ} {limit offset : ℤ}
    {m : Tx α} {g : List ρ × ℕ → α}
    (hrun : m.run db = (L.answer db limit offset).map fun a ↦ (g a, db))
    (hpage : Request.pageOk limit offset = true) (hoffset : offset ≤ Session.maxBigint)
    {answer : α → Response} (hanswer : ∀ a, (answer a).status ≠ 500) :
    (respond (m >>= fun a ↦ return answer a) db).1.status = 500 ↔ L.bindable = false := by
  rw [respond_listing hrun, status_answered hpage hoffset fun a ↦ hanswer (g a)]

/-- Within bounds, no error comes from the page: with any other it would be the same. -/
theorem status_serve_of_pageOk (h : r.rawListing? = some (route, page)) {limit offset : ℤ}
    (hpage : Request.pageOk limit offset = true) (hoffset : offset ≤ Session.maxBigint)
    (h500 : (respond (r.serve p user limit offset) db).1.status = 500) :
    (respond (r.serve p user 50 0) db).1.status = 500 := by
  have hdefault : Request.pageOk 50 0 = true := by decide
  have hzero : (0 : ℤ) ≤ Session.maxBigint := by decide
  have hok : ∀ b : Body, (Response.mk 200 b).status ≠ 500 := fun _ ↦ (by decide : 200 ≠ 500)
  cases r with
  | listLeads query =>
    rcases query.filters_cases with hx | ⟨vertical, channel, status, hx⟩
    · rw [Request.serve, hx] at h500
      exact absurd h500 (by decide : 400 ≠ 500)
    · rw [Request.serve, respond_filters hx, if_pos hpage] at h500
      rw [Request.serve, respond_filters hx, if_pos hdefault]
      have hbind := (status_respond_listing (Listing.run_listForUser _ db) hpage hoffset
        fun _ ↦ hok _).1 h500
      exact absurd hbind (by decide : true ≠ false)
  | listClients query =>
    rcases query.filters_cases p with hx | ⟨ownerId, hx⟩
    · rw [Request.serve, hx] at h500
      exact absurd h500 (by decide : 400 ≠ 500)
    · rw [Request.serve, respond_filters hx, if_pos hpage] at h500
      rw [Request.serve, respond_filters hx, if_pos hdefault]
      have hbind := (status_respond_listing (Listing.run_listClients _ db) hpage hoffset
        fun _ ↦ hok _).1 h500
      exact (status_respond_listing (Listing.run_listClients _ db) hdefault hzero
        fun _ ↦ hok _).2 hbind
  | listServices query =>
    rcases query.filters_cases p with hx | ⟨clientId, ownerId, hx⟩
    · rw [Request.serve, hx] at h500
      exact absurd h500 (by decide : 400 ≠ 500)
    · rw [Request.serve, respond_filters hx, if_pos hpage] at h500
      rw [Request.serve, respond_filters hx, if_pos hdefault]
      have hbind := (status_respond_listing (Listing.run_listServices _ db) hpage hoffset
        fun _ ↦ status_servicesAnswer _ _ _ _).1 h500
      exact (status_respond_listing (Listing.run_listServices _ db) hdefault hzero
        fun _ ↦ status_servicesAnswer _ _ _ _).2 hbind
  | listClientTickets clientId status priority page =>
    have hbind := (status_respond_listing (Listing.run_listTickets _ _ _ _ _ db) hpage hoffset
      fun _ ↦ hok _).1 h500
    exact (status_respond_listing (Listing.run_listTickets _ _ _ _ _ db) hdefault hzero
      fun _ ↦ hok _).2 hbind
  | listClientMessages clientId page =>
    have hbind := (status_respond_listing (Listing.run_listMessages _ _ _ _ db) hpage hoffset
      fun _ ↦ hok _).1 h500
    exact absurd hbind (by decide : true ≠ false)
  | getActivity clientId page =>
    rcases hclient : activityClientId p clientId with f | clientId
    · rw [Request.serve, hclient] at h500 ⊢
      exact h500
    · rw [Request.serve, hclient] at h500
      have hbind := (status_respond_listing (Listing.run_listActivity _ _ _ db) hpage hoffset
        fun _ ↦ hok _).1 h500
      exact absurd hbind (by decide : true ≠ false)
  | _ => cases h

/-! ### What is sound is served -/

/-- **The answer puts it down to the client, or it is the page that the texts write**, with a limit
from 1 to 200 and an offset from 0; and if it is a server error, then so is the default page. -/
def Request.AnswersPage (p : Platform) (db : Db) (user : User) (page : RawPage) (r : Request)
    (a : Response) : Prop :=
  a.IsClientError ∨
    ∃ limit offset, Written page.limit 50 limit ∧ Written page.offset 0 offset ∧
      (1 ≤ limit ∧ limit ≤ 200) ∧ 0 ≤ offset ∧
      a = (respond (r.serve p user limit offset) db).1 ∧
      (a.status = 500 → (respond (r.serve p user 50 0) db).1.status = 500)

theorem respond_paged_of_limit_error {f : Fault} (h : page.limit? = .error f) :
    respond (r.paged p user page) db = (f.response, db) := by
  rw [Request.paged, h]
  rfl

theorem respond_paged_of_offset_error {limit : ℤ} {f : Fault} (hlimit : page.limit? = .ok limit)
    (h : page.offset? = .error f) : respond (r.paged p user page) db = (f.response, db) := by
  rw [Request.paged, hlimit, h]
  rfl

theorem respond_paged {limit offset : ℤ} (hlimit : page.limit? = .ok limit)
    (hoffset : page.offset? = .ok offset) :
    respond (r.paged p user page) db = respond (r.serve p user limit offset) db := by
  rw [Request.paged, hlimit, hoffset]
  rfl

/-- **Sound texts are served as they are written, or refused.** -/
theorem answersPage_of_sound (h : r.rawListing? = some (route, page))
    (huser : currentUser db sub = .ok user) (hsound : page.Sound route.bounded) :
    r.AnswersPage p db user page (handle p s env db sub (.bound r)).1 := by
  have hlisting : (handle p s env db sub (.bound r)).1.IsClientError ∨
      handle p s env db sub (.bound r) = respond (r.paged p user page) db :=
    handle_listing h huser
  rcases hlisting with herror | hpaged
  · exact Or.inl herror
  rw [hpaged]
  cases hsound with
  | tooLarge hs hn hlarge =>
    rw [respond_paged_of_limit_error (RawPage.limit?_of_tooLarge hs hn hlarge)]
    exact Or.inl (Response.isClientError_of_status rfl (by decide : 400 ≤ 400 ∧ 400 < 500))
  | outOfBounds hbounded hlimit hoffset hout =>
    rcases RawPage.limit?_of_readable hlimit with herror | ⟨limit, hlimit?, hread⟩
    · rw [respond_paged_of_limit_error herror]
      exact Or.inl (Response.isClientError_of_status rfl (by decide : 400 ≤ 400 ∧ 400 < 500))
    rcases page.offset?_cases with ⟨s, hs, hn, -⟩ | ⟨offset, hwritten, hoffset?⟩
    · exact absurd hn (hoffset s hs)
    rw [respond_paged hlimit? hoffset?]
    have hpage : ¬Request.pageOk limit offset = true := by
      intro hpage
      obtain ⟨hlow, -, hzero⟩ := of_decide_eq_true hpage
      rcases hout with ⟨s, n, hs, hd, hn, hlt⟩ | ⟨s, n, hs, hn, hlt⟩
      · rw [hread s n hs hd hn] at hlow
        omega
      · rw [Written, hs] at hwritten
        cases hn.symm.trans hwritten
        omega
    exact Or.inl (Response.isClientError_of_status (status_serve_of_not_pageOk h hbounded hpage)
      (by decide))
  | inBounds hlimit hoffset hrange hdigits hzero hbigint =>
    rw [respond_paged (RawPage.limit?_of_written hlimit hrange.2 hdigits)
      (RawPage.offset?_of_written hoffset)]
    exact Or.inr ⟨_, _, hlimit, hoffset, hrange, hzero, rfl, status_serve_of_pageOk h
      (decide_eq_true ⟨hrange.1, hrange.2, hzero⟩) hbigint⟩

end Routes

/-! ### Nothing else is -/

/-- **A route serves a pair of texts exactly as they are written, or refuses them**, whatever the
other parameters, the user and the rows. -/
def RawListing.ServesExactly (route : RawListing) (page : RawPage) : Prop :=
  ∀ (p : Platform) (s : Settings) (env : Env) (db : Db) (sub : Except Fault String) (user : User)
    (r : Request), r.rawListing? = some (route, page) → currentUser db sub = .ok user →
      r.AnswersPage p db user page (handle p s env db sub (.bound r)).1

/-- A request without other parameters. -/
def RawListing.plain (page : RawPage) : RawListing → Request
  | .leads => .listLeads ⟨none, none, none, page⟩
  | .clients => .listClients ⟨none, none, none, none, page⟩
  | .services => .listServices ⟨none, none, none, none, page⟩
  | .clientTickets => .listClientTickets 0 none none page
  | .clientMessages => .listClientMessages 0 page
  | .activity => .getActivity none page

/-- An administrator with an address that examples know. -/
def administrator : User := .sample 1 (.lit "root@example.com") .admin none

/-- A database with an administrator and nothing to list. -/
def staffed : Db := { Db.empty with users := Table.empty.insert administrator }

theorem currentUser_staffed : currentUser staffed (.ok "root@example.com") = .ok administrator := by
  decide

/-- An empty page, as the route renders it. -/
def RawListing.emptyPage (limit offset : ℤ) : RawListing → Body
  | .leads => .leads ⟨[], 0, limit, offset⟩
  | .clients => .clients ⟨[], 0, limit, offset⟩
  | .services => .services ⟨[], 0, limit, offset⟩
  | .clientTickets => .tickets ⟨[], 0, limit, offset⟩
  | .clientMessages => .messages ⟨[], 0, limit, offset⟩
  | .activity => .activity ⟨[], 0, limit, offset⟩

/-- PostgreSQL takes limit and offset. -/
def fitsBigint (limit offset : ℤ) : Prop :=
  0 ≤ limit ∧ limit ≤ Session.maxBigint ∧ 0 ≤ offset ∧ offset ≤ Session.maxBigint

instance (limit offset : ℤ) : Decidable (fitsBigint limit offset) :=
  inferInstanceAs (Decidable (0 ≤ limit ∧ limit ≤ Session.maxBigint ∧ 0 ≤ offset ∧
    offset ≤ Session.maxBigint))

/-- A listing of nothing. -/
theorem respond_empty {ρ α : Type} [Keyed ρ UUID] {L : Listing ρ} {db : Db} {limit offset : ℤ}
    {m : Tx α} {g : List ρ × ℕ → α}
    (hrun : m.run db = (L.answer db limit offset).map fun a ↦ (g a, db))
    (hbind : L.bindable = true) (hempty : L.ordered db = []) {answer : α → Response} :
    (respond (m >>= fun a ↦ return answer a) db).1 =
      if fitsBigint limit offset then answer (g ([], 0)) else ⟨500, .internal⟩ := by
  rw [respond_listing hrun, Listing.answer, if_pos hbind, hempty, Listing.pageOf]
  by_cases hfits : fitsBigint limit offset
  · have hok : Session.limitOffset limit offset ([] : List ρ) =
        .ok ((([] : List ρ).drop offset.toNat).take limit.toNat) := if_pos hfits
    rw [if_pos hfits, hok, List.drop_nil, List.take_nil]
    rfl
  · have herror : Session.limitOffset limit offset ([] : List ρ) = .error .data := if_neg hfits
    rw [if_neg hfits, herror]
    rfl

/-- With nothing to list, an empty page is served, if PostgreSQL takes its limit and offset. -/
theorem respond_serve_staffed (route : RawListing) (page : RawPage) (limit offset : ℤ)
    (hpage : route.bounded = true → Request.pageOk limit offset = true) :
    (respond ((route.plain page).serve .sample administrator limit offset) staffed).1 =
      if fitsBigint limit offset then ⟨200, route.emptyPage limit offset⟩
      else ⟨500, .internal⟩ := by
  cases route with
  | leads =>
    have hx : ∀ limit offset, (LeadQuery.mk none none none page).filters limit offset =
        (checkPage limit offset).map fun _ ↦ ⟨none, none, none, limit, offset⟩ := by
      intro limit offset
      rw [LeadQuery.filters]
      exact checkPage_bind limit offset _
    rw [RawListing.plain, Request.serve, respond_filters hx, if_pos (hpage rfl)]
    exact respond_empty (Listing.run_listForUser _ staffed) rfl rfl
  | clients =>
    have hx : ∀ limit offset,
        (ClientQuery.mk none none none none page).filters .sample limit offset =
          (checkPage limit offset).map fun _ ↦ ⟨none, none, none, none, limit, offset⟩ := by
      intro limit offset
      rw [ClientQuery.filters]
      exact checkPage_bind limit offset _
    rw [RawListing.plain, Request.serve, respond_filters hx, if_pos (hpage rfl)]
    exact respond_empty (Listing.run_listClients _ staffed) rfl rfl
  | services =>
    have hx : ∀ limit offset,
        (ServiceQuery.mk none none none none page).filters .sample limit offset =
          (checkPage limit offset).map fun _ ↦ ⟨none, none, none, none, limit, offset⟩ := by
      intro limit offset
      rw [ServiceQuery.filters]
      exact checkPage_bind limit offset _
    rw [RawListing.plain, Request.serve, respond_filters hx, if_pos (hpage rfl)]
    exact respond_empty (Listing.run_listServices _ staffed) rfl rfl
  | clientTickets => exact respond_empty (Listing.run_listTickets _ _ _ _ _ staffed) rfl rfl
  | clientMessages => exact respond_empty (Listing.run_listMessages _ _ _ _ staffed) rfl rfl
  | activity => exact respond_empty (Listing.run_listActivity _ _ _ staffed) rfl rfl

theorem emptyPage_inj {route : RawListing} {limit offset limit' offset' : ℤ}
    (h : route.emptyPage limit offset = route.emptyPage limit' offset') :
    limit = limit' ∧ offset = offset' := by
  cases route with
  | _ =>
    cases h
    exact ⟨rfl, rfl⟩

/-- The plain request is served by the handler of its route. -/
theorem handle_plain (env : Env) (route : RawListing) (page : RawPage) :
    handle .sample .sample env staffed (.ok "root@example.com") (.bound (route.plain page)) =
      respond ((route.plain page).paged .sample administrator page) staffed := by
  have hraw : (route.plain page).rawListing? = some (route, page) := by
    cases route with
    | _ => rfl
  have hadmitted : (ZanovixCrm.route .sample .sample env (route.plain page)).guard
      (.ok administrator) = .ok ((route.plain page).paged .sample administrator page) := by
    refine (guard_listing hraw).resolve_right fun ⟨roles, hroles⟩ ↦ ?_
    cases route with
    | _ => cases hroles
  have hvalid : (route.plain page).validate? .sample = some (route.plain page) := by
    cases route with
    | _ => rfl
  exact handle_of_admitted (Bool.or_eq_true_iff.2 (Or.inl rfl)) hvalid
    (currentUser_staffed ▸ hadmitted)

/-- With nothing to list, the default page is served, so that nothing else explains an error. -/
theorem status_ne_500 {route : RawListing} {page : RawPage} {a : Response}
    (h : (route.plain page).AnswersPage .sample staffed administrator page a) : a.status ≠ 500 := by
  intro h500
  rcases h with h | ⟨limit, offset, -, -, -, -, -, h⟩
  · exact absurd (h500 ▸ h.2) (lt_irrefl 500)
  · have hdefault := h h500
    rw [respond_serve_staffed route page 50 0 fun _ ↦ by decide, if_pos (by decide)] at hdefault
    exact absurd hdefault (by decide : 200 ≠ 500)

/-- Texts that are read, but out of bounds, are sound. -/
theorem RawPage.sound_of_outOfBounds {page : RawPage} {bounded : Bool} {l o : ℤ}
    (hlimit? : page.limit? = .ok l) (ho : Written page.offset 0 o) (hbounded : bounded = true)
    (hout : ¬Request.pageOk l o = true) : page.Sound bounded := by
  obtain ⟨hle, hdefault, hdigits⟩ := RawPage.of_limit?_ok hlimit?
  refine .outOfBounds hbounded (fun s hs hd hn ↦ ?_) (fun s hs hn ↦ ?_) ?_
  · rcases hdigits s hs with ⟨-, hl⟩ | ⟨hd', -⟩
    · cases hn.symm.trans hl
    · exact absurd (hd'.symm.trans hd) Bool.false_ne_true
  · rw [Written, hs] at ho
    cases hn.symm.trans ho
  · by_cases hzero : o < 0
    · rcases hs : page.offset with - | s
      · rw [Written, hs] at ho
        cases ho
        exact absurd hzero (lt_irrefl 0)
      · rw [Written, hs] at ho
        exact Or.inr ⟨s, o, rfl, ho, hzero⟩
    · rcases hdefault with rfl | ⟨s, hs, hd, hl⟩
      · refine absurd (decide_eq_true ⟨?_, ?_, ?_⟩) hout
        · decide
        · decide
        · omega
      · refine Or.inl ⟨s, l, hs, hd, hl, ?_⟩
        by_contra hlow
        exact hout (decide_eq_true ⟨by omega, hle, by omega⟩)

/-- A page that is served has the integers that the texts write. -/
theorem written_of_served {route : RawListing} {page : RawPage} {l o : ℤ}
    (hpage : route.bounded = true → Request.pageOk l o = true)
    (h : (route.plain page).AnswersPage .sample staffed administrator page
      (respond ((route.plain page).serve .sample administrator l o) staffed).1) :
    Written page.limit 50 l ∧ Written page.offset 0 o ∧ (1 ≤ l ∧ l ≤ 200) ∧ 0 ≤ o ∧
      o ≤ Session.maxBigint := by
  have h500 := status_ne_500 h
  rw [respond_serve_staffed route page l o hpage] at h h500
  have hfits : fitsBigint l o := by
    by_contra hfits
    rw [if_neg hfits] at h500
    exact h500 rfl
  rw [if_pos hfits] at h
  rcases h with h | ⟨limit, offset, hlimit, hoffset, hrange, hzero, h, -⟩
  · exact absurd h.1 (by decide : ¬400 ≤ 200)
  have hpage' : Request.pageOk limit offset = true :=
    decide_eq_true ⟨hrange.1, hrange.2, hzero⟩
  rw [respond_serve_staffed route page limit offset fun _ ↦ hpage'] at h
  have hfits' : fitsBigint limit offset := by
    by_contra hfits'
    rw [if_neg hfits'] at h
    exact absurd (congrArg Response.status h) (by decide : 200 ≠ 500)
  rw [if_pos hfits'] at h
  obtain ⟨rfl, rfl⟩ := emptyPage_inj (congrArg Response.body h)
  exact ⟨hlimit, hoffset, hrange, hzero, hfits.2.2.2⟩

/-- **What is served exactly, with nothing to list, is sound.** -/
theorem sound_of_answersPage {route : RawListing} {page : RawPage}
    (h : (route.plain page).AnswersPage .sample staffed administrator page
      (respond ((route.plain page).paged .sample administrator page) staffed).1) :
    page.Sound route.bounded := by
  rcases hlimit? : page.limit? with f | l
  · rcases RawPage.of_limit?_error hlimit? with ⟨s, n, hs, hn, hlarge⟩ | ⟨s, hs, hn, rfl⟩
    · exact .tooLarge hs hn hlarge
    · rw [respond_paged_of_limit_error hlimit?] at h
      exact absurd rfl (status_ne_500 h)
  rcases page.offset?_cases with ⟨s, hs, hn, hoffset?⟩ | ⟨o, ho, hoffset?⟩
  · rw [respond_paged_of_offset_error hlimit? hoffset?] at h
    exact absurd rfl (status_ne_500 h)
  rw [respond_paged hlimit? hoffset?] at h
  by_cases hout : route.bounded = true ∧ ¬Request.pageOk l o = true
  · exact RawPage.sound_of_outOfBounds hlimit? ho hout.1 hout.2
  · have hpage : route.bounded = true → Request.pageOk l o = true := by
      intro hb
      by_contra hpage
      exact hout ⟨hb, hpage⟩
    obtain ⟨hlimit, hoffset, hrange, hzero, hbigint⟩ := written_of_served hpage h
    refine .inBounds hlimit hoffset hrange (fun s hs ↦ ?_) hzero hbigint
    exact ((RawPage.of_limit?_ok hlimit?).2.2 s hs).imp And.left And.right

theorem RawListing.ServesExactly.sound {route : RawListing} {page : RawPage}
    (h : route.ServesExactly page) : page.Sound route.bounded := by
  have hraw : (route.plain page).rawListing? = some (route, page) := by
    cases route with
    | _ => rfl
  have hanswers := h .sample .sample (.sample 10) staffed (.ok "root@example.com")
    administrator (route.plain page) hraw currentUser_staffed
  rw [handle_plain] at hanswers
  exact sound_of_answersPage hanswers

/-- **The six routes serve a page exactly as its texts are written, or refuse it, for the sound
pairs of texts** and for no others. -/
theorem serves_exactly_iff (route : RawListing) (page : RawPage) :
    route.ServesExactly page ↔ page.Sound route.bounded :=
  ⟨RawListing.ServesExactly.sound, fun hsound _ _ _ _ _ _ _ hraw huser ↦
    answersPage_of_sound hraw huser hsound⟩

/-- **A limit that is not an integer** is replaced by 50. -/
theorem limit_replaced :
    ¬RawListing.activity.ServesExactly ⟨some "many", none⟩ ∧
      (handle .sample .sample (.sample 10) staffed (.ok "root@example.com")
        (.bound (.getActivity none ⟨some "many", none⟩))).1 =
          ⟨200, .activity ⟨[], 0, 50, 0⟩⟩ := by
  have hmany : int? "many" = none := by decide
  refine ⟨fun h ↦ ?_, by decide⟩
  cases h.sound with
  | tooLarge hs hn _ =>
    cases hs
    cases hmany.symm.trans hn
  | outOfBounds hbounded _ _ _ => cases hbounded
  | inBounds hlimit _ _ _ _ _ => cases hmany.symm.trans hlimit

end ZanovixCrm
