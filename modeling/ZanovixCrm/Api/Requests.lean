import ZanovixCrm.Api.Errors

/-!
# Requests

The endpoints with their path parameters, query parameters and bodies. The six listing endpoints
that read the raw query string carry it as text; the others carry parameters that the framework has
already parsed.

**What the framework does first** is not modelled as text: path parameters are UUIDs and integers,
bodies are values of their schemas, and what does not parse is a `malformed` call. Cookies and
headers matter to two endpoints only (the public intake and `Api.Auth`). An instant in a query
string is taken to be one that `datetime` knows.
-/

namespace ZanovixCrm

/-- Raw `limit` and `offset`. -/
structure RawPage where
  limit : Option String
  offset : Option String
deriving DecidableEq

/-- The query string of the lead list. -/
structure LeadQuery where
  vertical : Option String
  channel : Option String
  status : Option String
  page : RawPage
deriving DecidableEq

/-- The query string of the client list. -/
structure ClientQuery where
  stage : Option String
  ownerId : Option String
  sector : Option String
  q : Option String
  page : RawPage
deriving DecidableEq

/-- The query string of the service list. -/
structure ServiceQuery where
  clientId : Option String
  ownerId : Option String
  state : Option String
  type : Option String
  page : RawPage
deriving DecidableEq

/-- A request for an endpoint. -/
inductive Request where
  -- Leads
  | createLead (inbound : Inbound) (body : LeadCreate)
  | listLeads (query : LeadQuery)
  | getLead (leadId : UUID)
  | updateLead (leadId : UUID) (body : LeadUpdate)
  | updateLeadStatus (leadId : UUID) (status : LeadStatus)
  | assignLead (leadId ownerId : UUID)
  | convertLead (leadId : UUID) (body : ConvertLeadBody)
  -- Clients
  | createClient (body : ClientCreate)
  | listClients (query : ClientQuery)
  | getClient (clientId : UUID)
  | updateClient (clientId : UUID) (body : ClientUpdate)
  | changeClientStage (clientId : UUID) (stage : String)
  -- Contacts
  | listContacts (clientId : UUID)
  | createContact (clientId : UUID) (body : ContactCreate)
  | updateContact (clientId contactId : UUID) (body : ContactUpdate)
  | deleteContact (clientId contactId : UUID)
  -- Services
  | listServices (query : ServiceQuery)
  | getService (serviceId : UUID)
  | createService (clientId : UUID) (body : ServiceCreate)
  | updateService (serviceId : UUID) (body : ServiceUpdate)
  | changeServiceState (serviceId : UUID) (state : String)
  -- Milestones
  | listMilestones (serviceId : UUID)
  | createMilestone (serviceId : UUID) (body : MilestoneCreate)
  | updateMilestone (serviceId : UUID) (n : ℤ) (body : MilestoneUpdate)
  | deleteMilestone (serviceId : UUID) (n : ℤ)
  -- Billing profiles
  | createBillingProfile (clientId : UUID) (body : BillingProfileCreate)
  | listBillingProfiles (clientId : UUID)
  | getBillingProfile (profileId : UUID)
  | updateBillingProfile (profileId : UUID) (body : BillingProfileUpdate)
  | deleteBillingProfile (profileId : UUID)
  | setDefaultBillingProfile (profileId : UUID)
  -- Client portal
  | getMyClient
  | listMyServices (limit offset : ℤ) (state type : Option String)
  | getMyService (serviceId : UUID)
  | getMyServiceDiagnostic (serviceId : UUID)
  | listMyContacts
  | listMyActivity (limit offset : ℤ)
  | listMyMessages (limit offset : ℤ) (since : Option Time)
  | sendMyMessage (body : MessageCreate)
  | listMyTickets (limit offset : ℤ) (status priority : Option String)
  | createMyTicket (body : TicketCreate)
  | updateMyTicket (ticketId : UUID) (body : TicketPatch)
  -- Internal messages, tickets and activity
  | listClientMessages (clientId : UUID) (page : RawPage)
  | createClientMessage (clientId : UUID) (body : MessageCreate)
  | listClientTickets (clientId : UUID) (status priority : Option String) (page : RawPage)
  | getTicket (ticketId : UUID)
  | updateTicketInternal (ticketId : UUID) (body : TicketUpdate)
  | getActivity (clientId : Option String) (page : RawPage)
  -- Authentication and health
  | login (email password : String)
  | logout
  | authMe
  | health
  | root
deriving DecidableEq

namespace Request

/-- `limit` and `offset` of the portal's lists: `ge=1, le=200` and `ge=0`. -/
def pageOk (limit offset : ℤ) : Bool := decide (1 ≤ limit ∧ limit ≤ 200 ∧ 0 ≤ offset)

/-- Of such a page, only the offset can be beyond `bigint`. -/
theorem inBigint_of_pageOk {limit offset : ℤ} (h : pageOk limit offset = true)
    (hoffset : offset ≤ Session.maxBigint) :
    0 ≤ limit ∧ limit ≤ Session.maxBigint ∧ 0 ≤ offset ∧ offset ≤ Session.maxBigint := by
  obtain ⟨hlow, hhigh, hzero⟩ := of_decide_eq_true h
  exact ⟨le_trans (by decide) hlow, hhigh.trans (by decide), hzero, hoffset⟩

/-- The schema check of an endpoint: the request as the handler sees it, or `none`. -/
def validate? (p : Platform) : Request → Option Request
  | .createLead i b => (b.validate? p).map (.createLead i)
  | .updateLead l b => b.validate?.map (.updateLead l)
  | .convertLead l b => (b.validate? p).map (.convertLead l)
  | .createClient b => b.validate?.map .createClient
  | .updateClient c b => b.validate?.map (.updateClient c)
  | .createContact c b => (b.validate? p).map (.createContact c)
  | .updateContact c k b => (b.validate? p).map (.updateContact c k)
  | .createService c b => b.validate?.map (.createService c)
  | .updateService s b => b.validate?.map (.updateService s)
  | .createMilestone s b => b.validate?.map (.createMilestone s)
  | .updateMilestone s n b => b.validate?.map (.updateMilestone s n)
  | .createBillingProfile c b => (b.validate? p).map (.createBillingProfile c)
  | .updateBillingProfile k b => (b.validate? p).map (.updateBillingProfile k)
  | .listMyServices l o s t => accept (pageOk l o) (.listMyServices l o s t)
  | .listMyActivity l o => accept (pageOk l o) (.listMyActivity l o)
  | .listMyMessages l o s => accept (pageOk l o) (.listMyMessages l o s)
  | .listMyTickets l o s q => accept (pageOk l o) (.listMyTickets l o s q)
  | .sendMyMessage b => b.validate?.map .sendMyMessage
  | .createMyTicket b => b.validate?.map .createMyTicket
  | .updateMyTicket t b => b.validate?.map (.updateMyTicket t)
  | .createClientMessage c b => b.validate?.map (.createClientMessage c)
  | .updateTicketInternal t b => b.validate?.map (.updateTicketInternal t)
  | r => some r

/-- The endpoints of the client portal, `/api/me`. -/
def isPortal : Request → Bool
  | .getMyClient | .listMyServices .. | .getMyService _ | .getMyServiceDiagnostic _
  | .listMyContacts | .listMyActivity .. | .listMyMessages .. | .sendMyMessage _
  | .listMyTickets .. | .createMyTicket _ | .updateMyTicket .. => true
  | _ => false

/-- The endpoints that are mounted only if the portal is enabled: those of the portal, and the
internal ones for messages and tickets. -/
def needsPortal (r : Request) : Bool :=
  r.isPortal || match r with
    | .listClientMessages .. | .createClientMessage .. | .listClientTickets .. | .getTicket _
    | .updateTicketInternal .. => true
    | _ => false

/-- `/api/auth/*`. -/
def isAuth : Request → Bool
  | .login .. | .logout | .authMe => true
  | _ => false

end Request

/-! ### Raw query strings -/

namespace RawPage

/-- The largest page. -/
def maxLimit : ℤ := 200

/-- `limit`: a parsable value over the maximum is refused with 400; a text that `isdigit` refuses
is replaced by the default; one that `isdigit` accepts and `int` does not is an unhandled
`ValueError`. -/
def limit? (raw : RawPage) : Except Fault ℤ :=
  match raw.limit with
  | none => .ok 50
  | some s =>
    if (Python.int? s).any (maxLimit < ·) then
      .error (.http .badRequest (.limitExceedsMax maxLimit))
    else if Python.isDigit s then
      match Python.int? s with
      | some n => .ok n
      | none => .error .unhandled
    else .ok 50

/-- `int(query_params.get("offset", 0))`. -/
def offset? (raw : RawPage) : Except Fault ℤ :=
  match raw.offset with
  | none => .ok 0
  | some s =>
    match Python.int? s with
    | some n => .ok n
    | none => .error .unhandled

end RawPage

/-- An optional text parsed by `f`; a text that does not parse is a `ValidationError`. -/
def parseOpt {α : Type} (f : String → Option α) : Option String → Except Fault (Option α)
  | none => .ok none
  | some s =>
    match f s with
    | some a => .ok (some a)
    | none => .error .validation

/-- `limit: ge=1, le=200` and `offset: ge=0` of a filter schema. -/
def checkPage (limit offset : ℤ) : Except Fault Unit :=
  if Request.pageOk limit offset then .ok () else .error .validation

/-- `LeadFilters(…)` from the query string. -/
def LeadQuery.bind (q : LeadQuery) : Except Fault LeadFilters := do
  let limit ← q.page.limit?
  let offset ← q.page.offset?
  let vertical ← parseOpt TextEnum.ofText? q.vertical
  let channel ← parseOpt TextEnum.ofText? q.channel
  let status ← parseOpt TextEnum.ofText? q.status
  checkPage limit offset
  return { vertical, channel, status, limit, offset }

/-- `ClientFilters(…)` from the query string. -/
def ClientQuery.bind (p : Platform) (q : ClientQuery) : Except Fault ClientFilters := do
  let limit ← q.page.limit?
  let offset ← q.page.offset?
  let ownerId ← parseOpt p.pydanticUUID q.ownerId
  checkPage limit offset
  return { stage := q.stage, ownerId, sector := q.sector, q := q.q, limit, offset }

/-- `ServiceFilters(…)` from the query string. -/
def ServiceQuery.bind (p : Platform) (q : ServiceQuery) : Except Fault ServiceFilters := do
  let limit ← q.page.limit?
  let offset ← q.page.offset?
  let clientId ← parseOpt p.pydanticUUID q.clientId
  let ownerId ← parseOpt p.pydanticUUID q.ownerId
  checkPage limit offset
  return { state := q.state, clientId, ownerId, type := q.type, limit, offset }

/-- The client filter of the activity list; an empty text is no filter. -/
def activityClientId (p : Platform) (raw : Option String) : Except Fault (Option UUID) :=
  match raw.filter (· ≠ "") with
  | none => .ok none
  | some s =>
    match p.pythonUUID s with
    | some k => .ok (some k)
    | none => .error (.http .unprocessable (.invalidUuid "client_id"))

end ZanovixCrm
