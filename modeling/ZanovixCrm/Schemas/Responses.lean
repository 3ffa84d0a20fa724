import ZanovixCrm.Services.BillingProfileService
import ZanovixCrm.Services.ContactService
import ZanovixCrm.Services.DiagnosticService
import ZanovixCrm.Services.MessageService
import ZanovixCrm.Services.MilestoneService
import ZanovixCrm.Services.TicketService

/-!
# Responses

The bodies of answers. Most read schemas list every column of their row, so the row stands for them;
`LeadRead`, `ServiceStub` and `CurrentUser` leave columns out. Two read schemas validate what they
read, and a stored row can fail that: a billing profile repeats the constraints of the request, and
a service wants its diagnostic to be a JSON object.

How the bodies are written as JSON is the business of the wire format, not of this module: here an
answer is the data it is made of. The read schemas that Pydantic validates without a constraint of
their own cannot fail on a stored row, so they have no `readable`.
-/

namespace ZanovixCrm

/-- A lead without `raw_payload` and `converted_client_id`. -/
structure LeadRead where
  id : UUID
  createdAt : Time
  updatedAt : Time
  name : Str 200
  email : Str 320
  phone : Option (Str 50)
  company : Option (Str 200)
  vertical : LeadVertical
  channel : LeadChannel
  sourceUrl : Option (Str 2048)
  notes : Option Text
  status : LeadStatus
  ownerId : Option UUID
  role : Option (Str 100)
deriving DecidableEq

def LeadRead.ofLead (l : Lead) : LeadRead where
  id := l.id
  createdAt := l.createdAt
  updatedAt := l.updatedAt
  name := l.name
  email := l.email
  phone := l.phone
  company := l.company
  vertical := l.vertical
  channel := l.channel
  sourceUrl := l.sourceUrl
  notes := l.notes
  status := l.status
  ownerId := l.ownerId
  role := l.role

/-- The projection of a service inside a client's detail. -/
structure ServiceStub where
  id : UUID
  title : Str 200
  type : ServiceType
  state : ServiceState
  progressPct : Option (PgInt 32)
  ownerId : Option UUID
deriving DecidableEq

def ServiceStub.ofService (s : Service) : ServiceStub where
  id := s.id
  title := s.title
  type := s.type
  state := s.state
  progressPct := s.progressPct
  ownerId := s.ownerId

/-- The detail of a client. -/
structure ClientDetailResponse where
  client : Client
  contacts : List Contact
  services : List ServiceStub
  billingProfiles : List BillingProfile
  recentActivity : List ActivityLog
deriving DecidableEq

/-- The authenticated user. -/
structure CurrentUser where
  id : UUID
  email : Str 255
  role : Role
  displayName : Option (Str 120)
  isActive : Bool
deriving DecidableEq

def CurrentUser.ofUser (u : User) : CurrentUser where
  id := u.id
  email := u.email
  role := u.role
  displayName := u.displayName
  isActive := u.isActive

/-- A page of a list, with the number of rows before paging. -/
structure Page (α : Type) where
  items : List α
  total : ℕ
  limit : ℤ
  offset : ℤ
deriving DecidableEq

/-- The body of an answer. -/
inductive Body where
  | lead (r : LeadRead)
  | leads (r : Page LeadRead)
  | client (r : Client)
  | clients (r : Page Client)
  | clientDetail (r : ClientDetailResponse)
  | contact (r : Contact)
  | contacts (r : List Contact)
  | service (r : ServiceWithMilestones)
  | services (r : Page ServiceWithMilestones)
  | milestone (r : Milestone)
  | milestones (r : List Milestone)
  | billingProfile (r : BillingProfile)
  | billingProfiles (r : List BillingProfile)
  | ticket (r : Ticket)
  | tickets (r : Page Ticket)
  | message (r : Message)
  | messages (r : Page Message)
  | activity (r : Page ActivityLog)
  | diagnostic (r : DiagnosticRead)
  | currentUser (r : CurrentUser)
  | token (email : Str 255) (role : Role)
  | loggedOut
  | health
  | noContent
  /-- The envelope of an `HTTPException`, up to its `log_ref`. -/
  | envelope (detail : Detail)
  /-- `{"detail": …}`. -/
  | detail (s : String)
  /-- `{"error": …}`. -/
  | error (code : String)
  | errorDetail (code detail : String)
  | invalidTransition (source target : String) (allowed : List String)
  | alreadyConverted (clientId : UUID)
  | notQualified (currentStatus : String)
  /-- A request that its schema refuses. -/
  | unprocessable
  /-- The envelope of a Pydantic `ValidationError`. -/
  | validation
  /-- The envelope of an unhandled exception. -/
  | internal
deriving DecidableEq

/-- An answer. -/
structure Response where
  status : ℕ
  body : Body
deriving DecidableEq

/-- An answer that reports success. -/
def Response.isOk (r : Response) : Bool := r.status < 400

/-- A row passes the constraints of `BillingProfileRead`. -/
def BillingProfile.readable (p : Platform) (b : BillingProfile) : Bool :=
  lengthIn 1 255 b.legalName.val && lengthIn 3 32 b.taxId.val &&
    lengthIn 1 255 b.addressLine1.val && lengthIn 1 120 b.city.val &&
    lengthIn 1 120 b.province.val && lengthIn 3 20 b.postalCode.val &&
    b.billingEmail.all fun e ↦ p.isEmail e.val

/-- A row passes the constraints of `ServiceRead`. -/
def Service.readable (p : Platform) (s : Service) : Bool := s.diagnosticJson.all p.isObject

end ZanovixCrm
