import ZanovixCrm.Schemas.TaxIdValidators

/-!
# Request schemas

The bodies that the endpoints accept, after parsing. A partial update distinguishes a field that is
absent from one that is explicitly `null`, because the handlers dump only the fields that were set:
hence `Field`. The constraints that a schema puts on its fields are its `validate?`, which answers
the body as the handler sees it, or `none` where the request is refused.

**What has happened before.** The framework has parsed the JSON and Pydantic has coerced the values,
so that a field has its type here; a body that fails at this is a `malformed` call of the route. A
text whose schema bounds its length is a `String`, because that check refuses lone surrogates. Of
the others, only the body of a ticket is stored, and it is a `PyStr`; stage and type are looked up
in the values of an enumeration, where a text with a surrogate is one more that is not among them.

**Left out** are fields that the handlers do not read, and the texts of the 422 answer, which
Pydantic makes.
-/

namespace ZanovixCrm

/-- A field of a partial update. -/
inductive Field (α : Type) where
  /-- The key is absent. -/
  | unset
  /-- The key is present with `null`. -/
  | null
  /-- The key is present with a value. -/
  | val (a : α)
deriving DecidableEq

namespace Field

variable {α β : Type}

/-- The value satisfies a constraint, if there is one. -/
def all (p : α → Bool) : Field α → Bool
  | .val a => p a
  | _ => true

/-- The key is present. -/
def isSet : Field α → Bool
  | .unset => false
  | _ => true

/-- The value, where `null` and an absent key are both `None`. -/
def toOption : Field α → Option α
  | .val a => some a
  | _ => none

/-- Apply a function to the value. -/
def map (f : α → β) : Field α → Field β
  | .unset => .unset
  | .null => .null
  | .val a => .val (f a)

/-- The value of the attribute after the update, given the one before. -/
def onto (f : Field α) (old : Option α) : Option α :=
  match f with
  | .unset => old
  | .null => none
  | .val a => some a

end Field

/-- `max_length=n`. -/
def maxLength (n : ℕ) (s : String) : Bool := s.length ≤ n

/-- `min_length=m, max_length=n`. -/
def lengthIn (m n : ℕ) (s : String) : Bool := m ≤ s.length && s.length ≤ n

/-- `ge=0`. -/
def nonneg (x : ℤ) : Bool := 0 ≤ x

/-- `ge=0, le=100`. -/
def percentage (x : ℤ) : Bool := 0 ≤ x && x ≤ 100

/-- The body, if the constraints hold. -/
def accept {α : Type} (ok : Bool) (body : α) : Option α := if ok then some body else none

theorem accept_eq_some_iff {α : Type} {ok : Bool} {body body' : α} :
    accept ok body = some body' ↔ ok = true ∧ body = body' := by
  cases ok <;> simp [accept]

/-! ### Leads -/

/-- The public intake form. -/
structure LeadCreate where
  name : String
  email : String
  phone : Option String
  company : Option String
  vertical : LeadVertical
  channel : LeadChannel
  sourceUrl : Option String
  notes : Option String
  role : Option String
deriving DecidableEq

def LeadCreate.validate? (p : Platform) (b : LeadCreate) : Option LeadCreate :=
  accept (maxLength 255 b.name && p.isEmail b.email && b.phone.all (maxLength 50) &&
    b.company.all (maxLength 255) && b.sourceUrl.all (maxLength 2048) &&
    b.notes.all (maxLength 2000) && b.role.all (maxLength 100)) b

/-- Editable fields of a lead. -/
structure LeadUpdate where
  name : Field String
  phone : Field String
  company : Field String
  notes : Field String
  role : Field String
deriving DecidableEq

def LeadUpdate.validate? (b : LeadUpdate) : Option LeadUpdate :=
  accept (b.name.all (maxLength 255) && b.phone.all (maxLength 50) &&
    b.company.all (maxLength 255) && b.notes.all (maxLength 2000) && b.role.all (maxLength 100)) b

/-- Query parameters of the lead list. -/
structure LeadFilters where
  vertical : Option LeadVertical
  channel : Option LeadChannel
  status : Option LeadStatus
  limit : ℤ
  offset : ℤ
deriving DecidableEq

/-! ### Billing profiles -/

/-- A billing profile to create. -/
structure BillingProfileCreate where
  legalName : String
  taxId : String
  taxIdType : TaxIdType
  taxRegime : TaxRegime
  addressLine1 : String
  addressLine2 : Option String
  city : String
  province : String
  postalCode : String
  country : String
  billingEmail : Option String
  isDefault : Bool
deriving DecidableEq

/-- The country code is upper-cased after its length has been checked. -/
def BillingProfileCreate.validate? (p : Platform) (b : BillingProfileCreate) :
    Option BillingProfileCreate :=
  accept (lengthIn 1 255 b.legalName && lengthIn 3 32 b.taxId && lengthIn 1 255 b.addressLine1 &&
    b.addressLine2.all (maxLength 255) && lengthIn 1 120 b.city && lengthIn 1 120 b.province &&
    lengthIn 3 20 b.postalCode && lengthIn 2 2 b.country && b.billingEmail.all p.isEmail &&
    TaxId.validator p b.taxIdType b.taxId) { b with country := p.upper b.country }

/-- A partial update of a billing profile; it has no `is_default`. -/
structure BillingProfileUpdate where
  legalName : Field String
  taxId : Field String
  taxIdType : Field TaxIdType
  taxRegime : Field TaxRegime
  addressLine1 : Field String
  addressLine2 : Field String
  city : Field String
  province : Field String
  postalCode : Field String
  country : Field String
  billingEmail : Field String
deriving DecidableEq

/-- `_validate_if_paired`: the identifier and its type change together, where `null` counts as
absent. -/
def BillingProfileUpdate.paired (p : Platform) (b : BillingProfileUpdate) : Bool :=
  match b.taxId.toOption, b.taxIdType.toOption with
  | some taxId, some taxIdType => TaxId.validator p taxIdType taxId
  | none, none => true
  | _, _ => false

def BillingProfileUpdate.validate? (p : Platform) (b : BillingProfileUpdate) :
    Option BillingProfileUpdate :=
  accept (b.legalName.all (lengthIn 1 255) && b.taxId.all (lengthIn 3 32) &&
    b.addressLine1.all (lengthIn 1 255) && b.addressLine2.all (maxLength 255) &&
    b.city.all (lengthIn 1 120) && b.province.all (lengthIn 1 120) &&
    b.postalCode.all (lengthIn 3 20) && b.country.all (lengthIn 2 2) &&
    b.billingEmail.all p.isEmail && b.paired p) { b with country := b.country.map p.upper }

/-! ### Clients -/

/-- A client to create; the stage is any text here. -/
structure ClientCreate where
  name : String
  sector : Option String
  size : Option String
  region : Option String
  ownerId : Option UUID
  mrrCents : Option ℤ
  stage : String
deriving DecidableEq

def ClientCreate.validate? (b : ClientCreate) : Option ClientCreate :=
  accept (maxLength 200 b.name && b.sector.all (maxLength 100) && b.size.all (maxLength 50) &&
    b.region.all (maxLength 100) && b.mrrCents.all nonneg) b

/-- A partial update of a client; it has no `stage`. -/
structure ClientUpdate where
  name : Field String
  sector : Field String
  size : Field String
  region : Field String
  ownerId : Field UUID
  mrrCents : Field ℤ
  lifetimeValueCents : Field ℤ
deriving DecidableEq

def ClientUpdate.validate? (b : ClientUpdate) : Option ClientUpdate :=
  accept (b.name.all (maxLength 200) && b.sector.all (maxLength 100) && b.size.all (maxLength 50) &&
    b.region.all (maxLength 100) && b.mrrCents.all nonneg && b.lifetimeValueCents.all nonneg) b

/-- Query parameters of the client list. -/
structure ClientFilters where
  stage : Option String
  ownerId : Option UUID
  sector : Option String
  q : Option String
  limit : ℤ
  offset : ℤ
deriving DecidableEq

/-- Overrides for the client created from a lead. -/
structure ConvertLeadBody where
  name : Option String
  sector : Option String
  size : Option String
  region : Option String
  ownerId : Option UUID
  mrrCents : Option ℤ
  stage : Option String
  billingProfile : Option BillingProfileCreate
deriving DecidableEq

def ConvertLeadBody.validate? (p : Platform) (b : ConvertLeadBody) : Option ConvertLeadBody :=
  let ok := b.name.all (maxLength 200) && b.sector.all (maxLength 100) &&
    b.size.all (maxLength 50) && b.region.all (maxLength 100) && b.mrrCents.all nonneg
  match b.billingProfile with
  | none => accept ok b
  | some bp => (bp.validate? p).bind fun bp' ↦ accept ok { b with billingProfile := some bp' }

/-! ### Contacts -/

/-- A contact to create. -/
structure ContactCreate where
  clientId : UUID
  name : String
  role : Option String
  email : Option String
  phone : Option String
  isPrimary : Bool
deriving DecidableEq

def ContactCreate.validate? (p : Platform) (b : ContactCreate) : Option ContactCreate :=
  accept (maxLength 200 b.name && b.role.all (maxLength 100) && b.email.all p.isEmail &&
    b.phone.all (maxLength 50)) b

/-- A partial update of a contact. -/
structure ContactUpdate where
  name : Field String
  role : Field String
  email : Field String
  phone : Field String
  isPrimary : Field Bool
deriving DecidableEq

def ContactUpdate.validate? (p : Platform) (b : ContactUpdate) : Option ContactUpdate :=
  accept (b.name.all (maxLength 200) && b.role.all (maxLength 100) && b.email.all p.isEmail &&
    b.phone.all (maxLength 50)) b

/-! ### Services and milestones -/

/-- A service to create; the type is any text here. -/
structure ServiceCreate where
  clientId : UUID
  ownerId : Option UUID
  type : String
  title : String
  setupPriceCents : Option ℤ
  monthlyCents : Option ℤ
deriving DecidableEq

def ServiceCreate.validate? (b : ServiceCreate) : Option ServiceCreate :=
  accept (maxLength 200 b.title && b.setupPriceCents.all nonneg && b.monthlyCents.all nonneg) b

/-- A partial update of a service; it has no `state`. -/
structure ServiceUpdate where
  title : Field String
  ownerId : Field UUID
  progressPct : Field ℤ
  startedAt : Field PyDateTime
  endedAt : Field PyDateTime
  setupPriceCents : Field ℤ
  monthlyCents : Field ℤ
  scoreInt : Field ℤ
deriving DecidableEq

def ServiceUpdate.validate? (b : ServiceUpdate) : Option ServiceUpdate :=
  accept (b.title.all (maxLength 200) && b.progressPct.all percentage &&
    b.setupPriceCents.all nonneg && b.monthlyCents.all nonneg && b.scoreInt.all percentage) b

/-- Query parameters of the service list. -/
structure ServiceFilters where
  state : Option String
  clientId : Option UUID
  ownerId : Option UUID
  type : Option String
  limit : ℤ
  offset : ℤ
deriving DecidableEq

/-- A milestone to create. -/
structure MilestoneCreate where
  n : ℤ
  title : String
  dueDate : Option Date
deriving DecidableEq

def MilestoneCreate.validate? (b : MilestoneCreate) : Option MilestoneCreate :=
  accept (decide (1 ≤ b.n) && maxLength 300 b.title) b

/-- A partial update of a milestone. -/
structure MilestoneUpdate where
  title : Field String
  dueDate : Field Date
  completedAt : Field PyDateTime
deriving DecidableEq

def MilestoneUpdate.validate? (b : MilestoneUpdate) : Option MilestoneUpdate :=
  accept (b.title.all (maxLength 300)) b

/-! ### Tickets and messages -/

/-- A ticket to open. -/
structure TicketCreate where
  title : String
  priority : TicketPriority
  body : Option PyStr
  serviceId : Option UUID
deriving DecidableEq

def TicketCreate.validate? (b : TicketCreate) : Option TicketCreate :=
  accept (maxLength 200 b.title) b

/-- A partial update of a ticket by its client; it has no `status`. -/
structure TicketPatch where
  title : Field String
  priority : Field TicketPriority
  body : Field PyStr
deriving DecidableEq

def TicketPatch.validate? (b : TicketPatch) : Option TicketPatch :=
  accept (b.title.all (maxLength 200)) b

/-- A partial update of a ticket by an internal role. -/
structure TicketUpdate where
  title : Field String
  priority : Field TicketPriority
  status : Field TicketStatus
  body : Field PyStr
  assignedToUserId : Field UUID
deriving DecidableEq

def TicketUpdate.validate? (b : TicketUpdate) : Option TicketUpdate :=
  accept (b.title.all (maxLength 200)) b

/-- A message to send. -/
structure MessageCreate where
  body : String
deriving DecidableEq

def MessageCreate.validate? (b : MessageCreate) : Option MessageCreate :=
  accept (lengthIn 1 4000 b.body) b

end ZanovixCrm
