import ZanovixCrm.Domain.PayloadSanitizer
import ZanovixCrm.Library.Table

/-!
# Rows

One structure for each table, with the columns that the code reads or writes. Nullable columns are
options. The value-level constraints of the schema are in the column types; keys, uniqueness and
references between tables are the business of `Schema`.

**Instants.** `created_at` and `updated_at` are taken from the clock of the database, so they are
plain instants; those that a request sets have a type of their own (`Timestamptz`), because not
every `datetime` can be stored. Milestones have neither of the two, messages and log entries no
`updated_at`.

**Left out** are the relationships of the models, which are queries of the services here, and the
indexes. Every column has its field; the server defaults are the values that the services give to a
new row. Documents are kept by their text: what is in one matters only where it is parsed.
-/

namespace ZanovixCrm

/-- `character varying(n)`. -/
abbrev Str (n : ℕ) := Varchar (some n)

/-- `users`. -/
structure User where
  id : UUID
  createdAt : Time
  updatedAt : Time
  email : Str 255
  passwordHash : Str 255
  role : Role
  displayName : Option (Str 120)
  isActive : Bool
  clientId : Option UUID
deriving DecidableEq

/-- An active account for examples. -/
def User.sample (id : UUID) (email : Str 255) (role : Role) (clientId : Option UUID) : User where
  id := id
  createdAt := 0
  updatedAt := 0
  email := email
  passwordHash := .lit "hash"
  role := role
  displayName := none
  isActive := true
  clientId := clientId

/-- `leads`. -/
structure Lead where
  id : UUID
  createdAt : Time
  updatedAt : Time
  name : Str 200
  email : Str 320
  phone : Option (Str 50)
  company : Option (Str 200)
  vertical : LeadVertical
  channel : LeadChannel
  status : LeadStatus
  sourceUrl : Option (Str 2048)
  notes : Option Text
  ownerId : Option UUID
  rawPayload : RawPayload
  convertedClientId : Option UUID
  role : Option (Str 100)
deriving DecidableEq

/-- `clients`. -/
structure Client where
  id : UUID
  createdAt : Time
  updatedAt : Time
  name : Str 200
  sector : Option (Str 100)
  size : Option (Str 50)
  region : Option (Str 100)
  ownerId : Option UUID
  stage : ClientStage
  enteredAt : Time
  mrrCents : Option (PgInt 64)
  lifetimeValueCents : Option (PgInt 64)
deriving DecidableEq

/-- `contacts`. -/
structure Contact where
  id : UUID
  createdAt : Time
  updatedAt : Time
  clientId : UUID
  name : Str 200
  role : Option (Str 100)
  email : Option (Str 320)
  phone : Option (Str 50)
  isPrimary : Bool
deriving DecidableEq

/-- `services`. -/
structure Service where
  id : UUID
  createdAt : Time
  updatedAt : Time
  clientId : UUID
  ownerId : Option UUID
  type : ServiceType
  title : Str 200
  state : ServiceState
  progressPct : Option (PgInt 32)
  startedAt : Option Timestamptz
  endedAt : Option Timestamptz
  setupPriceCents : Option (PgInt 64)
  monthlyCents : Option (PgInt 64)
  scoreInt : Option (PgInt 32)
  diagnosticJson : Option Json
deriving DecidableEq

/-- `milestones`. -/
structure Milestone where
  id : UUID
  serviceId : UUID
  n : PgInt 32
  title : Str 300
  dueDate : Option Date
  completedAt : Option Timestamptz
deriving DecidableEq

/-- A country code: `ck_billing_profile_country_iso2`. -/
structure CountryCode where
  /-- The code. -/
  code : Str 2
  /-- It has two characters. -/
  iso2 : code.val.length = 2
deriving DecidableEq

/-- `billing_profiles`. -/
structure BillingProfile where
  id : UUID
  createdAt : Time
  updatedAt : Time
  clientId : UUID
  legalName : Str 255
  taxId : Str 32
  taxIdType : TaxIdType
  taxRegime : TaxRegime
  addressLine1 : Str 255
  addressLine2 : Option (Str 255)
  city : Str 120
  province : Str 120
  postalCode : Str 20
  country : CountryCode
  billingEmail : Option (Str 255)
  isDefault : Bool
deriving DecidableEq

/-- `tickets`. -/
structure Ticket where
  id : UUID
  clientId : UUID
  serviceId : Option UUID
  title : Str 200
  body : Option FreeText
  priority : TicketPriority
  status : TicketStatus
  createdByUserId : Option UUID
  assignedToUserId : Option UUID
  createdAt : Time
  updatedAt : Time
deriving DecidableEq

/-- `messages`. -/
structure Message where
  id : UUID
  clientId : UUID
  senderUserId : Option UUID
  body : Text
  attachmentsJson : List Json
  createdAt : Time
deriving DecidableEq

/-- `activity_log`. -/
structure ActivityLog where
  id : UUID
  createdAt : Time
  clientId : UUID
  kind : ActivityKind
  actorUserId : Option UUID
  body : Text
deriving DecidableEq

instance : Keyed User UUID := ⟨User.id⟩
instance : Keyed Lead UUID := ⟨Lead.id⟩
instance : Keyed Client UUID := ⟨Client.id⟩
instance : Keyed Contact UUID := ⟨Contact.id⟩
instance : Keyed Service UUID := ⟨Service.id⟩
instance : Keyed Milestone UUID := ⟨Milestone.id⟩
instance : Keyed BillingProfile UUID := ⟨BillingProfile.id⟩
instance : Keyed Ticket UUID := ⟨Ticket.id⟩
instance : Keyed Message UUID := ⟨Message.id⟩
instance : Keyed ActivityLog UUID := ⟨ActivityLog.id⟩

@[simp] theorem key_user (r : User) : key r = r.id := rfl
@[simp] theorem key_lead (r : Lead) : key r = r.id := rfl
@[simp] theorem key_client (r : Client) : key r = r.id := rfl
@[simp] theorem key_contact (r : Contact) : key r = r.id := rfl
@[simp] theorem key_service (r : Service) : key r = r.id := rfl
@[simp] theorem key_milestone (r : Milestone) : key r = r.id := rfl
@[simp] theorem key_billingProfile (r : BillingProfile) : key r = r.id := rfl
@[simp] theorem key_ticket (r : Ticket) : key r = r.id := rfl
@[simp] theorem key_message (r : Message) : key r = r.id := rfl
@[simp] theorem key_activityLog (r : ActivityLog) : key r = r.id := rfl

end ZanovixCrm
