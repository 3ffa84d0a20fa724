import ZanovixCrm.Database.Session

/-!
# Attributes

The columns that handlers assign on loaded objects. A column that is missing here is assigned only
when its row is inserted: keys, references to the parent row, `created_at`.

`updated_at` is missing as well: no handler assigns it, the `UPDATE` does (`Touched`).
-/

namespace ZanovixCrm

namespace Lead.Col

def name : Column Lead (Str 200) :=
  ⟨Lead.name, fun v r ↦ { r with name := v }, fun _ _ ↦ rfl, fun _ _ ↦ rfl⟩

def phone : Column Lead (Option (Str 50)) :=
  ⟨Lead.phone, fun v r ↦ { r with phone := v }, fun _ _ ↦ rfl, fun _ _ ↦ rfl⟩

def company : Column Lead (Option (Str 200)) :=
  ⟨Lead.company, fun v r ↦ { r with company := v }, fun _ _ ↦ rfl, fun _ _ ↦ rfl⟩

def notes : Column Lead (Option Text) :=
  ⟨Lead.notes, fun v r ↦ { r with notes := v }, fun _ _ ↦ rfl, fun _ _ ↦ rfl⟩

def role : Column Lead (Option (Str 100)) :=
  ⟨Lead.role, fun v r ↦ { r with role := v }, fun _ _ ↦ rfl, fun _ _ ↦ rfl⟩

def status : Column Lead LeadStatus :=
  ⟨Lead.status, fun v r ↦ { r with status := v }, fun _ _ ↦ rfl, fun _ _ ↦ rfl⟩

def ownerId : Column Lead (Option UUID) :=
  ⟨Lead.ownerId, fun v r ↦ { r with ownerId := v }, fun _ _ ↦ rfl, fun _ _ ↦ rfl⟩

def convertedClientId : Column Lead (Option UUID) :=
  ⟨Lead.convertedClientId, fun v r ↦ { r with convertedClientId := v }, fun _ _ ↦ rfl,
    fun _ _ ↦ rfl⟩

end Lead.Col

namespace Client.Col

def name : Column Client (Str 200) :=
  ⟨Client.name, fun v r ↦ { r with name := v }, fun _ _ ↦ rfl, fun _ _ ↦ rfl⟩

def sector : Column Client (Option (Str 100)) :=
  ⟨Client.sector, fun v r ↦ { r with sector := v }, fun _ _ ↦ rfl, fun _ _ ↦ rfl⟩

def size : Column Client (Option (Str 50)) :=
  ⟨Client.size, fun v r ↦ { r with size := v }, fun _ _ ↦ rfl, fun _ _ ↦ rfl⟩

def region : Column Client (Option (Str 100)) :=
  ⟨Client.region, fun v r ↦ { r with region := v }, fun _ _ ↦ rfl, fun _ _ ↦ rfl⟩

def ownerId : Column Client (Option UUID) :=
  ⟨Client.ownerId, fun v r ↦ { r with ownerId := v }, fun _ _ ↦ rfl, fun _ _ ↦ rfl⟩

def stage : Column Client ClientStage :=
  ⟨Client.stage, fun v r ↦ { r with stage := v }, fun _ _ ↦ rfl, fun _ _ ↦ rfl⟩

def mrrCents : Column Client (Option (PgInt 64)) :=
  ⟨Client.mrrCents, fun v r ↦ { r with mrrCents := v }, fun _ _ ↦ rfl, fun _ _ ↦ rfl⟩

def lifetimeValueCents : Column Client (Option (PgInt 64)) :=
  ⟨Client.lifetimeValueCents, fun v r ↦ { r with lifetimeValueCents := v }, fun _ _ ↦ rfl,
    fun _ _ ↦ rfl⟩

end Client.Col

namespace Contact.Col

def name : Column Contact (Str 200) :=
  ⟨Contact.name, fun v r ↦ { r with name := v }, fun _ _ ↦ rfl, fun _ _ ↦ rfl⟩

def role : Column Contact (Option (Str 100)) :=
  ⟨Contact.role, fun v r ↦ { r with role := v }, fun _ _ ↦ rfl, fun _ _ ↦ rfl⟩

def email : Column Contact (Option (Str 320)) :=
  ⟨Contact.email, fun v r ↦ { r with email := v }, fun _ _ ↦ rfl, fun _ _ ↦ rfl⟩

def phone : Column Contact (Option (Str 50)) :=
  ⟨Contact.phone, fun v r ↦ { r with phone := v }, fun _ _ ↦ rfl, fun _ _ ↦ rfl⟩

def isPrimary : Column Contact Bool :=
  ⟨Contact.isPrimary, fun v r ↦ { r with isPrimary := v }, fun _ _ ↦ rfl, fun _ _ ↦ rfl⟩

end Contact.Col

namespace Service.Col

def title : Column Service (Str 200) :=
  ⟨Service.title, fun v r ↦ { r with title := v }, fun _ _ ↦ rfl, fun _ _ ↦ rfl⟩

def ownerId : Column Service (Option UUID) :=
  ⟨Service.ownerId, fun v r ↦ { r with ownerId := v }, fun _ _ ↦ rfl, fun _ _ ↦ rfl⟩

def state : Column Service ServiceState :=
  ⟨Service.state, fun v r ↦ { r with state := v }, fun _ _ ↦ rfl, fun _ _ ↦ rfl⟩

def progressPct : Column Service (Option (PgInt 32)) :=
  ⟨Service.progressPct, fun v r ↦ { r with progressPct := v }, fun _ _ ↦ rfl, fun _ _ ↦ rfl⟩

def startedAt : Column Service (Option Timestamptz) :=
  ⟨Service.startedAt, fun v r ↦ { r with startedAt := v }, fun _ _ ↦ rfl, fun _ _ ↦ rfl⟩

def endedAt : Column Service (Option Timestamptz) :=
  ⟨Service.endedAt, fun v r ↦ { r with endedAt := v }, fun _ _ ↦ rfl, fun _ _ ↦ rfl⟩

def setupPriceCents : Column Service (Option (PgInt 64)) :=
  ⟨Service.setupPriceCents, fun v r ↦ { r with setupPriceCents := v }, fun _ _ ↦ rfl,
    fun _ _ ↦ rfl⟩

def monthlyCents : Column Service (Option (PgInt 64)) :=
  ⟨Service.monthlyCents, fun v r ↦ { r with monthlyCents := v }, fun _ _ ↦ rfl, fun _ _ ↦ rfl⟩

def scoreInt : Column Service (Option (PgInt 32)) :=
  ⟨Service.scoreInt, fun v r ↦ { r with scoreInt := v }, fun _ _ ↦ rfl, fun _ _ ↦ rfl⟩

end Service.Col

namespace Milestone.Col

def title : Column Milestone (Str 300) :=
  ⟨Milestone.title, fun v r ↦ { r with title := v }, fun _ _ ↦ rfl, fun _ _ ↦ rfl⟩

def dueDate : Column Milestone (Option Date) :=
  ⟨Milestone.dueDate, fun v r ↦ { r with dueDate := v }, fun _ _ ↦ rfl, fun _ _ ↦ rfl⟩

def completedAt : Column Milestone (Option Timestamptz) :=
  ⟨Milestone.completedAt, fun v r ↦ { r with completedAt := v }, fun _ _ ↦ rfl, fun _ _ ↦ rfl⟩

end Milestone.Col

namespace BillingProfile.Col

def legalName : Column BillingProfile (Str 255) :=
  ⟨BillingProfile.legalName, fun v r ↦ { r with legalName := v }, fun _ _ ↦ rfl, fun _ _ ↦ rfl⟩

def taxId : Column BillingProfile (Str 32) :=
  ⟨BillingProfile.taxId, fun v r ↦ { r with taxId := v }, fun _ _ ↦ rfl, fun _ _ ↦ rfl⟩

def taxIdType : Column BillingProfile TaxIdType :=
  ⟨BillingProfile.taxIdType, fun v r ↦ { r with taxIdType := v }, fun _ _ ↦ rfl, fun _ _ ↦ rfl⟩

def taxRegime : Column BillingProfile TaxRegime :=
  ⟨BillingProfile.taxRegime, fun v r ↦ { r with taxRegime := v }, fun _ _ ↦ rfl, fun _ _ ↦ rfl⟩

def addressLine1 : Column BillingProfile (Str 255) :=
  ⟨BillingProfile.addressLine1, fun v r ↦ { r with addressLine1 := v }, fun _ _ ↦ rfl,
    fun _ _ ↦ rfl⟩

def addressLine2 : Column BillingProfile (Option (Str 255)) :=
  ⟨BillingProfile.addressLine2, fun v r ↦ { r with addressLine2 := v }, fun _ _ ↦ rfl,
    fun _ _ ↦ rfl⟩

def city : Column BillingProfile (Str 120) :=
  ⟨BillingProfile.city, fun v r ↦ { r with city := v }, fun _ _ ↦ rfl, fun _ _ ↦ rfl⟩

def province : Column BillingProfile (Str 120) :=
  ⟨BillingProfile.province, fun v r ↦ { r with province := v }, fun _ _ ↦ rfl, fun _ _ ↦ rfl⟩

def postalCode : Column BillingProfile (Str 20) :=
  ⟨BillingProfile.postalCode, fun v r ↦ { r with postalCode := v }, fun _ _ ↦ rfl, fun _ _ ↦ rfl⟩

def country : Column BillingProfile CountryCode :=
  ⟨BillingProfile.country, fun v r ↦ { r with country := v }, fun _ _ ↦ rfl, fun _ _ ↦ rfl⟩

def billingEmail : Column BillingProfile (Option (Str 255)) :=
  ⟨BillingProfile.billingEmail, fun v r ↦ { r with billingEmail := v }, fun _ _ ↦ rfl,
    fun _ _ ↦ rfl⟩

def isDefault : Column BillingProfile Bool :=
  ⟨BillingProfile.isDefault, fun v r ↦ { r with isDefault := v }, fun _ _ ↦ rfl, fun _ _ ↦ rfl⟩

end BillingProfile.Col

namespace Ticket.Col

def title : Column Ticket (Str 200) :=
  ⟨Ticket.title, fun v r ↦ { r with title := v }, fun _ _ ↦ rfl, fun _ _ ↦ rfl⟩

def priority : Column Ticket TicketPriority :=
  ⟨Ticket.priority, fun v r ↦ { r with priority := v }, fun _ _ ↦ rfl, fun _ _ ↦ rfl⟩

def status : Column Ticket TicketStatus :=
  ⟨Ticket.status, fun v r ↦ { r with status := v }, fun _ _ ↦ rfl, fun _ _ ↦ rfl⟩

def body : Column Ticket (Option FreeText) :=
  ⟨Ticket.body, fun v r ↦ { r with body := v }, fun _ _ ↦ rfl, fun _ _ ↦ rfl⟩

def assignedToUserId : Column Ticket (Option UUID) :=
  ⟨Ticket.assignedToUserId, fun v r ↦ { r with assignedToUserId := v }, fun _ _ ↦ rfl,
    fun _ _ ↦ rfl⟩

end Ticket.Col

end ZanovixCrm
