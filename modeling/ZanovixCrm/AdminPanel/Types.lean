import ZanovixCrm.Api.Requests
import ZanovixCrm.Library.JsonType

/-!
# The types of the admin panel

The interfaces that the admin panel expects of the API, field by field and in its own order, and for
each endpoint that `ApiClient` calls the type under which it returns the answer. Nothing of this is
checked when an answer arrives. `isOwnMessage` decides on which side of the chat a message appears.
-/

namespace ZanovixCrm.Types

open JsonType

/-! ### Unions -/

/-- `UserRole`. -/
def userRole : JsonType := oneOf ["admin", "consultor", "comercial", "client_user"]

/-- `LeadStatus`. -/
def leadStatus : JsonType :=
  oneOf ["new", "contacted", "qualified", "disqualified", "converted"]

/-- `LeadVertical`. -/
def leadVertical : JsonType := oneOf ["clinicas_dentales", "general"]

/-- `LeadChannel`. -/
def leadChannel : JsonType :=
  oneOf ["email_marketing", "cold_calling", "networking", "referral", "web_form", "other"]

/-- `ClientStage`. -/
def clientStage : JsonType :=
  oneOf ["lead", "discovery_scheduled", "discovery_done", "proposal_sent", "active", "lost"]

/-- `ServiceType`. -/
def serviceType : JsonType := oneOf ["assessment", "development", "formation"]

/-- `ServiceState`. -/
def serviceState : JsonType :=
  oneOf ["scoping", "running", "review", "completed", "maintenance", "paused"]

/-- The kinds of activity that the panel knows. -/
def activityKinds : List String :=
  ["stage_change", "contact_added", "contact_updated", "service_started", "service_state_change",
    "milestone_completed", "lead_converted", "note"]

/-- `ActivityKind`. -/
def activityKind : JsonType := oneOf activityKinds

/-- `TaxIdType`. -/
def taxIdType : JsonType := oneOf ["NIF", "CIF", "NIE", "VAT"]

/-- `TaxRegime`. -/
def taxRegime : JsonType :=
  oneOf ["general", "recargo_equivalencia", "simplificado", "exento", "intracomunitario"]

/-- `TicketStatus`. -/
def ticketStatus : JsonType := oneOf ["pending", "in_progress", "closed"]

/-- `TicketPriority`. -/
def ticketPriority : JsonType := oneOf ["high", "medium", "low"]

/-! ### Interfaces -/

/-- `CurrentUser`. -/
def currentUser : JsonType := interface
  [("id", string), ("email", string), ("display_name", string.orNull), ("role", userRole),
    ("is_active", boolean)]

/-- `Lead`. -/
def lead : JsonType := interface
  [("id", string), ("created_at", string), ("updated_at", string), ("name", string),
    ("email", string), ("phone", string.orNull), ("company", string.orNull),
    ("vertical", leadVertical), ("channel", leadChannel), ("source_url", string.orNull),
    ("notes", string.orNull), ("status", leadStatus), ("owner_id", string.orNull),
    ("role", string.orNull)]

/-- The fields of `ClientRead`. -/
def clientFields : List (String × JsonType) :=
  [("id", string), ("created_at", string), ("updated_at", string), ("name", string),
    ("sector", string.orNull), ("size", string.orNull), ("region", string.orNull),
    ("owner_id", string.orNull), ("stage", clientStage), ("entered_at", string),
    ("mrr_cents", number.orNull), ("lifetime_value_cents", number.orNull)]

/-- `ClientRead`. -/
def clientRead : JsonType := interface clientFields

/-- `ContactRead`. -/
def contactRead : JsonType := interface
  [("id", string), ("created_at", string), ("updated_at", string), ("client_id", string),
    ("name", string), ("role", string.orNull), ("email", string.orNull),
    ("phone", string.orNull), ("is_primary", boolean)]

/-- `ServiceStub`. -/
def serviceStub : JsonType := interface
  [("id", string), ("title", string), ("type", serviceType), ("state", serviceState),
    ("progress_pct", number.orNull), ("owner_id", string.orNull)]

/-- `MilestoneRead`. -/
def milestoneRead : JsonType := interface
  [("id", string), ("service_id", string), ("n", number), ("title", string),
    ("due_date", string.orNull), ("completed_at", string.orNull)]

/-- `DiagnosticDimensions`. -/
def diagnosticDimensions : JsonType := interface
  [("data", number), ("processes", number), ("team", number), ("infrastructure", number),
    ("compliance", number), ("leadership", number)]

/-- `DiagnosticPlanItem`. -/
def diagnosticPlanItem : JsonType := interface
  [("title", string), ("status", oneOf ["go", "wait", "skip"]), ("body", string)]

/-- `Diagnostic`. -/
def diagnostic : JsonType := interface
  [("dimensions", diagnosticDimensions), ("plan", diagnosticPlanItem.array), ("summary", string)]

/-- `ServiceRead`. -/
def serviceRead : JsonType := interface
  [("id", string), ("created_at", string), ("updated_at", string), ("client_id", string),
    ("owner_id", string.orNull), ("type", serviceType), ("title", string),
    ("state", serviceState), ("progress_pct", number.orNull), ("started_at", string.orNull),
    ("ended_at", string.orNull), ("setup_price_cents", number.orNull),
    ("monthly_cents", number.orNull), ("score_int", number.orNull),
    ("milestones", milestoneRead.array), ("diagnostic_json", diagnostic.orNull)]

/-- `ActivityLogRead`. -/
def activityLogRead : JsonType := interface
  [("id", string), ("created_at", string), ("client_id", string), ("kind", activityKind),
    ("actor_user_id", string.orNull), ("body", string)]

/-- `BillingProfile`. -/
def billingProfile : JsonType := interface
  [("id", string), ("client_id", string), ("legal_name", string), ("tax_id", string),
    ("tax_id_type", taxIdType), ("tax_regime", taxRegime), ("address_line1", string),
    ("address_line2", string.orNull), ("city", string), ("province", string),
    ("postal_code", string), ("country", string), ("billing_email", string.orNull),
    ("is_default", boolean), ("created_at", string), ("updated_at", string)]

/-- `ClientDetailResponse`, which repeats the fields of `ClientRead`. -/
def clientDetailResponse : JsonType := interface (clientFields ++
  [("contacts", contactRead.array), ("services", serviceStub.array),
    ("recent_activity", activityLogRead.array), ("billing_profiles", billingProfile.array)])

/-- `Ticket`. -/
def ticket : JsonType := interface
  [("id", string), ("client_id", string), ("service_id", string.orNull), ("title", string),
    ("priority", ticketPriority), ("status", ticketStatus), ("created_at", string),
    ("updated_at", string)]

/-- `Message`. -/
def message : JsonType := interface
  [("id", string), ("client_id", string), ("sender_user_id", string.orNull),
    ("sender_contact_id", string.orNull), ("body", string), ("created_at", string)]

/-- The list responses with `limit` and `offset`. -/
def listResponse (t : JsonType) : JsonType := interface
  [("items", t.array), ("total", number), ("limit", number), ("offset", number)]

/-- `LeadListResponse`. -/
def leadListResponse : JsonType := listResponse lead

/-- `ClientListResponse`. -/
def clientListResponse : JsonType := listResponse clientRead

/-- `ServiceListResponse`. -/
def serviceListResponse : JsonType := listResponse serviceRead

/-- `ActivityLogListResponse`. -/
def activityLogListResponse : JsonType := listResponse activityLogRead

/-- `TicketListResponse`. -/
def ticketListResponse : JsonType := listResponse ticket

/-- `MessageListResponse`. -/
def messageListResponse : JsonType := interface [("items", message.array), ("total", number)]

/-- What `login` returns. -/
def loginResponse : JsonType := interface
  [("access_token", string), ("token_type", string), ("expires_at", string), ("role", string)]

/-! ### The client -/

/-- The type under which `ApiClient` returns the answer of an endpoint; none if it has no method for
the endpoint, or one that returns nothing. -/
def returned : Request → Option JsonType
  | .createLead .. | .getLead _ | .updateLead .. | .updateLeadStatus .. | .assignLead .. =>
    some lead
  | .listLeads _ => some leadListResponse
  | .listClients _ => some clientListResponse
  | .getClient _ => some clientDetailResponse
  | .createClient _ | .updateClient .. | .changeClientStage .. | .convertLead .. | .getMyClient =>
    some clientRead
  | .listContacts _ | .listMyContacts => some contactRead.array
  | .createContact .. | .updateContact .. => some contactRead
  | .listServices _ | .listMyServices .. => some serviceListResponse
  | .getService _ | .createService .. | .updateService .. | .changeServiceState ..
  | .getMyService _ => some serviceRead
  | .listMilestones _ => some milestoneRead.array
  | .createMilestone .. | .updateMilestone .. => some milestoneRead
  | .listBillingProfiles _ => some billingProfile.array
  | .createBillingProfile .. | .getBillingProfile _ | .updateBillingProfile ..
  | .setDefaultBillingProfile _ => some billingProfile
  | .getActivity .. | .listMyActivity .. => some activityLogListResponse
  | .getMyServiceDiagnostic _ => some diagnostic.orNull
  | .listMyMessages .. | .listClientMessages .. => some messageListResponse
  | .sendMyMessage _ | .createClientMessage .. => some message
  | .listMyTickets .. | .listClientTickets .. => some ticketListResponse
  | .createMyTicket _ | .updateMyTicket .. | .updateTicketInternal .. => some ticket
  | .login .. => some loginResponse
  | .authMe => some currentUser
  | .deleteContact .. | .deleteMilestone .. | .deleteBillingProfile _ | .getTicket _ | .logout
  | .health | .root => none

/-! ### The chat -/

/-- `v === null`. A property that is not there is not `null`. -/
def isNull (v : Option JsonValue) : Bool := v.any null

/-- `isOwnMessage`. -/
def isOwnMessage (m : JsonValue) : Bool :=
  !isNull (m.get? "sender_contact_id") || isNull (m.get? "sender_user_id")

end ZanovixCrm.Types
