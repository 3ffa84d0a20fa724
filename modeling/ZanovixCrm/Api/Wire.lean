import ZanovixCrm.Api.Errors
import ZanovixCrm.Library.JsonValue
import ZanovixCrm.Shared.Errors

/-!
# The wire format

The JSON of every answer: the read schemas field by field, in the order in which they declare their
fields, the answers of the domain exception handlers, and the envelope of the others. `Wire` has
what rendering takes from outside of the repository: how a UUID, an instant or a day is written, and
the texts that are random or that Pydantic makes.

**Left out.** Numbers are whole, as every number in an answer of this API is. That Pydantic writes a
text with a lone surrogate not at all does not arise: no such text is stored.
-/

namespace ZanovixCrm

/-- What rendering relies on. -/
structure Wire where
  /-- `str` of a UUID. -/
  uuid : UUID → String
  /-- A `datetime` in ISO 8601. -/
  datetime : PyDateTime → String
  /-- A day in ISO 8601. -/
  date : Date → String
  /-- `str.lower`. -/
  lower : String → String
  /-- The parsed form of a stored document. -/
  document : Json → JsonValue
  /-- The random reference to the log. -/
  logRef : String
  /-- The token of a login, and when it expires. -/
  (accessToken expiresAt : String)
  /-- The errors that Pydantic reports of a body. -/
  validationErrors : List JsonValue
  /-- What they are summed up to. -/
  validationMessage : String

namespace Wire

variable (w : Wire)

/-- A UUID. -/
def id (k : UUID) : JsonValue := .str (w.uuid k)

/-- A UUID that may be missing. -/
def idOrNull : Option UUID → JsonValue := .nullable w.id

/-- An instant. -/
def time (t : Time) : JsonValue := .str (w.datetime (.aware t))

/-- An instant that a request has set, and that may be missing. -/
def timeOrNull : Option Timestamptz → JsonValue := .nullable fun t ↦ .str (w.datetime t.load)

end Wire

/-- A text. -/
def Varchar.json {bound : Option ℕ} (v : Varchar bound) : JsonValue := .str v.val

/-- A text that may be missing. -/
def textOrNull {bound : Option ℕ} : Option (Varchar bound) → JsonValue := .nullable Varchar.json

/-- An integer. -/
def PgInt.json {bits : ℕ} (v : PgInt bits) : JsonValue := .num v.val

/-- An integer that may be missing. -/
def intOrNull {bits : ℕ} : Option (PgInt bits) → JsonValue := .nullable PgInt.json

/-- An enumerated value. -/
def enumJson {α : Type} [TextEnum α] (a : α) : JsonValue := .str (TextEnum.text a)

/-! ### Read schemas -/

section Rows

variable (w : Wire)

/-- `LeadRead`. -/
def LeadRead.json (l : LeadRead) : JsonValue :=
  .obj [("id", w.id l.id), ("created_at", w.time l.createdAt), ("updated_at", w.time l.updatedAt),
    ("name", l.name.json), ("email", l.email.json), ("phone", textOrNull l.phone),
    ("company", textOrNull l.company), ("vertical", enumJson l.vertical),
    ("channel", enumJson l.channel), ("source_url", textOrNull l.sourceUrl),
    ("notes", textOrNull l.notes), ("status", enumJson l.status),
    ("owner_id", w.idOrNull l.ownerId), ("role", textOrNull l.role)]

/-- The fields of `ClientRead`. -/
def Client.members (c : Client) : List (String × JsonValue) :=
  [("id", w.id c.id), ("created_at", w.time c.createdAt), ("updated_at", w.time c.updatedAt),
    ("name", c.name.json), ("sector", textOrNull c.sector), ("size", textOrNull c.size),
    ("region", textOrNull c.region), ("owner_id", w.idOrNull c.ownerId),
    ("stage", enumJson c.stage), ("entered_at", w.time c.enteredAt),
    ("mrr_cents", intOrNull c.mrrCents),
    ("lifetime_value_cents", intOrNull c.lifetimeValueCents)]

/-- `ClientRead`. -/
def Client.json (c : Client) : JsonValue := .obj (c.members w)

/-- `ContactRead`. -/
def Contact.json (c : Contact) : JsonValue :=
  .obj [("id", w.id c.id), ("created_at", w.time c.createdAt), ("updated_at", w.time c.updatedAt),
    ("client_id", w.id c.clientId), ("name", c.name.json), ("role", textOrNull c.role),
    ("email", textOrNull c.email), ("phone", textOrNull c.phone),
    ("is_primary", .bool c.isPrimary)]

/-- `MilestoneRead`. -/
def Milestone.json (m : Milestone) : JsonValue :=
  .obj [("id", w.id m.id), ("service_id", w.id m.serviceId), ("n", m.n.json),
    ("title", m.title.json), ("due_date", .nullable (fun d ↦ .str (w.date d)) m.dueDate),
    ("completed_at", w.timeOrNull m.completedAt)]

/-- `ServiceRead`. -/
def ServiceWithMilestones.json (s : ServiceWithMilestones) : JsonValue :=
  .obj [("id", w.id s.service.id), ("created_at", w.time s.service.createdAt),
    ("updated_at", w.time s.service.updatedAt), ("client_id", w.id s.service.clientId),
    ("owner_id", w.idOrNull s.service.ownerId), ("type", enumJson s.service.type),
    ("title", s.service.title.json), ("state", enumJson s.service.state),
    ("progress_pct", intOrNull s.service.progressPct),
    ("started_at", w.timeOrNull s.service.startedAt),
    ("ended_at", w.timeOrNull s.service.endedAt),
    ("setup_price_cents", intOrNull s.service.setupPriceCents),
    ("monthly_cents", intOrNull s.service.monthlyCents),
    ("score_int", intOrNull s.service.scoreInt),
    ("diagnostic_json", .nullable w.document s.service.diagnosticJson),
    ("milestones", .list (Milestone.json w) s.milestones)]

/-- `ServiceStub`. -/
def ServiceStub.json (s : ServiceStub) : JsonValue :=
  .obj [("id", w.id s.id), ("title", s.title.json), ("type", enumJson s.type),
    ("state", enumJson s.state), ("progress_pct", intOrNull s.progressPct),
    ("owner_id", w.idOrNull s.ownerId)]

/-- `ActivityLogRead`. -/
def ActivityLog.json (a : ActivityLog) : JsonValue :=
  .obj [("id", w.id a.id), ("created_at", w.time a.createdAt), ("client_id", w.id a.clientId),
    ("kind", enumJson a.kind), ("actor_user_id", w.idOrNull a.actorUserId), ("body", a.body.json)]

/-- `BillingProfileRead`. -/
def BillingProfile.json (b : BillingProfile) : JsonValue :=
  .obj [("legal_name", b.legalName.json), ("tax_id", b.taxId.json),
    ("tax_id_type", enumJson b.taxIdType), ("tax_regime", enumJson b.taxRegime),
    ("address_line1", b.addressLine1.json), ("address_line2", textOrNull b.addressLine2),
    ("city", b.city.json), ("province", b.province.json), ("postal_code", b.postalCode.json),
    ("country", b.country.code.json), ("billing_email", textOrNull b.billingEmail),
    ("is_default", .bool b.isDefault), ("id", w.id b.id), ("client_id", w.id b.clientId),
    ("created_at", w.time b.createdAt), ("updated_at", w.time b.updatedAt)]

/-- `ClientDetailResponse`. -/
def ClientDetailResponse.json (d : ClientDetailResponse) : JsonValue :=
  .obj (d.client.members w ++
    [("contacts", .list (Contact.json w) d.contacts),
      ("services", .list (ServiceStub.json w) d.services),
      ("billing_profiles", .list (BillingProfile.json w) d.billingProfiles),
      ("recent_activity", .list (ActivityLog.json w) d.recentActivity)])

/-- `TicketOut`. -/
def Ticket.json (t : Ticket) : JsonValue :=
  .obj [("id", w.id t.id), ("client_id", w.id t.clientId), ("service_id", w.idOrNull t.serviceId),
    ("title", t.title.json), ("priority", enumJson t.priority), ("status", enumJson t.status),
    ("body", textOrNull (t.body.map FreeText.text)),
    ("created_by_user_id", w.idOrNull t.createdByUserId),
    ("assigned_to_user_id", w.idOrNull t.assignedToUserId), ("created_at", w.time t.createdAt),
    ("updated_at", w.time t.updatedAt)]

/-- `MessageOut`. -/
def Message.json (m : Message) : JsonValue :=
  .obj [("id", w.id m.id), ("client_id", w.id m.clientId),
    ("sender_user_id", w.idOrNull m.senderUserId), ("body", m.body.json),
    ("attachments_json", .list w.document m.attachmentsJson), ("created_at", w.time m.createdAt)]

/-- `CurrentUserResponse`. -/
def CurrentUser.json (u : CurrentUser) : JsonValue :=
  .obj [("id", w.id u.id), ("email", u.email.json), ("role", enumJson u.role),
    ("display_name", textOrNull u.displayName), ("is_active", .bool u.isActive)]

/-- `DiagnosticRead`. -/
def DiagnosticRead.json (d : DiagnosticRead) : JsonValue :=
  .obj [("dimensions", .obj [("data", .num d.dimensions.data),
      ("processes", .num d.dimensions.processes), ("team", .num d.dimensions.team),
      ("infrastructure", .num d.dimensions.infrastructure),
      ("compliance", .num d.dimensions.compliance),
      ("leadership", .num d.dimensions.leadership)]),
    ("plan", .list (fun i : DiagnosticPlanItem ↦
      .obj [("title", .str i.title), ("status", .str i.status), ("body", .str i.body)]) d.plan),
    ("summary", .str d.summary)]

/-- A list response. -/
def Page.json {α : Type} (f : α → JsonValue) (page : Page α) : JsonValue :=
  .obj [("items", .list f page.items), ("total", .num page.total), ("limit", .num page.limit),
    ("offset", .num page.offset)]

end Rows

/-! ### Answers -/

/-- An `APIErrorResponse`. -/
def apiErrorResponse (w : Wire) (category : ErrorCategory) (code message guidance : String)
    (context : JsonValue) : JsonValue :=
  .obj [("success", .bool false), ("error_category", .str category.text), ("error_code", .str code),
    ("message", .str message), ("guidance", .str guidance), ("log_ref", .str w.logRef),
    ("context", context)]

/-- `http_exception_handler`. -/
def httpExceptionBody (w : Wire) (status : ℕ) (detail : Detail) : JsonValue :=
  let category := mapStatusToCategory status
  apiErrorResponse w category ("HTTP_" ++ toString status)
    (translateToSpanish w.lower detail.str) category.guidance .null

/-- The JSON of an answer; nothing if it has no content. -/
def Response.json (s : Settings) (w : Wire) (r : Response) : Option JsonValue :=
  match r.body with
  | .lead l => some (l.json w)
  | .leads page => some (page.json (LeadRead.json w))
  | .client c => some (c.json w)
  | .clients page => some (page.json (Client.json w))
  | .clientDetail d => some (d.json w)
  | .contact c => some (c.json w)
  | .contacts cs => some (.list (Contact.json w) cs)
  | .service sm => some (sm.json w)
  | .services page => some (page.json (ServiceWithMilestones.json w))
  | .milestone m => some (m.json w)
  | .milestones ms => some (.list (Milestone.json w) ms)
  | .billingProfile b => some (b.json w)
  | .billingProfiles bs => some (.list (BillingProfile.json w) bs)
  | .ticket t => some (t.json w)
  | .tickets page => some (page.json (Ticket.json w))
  | .message m => some (m.json w)
  | .messages page => some (page.json (Message.json w))
  | .activity page => some (page.json (ActivityLog.json w))
  | .diagnostic d => some d.json
  | .currentUser u => some (u.json w)
  | .token _ role => some (.obj [("access_token", .str w.accessToken),
      ("token_type", .str "bearer"), ("expires_at", .str w.expiresAt), ("role", enumJson role)])
  | .loggedOut => some (.obj [("detail", .str "Logged out successfully")])
  | .health => some (.obj [("status", .str "healthy"), ("service", .str s.projectName),
      ("redis", .str "connected"), ("postgres", .str "connected")])
  | .noContent => none
  | .envelope detail => some (httpExceptionBody w r.status detail)
  | .detail text => some (.obj [("detail", .str text)])
  | .error code => some (.obj [("error", .str code)])
  | .errorDetail code detail => some (.obj [("error", .str code), ("detail", .str detail)])
  | .invalidTransition source target allowed =>
    some (.obj [("error", .str "invalid_transition"), ("from", .str source), ("to", .str target),
      ("allowed", .list .str allowed)])
  | .alreadyConverted clientId =>
    some (.obj [("error", .str "already_converted"), ("client_id", w.id clientId)])
  | .notQualified currentStatus =>
    some (.obj [("error", .str "lead_not_qualified"), ("current_status", .str currentStatus)])
  | .unprocessable => some (.obj [("detail", .arr w.validationErrors)])
  | .validation => some (apiErrorResponse w .validationError "VALIDATION_ERROR" w.validationMessage
      "Verifique los datos proporcionados y corrija los errores de validación."
      (.obj [("validation_errors", .arr w.validationErrors)]))
  | .internal => some (apiErrorResponse w .unexpectedError "INTERNAL_SERVER_ERROR"
      "Error interno del servidor. Por favor, intente nuevamente."
      "Si el problema persiste, contacte al soporte técnico." .null)

end ZanovixCrm
