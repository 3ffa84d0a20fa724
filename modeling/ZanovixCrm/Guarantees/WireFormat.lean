import ZanovixCrm.AdminPanel.Types
import ZanovixCrm.Guarantees.Polling
import ZanovixCrm.Guarantees.Readability
import ZanovixCrm.Guarantees.Rejections

/-!
# The wire format

The read schemas of the API and the interfaces of the panel describe the same values twice. Row by
row the JSON of the one inhabits the other, with two exceptions. `Message` has a field
`sender_contact_id` that is not in `MessageOut`, so no message is a `Message`; and `ActivityKind`
knows the kinds of the first migration only. So **an answer inhabits the type under which
`ApiClient` returns it exactly if it has no message and no entry of the four kinds of the portal in
it** (`wire_format_iff`).

For the chat this means that what is asked of each message, whether `sender_contact_id` is `null`,
is never the case: it is not there. Every message appears as the viewer's own.
-/

namespace ZanovixCrm

open JsonType

section Values

variable {bound : Option ℕ} {bits : ℕ} (w : Wire)

/-! ### Values -/

@[simp] theorem string_id (k : UUID) : string (w.id k) = true := rfl

@[simp] theorem string_time (t : Time) : string (w.time t) = true := rfl

@[simp] theorem string_json (v : Varchar bound) : string v.json = true := rfl

@[simp] theorem number_json (v : PgInt bits) : number v.json = true := rfl

@[simp] theorem orNull_idOrNull (k : Option UUID) : string.orNull (w.idOrNull k) = true :=
  orNull_nullable fun _ _ ↦ rfl

@[simp] theorem orNull_timeOrNull (t : Option Timestamptz) :
    string.orNull (w.timeOrNull t) = true :=
  orNull_nullable fun _ _ ↦ rfl

@[simp] theorem orNull_textOrNull (v : Option (Varchar bound)) :
    string.orNull (textOrNull v) = true :=
  orNull_nullable fun _ _ ↦ rfl

@[simp] theorem orNull_intOrNull (v : Option (PgInt bits)) : number.orNull (intOrNull v) = true :=
  orNull_nullable fun _ _ ↦ rfl

@[simp] theorem orNull_date (d : Option Date) :
    string.orNull (.nullable (fun d ↦ .str (w.date d)) d) = true :=
  orNull_nullable fun _ _ ↦ rfl

/-- An enumerated value is of the union that lists the texts of all values. -/
theorem oneOf_enumJson {α : Type} [TextEnum α] {texts : List String}
    (h : ((TextEnum.values : List α).all fun a ↦ texts.contains (TextEnum.text a)) = true) (a : α) :
    oneOf texts (enumJson a) = true :=
  List.all_eq_true.1 h a (TextEnum.mem_values a)

@[simp] theorem userRole_enumJson (a : Role) : Types.userRole (enumJson a) = true :=
  oneOf_enumJson (by decide) a

@[simp] theorem leadStatus_enumJson (a : LeadStatus) : Types.leadStatus (enumJson a) = true :=
  oneOf_enumJson (by decide) a

@[simp] theorem leadVertical_enumJson (a : LeadVertical) : Types.leadVertical (enumJson a) = true :=
  oneOf_enumJson (by decide) a

@[simp] theorem leadChannel_enumJson (a : LeadChannel) : Types.leadChannel (enumJson a) = true :=
  oneOf_enumJson (by decide) a

@[simp] theorem clientStage_enumJson (a : ClientStage) : Types.clientStage (enumJson a) = true :=
  oneOf_enumJson (by decide) a

@[simp] theorem serviceType_enumJson (a : ServiceType) : Types.serviceType (enumJson a) = true :=
  oneOf_enumJson (by decide) a

@[simp] theorem serviceState_enumJson (a : ServiceState) : Types.serviceState (enumJson a) = true :=
  oneOf_enumJson (by decide) a

@[simp] theorem taxIdType_enumJson (a : TaxIdType) : Types.taxIdType (enumJson a) = true :=
  oneOf_enumJson (by decide) a

@[simp] theorem taxRegime_enumJson (a : TaxRegime) : Types.taxRegime (enumJson a) = true :=
  oneOf_enumJson (by decide) a

@[simp] theorem ticketStatus_enumJson (a : TicketStatus) : Types.ticketStatus (enumJson a) = true :=
  oneOf_enumJson (by decide) a

@[simp] theorem ticketPriority_enumJson (a : TicketPriority) :
    Types.ticketPriority (enumJson a) = true :=
  oneOf_enumJson (by decide) a

@[simp] theorem string_enumJson {α : Type} [TextEnum α] (a : α) : string (enumJson a) = true := rfl

/-- The kinds of activity that the portal has brought. -/
def portalKinds : List ActivityKind :=
  [.ticketOpened, .ticketUpdated, .ticketClosed, .messageSent]

/-- **The panel does not know these kinds.** -/
@[simp] theorem activityKind_enumJson (a : ActivityKind) :
    Types.activityKind (enumJson a) = decide (a ∉ portalKinds) := by
  have hall : ((TextEnum.values : List ActivityKind).all fun a ↦
      Types.activityKinds.contains (TextEnum.text a) == decide (a ∉ portalKinds)) = true := by
    decide
  exact eq_of_beq (List.all_eq_true.1 hall a (TextEnum.mem_values a))

end Values

/-! ### Rows -/

section Rows

variable (w : Wire)

attribute [local simp] interface JsonValue.get? List.lookup_cons

theorem LeadRead.inhabits (l : LeadRead) : Types.lead (l.json w) = true := by
  simp [Types.lead, LeadRead.json]

theorem Client.inhabits (c : Client) : Types.clientRead (c.json w) = true := by
  simp [Types.clientRead, Types.clientFields, Client.json, Client.members]

theorem Contact.inhabits (c : Contact) : Types.contactRead (c.json w) = true := by
  simp [Types.contactRead, Contact.json]

theorem Milestone.inhabits (m : Milestone) : Types.milestoneRead (m.json w) = true := by
  simp [Types.milestoneRead, Milestone.json]

theorem ServiceStub.inhabits (sv : ServiceStub) : Types.serviceStub (sv.json w) = true := by
  simp [Types.serviceStub, ServiceStub.json]

/-- What is stored as a diagnostic is sent as it is. -/
theorem ServiceWithMilestones.inhabits_iff (sm : ServiceWithMilestones) :
    Types.serviceRead (sm.json w) = true ↔
      Types.diagnostic.orNull (.nullable w.document sm.service.diagnosticJson) = true := by
  simp [Types.serviceRead, ServiceWithMilestones.json, Milestone.inhabits]

theorem BillingProfile.inhabits (b : BillingProfile) : Types.billingProfile (b.json w) = true := by
  simp [Types.billingProfile, BillingProfile.json]

theorem Ticket.inhabits (t : Ticket) : Types.ticket (t.json w) = true := by
  simp [Types.ticket, Ticket.json]

theorem CurrentUser.inhabits (u : CurrentUser) : Types.currentUser (u.json w) = true := by
  simp [Types.currentUser, CurrentUser.json]

/-- **An entry inhabits its interface** unless its kind is new. -/
theorem ActivityLog.inhabits_iff (a : ActivityLog) :
    Types.activityLogRead (a.json w) = true ↔ a.kind ∉ portalKinds := by
  simp [Types.activityLogRead, ActivityLog.json]

/-- **No message inhabits its interface.** -/
theorem Message.not_inhabits (m : Message) : Types.message (m.json w) = false :=
  interface_of_missing (f := ("sender_contact_id", string.orNull)) (by simp) rfl

/-- **Every message is shown as one's own.** -/
theorem Message.isOwn (m : Message) : Types.isOwnMessage (m.json w) = true := by
  simp [Types.isOwnMessage, Types.isNull, Message.json]

end Rows

/-! ### Answers -/

namespace Body

/-- The interface that mirrors the schema of a body. -/
def mirrored : Body → Option JsonType
  | .lead _ => some Types.lead
  | .leads _ => some Types.leadListResponse
  | .client _ => some Types.clientRead
  | .clients _ => some Types.clientListResponse
  | .clientDetail _ => some Types.clientDetailResponse
  | .contact _ => some Types.contactRead
  | .contacts _ => some Types.contactRead.array
  | .service _ => some Types.serviceRead
  | .services _ => some Types.serviceListResponse
  | .milestone _ => some Types.milestoneRead
  | .milestones _ => some Types.milestoneRead.array
  | .billingProfile _ => some Types.billingProfile
  | .billingProfiles _ => some Types.billingProfile.array
  | .ticket _ => some Types.ticket
  | .tickets _ => some Types.ticketListResponse
  | .message _ => some Types.message
  | .messages _ => some Types.messageListResponse
  | .activity _ => some Types.activityLogListResponse
  | .currentUser _ => some Types.currentUser
  | .token .. => some Types.loginResponse
  | _ => none

/-- The messages in a body. -/
def messageRows : Body → List Message
  | .message m => [m]
  | .messages page => page.items
  | _ => []

/-- The activity entries in a body. -/
def activityRows : Body → List ActivityLog
  | .activity page => page.items
  | .clientDetail d => d.recentActivity
  | _ => []

/-- The services that a body has in full. -/
def serviceRows : Body → List ServiceWithMilestones
  | .service sm => [sm]
  | .services page => page.items
  | _ => []

end Body

section Answers

variable (w : Wire)

attribute [local simp] interface JsonValue.get? List.lookup_cons

/-- A page inhabits the list response of its items. -/
theorem Page.inhabits_iff {α : Type} {t : JsonType} {f : α → JsonValue} {page : Page α} :
    Types.listResponse t (page.json f) = true ↔ ∀ a ∈ page.items, t (f a) = true := by
  simp [Types.listResponse, Page.json]

theorem Page.inhabits {α : Type} {t : JsonType} {f : α → JsonValue} (h : ∀ a, t (f a) = true)
    (page : Page α) : Types.listResponse t (page.json f) = true :=
  Page.inhabits_iff.2 fun a _ ↦ h a

/-- A page of messages is a list response only if it is empty. -/
theorem Page.messages_inhabits_iff {page : Page Message} :
    Types.messageListResponse (page.json (Message.json w)) = true ↔ page.items = [] := by
  simp [Types.messageListResponse, Page.json, Message.not_inhabits, List.eq_nil_iff_forall_not_mem]

theorem ClientDetailResponse.inhabits_iff (d : ClientDetailResponse) :
    Types.clientDetailResponse (d.json w) = true ↔
      ∀ a ∈ d.recentActivity, a.kind ∉ portalKinds := by
  simp [Types.clientDetailResponse, Types.clientFields, ClientDetailResponse.json, Client.members,
    Contact.inhabits, ServiceStub.inhabits, BillingProfile.inhabits, ActivityLog.inhabits_iff]

/-- A service without a diagnostic inhabits its interface. -/
theorem ServiceWithMilestones.inhabits {sm : ServiceWithMilestones}
    (h : sm.service.diagnosticJson = none) : Types.serviceRead (sm.json w) = true := by
  rw [ServiceWithMilestones.inhabits_iff, h]
  exact orNull_null

/-- **An answer without diagnostics inhabits the interface that mirrors it** exactly if there is no
message and no entry of a new kind in it. -/
theorem Response.inhabits_iff {s : Settings} {resp : Response} {t : JsonType} {j : JsonValue}
    (ht : resp.body.mirrored = some t) (hj : resp.json s w = some j)
    (hdiagnostic : ∀ sm ∈ resp.body.serviceRows, sm.service.diagnosticJson = none) :
    t j = true ↔
      resp.body.messageRows = [] ∧ ∀ a ∈ resp.body.activityRows, a.kind ∉ portalKinds := by
  have hnone : ([] : List Message) = [] ∧ ∀ a ∈ ([] : List ActivityLog), a.kind ∉ portalKinds :=
    ⟨rfl, fun _ h ↦ nomatch h⟩
  obtain ⟨status, body⟩ := resp
  cases body <;> cases ht <;> cases hj
  case lead l => exact iff_of_true (l.inhabits w) hnone
  case leads page =>
    exact iff_of_true (Page.inhabits (LeadRead.inhabits w) page) hnone
  case client c => exact iff_of_true (c.inhabits w) hnone
  case clients page =>
    exact iff_of_true (Page.inhabits (Client.inhabits w) page) hnone
  case clientDetail d =>
    exact (d.inhabits_iff w).trans (and_iff_right rfl).symm
  case contact c => exact iff_of_true (c.inhabits w) hnone
  case contacts cs =>
    exact iff_of_true (array_list_of_forall (Contact.inhabits w)) hnone
  case service sm =>
    exact iff_of_true (sm.inhabits w (hdiagnostic sm (List.mem_singleton_self sm))) hnone
  case services page =>
    exact iff_of_true
      (Page.inhabits_iff.2 fun sm hsm ↦ sm.inhabits w (hdiagnostic sm hsm)) hnone
  case milestone m => exact iff_of_true (m.inhabits w) hnone
  case milestones ms =>
    exact iff_of_true (array_list_of_forall (Milestone.inhabits w)) hnone
  case billingProfile b => exact iff_of_true (b.inhabits w) hnone
  case billingProfiles bs =>
    exact iff_of_true (array_list_of_forall (BillingProfile.inhabits w)) hnone
  case ticket t => exact iff_of_true (t.inhabits w) hnone
  case tickets page =>
    exact iff_of_true (Page.inhabits (Ticket.inhabits w) page) hnone
  case message m =>
    exact iff_of_false (Bool.eq_false_iff.1 (m.not_inhabits w)) fun h ↦ nomatch h.1
  case messages page =>
    exact (Page.messages_inhabits_iff w).trans (and_iff_left hnone.2).symm
  case activity page =>
    have hitems : ∀ a ∈ page.items,
        Types.activityLogRead (a.json w) = true ↔ a.kind ∉ portalKinds :=
      fun a _ ↦ a.inhabits_iff w
    exact (Page.inhabits_iff.trans (forall₂_congr hitems)).trans (and_iff_right rfl).symm
  case currentUser u => exact iff_of_true (u.inhabits w) hnone
  case token email role => exact iff_of_true (by simp [Types.loginResponse]) hnone

end Answers

/-! ### Endpoints -/

/-- The answer, if it reports success, is mirrored by the interface, and has no diagnostic in it. -/
def Response.Gives (t : JsonType) (resp : Response) : Prop :=
  resp.isOk = true → resp.body.mirrored = some t ∧
    ∀ sm ∈ resp.body.serviceRows, sm.service.diagnosticJson = none

section Gives

variable {p : Platform} {status : ℕ} {t : JsonType} {resp : Response}

theorem gives_of_mirrored (ht : resp.body.mirrored = some t) (hrows : resp.body.serviceRows = []) :
    resp.Gives t := by
  intro _
  rw [hrows]
  exact ⟨ht, fun _ h ↦ nomatch h⟩

theorem gives_fault (f : Fault) : f.response.Gives t := by
  intro hok
  rw [Fault.isOk_response] at hok
  cases hok

theorem gives_serviceAnswer {sm : ServiceWithMilestones} (h : sm.service.diagnosticJson = none) :
    (serviceAnswer p status sm).Gives Types.serviceRead := by
  unfold serviceAnswer
  split
  · exact fun _ ↦ ⟨rfl, fun _ hsm ↦ List.mem_singleton.1 hsm ▸ h⟩
  · exact gives_fault _

theorem gives_servicesAnswer {items : List ServiceWithMilestones} {total : ℕ} {limit offset : ℤ}
    (h : ∀ sm ∈ items, sm.service.diagnosticJson = none) :
    (servicesAnswer p items total limit offset).Gives Types.serviceListResponse := by
  unfold servicesAnswer
  split
  · exact fun _ ↦ ⟨rfl, h⟩
  · exact gives_fault _

theorem gives_billingProfileAnswer {b : BillingProfile} :
    (billingProfileAnswer p status b).Gives Types.billingProfile := by
  unfold billingProfileAnswer
  split
  · exact gives_of_mirrored rfl rfl
  · exact gives_fault _

theorem gives_clientDetailAnswer {d : ClientService.Detail} :
    (clientDetailAnswer p d).Gives Types.clientDetailResponse := by
  unfold clientDetailAnswer
  split
  · exact gives_of_mirrored rfl rfl
  · exact gives_fault _

end Gives

section Endpoints

variable {p : Platform} {s : Settings} {env : Env} {db db' : Db} {user : Except Fault User}
  {r : Request} {resp : Response} {t : JsonType} {m : Tx Response}

/-- **What a committed request is answered** is what the client takes it for. -/
theorem Step.gives (h : Step p s env db user r resp db') (ht : Types.returned r = some t)
    (hI : ∀ sv ∈ db'.services, sv.diagnosticJson = none) : resp.Gives t := by
  cases h with
  | createService _ _ _ _ hnew =>
    cases ht
    exact gives_serviceAnswer (hI _ (Table.mem_insert_self hnew))
  | updateService _ hs =>
    cases ht
    exact gives_serviceAnswer (hI _ hs.mem_new)
  | changeServiceState _ _ hs =>
    cases ht
    exact gives_serviceAnswer (hI _ hs.mem_new)
  | createBillingProfile | updateBillingProfile | setDefaultBillingProfile =>
    cases ht
    exact gives_billingProfileAnswer
  | _ => cases ht <;> exact gives_of_mirrored rfl rfl

section Reads

variable (hI : ∀ sv ∈ db.services, sv.diagnosticJson = none)
include hI

/-- The services of a page have no diagnostic if no service has one. -/
theorem forall_page_diagnostic {p : Service → Bool} {limit offset : ℤ} {page : List Service}
    (h : Session.limitOffset limit offset (selectDesc db.services p Service.createdAt) = .ok page) :
    ∀ sv ∈ page, sv.diagnosticJson = none :=
  fun sv hsv ↦ hI sv (mem_selectDesc.1 (Session.mem_of_limitOffset h hsv)).1

theorem ensures_listServices {u : User} {f : ServiceFilters} :
    (ServiceService.listServices u f).Ensures db fun x _ ↦
      ∀ sm ∈ x.1, sm.service.diagnosticJson = none := by
  simp only [ServiceService.listServices, ServiceService.loadMilestones, Session.bindText,
    Prog.ensures_bind, Prog.ensures_query, Prog.ensures_require, Session.ensures_column,
    Session.ensures_pure, List.forall_mem_map]
  exact fun _ _ _ hpage ↦ forall_page_diagnostic hI hpage

theorem ensures_listForClient {clientId : Option UUID} {limit offset : ℤ}
    {state type : Option String} :
    (ServiceService.listForClient clientId limit offset state type).Ensures db fun x _ ↦
      ∀ sm ∈ x.1, sm.service.diagnosticJson = none := by
  simp only [ServiceService.listForClient, ServiceService.loadMilestones, Session.bindText,
    Prog.ensures_bind, Prog.ensures_query, Prog.ensures_require, Session.ensures_column,
    Session.ensures_pure, List.forall_mem_map]
  exact fun _ _ _ hpage ↦ forall_page_diagnostic hI hpage

theorem ensures_getServiceDetail {u : User} {k : UUID} :
    (ServiceService.getServiceDetail u k).Ensures db fun sm _ ↦
      sm.service.diagnosticJson = none := by
  simp only [ServiceService.getServiceDetail, Prog.ensures_bind,
    ServiceService.ensures_getServiceForWrite, ServiceService.loadMilestones₁, Prog.ensures_query]
  exact fun sv hsv _ ↦ hI sv (Table.mem_of_find? hsv)

theorem ensures_getForClient {k : UUID} {clientId : Option UUID} :
    (ServiceService.getForClient k clientId).Ensures db fun sm _ ↦
      sm.service.diagnosticJson = none := by
  simp only [ServiceService.getForClient, Prog.ensures_bind, Prog.ensures_query,
    Prog.ensures_demand, ServiceService.loadMilestones₁, Option.filter_eq_some_iff]
  exact fun sv hsv ↦ hI sv (Table.mem_of_find? hsv.1)

/-- There is no diagnostic to be found. -/
theorem ensures_getDiagnostic {k : UUID} {clientId : Option UUID} :
    (DiagnosticService.getDiagnostic p k clientId).Ensures db fun x _ ↦ x = none := by
  simp only [DiagnosticService.getDiagnostic, Prog.ensures_bind, Prog.ensures_query,
    Prog.ensures_demand, Session.ensures_pure, Option.filter_eq_some_iff]
  intro sv hsv
  rw [hI sv (Table.mem_of_find? hsv.1), Option.bind_none, ite_self]

end Reads

/-- A transaction that gives an answer at its end, whatever has come before. -/
theorem ensures_gives_bind {α : Type} {x : Tx α} {f : α → Tx Response}
    (h : ∀ a db', (f a).Ensures db' fun resp _ ↦ resp.Gives t) :
    (x >>= f).Ensures db fun resp _ ↦ resp.Gives t :=
  Prog.ensures_bind.2 fun a db' _ ↦ h a db'

theorem ensures_gives_pure (ht : resp.body.mirrored = some t)
    (hrows : resp.body.serviceRows = []) :
    (pure resp : Tx Response).Ensures db fun resp _ ↦ resp.Gives t :=
  Prog.ensures_ret.2 (gives_of_mirrored ht hrows)

/-- **What a reading endpoint answers** is what the client takes it for. -/
theorem ensures_gives (hr : r.isRead = true) (ht : Types.returned r = some t)
    (hI : ∀ sv ∈ db.services, sv.diagnosticJson = none)
    (hg : (route p s env r).guard user = .ok m) : m.Ensures db fun resp _ ↦ resp.Gives t := by
  cases r with
  | listServices query =>
    obtain ⟨u, -, rfl⟩ := Handler.guard_currentUser.1 hg
    cases ht
    refine Prog.ensures_bind.2 (Prog.ensures_liftExcept.2 fun f _ ↦ ?_)
    exact Prog.ensures_bind.2 ((ensures_listServices hI).mono fun _ _ hrows ↦
      Prog.ensures_ret.2 (gives_servicesAnswer hrows))
  | getService serviceId =>
    obtain ⟨u, -, rfl⟩ := Handler.guard_currentUser.1 hg
    cases ht
    exact Prog.ensures_bind.2 ((ensures_getServiceDetail hI).mono fun sm _ hsm ↦
      Prog.ensures_ret.2 (gives_serviceAnswer hsm))
  | listMyServices limit offset state type =>
    obtain ⟨u, c, -, -, -, rfl⟩ := Handler.guard_scopeToClient.1 hg
    cases ht
    exact Prog.ensures_bind.2 ((ensures_listForClient hI).mono fun _ _ hrows ↦
      Prog.ensures_ret.2 (gives_servicesAnswer hrows))
  | getMyService serviceId =>
    obtain ⟨u, c, -, -, -, rfl⟩ := Handler.guard_scopeToClient.1 hg
    cases ht
    exact Prog.ensures_bind.2 ((ensures_getForClient hI).mono fun sm _ hsm ↦
      Prog.ensures_ret.2 (gives_serviceAnswer hsm))
  | getMyServiceDiagnostic serviceId =>
    obtain ⟨u, c, -, -, -, rfl⟩ := Handler.guard_scopeToClient.1 hg
    cases ht
    refine Prog.ensures_bind.2 ((ensures_getDiagnostic hI).mono ?_)
    rintro _ db' rfl
    exact Prog.ensures_bind.2 Prog.ensures_raise
  | getClient clientId =>
    obtain ⟨u, -, rfl⟩ := Handler.guard_currentUser.1 hg
    cases ht
    exact ensures_gives_bind fun _ _ ↦ Prog.ensures_ret.2 gives_clientDetailAnswer
  | listBillingProfiles clientId =>
    obtain ⟨u, -, -, rfl⟩ := Handler.guard_requireRole.1 hg
    cases ht
    refine ensures_gives_bind fun profiles _ ↦ ?_
    split
    · exact ensures_gives_pure rfl rfl
    · exact Prog.ensures_ret.2 (gives_fault _)
  | getBillingProfile profileId =>
    obtain ⟨u, -, -, rfl⟩ := Handler.guard_requireRole.1 hg
    cases ht
    exact ensures_gives_bind fun _ _ ↦ Prog.ensures_ret.2 gives_billingProfileAnswer
  | authMe =>
    obtain ⟨u, -, rfl⟩ := Handler.guard_currentUser.1 hg
    cases ht
    exact ensures_gives_pure rfl rfl
  | getLead | listContacts | listMilestones =>
    obtain ⟨u, -, rfl⟩ := Handler.guard_currentUser.1 hg
    cases ht
    exact ensures_gives_bind fun _ _ ↦ ensures_gives_pure rfl rfl
  | listLeads | listClients =>
    obtain ⟨u, -, rfl⟩ := Handler.guard_currentUser.1 hg
    cases ht
    exact ensures_gives_bind fun _ _ ↦ ensures_gives_bind fun _ _ ↦ ensures_gives_pure rfl rfl
  | listClientMessages | listClientTickets =>
    obtain ⟨u, -, -, rfl⟩ := Handler.guard_requireRole.1 hg
    cases ht
    exact ensures_gives_bind fun _ _ ↦ ensures_gives_bind fun _ _ ↦ ensures_gives_bind fun _ _ ↦
      ensures_gives_pure rfl rfl
  | getActivity =>
    obtain ⟨u, -, -, rfl⟩ := Handler.guard_requireRole.1 hg
    cases ht
    exact ensures_gives_bind fun _ _ ↦ ensures_gives_bind fun _ _ ↦ ensures_gives_bind fun _ _ ↦
      ensures_gives_bind fun _ _ ↦ ensures_gives_pure rfl rfl
  | getMyClient =>
    obtain ⟨u, c, -, -, -, rfl⟩ := Handler.guard_scopeToClient.1 hg
    cases ht
    exact ensures_gives_bind fun _ _ ↦ ensures_gives_bind fun _ _ ↦ ensures_gives_pure rfl rfl
  | listMyContacts | listMyActivity | listMyMessages | listMyTickets =>
    obtain ⟨u, c, -, -, -, rfl⟩ := Handler.guard_scopeToClient.1 hg
    cases ht
    exact ensures_gives_bind fun _ _ ↦ ensures_gives_pure rfl rfl
  | login email password =>
    obtain ⟨-, rfl⟩ := Handler.guard_anonymous.1 hg
    cases ht
    exact ensures_gives_bind fun _ _ ↦ ensures_gives_bind fun _ _ ↦ ensures_gives_bind fun _ _ ↦
      ensures_gives_bind fun _ _ ↦ ensures_gives_bind fun _ _ ↦ ensures_gives_bind fun _ _ ↦
      ensures_gives_bind fun _ _ ↦ ensures_gives_pure rfl rfl
  | logout | getTicket | health | root => cases ht
  | _ => cases hr

/-- The schema check does not change the type. -/
theorem returned_of_validate? {r' : Request} (h : r.validate? p = some r') :
    Types.returned r' = Types.returned r := by
  cases r <;>
    simp only [Request.validate?, Option.map_eq_some_iff, accept_eq_some_iff,
      Option.some.injEq] at h <;>
    obtain ⟨-, -, rfl⟩ := h <;>
    rfl

/-- **Every endpoint answers what the client takes its answer for**, as long as no service has a
diagnostic. -/
theorem gives_handle (ht : Types.returned r = some t)
    (hI : ∀ sv ∈ db.services, sv.diagnosticJson = none) (sub : Except Fault String) :
    (handle p s env db sub (.bound r)).1.Gives t := by
  rcases handle_eq p s env db sub (.bound r) with
    ⟨resp, h, hresp⟩ | ⟨_, r', m, hcall, hv, hg, h⟩
  · rw [h]
    intro hok
    rw [hresp] at hok
    cases hok
  cases hcall
  have ht' : Types.returned r' = some t := (returned_of_validate? hv).trans ht
  rw [h]
  rcases respond_cases m db with ⟨resp, db', hrun, hresp⟩ | ⟨f, -, hresp⟩
  · rw [hresp]
    rcases hr : r'.isRead with - | -
    · have hstep := ensures_step hr hg resp db' hrun
      exact hstep.gives ht' (hstep.services_diagnostic hI)
    · exact ensures_gives hr ht' hI hg resp db' hrun
  · rw [hresp]
    exact gives_fault f

end Endpoints

/-- The message was sent from an account of its client. -/
def Message.isFromClient (db : Db) (m : Message) : Bool :=
  m.senderUserId.any fun k ↦ (db.users.find? k).any fun u ↦
    decide (u.role = .clientUser ∧ u.clientId = some m.clientId)

/-- The chat shows the message as the viewer's own only if it is from the viewer's side. -/
def Message.Attributed (w : Wire) (db : Db) (m : Message) : Prop :=
  Types.isOwnMessage (m.json w) = true → m.isFromClient db = true

/-- **The wire format**: in every run, an answer inhabits the type under which the client returns it
exactly if there is no message in it and no entry of a new kind; and the chat attributes a message
rightly exactly if it is from the viewer's side. -/
theorem wire_format_iff (p : Platform) (s : Settings) (w : Wire) (acts : List Act) :
    (∀ (env : Env) (sub : Except Fault String) (r : Request) (t : JsonType) (resp : Response)
        (j : JsonValue),
      (handle p s env (run p s acts).db sub (.bound r)).1 = resp → resp.isOk = true →
      Types.returned r = some t → resp.json s w = some j →
        (t j = true ↔
          resp.body.messageRows = [] ∧ ∀ a ∈ resp.body.activityRows, a.kind ∉ portalKinds)) ∧
    ∀ m ∈ (run p s acts).db.messages,
      m.Attributed w (run p s acts).db ↔ m.isFromClient (run p s acts).db = true := by
  refine ⟨?_, fun m _ ↦ imp_iff_right (m.isOwn w)⟩
  rintro env sub r t resp j rfl hok ht hj
  obtain ⟨hmirrored, hdiagnostic⟩ := gives_handle ht (readable_run acts).services sub hok
  exact Response.inhabits_iff w hmirrored hj hdiagnostic

/-- What the operator sees of a new client. -/
def newClientAnswer : Response :=
  (handle .sample .sample (.sample 0) (run .sample .sample portalOpened).db
    (.ok "root@example.com") (.bound (.getClient 20))).1

theorem wire_format_newClient :
    ∃ j, newClientAnswer.json .sample .sample = some j ∧ Types.clientDetailResponse j = true := by
  obtain ⟨j, hj⟩ : ∃ j, newClientAnswer.json .sample .sample = some j :=
    Option.isSome_iff_exists.1 (by decide +kernel)
  have hcontent : newClientAnswer.body.messageRows = [] ∧
      ∀ a ∈ newClientAnswer.body.activityRows, a.kind ∉ portalKinds := by decide +kernel
  exact ⟨j, hj, ((wire_format_iff .sample .sample .sample portalOpened).1 (.sample 0)
    (.ok "root@example.com") (.getClient 20) _ newClientAnswer j rfl (by decide +kernel) rfl
    hj).2 hcontent⟩

/-- A client after a message from the operator. -/
def staffWrote : Db :=
  (run .sample .sample (portalOpened ++ [.request (.sample 30) (.ok "root@example.com")
    (.bound (.createClientMessage 20 ⟨"Hello"⟩))])).db

/-- **What the operator has written appears in the client's chat as the client's own**, and the
answer is no list of messages. -/
theorem staffMessage_shown_as_own :
    (∃ j, (handle .sample .sample (.sample 0) staffWrote (.ok "client@example.com")
        (.bound (.listMyMessages 50 0 none))).1.json .sample .sample = some j ∧
      Types.returned (.listMyMessages 50 0 none) = some Types.messageListResponse ∧
      Types.messageListResponse j = false) ∧
    ∃ m ∈ staffWrote.messages, m.senderUserId = some operator.id ∧ operator.role = .admin ∧
      ¬m.Attributed .sample staffWrote := by
  constructor
  · have hany : ((handle .sample .sample (.sample 0) staffWrote (.ok "client@example.com")
        (.bound (.listMyMessages 50 0 none))).1.json .sample .sample).any
          (fun j ↦ !Types.messageListResponse j) = true := by decide +kernel
    obtain ⟨j, hj, hfalse⟩ := (Option.any_eq_true _ _).1 hany
    exact ⟨j, hj, rfl, by simpa using hfalse⟩
  · have hany : (staffWrote.messages.rows.any fun m ↦ decide (m.senderUserId = some operator.id) &&
        (Types.isOwnMessage (m.json .sample) && !m.isFromClient staffWrote)) = true := by
      decide +kernel
    obtain ⟨m, hm, h⟩ := List.any_eq_true.1 hany
    simp only [Bool.and_eq_true, decide_eq_true_eq, Bool.not_eq_true'] at h
    obtain ⟨hsender, hown, hfrom⟩ := h
    refine ⟨m, hm, hsender, rfl, fun hattributed ↦ ?_⟩
    rw [hattributed hown] at hfrom
    cases hfrom

end ZanovixCrm
