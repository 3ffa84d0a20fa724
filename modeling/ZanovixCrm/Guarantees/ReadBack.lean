import ZanovixCrm.Guarantees.Readability

/-!
# Answers and the database

What an answer shows is what the database has when the answer is given (`answers_current`): a list
is read from it, and a handler that has written a row reads it again before it answers, so that no
answer shows the object that was assigned, a default that the database has replaced, or a row that
was not committed. Each method of a service has one lemma that says where its result is; an endpoint
only passes the result on. A row that was answered is therefore what the next request for it gets
(`read_own_write`).
-/

namespace ZanovixCrm

/-! ### What an answer shows -/

/-- The row is in the table. -/
def Table.Holds {ρ : Type} [Keyed ρ UUID] (t : Table ρ) (r : ρ) : Prop := t.find? (key r) = some r

/-- The service is in the database, with these milestones. -/
def ServiceWithMilestones.In (db : Db) (sm : ServiceWithMilestones) : Prop :=
  db.services.Holds sm.service ∧ sm.milestones = ServiceService.milestonesOf db sm.service.id

/-- A lead of the database, as it is answered. -/
def LeadRead.In (db : Db) (r : LeadRead) : Prop :=
  (db.leads.find? r.id).map LeadRead.ofLead = some r

/-- The detail of a client of the database. -/
structure ClientDetailResponse.In (db : Db) (d : ClientDetailResponse) : Prop where
  client : db.clients.Holds d.client
  contacts : ∀ c, c ∈ d.contacts ↔ c ∈ db.contacts ∧ c.clientId = d.client.id
  services : ∀ s, s ∈ d.services ↔
    ∃ sv ∈ db.services, sv.clientId = d.client.id ∧ s = ServiceStub.ofService sv
  billingProfiles : ∀ b, b ∈ d.billingProfiles ↔ b ∈ db.billingProfiles ∧ b.clientId = d.client.id
  recentActivity : ∀ a ∈ d.recentActivity, db.activityLog.Holds a ∧ a.clientId = d.client.id

/-- **What the body shows is in the database.** -/
def Body.Current (p : Platform) (db : Db) : Body → Prop
  | .lead r => r.In db
  | .leads page => ∀ r ∈ page.items, r.In db
  | .client c => db.clients.Holds c
  | .clients page => ∀ c ∈ page.items, db.clients.Holds c
  | .clientDetail d => d.In db
  | .contact c => db.contacts.Holds c
  | .contacts cs => ∀ c ∈ cs, db.contacts.Holds c
  | .service sm => sm.In db
  | .services page => ∀ sm ∈ page.items, sm.In db
  | .milestone m => db.milestones.Holds m
  | .milestones ms => ∀ m ∈ ms, db.milestones.Holds m
  | .billingProfile b => db.billingProfiles.Holds b
  | .billingProfiles bs => ∀ b ∈ bs, db.billingProfiles.Holds b
  | .ticket t => db.tickets.Holds t
  | .tickets page => ∀ t ∈ page.items, db.tickets.Holds t
  | .message m => db.messages.Holds m
  | .messages page => ∀ m ∈ page.items, db.messages.Holds m
  | .activity page => ∀ a ∈ page.items, db.activityLog.Holds a
  | .diagnostic d => ∃ sv ∈ db.services, sv.diagnosticJson.bind p.diagnosticRead = some d
  | .currentUser r => ∃ u ∈ db.users, r = CurrentUser.ofUser u
  | .token email role => ∃ u ∈ db.users, u.email = email ∧ u.role = role
  | _ => True

section Holds

variable {ρ α : Type} [Keyed ρ UUID] [LinearOrder α] {t : Table ρ}

theorem Table.holds_of_mem {r : ρ} (h : r ∈ t) : t.Holds r := Table.find?_of_mem h

theorem Table.holds_of_find? {k : UUID} {r : ρ} (h : t.find? k = some r) : t.Holds r :=
  Table.holds_of_mem (Table.mem_of_find? h)

/-- The rows of a page are rows of the table. -/
theorem holds_of_page {sel : ρ → Bool} {f : ρ → α} {limit offset : ℤ} {page : List ρ}
    (h : Session.limitOffset limit offset (selectDesc t sel f) = .ok page) :
    ∀ r ∈ page, t.Holds r :=
  fun _ hr ↦ Table.holds_of_mem (mem_selectDesc.1 (Session.mem_of_limitOffset h hr)).1

theorem holds_of_pageAsc {sel : ρ → Bool} {f : ρ → α} {limit offset : ℤ} {page : List ρ}
    (h : Session.limitOffset limit offset (selectAsc t sel f) = .ok page) :
    ∀ r ∈ page, t.Holds r :=
  fun _ hr ↦ Table.holds_of_mem (mem_selectAsc.1 (Session.mem_of_limitOffset h hr)).1

/-- A row that is read again is in the table. -/
theorem holds_refresh [Relation ρ] (k : UUID) (db : Db) :
    (Session.refresh k : Tx ρ).Ensures db fun r db' ↦ (Relation.table db' : Table ρ).Holds r :=
  Session.ensures_refresh.2 fun _ hr ↦ Table.holds_of_find? hr

end Holds

theorem LeadRead.in_of_holds {db : Db} {l : Lead} (h : db.leads.Holds l) :
    (LeadRead.ofLead l).In db := by
  rw [LeadRead.In, show (LeadRead.ofLead l).id = key l from rfl, h]
  rfl

/-- What is answered with the result of a transaction. -/
theorem Prog.Ensures.answer {α β : Type} {m : Tx α} {f : α → Tx β} {db : Db} {P : α → Db → Prop}
    {Q : β → Db → Prop} (h : m.Ensures db P) (hf : ∀ a db', P a db' → (f a).Ensures db' Q) :
    (m >>= f).Ensures db Q :=
  Prog.ensures_bind.2 (h.mono hf)

/-! ### What the services return -/

section Services

variable {p : Platform} {env : Env} {user : User} {actor : UUID}

theorem holds_add {ρ : Type} [Keyed ρ UUID] [Stored ρ] {row : Except DbError ρ} (k : UUID)
    (db : Db) :
    (do Session.add row; Session.refresh k : Tx ρ).Ensures db fun r db' ↦
      (Relation.table db' : Table ρ).Holds r :=
  .last (fun _ ↦ holds_refresh k) db

namespace LeadService

theorem holds_create {payload : LeadCreate} {rawPayload : RawPayload} (db : Db) :
    (create env payload rawPayload).Ensures db fun l db' ↦ db'.leads.Holds l :=
  holds_add _ db

theorem holds_getForUser {leadId : UUID} (db : Db) :
    (getForUser user leadId).Ensures db fun l db' ↦ db'.leads.Holds l :=
  ensures_getForUser.2 fun _ hl _ ↦ Table.holds_of_find? hl

theorem holds_listForUser {f : LeadFilters} (db : Db) :
    (listForUser user f).Ensures db fun x db' ↦ ∀ l ∈ x.1, db'.leads.Holds l := by
  simp only [listForUser, Prog.ensures_bind, Prog.ensures_query, Session.ensures_column,
    Session.ensures_pure]
  exact fun page hpage ↦ holds_of_page hpage

theorem holds_update {leadId : UUID} {payload : LeadUpdate} (db : Db) :
    (update env user leadId payload).Ensures db fun l db' ↦ db'.leads.Holds l :=
  .last (fun _ ↦ .last fun _ ↦ holds_refresh _) db

theorem holds_updateStatus {leadId : UUID} {status : LeadStatus} (db : Db) :
    (updateStatus env user leadId status).Ensures db fun l db' ↦ db'.leads.Holds l :=
  .last (fun _ ↦ .last fun _ ↦ .last fun _ ↦ holds_refresh _) db

theorem holds_assignOwner {leadId ownerId : UUID} (db : Db) :
    (assignOwner env leadId ownerId).Ensures db fun l db' ↦ db'.leads.Holds l :=
  .last (fun _ ↦ .last fun _ ↦ .last fun _ ↦ holds_refresh _) db

end LeadService

namespace ClientService

theorem holds_createClient {body : ClientCreate} (db : Db) :
    (createClient env body actor).Ensures db fun c db' ↦ db'.clients.Holds c :=
  .last (fun _ ↦ .last fun _ ↦ holds_refresh _) db

theorem holds_listClients {f : ClientFilters} (db : Db) :
    (listClients p user f).Ensures db fun x db' ↦ ∀ c ∈ x.1, db'.clients.Holds c := by
  simp only [listClients, Session.bindText, Prog.ensures_bind, Prog.ensures_require,
    Prog.ensures_query, Session.ensures_column, Session.ensures_pure]
  exact fun _ _ _ page hpage ↦ holds_of_page hpage

/-- The detail of a client is read from five tables. -/
theorem current_getClientDetail {clientId : UUID} (db : Db) :
    (getClientDetail user clientId).Ensures db fun d db' ↦
      (clientDetailAnswer p d).body.Current p db' := by
  simp only [getClientDetail, Prog.ensures_bind, ensures_getForUser, Prog.ensures_query,
    Session.ensures_pure]
  intro c hc _
  have hid : c.id = clientId := Table.key_of_find? hc
  unfold clientDetailAnswer
  split
  swap
  · trivial
  refine ⟨Table.holds_of_find? hc, fun x ↦ ?_, fun x ↦ ?_, fun x ↦ ?_, fun x hx ↦ ?_⟩
  · simp [hid]
  · simp [hid, eq_comm, and_assoc]
  · simp [hid]
  · obtain ⟨hmem, hclient⟩ := mem_selectDesc.1 (List.mem_of_mem_take hx)
    exact ⟨Table.holds_of_mem hmem, (of_decide_eq_true hclient).trans hid.symm⟩

theorem holds_updateClient {clientId : UUID} {body : ClientUpdate} (db : Db) :
    (updateClient env user clientId body).Ensures db fun c db' ↦ db'.clients.Holds c :=
  .last (fun _ ↦ .last fun _ ↦ holds_refresh _) db

theorem holds_changeStage {clientId : UUID} {stage : String} {force : Bool} (db : Db) :
    (changeStage env user clientId stage force).Ensures db fun c db' ↦ db'.clients.Holds c :=
  .last (fun _ ↦ .last fun _ ↦ .last fun _ ↦ .last fun _ ↦ holds_refresh _) db

theorem holds_convertFromLead {leadId : UUID} {body : ConvertLeadBody} (db : Db) :
    (convertFromLead env leadId body actor).Ensures db fun c db' ↦ db'.clients.Holds c := by
  refine .last (fun _ ↦ .last fun lead db ↦ ?_) db
  split
  · exact Prog.ensures_raise
  · exact .last (fun _ ↦ .last fun _ ↦ .last fun _ ↦ .last fun _ ↦ .last fun _ ↦ .last fun _ ↦
      holds_refresh _) db

end ClientService

namespace ContactService

theorem holds_listContacts {clientId : UUID} (db : Db) :
    (listContacts p clientId).Ensures db fun cs db' ↦ ∀ c ∈ cs, db'.contacts.Holds c :=
  Prog.ensures_query.2 fun _ hc ↦ Table.holds_of_mem (mem_selectAsc.1 hc).1

theorem holds_createContact {clientId : UUID} {body : ContactCreate} (db : Db) :
    (createContact env clientId body actor).Ensures db fun c db' ↦ db'.contacts.Holds c :=
  .last (fun _ ↦ .last fun _ ↦ .last fun _ ↦ holds_refresh _) db

theorem holds_updateContact {clientId contactId : UUID} {body : ContactUpdate} (db : Db) :
    (updateContact env clientId contactId body actor).Ensures db fun c db' ↦
      db'.contacts.Holds c :=
  .last (fun _ ↦ .last fun _ ↦ .last fun _ ↦ holds_refresh _) db

end ContactService

namespace ServiceService

/-- A service that is read again comes with its milestones. -/
theorem in_refresh (k : UUID) (db : Db) : (refresh k).Ensures db fun sm db' ↦ sm.In db' :=
  ensures_refresh.2 fun _ hs ↦ ⟨Table.holds_of_find? hs, rfl⟩

/-- The services of a page come with their milestones. -/
theorem in_of_page {db : Db} {sel : Service → Bool} {limit offset : ℤ} {page : List Service}
    (h : Session.limitOffset limit offset (selectDesc db.services sel Service.createdAt) =
      .ok page) :
    ∀ sm ∈ page.map (fun sv ↦ (⟨sv, milestonesOf db sv.id⟩ : ServiceWithMilestones)),
      sm.In db := by
  intro sm hsm
  obtain ⟨sv, hsv, rfl⟩ := List.mem_map.1 hsm
  exact ⟨holds_of_page h sv hsv, rfl⟩

theorem in_listServices {f : ServiceFilters} (db : Db) :
    (listServices user f).Ensures db fun x db' ↦ ∀ sm ∈ x.1, sm.In db' := by
  simp only [listServices, loadMilestones, Session.bindText, Prog.ensures_bind,
    Prog.ensures_require, Prog.ensures_query, Session.ensures_column, Session.ensures_pure]
  exact fun _ _ page hpage ↦ in_of_page hpage

theorem in_listForClient {clientIdFilter : Option UUID} {limit offset : ℤ}
    {state type : Option String} (db : Db) :
    (listForClient clientIdFilter limit offset state type).Ensures db fun x db' ↦
      ∀ sm ∈ x.1, sm.In db' := by
  simp only [listForClient, loadMilestones, Session.bindText, Prog.ensures_bind,
    Prog.ensures_require, Prog.ensures_query, Session.ensures_column, Session.ensures_pure]
  exact fun _ _ page hpage ↦ in_of_page hpage

theorem in_getServiceDetail {serviceId : UUID} (db : Db) :
    (getServiceDetail user serviceId).Ensures db fun sm db' ↦ sm.In db' := by
  simp only [getServiceDetail, loadMilestones₁, Prog.ensures_bind, ensures_getServiceForWrite,
    Prog.ensures_query]
  exact fun sv hsv _ ↦ ⟨Table.holds_of_find? hsv, rfl⟩

theorem in_getForClient {serviceId : UUID} {clientIdFilter : Option UUID} (db : Db) :
    (getForClient serviceId clientIdFilter).Ensures db fun sm db' ↦ sm.In db' := by
  simp only [getForClient, loadMilestones₁, Prog.ensures_bind, Prog.ensures_query,
    Prog.ensures_demand, Option.filter_eq_some_iff]
  exact fun sv hsv ↦ ⟨Table.holds_of_find? hsv.1, rfl⟩

theorem in_createService {body : ServiceCreate} (db : Db) :
    (createService env body actor).Ensures db fun sm db' ↦ sm.In db' :=
  .last (fun _ ↦ .last fun _ ↦ .last fun _ ↦ .last fun _ ↦ .last fun _ ↦ in_refresh _) db

theorem in_updateService {serviceId : UUID} {body : ServiceUpdate} (db : Db) :
    (updateService env user serviceId body).Ensures db fun sm db' ↦ sm.In db' :=
  .last (fun _ ↦ .last fun _ ↦ in_refresh _) db

theorem in_changeState {serviceId : UUID} {state : String} (db : Db) :
    (changeState env user serviceId state).Ensures db fun sm db' ↦ sm.In db' :=
  .last (fun _ ↦ .last fun _ ↦ .last fun _ ↦ .last fun _ ↦ in_refresh _) db

end ServiceService

namespace MilestoneService

theorem holds_listMilestones {serviceId : UUID} (db : Db) :
    (listMilestones serviceId).Ensures db fun ms db' ↦ ∀ m ∈ ms, db'.milestones.Holds m :=
  Prog.ensures_query.2 fun _ hm ↦ Table.holds_of_mem (mem_selectAsc.1 hm).1

theorem holds_createUnderService {serviceId : UUID} {body : MilestoneCreate} (db : Db) :
    (createUnderService env serviceId body).Ensures db fun m db' ↦ db'.milestones.Holds m :=
  .last (fun _ ↦ .last fun _ ↦ holds_refresh _) db

theorem holds_update {serviceId : UUID} {n : ℤ} {body : MilestoneUpdate} (db : Db) :
    (update env serviceId n body actor).Ensures db fun m db' ↦ db'.milestones.Holds m := by
  refine .last (fun m ↦ .last fun _ db ↦ ?_) db
  split
  · exact .last (fun _ ↦ holds_refresh _) db
  · exact holds_refresh _ _

end MilestoneService

namespace BillingProfileService

theorem holds_createForClient {clientId : UUID} {payload : BillingProfileCreate} (db : Db) :
    (createForClient env clientId payload).Ensures db fun b db' ↦ db'.billingProfiles.Holds b :=
  .last (fun _ ↦ .last fun _ ↦ .last fun _ ↦ .last fun _ ↦ .last fun _ ↦ holds_refresh _) db

theorem holds_listForClient {clientId : UUID} (db : Db) :
    (listForClient clientId).Ensures db fun bs db' ↦ ∀ b ∈ bs, db'.billingProfiles.Holds b :=
  Prog.ensures_query.2 fun _ hb ↦ Table.holds_of_mem (mem_selectAsc.1 hb).1

theorem holds_get {profileId : UUID} (db : Db) :
    (get profileId).Ensures db fun b db' ↦ db'.billingProfiles.Holds b :=
  ensures_load.2 fun _ hb ↦ Table.holds_of_find? hb

theorem holds_update {profileId : UUID} {payload : BillingProfileUpdate} (db : Db) :
    (update env profileId payload).Ensures db fun b db' ↦ db'.billingProfiles.Holds b :=
  .last (fun _ ↦ .last fun _ ↦ .last fun _ ↦ holds_refresh _) db

theorem holds_setDefault {profileId : UUID} (db : Db) :
    (setDefault env profileId).Ensures db fun b db' ↦ db'.billingProfiles.Holds b :=
  .last (fun _ ↦ .last fun _ ↦ .last fun _ ↦ holds_refresh _) db

end BillingProfileService

namespace TicketService

theorem holds_listTickets {clientIdFilter : Option UUID} {limit offset : ℤ}
    {status priority : Option String} (db : Db) :
    (listTickets clientIdFilter limit offset status priority).Ensures db fun x db' ↦
      ∀ t ∈ x.1, db'.tickets.Holds t := by
  simp only [listTickets, Session.bindText, Prog.ensures_bind, Prog.ensures_require,
    Prog.ensures_query, Session.ensures_column, Session.ensures_pure]
  exact fun _ _ page hpage ↦ holds_of_page hpage

theorem holds_getTicket {ticketId : UUID} {clientIdFilter : Option UUID} (db : Db) :
    (getTicket ticketId clientIdFilter).Ensures db fun t db' ↦ db'.tickets.Holds t := by
  simp only [getTicket, Prog.ensures_bind, Prog.ensures_query, Prog.ensures_demand,
    Option.filter_eq_some_iff]
  exact fun t ht ↦ Table.holds_of_find? ht.1

theorem holds_createTicket {body : TicketCreate} {clientId : UUID} (db : Db) :
    (createTicket env body clientId actor).Ensures db fun t db' ↦ db'.tickets.Holds t :=
  .last (fun _ ↦ .last fun _ ↦ holds_refresh _) db

theorem holds_updateTicket {ticketId : UUID} {body : TicketPatch} {clientIdFilter : Option UUID}
    (db : Db) : (updateTicket env ticketId body clientIdFilter actor).Ensures db fun t db' ↦
      db'.tickets.Holds t :=
  .last (fun _ ↦ .last fun _ ↦ .last fun _ ↦ holds_refresh _) db

theorem holds_updateTicketInternal {ticketId : UUID} {body : TicketUpdate} (db : Db) :
    (updateTicketInternal env ticketId body actor).Ensures db fun t db' ↦ db'.tickets.Holds t :=
  .last (fun _ ↦ .last fun _ ↦ .last fun _ ↦ holds_refresh _) db

end TicketService

theorem MessageService.holds_listMessages {clientId : UUID} {limit offset : ℤ}
    {since : Option Time} (db : Db) :
    (listMessages clientId limit offset since).Ensures db fun x db' ↦
      ∀ m ∈ x.1, db'.messages.Holds m := by
  simp only [listMessages, Prog.ensures_bind, Prog.ensures_query, Session.ensures_column,
    Session.ensures_pure]
  exact fun page hpage ↦ holds_of_pageAsc hpage

theorem MessageService.holds_createMessage {body : MessageCreate} {clientId : UUID} (db : Db) :
    (createMessage env body clientId actor).Ensures db fun m db' ↦ db'.messages.Holds m :=
  .last (fun _ ↦ .last fun _ ↦ holds_refresh _) db

theorem ActivityLogService.holds_listActivity {clientId : Option UUID} {limit offset : ℤ}
    (db : Db) : (listActivity limit offset clientId).Ensures db fun x db' ↦
      ∀ a ∈ x.1, db'.activityLog.Holds a := by
  simp only [listActivity, Prog.ensures_bind, Prog.ensures_query, Session.ensures_column,
    Session.ensures_pure]
  exact fun page hpage ↦ holds_of_page hpage

theorem DiagnosticService.mem_getDiagnostic {serviceId : UUID} {clientIdFilter : Option UUID}
    (db : Db) : (getDiagnostic p serviceId clientIdFilter).Ensures db fun found db' ↦
      ∀ d, found = some d →
        ∃ sv ∈ db'.services, sv.diagnosticJson.bind p.diagnosticRead = some d := by
  simp only [getDiagnostic, Prog.ensures_bind, Prog.ensures_query, Prog.ensures_demand,
    Session.ensures_pure, Option.filter_eq_some_iff]
  rintro sv ⟨hsv, -⟩ d hd
  split at hd
  · exact ⟨sv, Table.mem_of_find? hsv, hd⟩
  · cases hd

end Services

section Requests

variable {p : Platform} {s : Settings} {env : Env} {user : Except Fault User} {m : Tx Response}

theorem Fault.current_response (f : Fault) (db : Db) : f.response.body.Current p db := by
  cases f <;> trivial

theorem current_serviceAnswer {status : ℕ} {sm : ServiceWithMilestones} {db : Db} (h : sm.In db) :
    (serviceAnswer p status sm).body.Current p db := by
  unfold serviceAnswer
  split
  · exact h
  · trivial

theorem current_servicesAnswer {items : List ServiceWithMilestones} {total : ℕ}
    {limit offset : ℤ} {db : Db} (h : ∀ sm ∈ items, sm.In db) :
    (servicesAnswer p items total limit offset).body.Current p db := by
  unfold servicesAnswer
  split
  · exact h
  · trivial

theorem current_billingProfileAnswer {status : ℕ} {b : BillingProfile} {db : Db}
    (h : db.billingProfiles.Holds b) : (billingProfileAnswer p status b).body.Current p db := by
  unfold billingProfileAnswer
  split
  · exact h
  · trivial

/-- A token is for an account of the database. -/
theorem current_login (email password : String) (db : Db) :
    (login p email password).Ensures db fun resp db' ↦ resp.body.Current p db' := by
  simp only [login, Session.bindText, Prog.ensures_bind, Prog.ensures_query,
    Session.ensures_scalarOneOrNone, Prog.ensures_demand, Prog.ensures_require,
    Session.ensures_pure]
  refine fun _ ↦ ⟨fun _ u hu ↦ absurd hu.symm (Option.some_ne_none u), ?_⟩
  intro u hrows x hx _ _ _ _
  obtain rfl : u = x := Option.some.inj hx
  have hmem : u ∈ db.users.rows.filter fun x ↦ decide (x.email.val = email) := by
    rw [hrows]
    exact List.mem_singleton_self u
  exact ⟨u, List.mem_of_mem_filter hmem, rfl, rfl⟩

/-- The portal's client is in the database. -/
theorem current_getMyClient (clientId : UUID) (db : Db) :
    (getMyClient clientId).Ensures db fun resp db' ↦ resp.body.Current p db' := by
  simp only [getMyClient, Prog.ensures_bind, Prog.ensures_query, Prog.ensures_demand,
    Session.ensures_pure]
  exact fun c hc ↦ Table.holds_of_find? hc

/-- **The writing endpoints answer with what they have left.** -/
theorem current_of_write {r : Request} (hr : r.isRead = false)
    (hg : (route p s env r).guard user = .ok m) (db : Db) :
    m.Ensures db fun resp db' ↦ resp.body.Current p db' := by
  cases r with
  | createLead inbound body =>
    obtain ⟨-, rfl⟩ := Handler.guard_anonymous.1 hg
    exact (LeadService.holds_create db).bind_pure fun _ _ ↦ LeadRead.in_of_holds
  | updateLead leadId body =>
    obtain ⟨u, -, rfl⟩ := Handler.guard_currentUser.1 hg
    exact (Prog.ensures_mapError.2 (LeadService.holds_update db)).bind_pure
      fun _ _ ↦ LeadRead.in_of_holds
  | updateLeadStatus leadId status =>
    obtain ⟨u, -, rfl⟩ := Handler.guard_currentUser.1 hg
    exact (Prog.ensures_mapError.2 (LeadService.holds_updateStatus db)).bind_pure
      fun _ _ ↦ LeadRead.in_of_holds
  | assignLead leadId ownerId =>
    obtain ⟨u, -, -, rfl⟩ := Handler.guard_requireRole.1 hg
    exact .last (fun _ db ↦ (Prog.ensures_mapError.2 (LeadService.holds_assignOwner db)).bind_pure
      fun _ _ ↦ LeadRead.in_of_holds) db
  | convertLead leadId body =>
    obtain ⟨u, -, -, rfl⟩ := Handler.guard_requireRole.1 hg
    exact (ClientService.holds_convertFromLead db).bind_pure fun _ _ ↦ id
  | createClient body =>
    obtain ⟨u, -, -, rfl⟩ := Handler.guard_requireRole.1 hg
    exact (ClientService.holds_createClient db).bind_pure fun _ _ ↦ id
  | updateClient clientId body =>
    obtain ⟨u, -, -, rfl⟩ := Handler.guard_requireRole.1 hg
    exact (ClientService.holds_updateClient db).bind_pure fun _ _ ↦ id
  | changeClientStage clientId stage =>
    obtain ⟨u, -, -, rfl⟩ := Handler.guard_requireRole.1 hg
    exact (ClientService.holds_changeStage db).bind_pure fun _ _ ↦ id
  | createContact clientId body =>
    obtain ⟨u, -, -, rfl⟩ := Handler.guard_requireRole.1 hg
    exact (ContactService.holds_createContact db).bind_pure fun _ _ ↦ id
  | updateContact clientId contactId body =>
    obtain ⟨u, -, -, rfl⟩ := Handler.guard_requireRole.1 hg
    exact (ContactService.holds_updateContact db).bind_pure fun _ _ ↦ id
  | createService clientId body =>
    obtain ⟨u, -, -, rfl⟩ := Handler.guard_requireRole.1 hg
    exact (ServiceService.in_createService db).bind_pure fun _ _ ↦ current_serviceAnswer
  | updateService serviceId body =>
    obtain ⟨u, -, rfl⟩ := Handler.guard_currentUser.1 hg
    exact (ServiceService.in_updateService db).bind_pure fun _ _ ↦ current_serviceAnswer
  | changeServiceState serviceId state =>
    obtain ⟨u, -, rfl⟩ := Handler.guard_currentUser.1 hg
    exact (ServiceService.in_changeState db).bind_pure fun _ _ ↦ current_serviceAnswer
  | createMilestone serviceId body =>
    obtain ⟨u, -, rfl⟩ := Handler.guard_currentUser.1 hg
    exact (MilestoneService.holds_createUnderService db).bind_pure fun _ _ ↦ id
  | updateMilestone serviceId n body =>
    obtain ⟨u, -, rfl⟩ := Handler.guard_currentUser.1 hg
    exact (MilestoneService.holds_update db).bind_pure fun _ _ ↦ id
  | createBillingProfile clientId body =>
    obtain ⟨u, -, -, rfl⟩ := Handler.guard_requireRole.1 hg
    exact (BillingProfileService.holds_createForClient db).bind_pure
      fun _ _ ↦ current_billingProfileAnswer
  | updateBillingProfile profileId body =>
    obtain ⟨u, -, -, rfl⟩ := Handler.guard_requireRole.1 hg
    exact (BillingProfileService.holds_update db).bind_pure
      fun _ _ ↦ current_billingProfileAnswer
  | setDefaultBillingProfile profileId =>
    obtain ⟨u, -, -, rfl⟩ := Handler.guard_requireRole.1 hg
    exact (BillingProfileService.holds_setDefault db).bind_pure
      fun _ _ ↦ current_billingProfileAnswer
  -- There is nothing left to answer with.
  | deleteContact | deleteMilestone | deleteBillingProfile =>
    obtain ⟨u, -, -, rfl⟩ := Handler.guard_requireRole.1 hg
    exact .last (fun _ _ ↦ Prog.ensures_ret.2 trivial) db
  | sendMyMessage body =>
    obtain ⟨u, c, -, -, -, rfl⟩ := Handler.guard_scopeToClient.1 hg
    exact (MessageService.holds_createMessage db).bind_pure fun _ _ ↦ id
  | createMyTicket body =>
    obtain ⟨u, c, -, -, -, rfl⟩ := Handler.guard_scopeToClient.1 hg
    exact (TicketService.holds_createTicket db).bind_pure fun _ _ ↦ id
  | updateMyTicket ticketId body =>
    obtain ⟨u, c, -, -, -, rfl⟩ := Handler.guard_scopeToClient.1 hg
    exact (TicketService.holds_updateTicket db).bind_pure fun _ _ ↦ id
  | createClientMessage clientId body =>
    obtain ⟨u, -, -, rfl⟩ := Handler.guard_requireRole.1 hg
    exact (MessageService.holds_createMessage db).bind_pure fun _ _ ↦ id
  | updateTicketInternal ticketId body =>
    obtain ⟨u, -, -, rfl⟩ := Handler.guard_requireRole.1 hg
    exact .last (fun _ db ↦ (TicketService.holds_updateTicketInternal db).bind_pure
      fun _ _ ↦ id) db
  | _ => cases hr

/-- **The reading endpoints answer with what they find.** -/
theorem current_of_read {r : Request} (hr : r.isRead = true) {db : Db}
    (huser : ∀ u, user = .ok u → u ∈ db.users) (hg : (route p s env r).guard user = .ok m) :
    m.Ensures db fun resp db' ↦ resp.body.Current p db' := by
  cases r with
  | listLeads query =>
    obtain ⟨u, -, rfl⟩ := Handler.guard_currentUser.1 hg
    refine .last (fun f db ↦ (LeadService.holds_listForUser db).answer fun _ _ hl ↦ ?_) db
    exact Prog.ensures_ret.2 (List.forall_mem_map.2 fun l h ↦ LeadRead.in_of_holds (hl l h))
  | getLead leadId =>
    obtain ⟨u, -, rfl⟩ := Handler.guard_currentUser.1 hg
    exact (LeadService.holds_getForUser db).bind_pure fun _ _ ↦ LeadRead.in_of_holds
  | listClients query =>
    obtain ⟨u, -, rfl⟩ := Handler.guard_currentUser.1 hg
    exact .last (fun f db ↦ (ClientService.holds_listClients db).answer
      fun _ _ h ↦ Prog.ensures_ret.2 h) db
  | getClient clientId =>
    obtain ⟨u, -, rfl⟩ := Handler.guard_currentUser.1 hg
    exact (ClientService.current_getClientDetail db).bind_pure fun _ _ ↦ id
  | listContacts clientId =>
    obtain ⟨u, -, rfl⟩ := Handler.guard_currentUser.1 hg
    exact (ContactService.holds_listContacts db).bind_pure fun _ _ ↦ id
  | listServices query =>
    obtain ⟨u, -, rfl⟩ := Handler.guard_currentUser.1 hg
    exact .last (fun f db ↦ (ServiceService.in_listServices db).answer
      fun _ _ h ↦ Prog.ensures_ret.2 (current_servicesAnswer h)) db
  | getService serviceId =>
    obtain ⟨u, -, rfl⟩ := Handler.guard_currentUser.1 hg
    exact (ServiceService.in_getServiceDetail db).bind_pure fun _ _ ↦ current_serviceAnswer
  | listMilestones serviceId =>
    obtain ⟨u, -, rfl⟩ := Handler.guard_currentUser.1 hg
    exact (MilestoneService.holds_listMilestones db).bind_pure fun _ _ ↦ id
  | listBillingProfiles clientId =>
    obtain ⟨u, -, -, rfl⟩ := Handler.guard_requireRole.1 hg
    refine (BillingProfileService.holds_listForClient db).bind_pure fun _ _ hb ↦ ?_
    split
    · exact hb
    · trivial
  | getBillingProfile profileId =>
    obtain ⟨u, -, -, rfl⟩ := Handler.guard_requireRole.1 hg
    exact (BillingProfileService.holds_get db).bind_pure fun _ _ ↦ current_billingProfileAnswer
  | getMyClient =>
    obtain ⟨u, c, -, -, -, rfl⟩ := Handler.guard_scopeToClient.1 hg
    exact current_getMyClient c db
  | listMyServices limit offset state type =>
    obtain ⟨u, c, -, -, -, rfl⟩ := Handler.guard_scopeToClient.1 hg
    exact (ServiceService.in_listForClient db).answer fun _ _ h ↦
      Prog.ensures_ret.2 (current_servicesAnswer h)
  | getMyService serviceId =>
    obtain ⟨u, c, -, -, -, rfl⟩ := Handler.guard_scopeToClient.1 hg
    exact (ServiceService.in_getForClient db).bind_pure fun _ _ ↦ current_serviceAnswer
  | getMyServiceDiagnostic serviceId =>
    obtain ⟨u, c, -, -, -, rfl⟩ := Handler.guard_scopeToClient.1 hg
    exact (DiagnosticService.mem_getDiagnostic db).answer fun _ _ hd ↦
      Prog.ensures_bind.2 (Prog.ensures_demand.2 fun d h ↦ Prog.ensures_ret.2 (hd d h))
  | listMyContacts =>
    obtain ⟨u, c, -, -, -, rfl⟩ := Handler.guard_scopeToClient.1 hg
    exact (ContactService.holds_listContacts db).bind_pure fun _ _ ↦ id
  | listMyActivity limit offset =>
    obtain ⟨u, c, -, -, -, rfl⟩ := Handler.guard_scopeToClient.1 hg
    exact (ActivityLogService.holds_listActivity db).answer fun _ _ h ↦ Prog.ensures_ret.2 h
  | listMyMessages limit offset since =>
    obtain ⟨u, c, -, -, -, rfl⟩ := Handler.guard_scopeToClient.1 hg
    exact (MessageService.holds_listMessages db).answer fun _ _ h ↦ Prog.ensures_ret.2 h
  | listMyTickets limit offset status priority =>
    obtain ⟨u, c, -, -, -, rfl⟩ := Handler.guard_scopeToClient.1 hg
    exact (TicketService.holds_listTickets db).answer fun _ _ h ↦ Prog.ensures_ret.2 h
  | listClientMessages clientId page =>
    obtain ⟨u, -, -, rfl⟩ := Handler.guard_requireRole.1 hg
    exact .last (fun _ ↦ .last fun _ db ↦ (MessageService.holds_listMessages db).answer
      fun _ _ h ↦ Prog.ensures_ret.2 h) db
  | listClientTickets clientId status priority page =>
    obtain ⟨u, -, -, rfl⟩ := Handler.guard_requireRole.1 hg
    exact .last (fun _ ↦ .last fun _ db ↦ (TicketService.holds_listTickets db).answer
      fun _ _ h ↦ Prog.ensures_ret.2 h) db
  | getTicket ticketId =>
    obtain ⟨u, -, -, rfl⟩ := Handler.guard_requireRole.1 hg
    exact (TicketService.holds_getTicket db).bind_pure fun _ _ ↦ id
  | getActivity clientId page =>
    obtain ⟨u, -, -, rfl⟩ := Handler.guard_requireRole.1 hg
    exact .last (fun _ ↦ .last fun _ ↦ .last fun _ db ↦
      (ActivityLogService.holds_listActivity db).answer fun _ _ h ↦ Prog.ensures_ret.2 h) db
  | login email password =>
    obtain ⟨-, rfl⟩ := Handler.guard_anonymous.1 hg
    exact current_login email password db
  | authMe =>
    obtain ⟨u, hu, rfl⟩ := Handler.guard_currentUser.1 hg
    exact Prog.ensures_ret.2 ⟨u, huser u hu, rfl⟩
  | logout =>
    obtain ⟨u, -, rfl⟩ := Handler.guard_currentUser.1 hg
    exact Prog.ensures_ret.2 trivial
  | health =>
    obtain ⟨-, rfl⟩ := Handler.guard_anonymous.1 hg
    exact Prog.ensures_ret.2 trivial
  | root =>
    obtain ⟨-, rfl⟩ := Handler.guard_anonymous.1 hg
    exact Prog.ensures_raise
  | _ => cases hr

end Requests

/-! ### Every answer -/

section Answers

variable {p : Platform} {s : Settings}

theorem current_reject (h : Handler) (user : Except Fault User) (db : Db) :
    (reject h user).body.Current p db := by
  unfold reject
  split
  · trivial
  · exact Fault.current_response _ db

theorem current_respond {m : Tx Response} {db : Db}
    (h : m.Ensures db fun resp db' ↦ resp.body.Current p db') :
    (respond m db).1.body.Current p (respond m db).2 := by
  rcases respond_cases m db with ⟨resp, db', hrun, hresp⟩ | ⟨f, -, hresp⟩
  · rw [hresp]
    exact h resp db' hrun
  · rw [hresp]
    exact Fault.current_response f db

/-- **Every answer shows the database as it is when the answer is given.** -/
theorem answers_current (p : Platform) (s : Settings) (env : Env) (db : Db)
    (sub : Except Fault String) (call : Call) :
    (handle p s env db sub call).1.body.Current p (handle p s env db sub call).2 := by
  cases call with
  | unreadable | unrouted => trivial
  | malformed r =>
    rw [handle]
    split
    · exact current_reject _ _ db
    · trivial
  | bound r =>
    rw [handle]
    split
    · split
      · exact current_reject _ _ db
      · next r' _ =>
        split
        · next m hg =>
          refine current_respond ?_
          rcases hread : r'.isRead with - | -
          · exact current_of_write hread hg db
          · exact current_of_read hread (fun u hu ↦ mem_of_currentUser hu) hg
        · exact Fault.current_response _ db
    · trivial

/-! ### Reading it again -/

/-- The request for the row that was answered. -/
def Body.reread? : Body → Option Request
  | .lead r => some (.getLead r.id)
  | .client c => some (.getClient c.id)
  | .service sm => some (.getService sm.service.id)
  | .billingProfile b => some (.getBillingProfile b.id)
  | .ticket t => some (.getTicket t.id)
  | _ => none

/-- The user may see the row that was answered. -/
def User.Reads (u : User) : Body → Prop
  | .lead r => u.sees r.ownerId = true
  | .client c => u.sees c.ownerId = true
  | .service sm => u.seesService sm.service = true
  | .billingProfile _ => u.role ∈ [Role.admin, Role.comercial]
  | .ticket _ => u.role ∈ [Role.admin, Role.consultor, Role.comercial]
  | _ => False

/-- `again` shows the row of the body; a client comes with its detail. -/
def Body.Repeats (again : Body) : Body → Prop
  | .client c => ∃ d, again = .clientDetail d ∧ d.client = c
  | body => again = body

/-- The answer of a transaction that reads. -/
theorem respond_read {α : Type} {m : Tx α} {db : Db} {a : α} (h : m.run db = .ok (a, db))
    (f : α → Response) : respond (m >>= fun a ↦ return f a) db = (f a, db) := by
  rw [respond, Prog.transact_of_ok (Prog.run_bind_ok h _)]

theorem run_getForUser_lead {u : User} {db : Db} {l : Lead} (hl : db.leads.Holds l)
    (hsees : u.sees l.ownerId = true) : (LeadService.getForUser u l.id).run db = .ok (l, db) := by
  have hfind : (db.leads.find? l.id).filter (fun l ↦ u.sees l.ownerId) = some l :=
    Option.filter_eq_some_iff.2 ⟨hl, hsees⟩
  exact Prog.run_lookup_some db hfind _

theorem run_getClientDetail {u : User} {db : Db} {c : Client} (hc : db.clients.Holds c)
    (hsees : u.sees c.ownerId = true) : ∃ d : ClientService.Detail,
      (ClientService.getClientDetail u c.id).run db = .ok (d, db) ∧ d.client = c ∧
        ∀ b ∈ d.billingProfiles, b ∈ db.billingProfiles := by
  have hfind : (db.clients.find? c.id).filter (fun c ↦ u.sees c.ownerId) = some c :=
    Option.filter_eq_some_iff.2 ⟨hc, hsees⟩
  have hrun : (ClientService.getForUser u c.id).run db = .ok (c, db) :=
    Prog.run_lookup_some db hfind _
  let d : ClientService.Detail :=
    { client := c
      contacts := selectAsc db.contacts (fun x ↦ decide (x.clientId = c.id)) Contact.id
      services := selectAsc db.services (fun x ↦ decide (x.clientId = c.id)) Service.id
      billingProfiles :=
        selectAsc db.billingProfiles (fun x ↦ decide (x.clientId = c.id)) BillingProfile.id
      recentActivity :=
        (selectDesc db.activityLog (fun x ↦ decide (x.clientId = c.id)) ActivityLog.createdAt).take
          20 }
  refine ⟨d, ?_, rfl, fun b hb ↦ (mem_selectAsc.1 hb).1⟩
  rw [ClientService.getClientDetail, Prog.run_bind_ok hrun,
    Prog.run_bind_ok (Prog.run_query _ db), Prog.run_bind_ok (Prog.run_query _ db),
    Prog.run_bind_ok (Prog.run_query _ db), Prog.run_bind_ok (Prog.run_query _ db)]
  rfl

theorem run_getServiceDetail {u : User} {db : Db} {sm : ServiceWithMilestones} (hsm : sm.In db)
    (hsees : u.seesService sm.service = true) :
    (ServiceService.getServiceDetail u sm.service.id).run db = .ok (sm, db) := by
  obtain ⟨sv, milestones⟩ := sm
  have hsv : db.services.Holds sv := hsm.1
  obtain rfl : milestones = ServiceService.milestonesOf db sv.id := hsm.2
  have hfind : (db.services.find? sv.id).filter u.seesService = some sv :=
    Option.filter_eq_some_iff.2 ⟨hsv, hsees⟩
  have hrun : (ServiceService.getServiceForWrite u sv.id).run db = .ok (sv, db) :=
    Prog.run_lookup_some db hfind _
  rw [ServiceService.getServiceDetail, Prog.run_bind_ok hrun]
  exact Prog.run_query _ db

theorem run_getTicket {db : Db} {t : Ticket} (ht : db.tickets.Holds t) :
    (TicketService.getTicket t.id none).run db = .ok (t, db) := by
  have hfind : (db.tickets.find? t.id).filter (fun t ↦ (none : Option UUID).all (· = t.clientId)) =
      some t :=
    Option.filter_eq_some_iff.2 ⟨ht, rfl⟩
  exact Prog.run_lookup_some db hfind _

/-- **A row that was answered is what the next request for it gets**, from whoever may see it. -/
theorem read_own_write (acts : List Act) (a : Act) {resp : Response}
    (hresp : (a.perform p s (run p s acts).db).1 = some resp) {u : User}
    (hu : u ∈ (run p s (acts ++ [a])).db.users) (hactive : u.isActive = true)
    (hreads : u.Reads resp.body) {r : Request} (hr : resp.body.reread? = some r)
    (hmounted : mounted s r = true) (env : Env) :
    ∃ again, handle p s env (run p s (acts ++ [a])).db (.ok u.email.val) (.bound r) =
        (again, (run p s (acts ++ [a])).db) ∧
      again.isOk = true ∧ again.body.Repeats resp.body := by
  have hvalid := valid_run (p := p) (s := s) (acts ++ [a])
  have hreadable := readable_run (p := p) (s := s) (acts ++ [a])
  have huser := currentUser_of_mem hvalid hu hactive
  have hcurrent : resp.body.Current p (run p s (acts ++ [a])).db := by
    rw [run_append]
    rcases a with ⟨env, sub, call⟩ | op
    · obtain rfl := Option.some.inj hresp
      exact answers_current p s env _ sub call
    · rw [Act.perform] at hresp
      split at hresp <;> cases hresp
  generalize (run p s (acts ++ [a])).db = db at *
  obtain ⟨status, body⟩ := resp
  cases body with
  | lead l =>
    obtain rfl := Option.some.inj hr
    obtain ⟨l', hfind, rfl⟩ := Option.map_eq_some_iff.1 hcurrent
    have hhandle : handle p s env db _ (.bound _) = _ := handle_of_admitted hmounted rfl
      (Handler.guard_currentUser.2 ⟨u, huser, rfl⟩)
    exact ⟨_, hhandle.trans (respond_read (run_getForUser_lead hfind hreads) _), rfl, rfl⟩
  | client c =>
    obtain rfl := Option.some.inj hr
    obtain ⟨d, hrun, hclient, hprofiles⟩ := run_getClientDetail hcurrent hreads
    have hhandle : handle p s env db _ (.bound _) = _ := handle_of_admitted hmounted rfl
      (Handler.guard_currentUser.2 ⟨u, huser, rfl⟩)
    have hrender : d.billingProfiles.all (BillingProfile.readable p) = true :=
      List.all_eq_true.2 fun b hb ↦ hreadable.billingProfiles b (hprofiles b hb)
    refine ⟨_, hhandle.trans (respond_read hrun _), ?_⟩
    rw [clientDetailAnswer, if_pos hrender]
    exact ⟨rfl, _, rfl, hclient⟩
  | service sm =>
    obtain rfl := Option.some.inj hr
    have hhandle : handle p s env db _ (.bound _) = _ := handle_of_admitted hmounted rfl
      (Handler.guard_currentUser.2 ⟨u, huser, rfl⟩)
    have hrender : sm.service.readable p = true := by
      rw [Service.readable, hreadable.services _ (Table.mem_of_find? hcurrent.1)]
      rfl
    refine ⟨_, hhandle.trans (respond_read (run_getServiceDetail hcurrent hreads) _), ?_⟩
    rw [serviceAnswer, if_pos hrender]
    exact ⟨rfl, rfl⟩
  | billingProfile b =>
    obtain rfl := Option.some.inj hr
    have hhandle : handle p s env db _ (.bound _) = _ := handle_of_admitted hmounted rfl
      (Handler.guard_requireRole.2 ⟨u, huser, hreads, rfl⟩)
    have hrender := hreadable.billingProfiles b (Table.mem_of_find? hcurrent)
    refine ⟨_, hhandle.trans (respond_read (BillingProfileService.run_load hcurrent) _), ?_⟩
    rw [billingProfileAnswer, if_pos hrender]
    exact ⟨rfl, rfl⟩
  | ticket t =>
    obtain rfl := Option.some.inj hr
    have hhandle : handle p s env db _ (.bound _) = _ := handle_of_admitted hmounted rfl
      (Handler.guard_requireRole.2 ⟨u, huser, hreads, rfl⟩)
    exact ⟨_, hhandle.trans (respond_read (run_getTicket hcurrent) _), rfl, rfl⟩
  | _ => exact hreads.elim

end Answers

/-- An administrator for examples. -/
def reader : User := .sample 1 (.lit "root@example.com") .admin none

/-- The client of the example, as the creation answers it. -/
def answeredClient : Client where
  id := 20
  createdAt := 0
  updatedAt := 0
  name := .lit "Acme"
  sector := none
  size := none
  region := none
  ownerId := none
  stage := .lead
  enteredAt := 0
  mrrCents := none
  lifetimeValueCents := none

theorem read_own_write_example :
    ∃ db again, handle .sample .sample (.sample 30) db (.ok "root@example.com")
        (.bound (.getClient 20)) = (again, db) ∧
      again.isOk = true ∧ again.body.Repeats (.client answeredClient) :=
  have hresp : ((Act.request (.sample 20) (.ok "root@example.com")
      (.bound (.createClient ⟨"Acme", none, none, none, none, none, "lead"⟩))).perform .sample
        .sample (run .sample .sample [.account (.insert reader)]).db).1 =
      some ⟨201, .client answeredClient⟩ := by decide +kernel
  ⟨_, read_own_write _ _ hresp (show reader ∈ _ by decide +kernel) rfl
    (show reader.sees none = true by decide) rfl (by decide) (.sample 30)⟩

end ZanovixCrm
