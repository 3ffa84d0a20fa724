import ZanovixCrm.Api.Routes
import ZanovixCrm.Database.Integrity

/-!
# What a request can do

`Step` lists, endpoint by endpoint, everything that a committed request does to the database: who
may have sent it, which rows it read, which of its checks passed, and the state it leaves. That is
the only place where the services are opened; `handle_cases` says that **a request either leaves the
database as it was, or is a `Step`**, and every invariant of the application is proved by cases on
`Step`.

The constructors carry the rows that were inserted or flushed, not how they were computed: a new row
comes with the equation that built it, a changed row with `Session.Flushed`.
-/

namespace ZanovixCrm

/-- The endpoints that write nothing. -/
def Request.isRead : Request → Bool
  | .listLeads _ | .getLead _ | .listClients _ | .getClient _ | .listContacts _ | .listServices _
  | .getService _ | .listMilestones _ | .listBillingProfiles _ | .getBillingProfile _
  | .getMyClient | .listMyServices .. | .getMyService _ | .getMyServiceDiagnostic _
  | .listMyContacts | .listMyActivity .. | .listMyMessages .. | .listMyTickets ..
  | .listClientMessages .. | .listClientTickets .. | .getTicket _ | .getActivity ..
  | .login .. | .logout | .authMe | .health | .root => true
  | _ => false

/-- The endpoints that are not for staff: the portal, the authentication, the public intake. -/
def Request.isOpen : Request → Bool
  | .createLead _ _ => true
  | r => r.isPortal || r.isAuth

/-- The two requests are to endpoints of one kind. -/
structure Request.SameKind (r r' : Request) : Prop where
  isRead : r.isRead = r'.isRead
  isPortal : r.isPortal = r'.isPortal
  needsPortal : r.needsPortal = r'.needsPortal
  isOpen : r.isOpen = r'.isOpen

/-- **A committed request**: with these settings, in these surroundings, from the state `db` and for
the given user, the (validated) request is answered so and leaves that state. -/
inductive Step (p : Platform) (s : Settings) (env : Env) (db : Db) :
    Except Fault User → Request → Response → Db → Prop where
  -- Leads
  | createLead {user : Except Fault User} {inbound : Inbound} {body : LeadCreate} {l : Lead}
    (hrow : LeadService.row env body (PayloadSanitizer.buildRawPayload p s env.now inbound body) =
      .ok l)
    (hnew : db.leads.has l.id = false) :
    Step p s env db user (.createLead inbound body) (leadAnswer 201 l)
      { db with leads := db.leads.insert l }
  | updateLead {u : User} {leadId : UUID} {body : LeadUpdate} {l l' : Lead}
    (hsees : u.sees l.ownerId = true)
    (hl : Session.Flushed env.now (LeadService.changes body) db leadId l l') :
    Step p s env db (.ok u) (.updateLead leadId body) (leadAnswer 200 l')
      { db with
        leads := db.leads.alter leadId (Session.saved env.now l (LeadService.changes body)) }
  | updateLeadStatus {u : User} {leadId : UUID} {status : LeadStatus} {l l' : Lead}
    (hsees : u.sees l.ownerId = true) (hedge : LeadStatusMachine.Edge l.status status)
    (hl : Session.Flushed env.now [Lead.Col.status.assign (some status)] db leadId l l') :
    Step p s env db (.ok u) (.updateLeadStatus leadId status) (leadAnswer 200 l')
      { db with
        leads := db.leads.alter leadId
          (Session.saved env.now l [Lead.Col.status.assign (some status)]) }
  | assignLead {u : User} {leadId ownerId : UUID} {l l' : Lead} (hrole : u.role ∈ [Role.admin])
    (hl : Session.Flushed env.now [Lead.Col.ownerId.assign (some ownerId)] db leadId l l') :
    Step p s env db (.ok u) (.assignLead leadId ownerId) (leadAnswer 200 l')
      { db with
        leads := db.leads.alter leadId
          (Session.saved env.now l [Lead.Col.ownerId.assign (some ownerId)]) }
  | convertLead {u : User} {leadId : UUID} {body : ConvertLeadBody} {l : Lead} {c : Client}
    {a : ActivityLog} {t : Table BillingProfile} (hrole : u.role ∈ [Role.admin, Role.comercial])
    (hl : db.leads.find? leadId = some l) (hunlinked : l.convertedClientId = none)
    (hqualified : l.status = .qualified)
    (hrow : ClientService.row env (ClientService.clientName body l) body.sector body.size
      body.region body.ownerId body.mrrCents (body.stage.getD "lead") = .ok c)
    (hnew : db.clients.has c.id = false) (hcontact : db.contacts.has (env.uuid 1) = false)
    (hbilling : ClientService.AddsBillingProfile env db.billingProfiles body.billingProfile t)
    (ha : ActivityLogService.Records db c.id .leadConverted
      ("Lead " ++ l.name.val ++ " converted to client") a)
    (hflush : Session.Flushes env.now l (ClientService.conversionChanges env)) :
    Step p s env db (.ok u) (.convertLead leadId body) ⟨201, .client c⟩
      { db with
        leads := db.leads.alter leadId
          (Session.saved env.now l (ClientService.conversionChanges env))
        clients := db.clients.insert c
        contacts := db.contacts.insert (ClientService.contactRow env l)
        billingProfiles := t
        activityLog := db.activityLog.insert a }
  -- Clients
  | createClient {u : User} {body : ClientCreate} {c : Client} {a : ActivityLog}
    (hrole : u.role ∈ [Role.admin, Role.comercial])
    (hrow : ClientService.row env body.name body.sector body.size body.region body.ownerId
      body.mrrCents body.stage = .ok c)
    (hnew : db.clients.has c.id = false)
    (ha : ActivityLogService.Records db c.id .stageChange
      ("Client created at stage: " ++ body.stage) a) :
    Step p s env db (.ok u) (.createClient body) ⟨201, .client c⟩
      { db with clients := db.clients.insert c, activityLog := db.activityLog.insert a }
  | updateClient {u : User} {clientId : UUID} {body : ClientUpdate} {c c' : Client}
    (hrole : u.role ∈ [Role.admin, Role.comercial]) (hsees : u.sees c.ownerId = true)
    (hc : Session.Flushed env.now (ClientService.changes body) db clientId c c') :
    Step p s env db (.ok u) (.updateClient clientId body) ⟨200, .client c'⟩
      { db with
        clients := db.clients.alter clientId
          (Session.saved env.now c (ClientService.changes body)) }
  | changeClientStage {u : User} {clientId : UUID} {stage : String} {c c' : Client}
    {a : ActivityLog} (hrole : u.role ∈ [Role.admin, Role.comercial])
    (hsees : u.sees c.ownerId = true)
    (hcan : ClientStageMachine.canTransition c.stage stage false = true)
    (hc : Session.Flushed env.now [Client.Col.stage.assignText stage] db clientId c c')
    (ha : ActivityLogService.Records db clientId .stageChange
      (ClientService.stageChangeBody (TextEnum.text c.stage) stage) a) :
    Step p s env db (.ok u) (.changeClientStage clientId stage) ⟨200, .client c'⟩
      { db with
        clients := db.clients.alter clientId
          (Session.saved env.now c [Client.Col.stage.assignText stage])
        activityLog := db.activityLog.insert a }
  -- Contacts
  | createContact {u : User} {clientId : UUID} {body : ContactCreate} {c : Contact}
    {a : ActivityLog} (hrole : u.role ∈ [Role.admin, Role.comercial])
    (hrow : ContactService.row env clientId body = .ok c) (hnew : db.contacts.has c.id = false)
    (ha : ActivityLogService.Records db clientId .contactAdded
      ("Contact '" ++ body.name ++ "' added") a) :
    Step p s env db (.ok u) (.createContact clientId body) ⟨201, .contact c⟩
      { db with contacts := db.contacts.insert c, activityLog := db.activityLog.insert a }
  | updateContact {u : User} {clientId contactId : UUID} {body : ContactUpdate} {c c' : Contact}
    {a : ActivityLog} (hrole : u.role ∈ [Role.admin, Role.comercial])
    (hclient : c.clientId = clientId)
    (hc : Session.Flushed env.now (ContactService.changes body) db contactId c c')
    (ha : ActivityLogService.Records db clientId .contactUpdated
      ("Contact '" ++ (body.name.onto (some c.name.val)).getD "" ++ "' updated") a) :
    Step p s env db (.ok u) (.updateContact clientId contactId body) ⟨200, .contact c'⟩
      { db with
        contacts := db.contacts.alter contactId
          (Session.saved env.now c (ContactService.changes body))
        activityLog := db.activityLog.insert a }
  | deleteContact {u : User} {clientId contactId : UUID} {c : Contact}
    (hrole : u.role ∈ [Role.admin]) (hc : db.contacts.find? contactId = some c)
    (hclient : c.clientId = clientId) :
    Step p s env db (.ok u) (.deleteContact clientId contactId) ⟨204, .noContent⟩
      { db with contacts := db.contacts.erase contactId }
  -- Services
  | createService {u : User} {clientId : UUID} {body : ServiceCreate} {c : Client}
    {sm : ServiceWithMilestones} {a : ActivityLog}
    (hrole : u.role ∈ [Role.admin, Role.comercial])
    (hc : db.clients.find? clientId = some c) (hstage : c.stage ≠ .lost)
    (hrow : ServiceService.row env { body with clientId := clientId } = .ok sm.service)
    (hnew : db.services.has sm.service.id = false)
    (ha : ActivityLogService.Records db clientId .serviceStarted
      ("Service '" ++ body.title ++ "' started (type=" ++ body.type ++ ")") a) :
    Step p s env db (.ok u) (.createService clientId body) (serviceAnswer p 201 sm)
      { db with
        services := db.services.insert sm.service, activityLog := db.activityLog.insert a }
  | updateService {u : User} {serviceId : UUID} {body : ServiceUpdate} {sv : Service}
    {sm : ServiceWithMilestones} (hsees : u.seesService sv = true)
    (hs : Session.Flushed env.now (ServiceService.changes body) db serviceId sv sm.service) :
    Step p s env db (.ok u) (.updateService serviceId body) (serviceAnswer p 200 sm)
      { db with
        services := db.services.alter serviceId
          (Session.saved env.now sv (ServiceService.changes body)) }
  | changeServiceState {u : User} {serviceId : UUID} {state : String} {sv : Service}
    {sm : ServiceWithMilestones} {a : ActivityLog} (hsees : u.seesService sv = true)
    (hcan : ServiceStateMachine.canTransition sv.state state = true)
    (hs : Session.Flushed env.now [Service.Col.state.assignText state] db serviceId sv sm.service)
    (ha : ActivityLogService.Records db sv.clientId .serviceStateChange
      ("Service '" ++ sv.title.val ++ "' state: " ++ TextEnum.text sv.state ++ " → " ++ state) a) :
    Step p s env db (.ok u) (.changeServiceState serviceId state) (serviceAnswer p 200 sm)
      { db with
        services := db.services.alter serviceId
          (Session.saved env.now sv [Service.Col.state.assignText state])
        activityLog := db.activityLog.insert a }
  -- Milestones
  | createMilestone {u : User} {serviceId : UUID} {body : MilestoneCreate} {m : Milestone}
    (hrow : MilestoneService.row env serviceId body = .ok m)
    (hnew : db.milestones.has m.id = false) :
    Step p s env db (.ok u) (.createMilestone serviceId body) ⟨201, .milestone m⟩
      { db with milestones := db.milestones.insert m }
  | updateMilestone {u : User} {serviceId : UUID} {n : ℤ} {body : MilestoneUpdate}
    {m m' : Milestone} {log : Table ActivityLog} (hservice : m.serviceId = serviceId)
    (hn : m.n.val = n)
    (hm : Session.Flushed env.now (MilestoneService.changes body) db m.id m m')
    (hlog : MilestoneService.LogsCompletion db serviceId m body log) :
    Step p s env db (.ok u) (.updateMilestone serviceId n body) ⟨200, .milestone m'⟩
      { db with
        milestones := db.milestones.alter m.id
          (Session.saved env.now m (MilestoneService.changes body))
        activityLog := log }
  | deleteMilestone {u : User} {serviceId : UUID} {n : ℤ} {m : Milestone}
    (hrole : u.role ∈ [Role.admin]) (hm : m ∈ db.milestones) (hservice : m.serviceId = serviceId)
    (hn : m.n.val = n) :
    Step p s env db (.ok u) (.deleteMilestone serviceId n) ⟨204, .noContent⟩
      { db with milestones := db.milestones.erase m.id }
  -- Billing profiles
  | createBillingProfile {u : User} {clientId : UUID} {body : BillingProfileCreate}
    {b : BillingProfile} (hrole : u.role ∈ [Role.admin, Role.comercial])
    (hclient : db.clients.has clientId = true)
    (hrow : ClientService.billingProfileRow env (env.uuid 0) clientId body
      (BillingProfileService.claimed env db clientId body).1 = .ok b)
    (hnew : (BillingProfileService.claimed env db clientId body).2.has b.id = false) :
    Step p s env db (.ok u) (.createBillingProfile clientId body) (billingProfileAnswer p 201 b)
      { db with
        billingProfiles := (BillingProfileService.claimed env db clientId body).2.insert b }
  | updateBillingProfile {u : User} {profileId : UUID} {body : BillingProfileUpdate}
    {b b' : BillingProfile} (hrole : u.role ∈ [Role.admin, Role.comercial])
    (hb : Session.Flushed env.now (BillingProfileService.changes body) db profileId b b') :
    Step p s env db (.ok u) (.updateBillingProfile profileId body) (billingProfileAnswer p 200 b')
      { db with
        billingProfiles := db.billingProfiles.alter profileId
          (Session.saved env.now b (BillingProfileService.changes body)) }
  | deleteBillingProfile {u : User} {profileId : UUID} {b : BillingProfile}
    {t : Table BillingProfile} (hrole : u.role ∈ [Role.admin, Role.comercial])
    (hb : db.billingProfiles.find? profileId = some b)
    (ht : BillingProfileService.HandsOver env db b t) :
    Step p s env db (.ok u) (.deleteBillingProfile profileId) ⟨204, .noContent⟩
      { db with billingProfiles := t.erase profileId }
  | setDefaultBillingProfile {u : User} {profileId : UUID} {b b' : BillingProfile}
    (hrole : u.role ∈ [Role.admin, Role.comercial])
    (hb : db.billingProfiles.find? profileId = some b)
    (hflush : Session.Flushes env.now b [BillingProfile.Col.isDefault.assign (some true)])
    (hb' : b' = (Session.saved env.now b [BillingProfile.Col.isDefault.assign (some true)]).fn b) :
    Step p s env db (.ok u) (.setDefaultBillingProfile profileId) (billingProfileAnswer p 200 b')
      { db with
        billingProfiles := (BillingProfileService.demoted env db b).alter profileId
          (Session.saved env.now b [BillingProfile.Col.isDefault.assign (some true)]) }
  -- Client portal
  | sendMyMessage {u : User} {clientId : UUID} {body : MessageCreate} {m : Message}
    {a : ActivityLog} (hrole : u.role = .clientUser) (hclient : u.clientId = some clientId)
    (hrow : MessageService.row env body clientId u.id = .ok m)
    (hnew : db.messages.has m.id = false)
    (ha : ActivityLogService.Records db clientId .messageSent
      ("Message sent (len=" ++ toString body.body.length ++ ")") a) :
    Step p s env db (.ok u) (.sendMyMessage body) ⟨201, .message m⟩
      { db with messages := db.messages.insert m, activityLog := db.activityLog.insert a }
  | createMyTicket {u : User} {clientId : UUID} {body : TicketCreate} {t : Ticket}
    {a : ActivityLog} (hrole : u.role = .clientUser) (hclient : u.clientId = some clientId)
    (hrow : TicketService.row env body clientId u.id = .ok t) (hnew : db.tickets.has t.id = false)
    (ha : ActivityLogService.Records db clientId .ticketOpened
      ("Ticket '" ++ body.title ++ "' opened (priority=" ++ TextEnum.text body.priority ++ ")")
      a) :
    Step p s env db (.ok u) (.createMyTicket body) ⟨201, .ticket t⟩
      { db with tickets := db.tickets.insert t, activityLog := db.activityLog.insert a }
  | updateMyTicket {u : User} {clientId ticketId : UUID} {body : TicketPatch} {t t' : Ticket}
    {a : ActivityLog} {text : String} (hrole : u.role = .clientUser)
    (hclient : u.clientId = some clientId) (howner : t.clientId = clientId)
    (ht : Session.Flushed env.now (TicketService.patchChanges body) db ticketId t t')
    (ha : ActivityLogService.Records db t.clientId .ticketUpdated text a) :
    Step p s env db (.ok u) (.updateMyTicket ticketId body) ⟨200, .ticket t'⟩
      { db with
        tickets := db.tickets.alter ticketId
          (Session.saved env.now t (TicketService.patchChanges body))
        activityLog := db.activityLog.insert a }
  -- Internal messages and tickets
  | createClientMessage {u : User} {clientId : UUID} {body : MessageCreate} {m : Message}
    {a : ActivityLog} (hrole : u.role ∈ [Role.admin, Role.consultor])
    (hrow : MessageService.row env body clientId u.id = .ok m)
    (hnew : db.messages.has m.id = false)
    (ha : ActivityLogService.Records db clientId .messageSent
      ("Message sent (len=" ++ toString body.body.length ++ ")") a) :
    Step p s env db (.ok u) (.createClientMessage clientId body) ⟨201, .message m⟩
      { db with messages := db.messages.insert m, activityLog := db.activityLog.insert a }
  | updateTicketInternal {u : User} {ticketId : UUID} {body : TicketUpdate} {t t' : Ticket}
    {a : ActivityLog} {text : String}
    (hrole : u.role ∈ [Role.admin, Role.consultor, Role.comercial])
    (hstatus : u.role = .comercial → body.status.toOption = none)
    (ht : Session.Flushed env.now (TicketService.updateChanges body) db ticketId t t')
    (ha : ActivityLogService.Records db t.clientId
      (if TicketService.closes t body then .ticketClosed else .ticketUpdated) text a) :
    Step p s env db (.ok u) (.updateTicketInternal ticketId body) ⟨200, .ticket t'⟩
      { db with
        tickets := db.tickets.alter ticketId
          (Session.saved env.now t (TicketService.updateChanges body))
        activityLog := db.activityLog.insert a }

/-! ### Guards -/

namespace Handler

variable {user : Except Fault User} {m' : Tx Response}

theorem guard_anonymous {refusal : Option Fault} {m : Tx Response} :
    (Handler.anonymous refusal m).guard user = .ok m' ↔ refusal = none ∧ m = m' := by
  rcases refusal with - | f <;> simp [guard]

theorem guard_currentUser {m : User → Tx Response} :
    (Handler.currentUser m).guard user = .ok m' ↔ ∃ u, user = .ok u ∧ m u = m' := by
  rcases user with e | u <;> simp [guard, Except.map]

theorem guard_requireRole {roles : List Role} {m : User → Tx Response} :
    (Handler.requireRole roles m).guard user = .ok m' ↔
      ∃ u, user = .ok u ∧ u.role ∈ roles ∧ m u = m' := by
  rcases user with e | u
  · simp [guard, Except.bind]
  · by_cases h : u.role ∈ roles <;> simp [guard, Except.bind, h]

theorem guard_scopeToClient {m : User → UUID → Tx Response} :
    (Handler.scopeToClient m).guard user = .ok m' ↔
      ∃ u c, user = .ok u ∧ u.role = .clientUser ∧ u.clientId = some c ∧ m u c = m' := by
  rcases user with e | u
  · simp [guard, Except.bind]
  · by_cases h : u.role = .clientUser
    · rcases hc : u.clientId with - | c <;> simp [guard, Except.bind, h, hc]
    · simp [guard, Except.bind, h]

end Handler

/-- The address of an account is not that of another one. -/
theorem accounts_eq_singleton {db : Db} (h : db.Valid) {u : User} (hu : u ∈ db.users) :
    db.users.rows.filter (fun x ↦ decide (x.email.val = u.email.val)) = [u] := by
  refine List.perm_singleton.1 ((List.perm_ext_iff_of_nodup
    (db.users.keys_nodup.of_map _ |>.filter _) (List.nodup_singleton u)).2 fun x ↦ ?_)
  rw [List.mem_filter, List.mem_singleton, decide_eq_true_eq]
  constructor
  · rintro ⟨hx, hemail⟩
    exact Table.eq_of_key_eq hx hu (h.users.unique x hx u hu (Varchar.ext hemail))
  · rintro rfl
    exact ⟨hu, rfl⟩

/-- **The address of an account identifies its user**, if they are active. -/
theorem currentUser_eq_of_mem {db : Db} (h : db.Valid) {u : User} (hu : u ∈ db.users) :
    currentUser db (.ok u.email.val) =
      if u.isActive then .ok u
      else .error (.http .unauthorized (.text "User account is disabled")) := by
  simp only [currentUser, Except.bind, accounts_eq_singleton h hu]

theorem currentUser_of_mem {db : Db} (h : db.Valid) {u : User} (hu : u ∈ db.users)
    (hactive : u.isActive = true) : currentUser db (.ok u.email.val) = .ok u := by
  rw [currentUser_eq_of_mem h hu, if_pos hactive]

/-- The sender of a request has an account. -/
theorem mem_of_currentUser {db : Db} {sub : Except Fault String} {u : User}
    (h : currentUser db sub = .ok u) : u ∈ db.users := by
  rcases sub with f | email
  · cases h
  · simp only [currentUser, Except.bind] at h
    split at h
    · cases h
    · next x hx =>
      have hmem : x ∈ db.users.rows.filter fun u ↦ decide (u.email.val = email) := by
        rw [hx]
        exact List.mem_singleton_self x
      split at h
      · cases h
        exact List.mem_of_mem_filter hmem
      · cases h
    · cases h

/-! ### Every request is a step or a read -/

section Requests

variable {p : Platform} {s : Settings} {env : Env} {db : Db} {user : Except Fault User}
  {m : Tx Response}

/-- The transactions of the reading endpoints write nothing. -/
theorem ensures_read {r : Request} (hr : r.isRead = true)
    (hg : (route p s env r).guard user = .ok m) : m.Ensures db fun _ db' ↦ db' = db := by
  cases r with
  | listLeads query =>
    obtain ⟨u, -, rfl⟩ := Handler.guard_currentUser.1 hg
    simp [LeadService.listForUser]
  | getLead leadId =>
    obtain ⟨u, -, rfl⟩ := Handler.guard_currentUser.1 hg
    simp [LeadService.getForUser]
  | listClients query =>
    obtain ⟨u, -, rfl⟩ := Handler.guard_currentUser.1 hg
    simp [ClientService.listClients, Session.bindText]
  | getClient clientId =>
    obtain ⟨u, -, rfl⟩ := Handler.guard_currentUser.1 hg
    simp [ClientService.getClientDetail, ClientService.getForUser]
  | listContacts clientId =>
    obtain ⟨u, -, rfl⟩ := Handler.guard_currentUser.1 hg
    simp [ContactService.listContacts]
  | listServices query =>
    obtain ⟨u, -, rfl⟩ := Handler.guard_currentUser.1 hg
    simp [ServiceService.listServices, ServiceService.loadMilestones, Session.bindText]
  | getService serviceId =>
    obtain ⟨u, -, rfl⟩ := Handler.guard_currentUser.1 hg
    simp [ServiceService.getServiceDetail, ServiceService.getServiceForWrite,
      ServiceService.loadMilestones₁]
  | listMilestones serviceId =>
    obtain ⟨u, -, rfl⟩ := Handler.guard_currentUser.1 hg
    simp [MilestoneService.listMilestones]
  | listBillingProfiles clientId =>
    obtain ⟨u, -, -, rfl⟩ := Handler.guard_requireRole.1 hg
    simp [BillingProfileService.listForClient]
  | getBillingProfile profileId =>
    obtain ⟨u, -, -, rfl⟩ := Handler.guard_requireRole.1 hg
    simp [BillingProfileService.get, BillingProfileService.load]
  | getMyClient =>
    obtain ⟨u, c, -, -, -, rfl⟩ := Handler.guard_scopeToClient.1 hg
    simp [getMyClient]
  | listMyServices limit offset state type =>
    obtain ⟨u, c, -, -, -, rfl⟩ := Handler.guard_scopeToClient.1 hg
    simp [ServiceService.listForClient, ServiceService.loadMilestones, Session.bindText]
  | getMyService serviceId =>
    obtain ⟨u, c, -, -, -, rfl⟩ := Handler.guard_scopeToClient.1 hg
    simp [ServiceService.getForClient, ServiceService.loadMilestones₁]
  | getMyServiceDiagnostic serviceId =>
    obtain ⟨u, c, -, -, -, rfl⟩ := Handler.guard_scopeToClient.1 hg
    simp [DiagnosticService.getDiagnostic]
  | listMyContacts =>
    obtain ⟨u, c, -, -, -, rfl⟩ := Handler.guard_scopeToClient.1 hg
    simp [ContactService.listContacts]
  | listMyActivity limit offset =>
    obtain ⟨u, c, -, -, -, rfl⟩ := Handler.guard_scopeToClient.1 hg
    simp [ActivityLogService.listActivity]
  | listMyMessages limit offset since =>
    obtain ⟨u, c, -, -, -, rfl⟩ := Handler.guard_scopeToClient.1 hg
    simp [MessageService.listMessages]
  | listMyTickets limit offset status priority =>
    obtain ⟨u, c, -, -, -, rfl⟩ := Handler.guard_scopeToClient.1 hg
    simp [TicketService.listTickets, Session.bindText]
  | listClientMessages clientId page =>
    obtain ⟨u, -, -, rfl⟩ := Handler.guard_requireRole.1 hg
    simp [MessageService.listMessages]
  | listClientTickets clientId status priority page =>
    obtain ⟨u, -, -, rfl⟩ := Handler.guard_requireRole.1 hg
    simp [TicketService.listTickets, Session.bindText]
  | getTicket ticketId =>
    obtain ⟨u, -, -, rfl⟩ := Handler.guard_requireRole.1 hg
    simp [TicketService.getTicket]
  | getActivity clientId page =>
    obtain ⟨u, -, -, rfl⟩ := Handler.guard_requireRole.1 hg
    simp [ActivityLogService.listActivity]
  | login email password =>
    obtain ⟨-, rfl⟩ := Handler.guard_anonymous.1 hg
    simp [login, Session.bindText]
  | logout =>
    obtain ⟨u, -, rfl⟩ := Handler.guard_currentUser.1 hg
    simp
  | authMe =>
    obtain ⟨u, -, rfl⟩ := Handler.guard_currentUser.1 hg
    simp
  | health =>
    obtain ⟨-, rfl⟩ := Handler.guard_anonymous.1 hg
    simp
  | root =>
    obtain ⟨-, rfl⟩ := Handler.guard_anonymous.1 hg
    simp
  | _ => cases hr

/-- **The transactions of the writing endpoints are steps.** -/
theorem ensures_step {r : Request} (hr : r.isRead = false)
    (hg : (route p s env r).guard user = .ok m) :
    m.Ensures db fun resp db' ↦ Step p s env db user r resp db' := by
  cases r with
  | createLead inbound body =>
    obtain ⟨-, rfl⟩ := Handler.guard_anonymous.1 hg
    refine Prog.ensures_bind.2 (LeadService.ensures_create.mono ?_)
    rintro l db' ⟨hrow, hnew, rfl⟩
    exact Prog.ensures_ret.2 (.createLead hrow hnew)
  | updateLead leadId body =>
    obtain ⟨u, rfl, rfl⟩ := Handler.guard_currentUser.1 hg
    refine Prog.ensures_bind.2 (Prog.ensures_mapError.2 (LeadService.ensures_update.mono ?_))
    rintro l' db' ⟨l, hsees, hl, rfl⟩
    exact Prog.ensures_ret.2 (.updateLead hsees hl)
  | updateLeadStatus leadId status =>
    obtain ⟨u, rfl, rfl⟩ := Handler.guard_currentUser.1 hg
    refine Prog.ensures_bind.2 (Prog.ensures_mapError.2 (LeadService.ensures_updateStatus.mono ?_))
    rintro l' db' ⟨l, hsees, hedge, hl, rfl⟩
    exact Prog.ensures_ret.2 (.updateLeadStatus hsees hedge hl)
  | assignLead leadId ownerId =>
    obtain ⟨u, rfl, hrole, rfl⟩ := Handler.guard_requireRole.1 hg
    simp only [assertOwnerExists, Prog.ensures_bind, Prog.ensures_query, Prog.ensures_demand,
      Session.ensures_pure, Prog.ensures_mapError]
    intro owner _
    refine LeadService.ensures_assignOwner.mono ?_
    rintro l' db' ⟨l, hl, rfl⟩
    exact .assignLead hrole hl
  | convertLead leadId body =>
    obtain ⟨u, rfl, hrole, rfl⟩ := Handler.guard_requireRole.1 hg
    refine Prog.ensures_bind.2 (ClientService.ensures_convertFromLead.mono ?_)
    rintro c db' ⟨l, a, t, hl, hun, hq, hrow, hnew, hcontact, ht, ha, hflush, rfl⟩
    exact Prog.ensures_ret.2 (.convertLead hrole hl hun hq hrow hnew hcontact ht ha hflush)
  | createClient body =>
    obtain ⟨u, rfl, hrole, rfl⟩ := Handler.guard_requireRole.1 hg
    refine Prog.ensures_bind.2 (ClientService.ensures_createClient.mono ?_)
    rintro c db' ⟨a, hrow, hnew, ha, rfl⟩
    exact Prog.ensures_ret.2 (.createClient hrole hrow hnew ha)
  | updateClient clientId body =>
    obtain ⟨u, rfl, hrole, rfl⟩ := Handler.guard_requireRole.1 hg
    refine Prog.ensures_bind.2 (ClientService.ensures_updateClient.mono ?_)
    rintro c' db' ⟨c, hsees, hc, rfl⟩
    exact Prog.ensures_ret.2 (.updateClient hrole hsees hc)
  | changeClientStage clientId stage =>
    obtain ⟨u, rfl, hrole, rfl⟩ := Handler.guard_requireRole.1 hg
    refine Prog.ensures_bind.2 (ClientService.ensures_changeStage.mono ?_)
    rintro c' db' ⟨c, a, hsees, hcan, hc, ha, rfl⟩
    exact Prog.ensures_ret.2 (.changeClientStage hrole hsees hcan hc ha)
  | createContact clientId body =>
    obtain ⟨u, rfl, hrole, rfl⟩ := Handler.guard_requireRole.1 hg
    refine Prog.ensures_bind.2 (ContactService.ensures_createContact.mono ?_)
    rintro c db' ⟨a, hrow, hnew, ha, rfl⟩
    exact Prog.ensures_ret.2 (.createContact hrole hrow hnew ha)
  | updateContact clientId contactId body =>
    obtain ⟨u, rfl, hrole, rfl⟩ := Handler.guard_requireRole.1 hg
    refine Prog.ensures_bind.2 (ContactService.ensures_updateContact.mono ?_)
    rintro c' db' ⟨c, a, hclient, hc, ha, rfl⟩
    exact Prog.ensures_ret.2 (.updateContact hrole hclient hc ha)
  | deleteContact clientId contactId =>
    obtain ⟨u, rfl, hrole, rfl⟩ := Handler.guard_requireRole.1 hg
    refine Prog.ensures_bind.2 (ContactService.ensures_deleteContact.mono ?_)
    rintro - db' ⟨c, hc, hclient, rfl⟩
    exact Prog.ensures_ret.2 (.deleteContact hrole hc hclient)
  | createService clientId body =>
    obtain ⟨u, rfl, hrole, rfl⟩ := Handler.guard_requireRole.1 hg
    refine Prog.ensures_bind.2 (ServiceService.ensures_createService.mono ?_)
    rintro sm db' ⟨c, a, hc, hstage, hrow, hnew, ha, rfl⟩
    exact Prog.ensures_ret.2 (.createService hrole hc hstage hrow hnew ha)
  | updateService serviceId body =>
    obtain ⟨u, rfl, rfl⟩ := Handler.guard_currentUser.1 hg
    refine Prog.ensures_bind.2 (ServiceService.ensures_updateService.mono ?_)
    rintro sm db' ⟨sv, hsees, hs, rfl⟩
    exact Prog.ensures_ret.2 (.updateService hsees hs)
  | changeServiceState serviceId state =>
    obtain ⟨u, rfl, rfl⟩ := Handler.guard_currentUser.1 hg
    refine Prog.ensures_bind.2 (ServiceService.ensures_changeState.mono ?_)
    rintro sm db' ⟨sv, a, hsees, hcan, hs, ha, rfl⟩
    exact Prog.ensures_ret.2 (.changeServiceState hsees hcan hs ha)
  | createMilestone serviceId body =>
    obtain ⟨u, rfl, rfl⟩ := Handler.guard_currentUser.1 hg
    refine Prog.ensures_bind.2 (MilestoneService.ensures_createUnderService.mono ?_)
    rintro m db' ⟨hrow, hnew, rfl⟩
    exact Prog.ensures_ret.2 (.createMilestone hrow hnew)
  | updateMilestone serviceId n body =>
    obtain ⟨u, rfl, rfl⟩ := Handler.guard_currentUser.1 hg
    refine Prog.ensures_bind.2 (MilestoneService.ensures_update.mono ?_)
    rintro m' db' ⟨m, log, hservice, hn, hm, hlog, rfl⟩
    exact Prog.ensures_ret.2 (.updateMilestone hservice hn hm hlog)
  | deleteMilestone serviceId n =>
    obtain ⟨u, rfl, hrole, rfl⟩ := Handler.guard_requireRole.1 hg
    refine Prog.ensures_bind.2 (MilestoneService.ensures_delete.mono ?_)
    rintro - db' ⟨m, hm, hservice, hn, rfl⟩
    exact Prog.ensures_ret.2 (.deleteMilestone hrole hm hservice hn)
  | createBillingProfile clientId body =>
    obtain ⟨u, rfl, hrole, rfl⟩ := Handler.guard_requireRole.1 hg
    refine Prog.ensures_bind.2 (BillingProfileService.ensures_createForClient.mono ?_)
    rintro b db' ⟨hclient, hrow, hnew, rfl⟩
    exact Prog.ensures_ret.2 (.createBillingProfile hrole hclient hrow hnew)
  | updateBillingProfile profileId body =>
    obtain ⟨u, rfl, hrole, rfl⟩ := Handler.guard_requireRole.1 hg
    refine Prog.ensures_bind.2 (BillingProfileService.ensures_update.mono ?_)
    rintro b' db' ⟨b, hb, rfl⟩
    exact Prog.ensures_ret.2 (.updateBillingProfile hrole hb)
  | deleteBillingProfile profileId =>
    obtain ⟨u, rfl, hrole, rfl⟩ := Handler.guard_requireRole.1 hg
    refine Prog.ensures_bind.2 (BillingProfileService.ensures_delete.mono ?_)
    rintro - db' ⟨b, t, hb, ht, rfl⟩
    exact Prog.ensures_ret.2 (.deleteBillingProfile hrole hb ht)
  | setDefaultBillingProfile profileId =>
    obtain ⟨u, rfl, hrole, rfl⟩ := Handler.guard_requireRole.1 hg
    refine Prog.ensures_bind.2 (BillingProfileService.ensures_setDefault.mono ?_)
    rintro b' db' ⟨b, hb, hflush, hb', rfl⟩
    exact Prog.ensures_ret.2 (.setDefaultBillingProfile hrole hb hflush hb')
  | sendMyMessage body =>
    obtain ⟨u, c, rfl, hrole, hclient, rfl⟩ := Handler.guard_scopeToClient.1 hg
    refine Prog.ensures_bind.2 (MessageService.ensures_createMessage.mono ?_)
    rintro m db' ⟨a, hrow, hnew, ha, rfl⟩
    exact Prog.ensures_ret.2 (.sendMyMessage hrole hclient hrow hnew ha)
  | createMyTicket body =>
    obtain ⟨u, c, rfl, hrole, hclient, rfl⟩ := Handler.guard_scopeToClient.1 hg
    refine Prog.ensures_bind.2 (TicketService.ensures_createTicket.mono ?_)
    rintro t db' ⟨a, hrow, hnew, ha, rfl⟩
    exact Prog.ensures_ret.2 (.createMyTicket hrole hclient hrow hnew ha)
  | updateMyTicket ticketId body =>
    obtain ⟨u, c, rfl, hrole, hclient, rfl⟩ := Handler.guard_scopeToClient.1 hg
    refine Prog.ensures_bind.2 (TicketService.ensures_updateTicket.mono ?_)
    rintro t' db' ⟨t, a, text, howner, ht, ha, rfl⟩
    have howner' : c = t.clientId := by simpa using howner
    exact Prog.ensures_ret.2 (.updateMyTicket hrole hclient howner'.symm ht ha)
  | createClientMessage clientId body =>
    obtain ⟨u, rfl, hrole, rfl⟩ := Handler.guard_requireRole.1 hg
    refine Prog.ensures_bind.2 (MessageService.ensures_createMessage.mono ?_)
    rintro m db' ⟨a, hrow, hnew, ha, rfl⟩
    exact Prog.ensures_ret.2 (.createClientMessage hrole hrow hnew ha)
  | updateTicketInternal ticketId body =>
    obtain ⟨u, rfl, hrole, rfl⟩ := Handler.guard_requireRole.1 hg
    rw [assertMaySetStatus, Prog.ensures_bind, Prog.ensures_require]
    intro hmay
    have hstatus : u.role = .comercial → body.status.toOption = none := by
      intro hu
      simpa [hu] using hmay
    refine Prog.ensures_bind.2 (TicketService.ensures_updateTicketInternal.mono ?_)
    rintro t' db' ⟨t, a, text, ht, ha, rfl⟩
    exact Prog.ensures_ret.2 (.updateTicketInternal hrole hstatus ht ha)
  | _ => cases hr

/-- The schema check keeps a request at its endpoint. -/
theorem sameKind_of_validate? {r r' : Request} (h : r.validate? p = some r') : r'.SameKind r := by
  cases r <;>
    simp only [Request.validate?, Option.map_eq_some_iff, accept_eq_some_iff,
      Option.some.injEq] at h <;>
    obtain ⟨-, -, rfl⟩ := h <;>
    exact ⟨rfl, rfl, rfl, rfl⟩

theorem isOk_reject (h : Handler) : (reject h user).isOk = false := by
  unfold reject
  split
  · rfl
  · exact Fault.isOk_response _

theorem respond_cases (m : Tx Response) (db : Db) :
    (∃ resp db', m.run db = .ok (resp, db') ∧ respond m db = (resp, db')) ∨
      ∃ f, m.run db = .error f ∧ respond m db = (f.response, db) := by
  rcases m.transact_cases db with ⟨resp, db', hrun, ht⟩ | ⟨f, hrun, ht⟩
  · exact Or.inl ⟨resp, db', hrun, by rw [respond, ht]⟩
  · exact Or.inr ⟨f, hrun, by rw [respond, ht]⟩

/-- What holds of the status of every result and of every exception holds of the answer. -/
theorem status_respond {S : ℕ → Prop} (hok : m.Ensures db fun resp _ ↦ S resp.status)
    (herr : m.Refuses db fun f ↦ S f.response.status) : S (respond m db).1.status := by
  rcases respond_cases m db with ⟨resp, db', hrun, hresp⟩ | ⟨f, hrun, hresp⟩
  · rw [hresp]
    exact hok resp db' hrun
  · rw [hresp]
    exact herr f hrun

section Handle

variable {sub : Except Fault String} {r r' : Request}

theorem handle_of_not_mounted (h : mounted s r = false) :
    handle p s env db sub (.bound r) = (⟨404, .detail "Not Found"⟩, db) := by
  simp [handle, h]

theorem handle_of_invalid (h : mounted s r = true) (hv : r.validate? p = none) :
    handle p s env db sub (.bound r) = (reject (route p s env r) (currentUser db sub), db) := by
  simp [handle, h, hv]

theorem handle_of_unprocessable (h : mounted s r = true) (hv : r.validate? p = none)
    (hg : (route p s env r).guard (currentUser db sub) = .ok m) :
    handle p s env db sub (.bound r) = (⟨422, .unprocessable⟩, db) := by
  rw [handle_of_invalid h hv, reject, hg]

theorem handle_of_refused (h : mounted s r = true) (hv : r.validate? p = some r') {f : Fault}
    (hg : (route p s env r').guard (currentUser db sub) = .error f) :
    handle p s env db sub (.bound r) = (f.response, db) := by
  simp [handle, h, hv, hg]

theorem handle_of_admitted (h : mounted s r = true) (hv : r.validate? p = some r')
    (hg : (route p s env r').guard (currentUser db sub) = .ok m) :
    handle p s env db sub (.bound r) = respond m db := by
  simp [handle, h, hv, hg]

end Handle

/-- A request is turned away before the database is touched, or its transaction is run. -/
theorem handle_eq (p : Platform) (s : Settings) (env : Env) (db : Db) (sub : Except Fault String)
    (call : Call) :
    (∃ resp : Response, handle p s env db sub call = (resp, db) ∧ resp.isOk = false) ∨
      ∃ r r' m, call = .bound r ∧ r.validate? p = some r' ∧
        (route p s env r').guard (currentUser db sub) = .ok m ∧
        handle p s env db sub call = respond m db := by
  cases call with
  | unreadable => exact Or.inl ⟨_, rfl, rfl⟩
  | unrouted => exact Or.inl ⟨_, rfl, rfl⟩
  | malformed r =>
    left
    by_cases hm : mounted s r = true
    · exact ⟨_, by rw [handle, if_pos hm], isOk_reject _⟩
    · exact ⟨_, by rw [handle, if_neg hm], rfl⟩
  | bound r =>
    by_cases hm : mounted s r = true
    swap
    · exact Or.inl ⟨_, handle_of_not_mounted (Bool.eq_false_iff.2 hm), rfl⟩
    rcases hv : r.validate? p with - | r'
    · exact Or.inl ⟨_, handle_of_invalid hm hv, isOk_reject _⟩
    rcases hg : (route p s env r').guard (currentUser db sub) with f | m
    · exact Or.inl ⟨_, handle_of_refused hm hv hg, Fault.isOk_response f⟩
    · exact Or.inr ⟨r, r', m, rfl, hv, hg, handle_of_admitted hm hv hg⟩

/-- **What one request does**: it leaves the database alone, and then either it was sent to a
reading endpoint or it is not answered with success; or it is a step. -/
theorem handle_cases (p : Platform) (s : Settings) (env : Env) (db : Db) (sub : Except Fault String)
    (call : Call) :
    ((handle p s env db sub call).2 = db ∧
      ((handle p s env db sub call).1.isOk = true → ∃ r, call = .bound r ∧ r.isRead = true)) ∨
    ∃ r r', call = .bound r ∧ r.validate? p = some r' ∧
      Step p s env db (currentUser db sub) r' (handle p s env db sub call).1
        (handle p s env db sub call).2 := by
  rcases handle_eq p s env db sub call with
    ⟨resp, h, hresp⟩ | ⟨r, r', m, rfl, hv, hg, h⟩
  · rw [h]
    exact Or.inl ⟨rfl, fun hok ↦ by rw [hresp] at hok; cases hok⟩
  · rw [h]
    rcases respond_cases m db with ⟨resp, db', hrun, hresp⟩ | ⟨f, -, hresp⟩
    · rw [hresp]
      rcases hr : r.isRead with - | -
      · have hr' : r'.isRead = false := (sameKind_of_validate? hv).isRead.trans hr
        exact Or.inr ⟨r, r', rfl, hv, ensures_step hr' hg resp db' hrun⟩
      · have hr' : r'.isRead = true := (sameKind_of_validate? hv).isRead.trans hr
        exact Or.inl ⟨ensures_read hr' hg resp db' hrun, fun _ ↦ ⟨r, rfl, hr⟩⟩
    · rw [hresp]
      exact Or.inl ⟨rfl, fun hok ↦ by rw [Fault.isOk_response] at hok; cases hok⟩

/-- **A request keeps the database valid**, and takes no user, client or service away. -/
theorem valid_handle (h : db.Valid) (sub : Except Fault String) (call : Call) :
    Grows db (handle p s env db sub call).2 ∧ (handle p s env db sub call).2.Valid := by
  rcases handle_eq p s env db sub call with
    ⟨resp, hh, -⟩ | ⟨_, _, m, -, -, -, hh⟩
  · rw [hh]
    exact ⟨Grows.refl db, h⟩
  · have hdb : (respond m db).2 = (m.transact db).2 := by
      rcases m.transact_cases db with ⟨_, _, -, ht⟩ | ⟨_, -, ht⟩ <;> rw [respond, ht]
    rw [hh, hdb]
    exact Prog.valid_transact m h

end Requests

end ZanovixCrm
