import ZanovixCrm.Guarantees.Scoping

/-!
# The client portal

The endpoints under `/api/me` serve the account of one client. Every query that they make is for
rows of that client: what they read is the same in any two databases that agree on it (`AgreeOn`),
down to the answer for an id of another client, which is the one for an id that does not exist. And
what they write are tickets and messages of that client, and entries in its log (`WritesOf`).

The filter is an argument of each query apart, so there is one lemma for each: the page, the total,
the lookup by id.
-/

namespace ZanovixCrm

/-- **The client has the same rows in both databases**, down to the milestones of its services. -/
structure AgreeOn (c : UUID) (db db' : Db) : Prop where
  client : ∀ x : Client, x.id = c → (x ∈ db.clients ↔ x ∈ db'.clients)
  contacts : ∀ x : Contact, x.clientId = c → (x ∈ db.contacts ↔ x ∈ db'.contacts)
  services : ∀ x : Service, x.clientId = c → (x ∈ db.services ↔ x ∈ db'.services)
  milestones : ∀ s ∈ db.services, s.clientId = c → ∀ x : Milestone, x.serviceId = s.id →
    (x ∈ db.milestones ↔ x ∈ db'.milestones)
  tickets : ∀ x : Ticket, x.clientId = c → (x ∈ db.tickets ↔ x ∈ db'.tickets)
  messages : ∀ x : Message, x.clientId = c → (x ∈ db.messages ↔ x ∈ db'.messages)
  activityLog : ∀ x : ActivityLog, x.clientId = c → (x ∈ db.activityLog ↔ x ∈ db'.activityLog)

/-- The rows of others are as they were, and no row has gone. -/
structure KeepsOthers {ρ : Type} [Keyed ρ UUID] (owner : ρ → UUID) (c : UUID) (t t' : Table ρ) :
    Prop where
  others : ∀ x, owner x ≠ c → (x ∈ t' ↔ x ∈ t)
  kept : ∀ k, t.has k = true → t'.has k = true

/-- **All that has been written are tickets, messages and entries in the log, of this client.** -/
structure WritesOf (c : UUID) (db db' : Db) : Prop where
  users : db'.users = db.users
  leads : db'.leads = db.leads
  clients : db'.clients = db.clients
  contacts : db'.contacts = db.contacts
  services : db'.services = db.services
  milestones : db'.milestones = db.milestones
  billingProfiles : db'.billingProfiles = db.billingProfiles
  tickets : KeepsOthers Ticket.clientId c db.tickets db'.tickets
  messages : KeepsOthers Message.clientId c db.messages db'.messages
  activityLog : KeepsOthers ActivityLog.clientId c db.activityLog db'.activityLog

/-- The endpoint that a call is for. -/
def Call.endpoint? : Call → Option Request
  | .bound r | .malformed r => some r
  | .unreadable | .unrouted => none

/-! ### Reading -/

section Reading

variable {p : Platform} {s : Settings} {env : Env} {c : UUID} {db db' : Db}

theorem agrees_getMyClient (h : AgreeOn c db db') : (getMyClient c).Agrees db db' :=
  .query_bind (Table.find?_congr h.client) (.bind Prog.agrees_demand fun _ _ _ ↦ rfl)

theorem agrees_listForClient (h : AgreeOn c db db') (limit offset : ℤ)
    (state type : Option String) :
    (ServiceService.listForClient (some c) limit offset state type).Agrees db db' := by
  have hown : ∀ x, ServiceService.selectsForClient (some c) state type x = true →
    x.clientId = c := by
    intro x hx
    simp only [ServiceService.selectsForClient, Bool.and_eq_true] at hx
    exact (of_decide_eq_true hx.1.1).symm
  have hrows : ∀ x, ServiceService.selectsForClient (some c) state type x = true →
      (x ∈ db.services ↔ x ∈ db'.services) := fun x hx ↦ h.services x (hown x hx)
  refine .require_bind fun _ ↦ .require_bind fun _ ↦ agrees_page hrows fun rows hmem ↦
    .query_bind (milestones_congr fun x hx ↦ ?_) (agrees_total hrows)
  exact h.milestones x (hmem x hx).1 (hown x (hmem x hx).2)

/-- A service of the client, if it is one. -/
theorem find_service_congr (h : AgreeOn c db db') (serviceId : UUID) :
    ((db.services.find? serviceId).filter fun x ↦ (some c).all (· = x.clientId)) =
      (db'.services.find? serviceId).filter fun x ↦ (some c).all (· = x.clientId) :=
  Table.filter_find?_congr fun x hx ↦ h.services x (of_decide_eq_true hx).symm

theorem agrees_getForClient (h : AgreeOn c db db') (serviceId : UUID) :
    (ServiceService.getForClient serviceId (some c)).Agrees db db' := by
  refine .query_bind (find_service_congr h serviceId) (.demand_bind fun x hx ↦ Prog.agrees_query ?_)
  obtain ⟨hfind, hown⟩ := Option.filter_eq_some_iff.1 hx
  have hmilestones : ServiceService.milestonesOf db x.id = ServiceService.milestonesOf db' x.id :=
    selectAsc_congr fun m hm ↦ h.milestones x (Table.mem_of_find? hfind)
      (of_decide_eq_true hown).symm m (of_decide_eq_true hm)
  rw [hmilestones]

theorem agrees_getDiagnostic (h : AgreeOn c db db') (serviceId : UUID) :
    (DiagnosticService.getDiagnostic p serviceId (some c)).Agrees db db' :=
  .query_bind (find_service_congr h serviceId) (.bind Prog.agrees_demand fun _ _ _ ↦ rfl)

theorem agrees_listContacts (h : AgreeOn c db db') :
    (ContactService.listContacts p c).Agrees db db' :=
  Prog.agrees_query (selectAsc_congr fun x hx ↦ h.contacts x (of_decide_eq_true hx))

theorem agrees_listActivity (h : AgreeOn c db db') (limit offset : ℤ) :
    (ActivityLogService.listActivity limit offset (some c)).Agrees db db' := by
  have hrows : ∀ x, ActivityLogService.selects (some c) x = true →
      (x ∈ db.activityLog ↔ x ∈ db'.activityLog) := fun x hx ↦
    h.activityLog x (of_decide_eq_true hx).symm
  exact .query_bind (countP_congr_of_mem_iff hrows) (agrees_page hrows fun _ _ ↦ Prog.agrees_ret _)

theorem agrees_listMessages (h : AgreeOn c db db') (limit offset : ℤ) (since : Option Time) :
    (MessageService.listMessages c limit offset since).Agrees db db' := by
  have hrows : ∀ x, MessageService.selects c since x = true →
    (x ∈ db.messages ↔ x ∈ db'.messages) := by
    intro x hx
    simp only [MessageService.selects, Bool.and_eq_true, decide_eq_true_eq] at hx
    exact h.messages x hx.1
  exact agrees_pageOf (selectAsc_congr hrows) fun _ _ ↦ agrees_total hrows

theorem agrees_listTickets (h : AgreeOn c db db') (limit offset : ℤ)
    (status priority : Option String) :
    (TicketService.listTickets (some c) limit offset status priority).Agrees db db' := by
  have hrows : ∀ x, TicketService.selects (some c) status priority x = true →
      (x ∈ db.tickets ↔ x ∈ db'.tickets) := by
    intro x hx
    simp only [TicketService.selects, Bool.and_eq_true] at hx
    exact h.tickets x (of_decide_eq_true hx.1.1).symm
  exact .require_bind fun _ ↦ .require_bind fun _ ↦ agrees_page hrows fun _ _ ↦ agrees_total hrows

/-- **The reading endpoints of the portal** do the same on both databases. -/
theorem agrees_route (h : AgreeOn c db db') {user : Except Fault User}
    (huser : ∀ u, user = .ok u → u.clientId = some c) {r : Request} (hportal : r.isPortal = true)
    (hread : r.isRead = true) {m : Tx Response} (hm : (route p s env r).guard user = .ok m) :
    m.Agrees db db' := by
  have hscope : ∀ {f : User → UUID → Tx Response}, (Handler.scopeToClient f).guard user = .ok m →
      ∃ u, m = f u c := by
    intro f hf
    obtain ⟨u, c', hu, -, hc, rfl⟩ := Handler.guard_scopeToClient.1 hf
    obtain rfl := Option.some.inj (hc.symm.trans (huser u hu))
    exact ⟨u, rfl⟩
  cases r with
  | getMyClient =>
    obtain ⟨u, rfl⟩ := hscope hm
    exact agrees_getMyClient h
  | listMyServices limit offset state type =>
    obtain ⟨u, rfl⟩ := hscope hm
    exact .bind (agrees_listForClient h limit offset state type) fun _ _ _ ↦ rfl
  | getMyService serviceId =>
    obtain ⟨u, rfl⟩ := hscope hm
    exact .bind (agrees_getForClient h serviceId) fun _ _ _ ↦ rfl
  | getMyServiceDiagnostic serviceId =>
    obtain ⟨u, rfl⟩ := hscope hm
    exact .bind (agrees_getDiagnostic h serviceId) fun _ _ _ ↦
      .bind Prog.agrees_demand fun _ _ _ ↦ rfl
  | listMyContacts =>
    obtain ⟨u, rfl⟩ := hscope hm
    exact .bind (agrees_listContacts h) fun _ _ _ ↦ rfl
  | listMyActivity limit offset =>
    obtain ⟨u, rfl⟩ := hscope hm
    exact .bind (agrees_listActivity h limit offset) fun _ _ _ ↦ rfl
  | listMyMessages limit offset since =>
    obtain ⟨u, rfl⟩ := hscope hm
    exact .bind (agrees_listMessages h limit offset since) fun _ _ _ ↦ rfl
  | listMyTickets limit offset status priority =>
    obtain ⟨u, rfl⟩ := hscope hm
    exact .bind (agrees_listTickets h limit offset status priority) fun _ _ _ ↦ rfl
  | sendMyMessage | createMyTicket | updateMyTicket => exact nomatch hread
  | _ => exact nomatch hportal

end Reading

/-! ### Writing -/

section Writing

variable {ρ : Type} [Keyed ρ UUID] {owner : ρ → UUID} {c : UUID} {t : Table ρ}

theorem KeepsOthers.refl : KeepsOthers owner c t t := ⟨fun _ _ ↦ Iff.rfl, fun _ ↦ id⟩

/-- A new row of the client. -/
theorem KeepsOthers.insert {r : ρ} (hnew : t.has (key r) = false) (hr : owner r = c) :
    KeepsOthers owner c t (t.insert r) where
  others x hx := by
    rw [Table.mem_insert hnew]
    exact or_iff_left fun heq ↦ hx (heq ▸ hr)
  kept k hk := by
    obtain ⟨x, hx, hkey⟩ := Table.has_iff.1 hk
    exact Table.has_iff.2 ⟨x, Table.mem_insert_of_mem hx, hkey⟩

/-- A row of the client is changed, and stays theirs. -/
theorem KeepsOthers.alter {k : UUID} {r : ρ} {a : Assign ρ} (hr : t.find? k = some r)
    (hown : owner r = c) (ha : owner (a.fn r) = c) : KeepsOthers owner c t (t.alter k a) where
  others x hx := by
    rw [Table.mem_alter_iff hr]
    constructor
    · rintro (rfl | ⟨hmem, -⟩)
      · exact absurd ha hx
      · exact hmem
    · refine fun hmem ↦ Or.inr ⟨hmem, fun hk ↦ hx ?_⟩
      have hsame : x = r := Option.some.inj ((hk ▸ Table.find?_of_mem hmem).symm.trans hr)
      rw [hsame, hown]
  kept k' hk := by rwa [Table.has_alter]

variable {p : Platform} {s : Settings} {env : Env} {db db' : Db} {user : Except Fault User}
  {r : Request} {resp : Response}

theorem WritesOf.refl (c : UUID) (db : Db) : WritesOf c db db :=
  ⟨rfl, rfl, rfl, rfl, rfl, rfl, rfl, .refl, .refl, .refl⟩

/-- A request to the portal. -/
theorem Step.writesOf (h : Step p s env db user r resp db') (hportal : r.isPortal = true)
    (huser : ∀ u, user = .ok u → u.clientId = some c) : WritesOf c db db' := by
  cases h with
  | @sendMyMessage u clientId body m a hrole hclient hrow hnew ha =>
    obtain rfl : clientId = c := Option.some.inj (hclient.symm.trans (huser u rfl))
    exact ⟨rfl, rfl, rfl, rfl, rfl, rfl, rfl, .refl, .insert hnew (MessageService.row_spec hrow).2,
      .insert ha.fresh ha.clientId_eq⟩
  | @createMyTicket u clientId body t a hrole hclient hrow hnew ha =>
    obtain rfl : clientId = c := Option.some.inj (hclient.symm.trans (huser u rfl))
    exact ⟨rfl, rfl, rfl, rfl, rfl, rfl, rfl, .insert hnew (TicketService.row_spec hrow).2.1, .refl,
      .insert ha.fresh ha.clientId_eq⟩
  | @updateMyTicket u clientId ticketId body t t' a text hrole hclient howner ht ha =>
    obtain rfl : clientId = c := Option.some.inj (hclient.symm.trans (huser u rfl))
    have howner' : t'.clientId = clientId := by
      rw [TicketService.eq_patchMerge ht]
      exact howner
    refine ⟨rfl, rfl, rfl, rfl, rfl, rfl, rfl, .alter ht.found howner ?_, .refl,
      .insert ha.fresh (ha.clientId_eq.trans howner)⟩
    rw [← ht.new_eq]
    exact howner'
  | _ => exact nomatch hportal

end Writing

/-! ### Requests -/

section Requests

variable {p : Platform} {s : Settings} {env : Env} {db db' : Db} {sub : Except Fault String}

/-- **Two answers**: the same, if the sender is the same and the transaction that runs does the same
on both databases. -/
theorem handle_congr (hsub : currentUser db sub = currentUser db' sub) {call : Call}
    (h : ∀ r r' m, call = .bound r → r.validate? p = some r' →
      (route p s env r').guard (currentUser db sub) = .ok m → m.Agrees db db') :
    (handle p s env db sub call).1 = (handle p s env db' sub call).1 := by
  cases call with
  | unreadable => rfl
  | unrouted => rfl
  | malformed r =>
    rw [handle, handle, hsub]
    split <;> rfl
  | bound r =>
    by_cases hm : mounted s r = true
    swap
    · rw [handle_of_not_mounted (Bool.eq_false_iff.2 hm),
        handle_of_not_mounted (Bool.eq_false_iff.2 hm)]
    rcases hv : r.validate? p with - | r'
    · rw [handle_of_invalid hm hv, handle_of_invalid hm hv, hsub]
    rcases hg : (route p s env r').guard (currentUser db sub) with f | m
    · rw [handle_of_refused hm hv hg, handle_of_refused hm hv (hsub ▸ hg)]
    · have hagrees : (m.transact db).1 = (m.transact db').1 := h r r' m rfl hv hg
      rw [handle_of_admitted hm hv hg, handle_of_admitted hm hv (hsub ▸ hg), respond, respond]
      rcases hx : m.transact db with ⟨x, t⟩
      rcases hx' : m.transact db' with ⟨x', t'⟩
      rw [hx, hx'] at hagrees
      obtain rfl : x = x' := hagrees
      cases x <;> rfl

/-- The guard of the portal refuses the sender whatever the endpoint, or lets them in with their
client. -/
theorem guard_scopeToClient_cases (user : Except Fault User) :
    (∃ f, ∀ m, (Handler.scopeToClient m).guard user = .error f) ∨
      ∃ u c, user = .ok u ∧ u.clientId = some c ∧
        ∀ m, (Handler.scopeToClient m).guard user = .ok (m u c) := by
  rcases user with f | u
  · exact Or.inl ⟨f, fun _ ↦ rfl⟩
  · by_cases hrole : u.role = .clientUser
    · rcases hc : u.clientId with - | c
      · exact Or.inl ⟨_, fun _ ↦ by
        simp only [Handler.guard, Except.bind, hrole, hc, if_true]
        rfl⟩
      · exact Or.inr ⟨u, c, rfl, hc, fun _ ↦
          Handler.guard_scopeToClient.2 ⟨u, c, rfl, hrole, hc, rfl⟩⟩
    · exact Or.inl ⟨_, fun _ ↦ by
        simp only [Handler.guard, Except.bind, hrole, if_false]
        rfl⟩

/-- Two requests to the portal that have one answer once they are let in. -/
theorem scoped_congr {r r' : Request} {f f' : User → UUID → Tx Response}
    (hr : route p s env r = .scopeToClient f) (hr' : route p s env r' = .scopeToClient f')
    (hmounted : mounted s r = mounted s r') (hv : r.validate? p = some r)
    (hv' : r'.validate? p = some r')
    (h : ∀ u c, currentUser db sub = .ok u → u.clientId = some c →
      (respond (f u c) db).1 = (respond (f' u c) db).1) :
    (handle p s env db sub (.bound r)).1 = (handle p s env db sub (.bound r')).1 := by
  by_cases hm : mounted s r = true
  · rcases guard_scopeToClient_cases (currentUser db sub) with ⟨e, he⟩ | ⟨u, c, hu, hc, hok⟩
    · rw [handle_of_refused hm hv (hr ▸ he f), handle_of_refused (hmounted ▸ hm) hv' (hr' ▸ he f')]
    · rw [handle_of_admitted hm hv (hr ▸ hok f),
        handle_of_admitted (hmounted ▸ hm) hv' (hr' ▸ hok f')]
      exact h u c hu hc
  · rw [handle_of_not_mounted (Bool.eq_false_iff.2 hm),
      handle_of_not_mounted (Bool.eq_false_iff.2 (hmounted ▸ hm))]

/-- An id that is not one of the client's services. -/
theorem find_service_eq_none {c k : UUID} (h : ∀ x ∈ db.services, x.clientId = c → x.id ≠ k) :
    ((db.services.find? k).filter fun x ↦ (some c).all (· = x.clientId)) = none := by
  refine Option.eq_none_iff_forall_ne_some.2 fun x hx ↦ ?_
  obtain ⟨hfind, hown⟩ := Option.filter_eq_some_iff.1 hx
  exact h x (Table.mem_of_find? hfind) (of_decide_eq_true hown).symm (Table.key_of_find? hfind)

theorem run_getForClient_of_missing {c k : UUID}
    (h : ∀ x ∈ db.services, x.clientId = c → x.id ≠ k) :
    (ServiceService.getForClient k (some c)).run db = .error (.serviceNotFound k) := by
  rw [ServiceService.getForClient, Prog.run_bind_ok (Prog.run_query _ db), find_service_eq_none h]
  rfl

theorem run_getDiagnostic_of_missing {c k : UUID}
    (h : ∀ x ∈ db.services, x.clientId = c → x.id ≠ k) :
    (DiagnosticService.getDiagnostic p k (some c)).run db = .error (.serviceNotFound k) := by
  rw [DiagnosticService.getDiagnostic, Prog.run_bind_ok (Prog.run_query _ db),
    find_service_eq_none h]
  rfl

/-- What an endpoint answers if the service is not found. -/
theorem respond_of_missing {α : Type} {m : Tx α} {k : UUID}
    (h : m.run db = .error (.serviceNotFound k))
    (f : α → Tx Response) : (respond (m >>= f) db).1 = ⟨404, .detail "Service not found"⟩ := by
  rw [respond, Prog.transact_of_error (Prog.run_bind_error h f)]
  rfl

end Requests

/-- **The portal is confined to the client of the account.** Its reading endpoints give the same
answer on all databases that agree on the client, also where they refuse; an id that is not one of
the client's services is answered like any other such id; and its writing endpoints write tickets,
messages and entries of the client alone. -/
theorem portal_confined {p : Platform} {s : Settings} {env : Env} {u : User} {c : UUID}
    (hclient : u.clientId = some c) :
    (∀ db db' call, db.Valid → db'.Valid → u ∈ db.users → u ∈ db'.users → AgreeOn c db db' →
      (∀ r ∈ call.endpoint?, r.isPortal = true ∧ r.isRead = true) →
      (handle p s env db (.ok u.email.val) call).1 =
        (handle p s env db' (.ok u.email.val) call).1) ∧
    (∀ db k k', db.Valid → u ∈ db.users →
      (∀ x ∈ db.services, x.clientId = c → x.id ≠ k ∧ x.id ≠ k') →
      (handle p s env db (.ok u.email.val) (.bound (.getMyService k))).1 =
        (handle p s env db (.ok u.email.val) (.bound (.getMyService k'))).1 ∧
      (handle p s env db (.ok u.email.val) (.bound (.getMyServiceDiagnostic k))).1 =
        (handle p s env db (.ok u.email.val) (.bound (.getMyServiceDiagnostic k'))).1) ∧
    ∀ db call, db.Valid → u ∈ db.users → (∀ r ∈ call.endpoint?, r.isPortal = true) →
      WritesOf c db (handle p s env db (.ok u.email.val) call).2 := by
  have huser : ∀ {db : Db}, db.Valid → u ∈ db.users →
      ∀ u', currentUser db (.ok u.email.val) = .ok u' → u' = u := by
    intro db hvalid hu u' hu'
    rw [currentUser_eq_of_mem hvalid hu] at hu'
    split at hu'
    · exact (Except.ok.inj hu').symm
    · exact nomatch hu'
  refine ⟨fun db db' call hvalid hvalid' hu hu' hagree hcall ↦ ?_,
    fun db k k' hvalid hu hforeign ↦ ?_, fun db call hvalid hu hcall ↦ ?_⟩
  · refine handle_congr ?_ fun r r' m hr hv hg ↦ ?_
    · rw [currentUser_eq_of_mem hvalid hu, currentUser_eq_of_mem hvalid' hu']
    · obtain ⟨hportal, hread⟩ := hcall r (by rw [hr]; rfl)
      refine agrees_route hagree (fun u' hu' ↦ ?_)
        ((sameKind_of_validate? hv).isPortal.trans hportal)
        ((sameKind_of_validate? hv).isRead.trans hread) hg
      rw [huser hvalid hu u' hu']
      exact hclient
  · have hscope : ∀ u' c', currentUser db (.ok u.email.val) = .ok u' → u'.clientId = some c' →
        c' = c := by
      intro u' c' hu' hc'
      obtain rfl := huser hvalid hu u' hu'
      exact Option.some.inj (hc'.symm.trans hclient)
    constructor
    · refine scoped_congr rfl rfl rfl rfl rfl fun u' c' hu' hc' ↦ ?_
      obtain rfl := hscope u' c' hu' hc'
      rw [respond_of_missing (run_getForClient_of_missing fun x hx hc ↦ (hforeign x hx hc).1),
        respond_of_missing (run_getForClient_of_missing fun x hx hc ↦ (hforeign x hx hc).2)]
    · refine scoped_congr rfl rfl rfl rfl rfl fun u' c' hu' hc' ↦ ?_
      obtain rfl := hscope u' c' hu' hc'
      rw [respond_of_missing (run_getDiagnostic_of_missing fun x hx hc ↦ (hforeign x hx hc).1),
        respond_of_missing (run_getDiagnostic_of_missing fun x hx hc ↦ (hforeign x hx hc).2)]
  · rcases handle_cases p s env db (.ok u.email.val) call with ⟨hsame, -⟩ | ⟨r, r', rfl, hv, hstep⟩
    · rw [hsame]
      exact .refl c db
    · refine hstep.writesOf ((sameKind_of_validate? hv).isPortal.trans (hcall r rfl))
        fun u' hu' ↦ ?_
      rw [huser hvalid hu u' hu']
      exact hclient

/-- The rows of a client, and all milestones. -/
structure ClientRows where
  clients : List Client
  contacts : List Contact
  services : List Service
  milestones : List Milestone
  tickets : List Ticket
  messages : List Message
  activityLog : List ActivityLog
deriving DecidableEq

def Db.rowsOf (db : Db) (c : UUID) : ClientRows where
  clients := db.clients.rows.filter (·.id = c)
  contacts := db.contacts.rows.filter (·.clientId = c)
  services := db.services.rows.filter (·.clientId = c)
  milestones := db.milestones.rows
  tickets := db.tickets.rows.filter (·.clientId = c)
  messages := db.messages.rows.filter (·.clientId = c)
  activityLog := db.activityLog.rows.filter (·.clientId = c)

theorem mem_iff_mem_of_filter_eq {ρ : Type} [Keyed ρ UUID] {t t' : Table ρ} {p : ρ → Bool}
    (h : t.rows.filter p = t'.rows.filter p) (x : ρ) (hx : p x = true) : x ∈ t ↔ x ∈ t' := by
  have hmem : x ∈ t.rows.filter p ↔ x ∈ t'.rows.filter p := by rw [h]
  rw [List.mem_filter, List.mem_filter, and_iff_left hx, and_iff_left hx] at hmem
  exact hmem

theorem AgreeOn.of_rowsOf {c : UUID} {db db' : Db} (h : db.rowsOf c = db'.rowsOf c) :
    AgreeOn c db db' := by
  simp only [Db.rowsOf, ClientRows.mk.injEq] at h
  obtain ⟨hclients, hcontacts, hservices, hmilestones, htickets, hmessages, hlog⟩ := h
  exact {
    client := fun x hx ↦ mem_iff_mem_of_filter_eq hclients x (decide_eq_true hx)
    contacts := fun x hx ↦ mem_iff_mem_of_filter_eq hcontacts x (decide_eq_true hx)
    services := fun x hx ↦ mem_iff_mem_of_filter_eq hservices x (decide_eq_true hx)
    milestones := fun _ _ _ x _ ↦ by
      show x ∈ db.milestones.rows ↔ x ∈ db'.milestones.rows
      rw [hmilestones]
    tickets := fun x hx ↦ mem_iff_mem_of_filter_eq htickets x (decide_eq_true hx)
    messages := fun x hx ↦ mem_iff_mem_of_filter_eq hmessages x (decide_eq_true hx)
    activityLog := fun x hx ↦ mem_iff_mem_of_filter_eq hlog x (decide_eq_true hx) }

/-- The account of the second of two clients. -/
def tenant : User := .sample 2 (.lit "client@example.com") .clientUser (some 30)

/-- Two clients with a service each, or the second of them alone. -/
def neighbourhood (first : Bool) : List Act :=
  let send (first : ℕ) (r : Request) : Act :=
    .request (.sample first) (.ok "root@example.com") (.bound r)
  [.account (.insert (.sample 1 (.lit "root@example.com") .admin none))] ++
    (if first then
      [send 20 (.createClient ⟨"Acme", none, none, none, none, none, "lead"⟩),
        send 40 (.createService 20 ⟨20, none, "assessment", "Audit", none, none⟩)]
    else []) ++
    [send 30 (.createClient ⟨"Globex", none, none, none, none, none, "lead"⟩),
      send 50 (.createService 30 ⟨30, none, "assessment", "Audit", none, none⟩),
      send 55 (.createMilestone 50 ⟨1, "Kick-off", none⟩), .account (.insert tenant)]

/-- The database with both clients, or with the second alone. -/
def neighbourhoodDb (first : Bool) : Db := (run .sample .sample (neighbourhood first)).db

/-- The databases with and without the first client agree on the second. -/
theorem agreeOn_neighbourhood : AgreeOn 30 (neighbourhoodDb true) (neighbourhoodDb false) :=
  .of_rowsOf (by decide +kernel)

theorem mem_neighbourhood : ∀ first, tenant ∈ (neighbourhoodDb first).users := by decide +kernel

theorem portal_confined_neighbours :
    (handle .sample .sample (.sample 60) (neighbourhoodDb true) (.ok "client@example.com")
        (.bound (.getMyService 40))).1 =
      (handle .sample .sample (.sample 60) (neighbourhoodDb false) (.ok "client@example.com")
        (.bound (.getMyService 40))).1 :=
  (portal_confined (u := tenant) (c := 30) rfl).1 (neighbourhoodDb true) (neighbourhoodDb false)
    (.bound (.getMyService 40)) (valid_run _) (valid_run _) (mem_neighbourhood _)
    (mem_neighbourhood _) agreeOn_neighbourhood (fun _ h ↦ Option.some.inj h ▸ ⟨rfl, rfl⟩)

end ZanovixCrm
