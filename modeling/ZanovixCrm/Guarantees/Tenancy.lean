import ZanovixCrm.Guarantees.Scoping
import ZanovixCrm.Guarantees.WriteAuthority

/-!
# Tenancy of tickets

A client opens a ticket about a service by naming its id. The client of the ticket comes from the
session and the service from the body, and nothing compares the two: the foreign key asks only for a
service that exists. So a ticket can be about a service of another client, and the answer tells
whether there is such a service.

Where no request names a service of another client, every ticket is about a service of its own
client (`ticketsAtHome_run`). The answer gives the service away in every case in which the ticket
could be stored (`createMyTicket_same_iff`).
-/

namespace ZanovixCrm

/-- **Every ticket is about a service of its client**, if it is about one. -/
def TicketsAtHome (db : Db) : Prop :=
  ∀ t ∈ db.tickets, ∀ k, t.serviceId = some k →
    ∃ sv, db.services.find? k = some sv ∧ sv.clientId = t.clientId

/-- No ticket is about a service of another client. -/
def ServicesOwn (db : Db) : Prop :=
  ∀ t ∈ db.tickets, ∀ k, t.serviceId = some k → ∀ sv, db.services.find? k = some sv →
    sv.clientId = t.clientId

/-- If a client opens a ticket about an existing service, the service is their own. -/
def Event.namesOwnService (e : Event) : Bool :=
  match e.act with
  | .request _ sub (.bound (.createMyTicket body)) =>
    match currentUser e.before sub with
    | .ok u => body.serviceId.all fun k ↦
        (e.before.services.find? k).all fun sv ↦ decide (u.clientId = some sv.clientId)
    | .error _ => true
  | _ => true

section Runs

variable {p : Platform} {s : Settings} {env : Env} {db db' : Db} {user : Except Fault User}
  {r : Request} {resp : Response}

/-- The schema check of a ticket leaves its body as it is. -/
theorem eq_of_validate_createMyTicket {body : TicketCreate}
    (h : r.validate? p = some (.createMyTicket body)) : r = .createMyTicket body := by
  cases r with
  | createMyTicket b =>
    obtain ⟨b', hb, hb'⟩ := Option.map_eq_some_iff.1 h
    obtain ⟨-, rfl⟩ := accept_eq_some_iff.1 hb
    exact hb'
  | _ => simp [Request.validate?, accept_eq_some_iff] at h

/-- A service is still there after a step, with the same client. -/
theorem Step.find_service (h : Step p s env db user r resp db') (hg : Grows db db') {k : UUID}
    {sv : Service} (hsv : db.services.find? k = some sv) :
    ∃ sv', db'.services.find? k = some sv' ∧ sv'.clientId = sv.clientId := by
  have hhas : db'.services.has k = true := hg.services k (by rw [Table.has, hsv]; rfl)
  obtain ⟨sv', hsv'⟩ := Option.isSome_iff_exists.1 hhas
  have hkey : key sv' = key sv := (Table.key_of_find? hsv').trans (Table.key_of_find? hsv).symm
  exact ⟨sv', hsv', (h.services.rel (Table.mem_of_find? hsv) (Table.mem_of_find? hsv') hkey).1⟩

/-- In a valid database, the service of a ticket exists. -/
theorem exists_service (hvalid : db.Valid) {t : Ticket} (ht : t ∈ db.tickets) {k : UUID}
    (hk : t.serviceId = some k) : ∃ sv, db.services.find? k = some sv := by
  have hrefers : Relation.refers db t = true := hvalid.tickets.refers t ht
  simp only [Relation.refers, Bool.and_eq_true, hk] at hrefers
  exact Option.isSome_iff_exists.1 hrefers.1.1.2

/-- One request: a new ticket has to be about a service of the sender. -/
theorem Step.servicesOwn (h : Step p s env db user r resp db') (hg : Grows db db')
    (hvalid : db.Valid) (hown : ServicesOwn db)
    (hnames : ∀ u body, user = .ok u → r = .createMyTicket body → ∀ k, body.serviceId = some k →
      ∀ sv, db.services.find? k = some sv → u.clientId = some sv.clientId) :
    ServicesOwn db' := by
  intro t' ht' k hk sv' hsv'
  rcases h.tickets t' ht' with
    ⟨t, ht, -, ⟨hclient, hservice⟩, -⟩ | ⟨-, u, body, rfl, rfl, hclient, hservice⟩
  · have hk' : t.serviceId = some k := hservice ▸ hk
    obtain ⟨sv, hsv⟩ := exists_service hvalid ht hk'
    obtain ⟨sv₁, hsv₁, hsame⟩ := h.find_service hg hsv
    obtain rfl := Option.some.inj (hsv'.symm.trans hsv₁)
    rw [hsame, hclient, hown t ht k hk' sv hsv]
  · have hservices : db'.services = db.services := by
      cases h
      rfl
    have hclient' := hnames u body rfl rfl k (hservice ▸ hk) sv' (hservices ▸ hsv')
    rw [hclient] at hclient'
    exact (Option.some.inj hclient').symm

theorem servicesOwn_run (acts : List Act)
    (h : ∀ e ∈ (run p s acts).events, e.namesOwnService = true) :
    ServicesOwn (run p s acts).db := by
  refine run_induction (I := fun r ↦ (∀ e ∈ r.events, e.namesOwnService = true) → ServicesOwn r.db)
    (fun _ t ht ↦ absurd ht Table.not_mem_empty)
    (fun r a answer db' hvalid hg hI hhappens hnames ↦ ?_)
    acts h
  have hown : ServicesOwn r.db := hI fun e he ↦ hnames e (List.mem_append_left _ he)
  have hlast : Event.namesOwnService ⟨r.db, a, answer, db'⟩ = true :=
    hnames _ (List.mem_append_right _ (List.mem_singleton_self _))
  cases hhappens with
  | idle h => exact hown
  | @step env sub r₀ r' resp db' hv h =>
    refine h.servicesOwn hg hvalid hown fun u body hu hr k hk sv hsv ↦ ?_
    -- The schema check does not touch the body of a ticket.
    obtain rfl : r₀ = .createMyTicket body := eq_of_validate_createMyTicket (hr ▸ hv)
    have hall : body.serviceId.all (fun k ↦ (r.db.services.find? k).all fun sv ↦
        decide (u.clientId = some sv.clientId)) = true := by
      simp only [Event.namesOwnService, hu] at hlast
      exact hlast
    rw [hk, Option.all_some, hsv, Option.all_some] at hall
    exact of_decide_eq_true hall
  | account h =>
    obtain ⟨t, rfl⟩ := TableOp.exists_setTable h
    exact hown
  | refused => exact hown

/-- **Where every request names services of its own client, every ticket does.** -/
theorem ticketsAtHome_run (acts : List Act)
    (h : ∀ e ∈ (run p s acts).events, e.namesOwnService = true) :
    TicketsAtHome (run p s acts).db := by
  intro t ht k hk
  obtain ⟨sv, hsv⟩ := exists_service (valid_run acts) ht hk
  exact ⟨sv, hsv, servicesOwn_run acts h t ht k hk sv hsv⟩

end Runs

/-! ### What the answer discloses -/

section Disclosure

variable {p : Platform} {s : Settings} {env : Env} {db db' : Db} {sub : Except Fault String}
  {u : User} {c : UUID} {body : TicketCreate}

/-- **The ticket can be stored**, whatever its service: its texts are accepted by the database, and
so is the text of the entry in the log, and the identifiers are new. -/
structure Storable (env : Env) (db : Db) (body : TicketCreate) (clientId actor : UUID) : Prop where
  row : ∃ t, TicketService.row env body clientId actor = .ok t
  entry : ∃ a, ActivityLogService.row env (env.uuid 1) clientId .ticketOpened
    ("Ticket '" ++ body.title ++ "' opened (priority=" ++ TextEnum.text body.priority ++ ")")
      actor =
      .ok a
  fresh : db.tickets.has (env.uuid 0) = false
  fresh_entry : db.activityLog.has (env.uuid 1) = false

/-- A ticket that is refused is refused by the database. -/
theorem refuses_createTicket :
    (TicketService.createTicket env body c u.id).Refuses db fun f ↦ f.response = ⟨500, .internal⟩ :=
  .bind (Session.refuses_add fun _ ↦ rfl) fun _ _ ↦
    .bind (Session.refuses_add fun _ ↦ rfl) fun _ _ ↦
    Session.refuses_refresh rfl

/-- A ticket that is stored can be stored, and its service exists. -/
theorem ensures_storable : (TicketService.createTicket env body c u.id).Ensures db fun _ _ ↦
    Storable env db body c u.id ∧ ∀ k, body.serviceId = some k → db.services.has k = true := by
  simp only [TicketService.createTicket, Prog.ensures_bind, Session.ensures_add,
    ActivityLogService.appendActivity]
  intro t hrow hfresh hcheck a hentry hfresh' _
  obtain ⟨hid, -, hservice, -⟩ := TicketService.row_spec hrow
  obtain ⟨hid', -⟩ := ActivityLogService.row_spec hentry
  have hnew : db.tickets.has t.id = false := hfresh
  have hnew' : db.activityLog.has a.id = false := hfresh'
  refine fun _ _ _ ↦ ⟨⟨⟨t, hrow⟩, ⟨a, hentry⟩, hid ▸ hnew, hid' ▸ hnew'⟩, fun k hk ↦ ?_⟩
  have hrefers : Relation.refers db t = true := (checkRow_eq_ok_iff.1 hcheck).2
  simp only [Relation.refers, Bool.and_eq_true, hservice, hk] at hrefers
  exact hrefers.1.1.2

/-- A ticket that can be stored is stored, if its client, its sender and its service exist. -/
theorem run_createTicket (hclient : db.clients.has c = true) (huser : db.users.has u.id = true)
    (hservice : ∀ k, body.serviceId = some k → db.services.has k = true)
    (h : Storable env db body c u.id) :
    ∃ t db', (TicketService.createTicket env body c u.id).run db = .ok (t, db') := by
  obtain ⟨⟨t, hrow⟩, ⟨a, hentry⟩, hfresh, hfresh'⟩ := h
  obtain ⟨hid, htclient, htservice, hactor, hassigned⟩ := TicketService.row_spec hrow
  obtain ⟨hid', haclient, hactor'⟩ := ActivityLogService.row_spec hentry
  have hnew : db.tickets.has t.id = false := by rw [hid, hfresh]
  have hcheck : checkRow db t = .ok () := by
    refine checkRow_eq_ok_iff.2 ⟨fun _ _ _ ↦ not_false, ?_⟩
    have hrefers : body.serviceId.all db.services.has = true := by
      rcases hb : body.serviceId with - | k
      · rfl
      · exact hservice k hb
    simp [Relation.refers, htclient, htservice, hactor, hassigned, hclient, hrefers,
      refersTo, huser]
  have hadd := Session.run_add hnew hcheck
  have hadd' : (Session.add (.ok a)).run { db with tickets := db.tickets.insert t } =
      .ok ((), { db with
        tickets := db.tickets.insert t, activityLog := db.activityLog.insert a }) := by
    have hnew' : db.activityLog.has a.id = false := by rw [hid', hfresh']
    refine Session.run_add hnew' (checkRow_eq_ok_iff.2 ⟨fun _ _ _ ↦ not_false, ?_⟩)
    simp [Relation.refers, haclient, hactor', hclient, refersTo, huser]
  have hfound : (db.tickets.insert t).find? (env.uuid 0) = some t := by
    rw [← hid]
    exact Table.find?_insert_self hnew
  refine ⟨t, { db with
    tickets := db.tickets.insert t, activityLog := db.activityLog.insert a }, ?_⟩
  rw [TicketService.createTicket, hrow, Prog.run_bind_ok hadd,
    ActivityLogService.appendActivity, hentry]
  exact (Prog.run_bind_ok hadd' _).trans (Session.run_refresh hfound)

theorem status_of_storable (hclient : db.clients.has c = true) (huser : db.users.has u.id = true)
    (hservice : ∀ k, body.serviceId = some k → db.services.has k = true)
    (h : Storable env db body c u.id) :
    (respond (do
        return ⟨201, .ticket (← TicketService.createTicket env body c u.id)⟩) db).1.status =
      201 := by
  obtain ⟨t, db', hrun⟩ := run_createTicket hclient huser hservice h
  rw [respond, Prog.transact_of_ok (Prog.run_bind_ok hrun _)]

theorem answer_of_not_storable (h : ¬(Storable env db body c u.id ∧
      ∀ k, body.serviceId = some k → db.services.has k = true)) :
    (respond (do return ⟨201, .ticket (← TicketService.createTicket env body c u.id)⟩) db).1 =
      ⟨500, .internal⟩ := by
  rcases hrun : (TicketService.createTicket env body c u.id).run db with f | ⟨t, db'⟩
  · have hf : f.response = ⟨500, .internal⟩ := refuses_createTicket f hrun
    rw [respond, Prog.transact_of_error (Prog.run_bind_error hrun _)]
    exact hf
  · exact absurd (ensures_storable t db' hrun) h

/-- **The answer gives away that there is a service of somebody else**: it is the same as if there
were no such service, if and only if the portal is closed, the body is refused by the schema, or the
ticket cannot be stored whatever its service. -/
theorem createMyTicket_same_iff {k : UUID} (hvalid : db.Valid) (hu : currentUser db sub = .ok u)
    (hu' : currentUser db' sub = .ok u) (hrole : u.role = .clientUser)
    (hclient : u.clientId = some c) (hk : body.serviceId = some k)
    (hforeign : ∃ sv, db.services.find? k = some sv ∧ sv.clientId ≠ c)
    (hmissing : db'.services.find? k = none) :
    (handle p s env db sub (.bound (.createMyTicket body))).1 =
        (handle p s env db' sub (.bound (.createMyTicket body))).1 ↔
      s.clientPortalEnabled = false ∨ body.validate? = none ∨ ¬Storable env db body c u.id := by
  have hguard : ∀ m : User → UUID → Tx Response,
      (Handler.scopeToClient m).guard (.ok u) = .ok (m u c) :=
    fun m ↦ Handler.guard_scopeToClient.2 ⟨u, c, rfl, hrole, hclient, rfl⟩
  rcases hs : s.clientPortalEnabled with - | -
  · have hmounted : mounted s (.createMyTicket body) = false := by
      rw [mounted, hs]
      rfl
    rw [handle_of_not_mounted hmounted, handle_of_not_mounted hmounted]
    simp
  have hmounted : mounted s (.createMyTicket body) = true := by
    rw [mounted, hs]
    rfl
  rcases hb : body.validate? with - | body'
  · have hv : (Request.createMyTicket body).validate? p = none := by
      rw [Request.validate?, hb]
      rfl
    rw [handle_of_unprocessable hmounted hv (by rw [hu]; exact hguard _),
      handle_of_unprocessable hmounted hv (by rw [hu']; exact hguard _)]
    simp
  · obtain ⟨-, rfl⟩ := accept_eq_some_iff.1 hb
    have hv : (Request.createMyTicket body).validate? p = some (.createMyTicket body) := by
      rw [Request.validate?, hb]
      rfl
    rw [handle_of_admitted hmounted hv (by rw [hu]; exact hguard _),
      handle_of_admitted hmounted hv (by rw [hu']; exact hguard _)]
    have hmissing' : (respond (do
        return ⟨201, .ticket (← TicketService.createTicket env body c u.id)⟩)
        db').1 = ⟨500, .internal⟩ := by
      refine answer_of_not_storable fun h ↦ ?_
      have hhas := h.2 k hk
      rw [Table.has, hmissing] at hhas
      cases hhas
    rw [hmissing']
    obtain ⟨sv, hsv, -⟩ := hforeign
    have huser : u ∈ db.users := mem_of_currentUser hu
    have hhasClient : db.clients.has c = true := by
      have hrefers : refersTo db.clients u.clientId = true := hvalid.users.refers u huser
      rw [hclient] at hrefers
      exact hrefers
    have hservice : ∀ k', body.serviceId = some k' → db.services.has k' = true := by
      intro k' hk'
      obtain rfl := Option.some.inj (hk.symm.trans hk')
      rw [Table.has, hsv]
      rfl
    by_cases hstore : Storable env db body c u.id
    · have hstatus := status_of_storable hhasClient (Table.has_iff.2 ⟨u, huser, rfl⟩)
        hservice hstore
      refine iff_of_false (fun h ↦ ?_) (by simp [hstore])
      rw [h] at hstatus
      cases hstatus
    · rw [answer_of_not_storable fun h ↦ hstore h.1]
      simp [hstore]

end Disclosure

/-- **Tickets and tenants.** In every state reached by acts in which no client names a service of
another, every ticket is about a service of its client. And a client who names a service of another
gets the answer for a service that does not exist, if and only if the portal is closed, the body is
refused by the schema, or the ticket cannot be stored whatever its service. -/
theorem tickets_tenancy (p : Platform) (s : Settings) :
    (∀ acts, (∀ e ∈ (run p s acts).events, e.namesOwnService = true) →
      TicketsAtHome (run p s acts).db) ∧
    ∀ (env : Env) (db db' : Db) (sub : Except Fault String) (u : User) (c k : UUID)
      (body : TicketCreate), db.Valid → currentUser db sub = .ok u → currentUser db' sub = .ok u →
      u.role = .clientUser → u.clientId = some c → body.serviceId = some k →
      (∃ sv, db.services.find? k = some sv ∧ sv.clientId ≠ c) → db'.services.find? k = none →
      ((handle p s env db sub (.bound (.createMyTicket body))).1 =
          (handle p s env db' sub (.bound (.createMyTicket body))).1 ↔
        s.clientPortalEnabled = false ∨ body.validate? = none ∨ ¬Storable env db body c u.id) :=
  ⟨fun acts h ↦ ticketsAtHome_run acts h, fun _ _ _ _ _ _ _ _ hvalid hu hu' hrole hclient hk
    hforeign hmissing ↦ createMyTicket_same_iff hvalid hu hu' hrole hclient hk hforeign hmissing⟩

/-- Two clients, and a service of the first; the account belongs to the second. The client opens a
ticket about the service that is named. -/
def neighbours (serviceId : Option UUID) : List Act :=
  let send (first : ℕ) (r : Request) : Act :=
    .request (.sample first) (.ok "root@example.com") (.bound r)
  [.account (.insert (.sample 1 (.lit "root@example.com") .admin none)),
    send 20 (.createClient ⟨"Acme", none, none, none, none, none, "lead"⟩),
    send 30 (.createClient ⟨"Globex", none, none, none, none, none, "lead"⟩),
    send 40 (.createService 20 ⟨20, none, "assessment", "Audit", none, none⟩),
    send 50 (.createService 30 ⟨30, none, "assessment", "Audit", none, none⟩),
    .account (.insert (.sample 2 (.lit "client@example.com") .clientUser (some 30))),
    .request (.sample 60) (.ok "client@example.com")
      (.bound (.createMyTicket ⟨"Help", .medium, none, serviceId⟩))]

/-- The client of the second account. -/
def neighbour : User := .sample 2 (.lit "client@example.com") .clientUser (some 30)

/-- What there is once the client has opened a ticket about no service. -/
def neighboursDb : Db := (run .sample .sample (neighbours none)).db

/-- A ticket about the service of the first client, which can be stored. -/
def curious : TicketCreate := ⟨"Help", .medium, none, some 40⟩

/-- No ticket has strayed; but the answer to one about the service of the first client is another
one where there are no services. -/
theorem ticketsAtHome_neighbours :
    (run .sample .sample (neighbours (some 50))).db.tickets.has 60 = true ∧
    TicketsAtHome (run .sample .sample (neighbours (some 50))).db ∧
    (handle .sample .sample (.sample 70) neighboursDb (.ok "client@example.com")
        (.bound (.createMyTicket curious))).1 ≠
      (handle .sample .sample (.sample 70) { neighboursDb with services := .empty }
        (.ok "client@example.com") (.bound (.createMyTicket curious))).1 := by
  obtain ⟨hruns, hanswers⟩ := tickets_tenancy .sample .sample
  refine ⟨by decide +kernel, hruns _ (by decide +kernel), fun hsame ↦ ?_⟩
  have hforeign : ∃ sv, neighboursDb.services.find? 40 = some sv ∧ sv.clientId ≠ 30 := by
    obtain ⟨sv, hsv, hclient, hid⟩ :
        ∃ sv ∈ neighboursDb.services, sv.clientId ≠ 30 ∧ sv.id = 40 := by decide +kernel
    exact ⟨sv, hid ▸ Table.find?_of_mem hsv, hclient⟩
  have hiff := hanswers (.sample 70) neighboursDb { neighboursDb with services := .empty }
    (.ok "client@example.com") neighbour 30 40 curious (valid_run (neighbours none))
    (by decide +kernel) (by decide +kernel) rfl rfl rfl hforeign rfl
  rcases hiff.1 hsame with hclosed | hrefused | hunstorable
  · cases hclosed
  · revert hrefused
    decide
  · exact hunstorable ⟨⟨_, rfl⟩, ⟨_, rfl⟩, by decide +kernel, by decide +kernel⟩

/-- **A ticket about a service of another client.** -/
theorem ticket_of_neighbour : ¬TicketsAtHome (run .sample .sample (neighbours (some 40))).db := by
  intro h
  have hticket : ∃ t ∈ (run .sample .sample (neighbours (some 40))).db.tickets,
      t.serviceId = some 40 ∧ t.clientId = 30 := by decide +kernel
  have hservice : ((run .sample .sample (neighbours (some 40))).db.services.find? 40).map
      Service.clientId = some 20 := by decide +kernel
  obtain ⟨t, ht, hk, hclient⟩ := hticket
  obtain ⟨sv, hsv, hsame⟩ := h t ht 40 hk
  rw [hsv, Option.map_some, hsame, hclient] at hservice
  cases hservice

end ZanovixCrm
