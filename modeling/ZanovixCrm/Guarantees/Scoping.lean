import ZanovixCrm.Guarantees.LeadConversion

/-!
# Scoping

What the scope of a user hides from them. A method that fetches a row through the scope has one
outcome on the rows of others and on rows that do not exist: the not-found exception with the id
that it was asked for, before anything is written (`Masked`). A list is answered from the rows in
scope alone, whatever the filters ask for: two databases in which the user owns the same rows have
the same page and the same total (`AgreeFor`).

Two paths leave the scope out. The conversion of a lead fetches the lead by id, and the milestones
of a service are written without a look at its owner; there the answer tells a row of somebody else
from no row, unless the request is refused before it gets that far.
-/

namespace ZanovixCrm

/-! ### Masked methods -/

section Masked

variable {α β : Type}

/-- **The method cannot tell `x` from `y`**: for either it raises not-found with the id that it was
asked for, and changes nothing. -/
structure Masked (notFound : UUID → Fault) (db : Db) (x y : UUID) (m : UUID → Tx α) : Prop where
  first : (m x).transact db = (.error (notFound x), db)
  second : (m y).transact db = (.error (notFound y), db)
  /-- The two exceptions have one answer. -/
  response : (notFound x).response = (notFound y).response

variable {notFound : UUID → Fault} {db : Db} {x y : UUID}

/-- A method that begins with a masked one is masked. -/
theorem Masked.bind {m : UUID → Tx α} (h : Masked notFound db x y m) (f : UUID → α → Tx β) :
    Masked notFound db x y fun k ↦ m k >>= f k where
  first := Prog.transact_of_error
    (Prog.run_bind_error (Prog.transact_eq_error_iff.1 h.first).1 (f x))
  second := Prog.transact_of_error
    (Prog.run_bind_error (Prog.transact_eq_error_iff.1 h.second).1 (f y))
  response := h.response

/-- Fetching a row that is out of scope, or that does not exist. -/
theorem masked_fetch {ρ : Type} [Keyed ρ UUID] {t : Db → Table ρ} {sees : ρ → Bool} {r : ρ}
    (hr : r ∈ t db) (hsees : sees r = false) (hy : (t db).find? y = none)
    (hresp : (notFound (key r)).response = (notFound y).response) :
    Masked notFound db (key r) y fun k ↦
      (.query (fun db ↦ ((t db).find? k).filter sees) >>= fun found ↦
        .demand found (notFound k) : Tx ρ) := by
  have hrun : ∀ k, ((t db).find? k).filter sees = none →
      (.query (fun db ↦ ((t db).find? k).filter sees) >>= fun found ↦
        .demand found (notFound k) : Tx ρ).transact db = (.error (notFound k), db) := by
    intro k hk
    refine Prog.transact_of_error ?_
    rw [Prog.run_bind_ok (Prog.run_query _ db), hk]
    rfl
  refine ⟨hrun _ ?_, hrun y ?_, hresp⟩
  · rw [Table.find?_of_mem hr, Option.filter_some, hsees]
    rfl
  · rw [hy]
    rfl

end Masked

section Users

variable {u : User} {db : Db} {y : UUID}

/-- A restricted user sees the rows that they own. -/
theorem sees_iff (hu : u.ownerScoped = true) {o : Option UUID} :
    u.sees o = true ↔ o = some u.id := by
  rw [User.sees, hu, Bool.not_true, Bool.false_or, decide_eq_true_iff]

theorem seesService_iff (hu : u.role = .consultor) {s : Service} :
    u.seesService s = true ↔ s.ownerId = some u.id := by
  rw [User.seesService, hu]
  simp

theorem masked_lead (hu : u.ownerScoped = true) {l : Lead} (hl : l ∈ db.leads)
    (hl' : l.ownerId ≠ some u.id) (hy : db.leads.find? y = none) :
    Masked .leadNotFound db l.id y (LeadService.getForUser u) :=
  have hsees : u.sees l.ownerId = false := Bool.eq_false_iff.2 fun h ↦ hl' ((sees_iff hu).1 h)
  masked_fetch hl hsees hy rfl

theorem masked_client (hu : u.ownerScoped = true) {c : Client} (hc : c ∈ db.clients)
    (hc' : c.ownerId ≠ some u.id) (hy : db.clients.find? y = none) :
    Masked .clientNotFound db c.id y (ClientService.getForUser u) :=
  have hsees : u.sees c.ownerId = false := Bool.eq_false_iff.2 fun h ↦ hc' ((sees_iff hu).1 h)
  masked_fetch hc hsees hy rfl

theorem masked_service (hu : u.role = .consultor) {s : Service} (hs : s ∈ db.services)
    (hs' : s.ownerId ≠ some u.id) (hy : db.services.find? y = none) :
    Masked .serviceNotFound db s.id y (ServiceService.getServiceForWrite u) :=
  have hsees : u.seesService s = false := Bool.eq_false_iff.2 fun h ↦ hs' ((seesService_iff hu).1 h)
  masked_fetch hs hsees hy rfl

end Users

/-! ### Lists -/

/-- **The user owns the same rows in both databases**, down to the milestones of their services. -/
structure AgreeFor (u : User) (db db' : Db) : Prop where
  leads : ∀ l : Lead, l.ownerId = some u.id → (l ∈ db.leads ↔ l ∈ db'.leads)
  clients : ∀ c : Client, c.ownerId = some u.id → (c ∈ db.clients ↔ c ∈ db'.clients)
  services : ∀ s : Service, s.ownerId = some u.id → (s ∈ db.services ↔ s ∈ db'.services)
  milestones : ∀ s ∈ db.services, s.ownerId = some u.id → ∀ m : Milestone, m.serviceId = s.id →
    (m ∈ db.milestones ↔ m ∈ db'.milestones)

section Lists

variable {p : Platform} {u : User} {db db' : Db}

/-- A page of a list that is the same in both databases. -/
theorem agrees_pageOf {ρ β : Type} {list : Db → List ρ} (h : list db = list db') {limit offset : ℤ}
    {g : List ρ → Tx β} (hg : ∀ rows, (∀ r ∈ rows, r ∈ list db) → (g rows).Agrees db db') :
    (.query (fun db ↦ Session.limitOffset limit offset (list db)) >>= fun page ↦
      Session.column page >>= g : Tx β).Agrees db db' := by
  refine .query_bind (by rw [h]) (.liftExcept_bind fun rows hrows ↦ hg rows fun r hr ↦ ?_)
  rcases hpage : Session.limitOffset limit offset (list db) with e | page
  · rw [hpage] at hrows
    cases hrows
  · rw [hpage] at hrows
    cases hrows
    exact Session.mem_of_limitOffset hpage hr

/-- A page is answered from the rows that the query selects. -/
theorem agrees_page {ρ α β : Type} [Keyed ρ UUID] [LinearOrder α] {t : Db → Table ρ}
    {sel : ρ → Bool} {f : ρ → α} (h : ∀ r, sel r = true → (r ∈ t db ↔ r ∈ t db')) {limit offset : ℤ}
    {g : List ρ → Tx β} (hg : ∀ rows, (∀ r ∈ rows, r ∈ t db ∧ sel r = true) →
      (g rows).Agrees db db') :
    (.query (fun db ↦ Session.limitOffset limit offset (selectDesc (t db) sel f)) >>= fun page ↦
      Session.column page >>= g : Tx β).Agrees db db' :=
  agrees_pageOf (selectDesc_congr h) fun rows hmem ↦ hg rows fun r hr ↦ mem_selectDesc.1 (hmem r hr)

/-- So is the total. -/
theorem agrees_total {ρ β : Type} [Keyed ρ UUID] {t : Db → Table ρ} {sel : ρ → Bool}
    (h : ∀ r, sel r = true → (r ∈ t db ↔ r ∈ t db')) {rows : β} :
    (.query (fun db ↦ (t db).rows.countP sel) >>= fun total ↦ return (rows, total) :
      Tx (β × ℕ)).Agrees db db' :=
  .query_bind (countP_congr_of_mem_iff h) (Prog.agrees_ret _)

/-- The milestones of services whose milestones are in both databases. -/
theorem milestones_congr {services : List Service} (h : ∀ s ∈ services, ∀ m : Milestone,
      m.serviceId = s.id → (m ∈ db.milestones ↔ m ∈ db'.milestones)) :
    (services.map fun s ↦ (⟨s, ServiceService.milestonesOf db s.id⟩ : ServiceWithMilestones)) =
      services.map fun s ↦ ⟨s, ServiceService.milestonesOf db' s.id⟩ := by
  refine List.map_congr_left fun s hs ↦ ?_
  have hmilestones : ServiceService.milestonesOf db s.id = ServiceService.milestonesOf db' s.id :=
    selectAsc_congr fun m hm ↦ h s hs m (of_decide_eq_true hm)
  rw [hmilestones]

theorem agrees_listForUser (hu : u.ownerScoped = true) (h : AgreeFor u db db') (f : LeadFilters) :
    (LeadService.listForUser u f).Agrees db db' := by
  have hrows : ∀ l, LeadService.selects u f l = true → (l ∈ db.leads ↔ l ∈ db'.leads) := by
    intro l hl
    simp only [LeadService.selects, Bool.and_eq_true] at hl
    exact h.leads l ((sees_iff hu).1 hl.1.1.1)
  exact agrees_page hrows fun rows _ ↦ agrees_total hrows

theorem agrees_listClients (hu : u.ownerScoped = true) (h : AgreeFor u db db') (f : ClientFilters) :
    (ClientService.listClients p u f).Agrees db db' := by
  have hrows : ∀ c, ClientService.selects p u f c = true → (c ∈ db.clients ↔ c ∈ db'.clients) := by
    intro c hc
    simp only [ClientService.selects, Bool.and_eq_true] at hc
    exact h.clients c ((sees_iff hu).1 hc.1.1.1.1)
  refine .require_bind fun _ ↦ .require_bind fun _ ↦ .require_bind fun _ ↦ ?_
  exact agrees_page hrows fun rows _ ↦ agrees_total hrows

theorem agrees_listServices (hu : u.role = .consultor) (h : AgreeFor u db db')
    (f : ServiceFilters) :
    (ServiceService.listServices u f).Agrees db db' := by
  have hsees : ∀ s, ServiceService.selects u f s = true → s.ownerId = some u.id := by
    intro s hs
    simp only [ServiceService.selects, Bool.and_eq_true] at hs
    exact (seesService_iff hu).1 hs.1.1.1.1
  have hrows : ∀ s, ServiceService.selects u f s = true → (s ∈ db.services ↔ s ∈ db'.services) :=
    fun s hs ↦ h.services s (hsees s hs)
  refine .require_bind fun _ ↦ .require_bind fun _ ↦ ?_
  refine agrees_page hrows fun rows hmem ↦
    .query_bind (milestones_congr fun s hs ↦ ?_) (agrees_total hrows)
  -- The services of the page are the user's own, and so both databases have their milestones.
  exact h.milestones s (hmem s hs).1 (hsees s (hmem s hs).2)

end Lists

/-! ### Out of scope is missing -/

/-- **Out of scope is missing**: the methods that take an id do the same on the rows of others as on
rows that do not exist, and the lists do not change with the rows of others. -/
theorem outOfScope_asMissing {p : Platform} {u : User} (hu : u.ownerScoped = true) (db : Db) :
    (∀ l ∈ db.leads, l.ownerId ≠ some u.id → ∀ y, db.leads.find? y = none →
      Masked .leadNotFound db l.id y (LeadService.getForUser u) ∧
      (∀ env st, Masked .leadNotFound db l.id y fun k ↦ LeadService.updateStatus env u k st) ∧
      ∀ env body, Masked .leadNotFound db l.id y fun k ↦ LeadService.update env u k body) ∧
    (∀ c ∈ db.clients, c.ownerId ≠ some u.id → ∀ y, db.clients.find? y = none →
      Masked .clientNotFound db c.id y (ClientService.getClientDetail u) ∧
      (∀ env body, Masked .clientNotFound db c.id y fun k ↦
        ClientService.updateClient env u k body) ∧
      ∀ env st force,
        Masked .clientNotFound db c.id y fun k ↦ ClientService.changeStage env u k st force) ∧
    (u.role = .consultor →
      ∀ s ∈ db.services, s.ownerId ≠ some u.id → ∀ y, db.services.find? y = none →
      Masked .serviceNotFound db s.id y (ServiceService.getServiceDetail u) ∧
      (∀ env body,
        Masked .serviceNotFound db s.id y fun k ↦ ServiceService.updateService env u k body) ∧
      ∀ env st, Masked .serviceNotFound db s.id y fun k ↦ ServiceService.changeState env u k st) ∧
    ∀ db', AgreeFor u db db' →
      (∀ f, (LeadService.listForUser u f).Agrees db db') ∧
      (∀ f, (ClientService.listClients p u f).Agrees db db') ∧
      (u.role = .consultor → ∀ f, (ServiceService.listServices u f).Agrees db db') := by
  refine ⟨fun l hl hl' y hy ↦ ?_, fun c hc hc' y hy ↦ ?_, fun hrole s hs hs' y hy ↦ ?_,
    fun db' h ↦ ?_⟩
  · have hget := masked_lead hu hl hl' hy
    exact ⟨hget, fun env st ↦ hget.bind _, fun env body ↦ hget.bind _⟩
  · have hget := masked_client hu hc hc' hy
    exact ⟨hget.bind _, fun env body ↦ hget.bind _, fun env st force ↦ hget.bind _⟩
  · have hget := masked_service hrole hs hs' hy
    exact ⟨hget.bind _, fun env body ↦ hget.bind _, fun env st ↦ hget.bind _⟩
  · exact ⟨agrees_listForUser hu h, agrees_listClients hu h,
      fun hrole ↦ agrees_listServices hrole h⟩

/-- A consultor for examples. -/
def adviser : User := .sample 2 (.lit "adviser@example.com") .consultor none

/-- A comercial for examples. -/
def seller : User := .sample 3 (.lit "seller@example.com") .comercial none

/-- Neither of them owns anything: there is a qualified lead, and a client with a service that has a
milestone, all without an owner. -/
def unowned : List Act :=
  let lead : LeadCreate :=
    ⟨"Ada", "ada@example.com", none, none, .general, .webForm, none, none, none⟩
  let send (first : ℕ) (r : Request) : Act :=
    .request (.sample first) (.ok "root@example.com") (.bound r)
  [.account (.insert (.sample 1 (.lit "root@example.com") .admin none)), .account (.insert adviser),
    .account (.insert seller), send 10 (.createLead ⟨[], none⟩ lead),
    send 10 (.updateLeadStatus 10 .contacted), send 10 (.updateLeadStatus 10 .qualified),
    send 20 (.createClient ⟨"Acme", none, none, none, none, none, "lead"⟩),
    send 30 (.createService 20 ⟨20, none, "assessment", "Audit", none, none⟩),
    send 40 (.createMilestone 30 ⟨1, "Kick-off", none⟩)]

/-- The database after these acts. -/
def unownedDb : Db := (run .sample .sample unowned).db

theorem find_lead_unownedDb : unownedDb.leads.find? 11 = none := by decide +kernel

theorem find_service_unownedDb : unownedDb.services.find? 31 = none := by decide +kernel

theorem currentUser_adviser : currentUser unownedDb (.ok "adviser@example.com") = .ok adviser := by
  decide +kernel

/-- The adviser owns none of it. -/
theorem agreeFor_unownedDb : AgreeFor adviser unownedDb .empty := by
  have hleads : ∀ l ∈ unownedDb.leads, l.ownerId ≠ some adviser.id := by decide +kernel
  have hclients : ∀ c ∈ unownedDb.clients, c.ownerId ≠ some adviser.id := by decide +kernel
  have hservices : ∀ sv ∈ unownedDb.services, sv.ownerId ≠ some adviser.id := by decide +kernel
  exact {
    leads := fun l hl ↦ iff_of_false (fun h ↦ hleads l h hl) Table.not_mem_empty
    clients := fun c hc ↦ iff_of_false (fun h ↦ hclients c h hc) Table.not_mem_empty
    services := fun sv hs ↦ iff_of_false (fun h ↦ hservices sv h hs) Table.not_mem_empty
    milestones := fun sv hsv hs ↦ absurd hs (hservices sv hsv) }

theorem outOfScope_unowned :
    (∀ env body, Masked .leadNotFound unownedDb 10 11 fun k ↦
      LeadService.update env adviser k body) ∧
    (∀ env st force, Masked .clientNotFound unownedDb 20 21 fun k ↦
      ClientService.changeStage env adviser k st force) ∧
    (∀ env st, Masked .serviceNotFound unownedDb 30 31 fun k ↦
      ServiceService.changeState env adviser k st) ∧
    ∀ f, (ServiceService.listServices adviser f).Agrees unownedDb .empty := by
  have hlead : ∃ l ∈ unownedDb.leads, l.ownerId ≠ some adviser.id ∧ l.id = 10 := by decide +kernel
  have hclient : ∃ c ∈ unownedDb.clients, c.ownerId ≠ some adviser.id ∧ c.id = 20 := by
    decide +kernel
  have hservice : ∃ sv ∈ unownedDb.services, sv.ownerId ≠ some adviser.id ∧ sv.id = 30 := by
    decide +kernel
  obtain ⟨hleads, hclients, hservices, hlists⟩ :=
    outOfScope_asMissing (u := adviser) (p := .sample) (by decide) unownedDb
  obtain ⟨l, hl, hl', hid⟩ := hlead
  obtain ⟨c, hc, hc', hid'⟩ := hclient
  obtain ⟨sv, hsv, hsv', hid''⟩ := hservice
  refine ⟨hid ▸ (hleads l hl hl' 11 find_lead_unownedDb).2.2,
    hid' ▸ (hclients c hc hc' 21 (by decide +kernel)).2.2,
    hid'' ▸ (hservices rfl sv hsv hsv' 31 find_service_unownedDb).2.2,
    (hlists .empty agreeFor_unownedDb).2.2 rfl⟩

/-! ### Conversions and milestones -/

section Unscoped

variable {p : Platform} {s : Settings} {env : Env} {db : Db} {sub : Except Fault String} {u : User}

/-- The exception is not answered with 404. -/
def Fault.Present (f : Fault) : Prop := f.response.status ≠ 404

theorem present_db (e : DbError) : (Fault.db e).Present := show 500 ≠ 404 by decide

theorem present_unhandled : Fault.unhandled.Present := show 500 ≠ 404 by decide

theorem present_add {ρ : Type} [Keyed ρ UUID] [Stored ρ] {row : Except DbError ρ} :
    (Session.add row).Refuses db Fault.Present := Session.refuses_add present_db

/-- **The conversion of a lead that exists is not answered with 404**, whoever owns the lead. -/
theorem refuses_convertFromLead {l : Lead} (hl : l ∈ db.leads) {body : ConvertLeadBody}
    {actor : UUID} :
    (ClientService.convertFromLead env l.id body actor).Refuses db Fault.Present := by
  have hfound : db.leads.find? l.id = some l := Table.find?_of_mem hl
  rw [ClientService.convertFromLead, Prog.refuses_bind, Prog.ensures_query, Prog.refuses_bind,
    hfound]
  refine ⟨Prog.refuses_query, Prog.refuses_ret, Prog.ensures_ret.2 ?_⟩
  rcases l.convertedClientId with - | clientId
  · have hprofile : ∀ db', (ClientService.addBillingProfile env body.billingProfile).Refuses db'
        Fault.Present := by
      intro db'
      rcases body.billingProfile with - | b
      · exact Prog.refuses_ret
      · exact present_add
    refine .bind (Prog.refuses_require.2 fun _ ↦ show 422 ≠ 404 by decide) fun _ _ ↦ ?_
    refine .bind present_add fun _ _ ↦ .bind present_add fun _ _ ↦ .bind (hprofile _) fun _ _ ↦ ?_
    refine .bind present_add fun _ _ ↦ .bind (Session.refuses_flush present_db) fun _ _ ↦ ?_
    exact Session.refuses_refresh present_unhandled
  · exact Prog.refuses_raise.2 (show 409 ≠ 404 by decide)

/-- The creation of a milestone for a service that exists is not answered with 404. -/
theorem refuses_createUnderService {sv : Service} (hsv : sv ∈ db.services)
    {body : MilestoneCreate} :
    (MilestoneService.createUnderService env sv.id body).Refuses db Fault.Present := by
  have hfound : db.services.find? sv.id = some sv := Table.find?_of_mem hsv
  have hget : (MilestoneService.getService sv.id).Refuses db Fault.Present := by
    simp [MilestoneService.getService, hfound]
  refine .bind hget fun _ _ ↦ .bind present_add fun _ _ ↦ ?_
  exact Session.refuses_refresh present_unhandled

/-- The update of a milestone that exists is not answered with 404. -/
theorem refuses_update {m : Milestone} (hm : m ∈ db.milestones) {body : MilestoneUpdate}
    {actor : UUID} :
    (MilestoneService.update env m.serviceId m.n.val body actor).Refuses db Fault.Present := by
  have hindex : (encode (some m.n.val) : Except DbError (PgInt 32)) = .ok m.n := encode_decode m.n
  have hget : (MilestoneService.getByIndex m.serviceId m.n.val).Refuses db Fault.Present := by
    have hmem : m ∈ db.milestones.rows.filter
        fun x ↦ decide (x.serviceId = m.serviceId ∧ x.n = m.n) :=
      List.mem_filter.2 ⟨hm, decide_eq_true ⟨rfl, rfl⟩⟩
    rw [MilestoneService.getByIndex, hindex]
    refine Prog.refuses_bind.2 ⟨Session.refuses_column present_db, Session.ensures_column.2 ?_⟩
    rintro _ ⟨⟩
    refine Prog.refuses_bind.2 ⟨Prog.refuses_query, Prog.ensures_query.2 ?_⟩
    -- Were there several, the query would fail, but not with 404 either.
    rcases hrows : db.milestones.rows.filter
      fun x ↦ decide (x.serviceId = m.serviceId ∧ x.n = m.n) with - | ⟨x, - | ⟨x', rows⟩⟩
    · rw [hrows] at hmem
      cases hmem
    · rw [hrows]
      exact Prog.refuses_ret
    · rw [hrows]
      exact Prog.refuses_raise.2 present_unhandled
  have hlog : ∀ title db', (MilestoneService.logCompletion env m.serviceId title actor).Refuses db'
      Fault.Present := by
    intro title db'
    refine .bind Prog.refuses_query fun found _ ↦ ?_
    rcases found with - | sv
    · exact Prog.refuses_ret
    · exact present_add
  refine .bind hget fun m' _ ↦ .bind (Session.refuses_flush present_db) fun _ _ ↦ ?_
  split
  · exact .bind (hlog _ _) fun _ _ ↦ Session.refuses_refresh present_unhandled
  · exact Session.refuses_refresh present_unhandled

/-- An index that addresses no milestone. -/
theorem run_getByIndex_of_missing {serviceId : UUID} {n : ℤ}
    (h : ∀ m ∈ db.milestones, m.serviceId = serviceId → m.n.val ≠ n) :
    (MilestoneService.getByIndex serviceId n).run db =
      match (encode (some n) : Except DbError (PgInt 32)) with
      | .ok _ => .error (.milestoneNotFound serviceId n)
      | .error e => .error (.db e) := by
  rw [MilestoneService.getByIndex]
  rcases hindex : (encode (some n) : Except DbError (PgInt 32)) with e | index
  · rfl
  · have hval : index.val = n := PgInt.val_of_store? (orError_eq_ok_iff.1 hindex)
    have hrows : db.milestones.rows.filter
        (fun m ↦ decide (m.serviceId = serviceId ∧ m.n = index)) = [] := by
      refine List.filter_eq_nil_iff.2 fun m hm heq ↦ ?_
      obtain ⟨hservice, hn⟩ := of_decide_eq_true heq
      exact h m hm hservice (by rw [hn, hval])
    have hcolumn : (Session.column (.ok index) : Tx (PgInt 32)).run db = .ok (index, db) := rfl
    rw [Prog.run_bind_ok hcolumn, Prog.run_bind_ok (Prog.run_query _ db), hrows]
    rfl

/-- The two requests have the same answer. -/
def SameAnswer (p : Platform) (s : Settings) (env : Env) (db : Db) (sub : Except Fault String)
    (r r' : Request) : Prop :=
  (handle p s env db sub (.bound r)).1 = (handle p s env db sub (.bound r')).1

instance (r r' : Request) : Decidable (SameAnswer p s env db sub r r') :=
  inferInstanceAs (Decidable (_ = _))

/-- A transaction that never ends with 404, and one that does. -/
theorem not_sameAnswer {r r' : Request} {m m' : Tx Response}
    (h : handle p s env db sub (.bound r) = respond m db)
    (h' : handle p s env db sub (.bound r') = respond m' db)
    (hok : m.Ensures db fun resp _ ↦ resp.status ≠ 404) (herr : m.Refuses db Fault.Present)
    {f : Fault}
    (hrun : m'.run db = .error f) (hf : f.response.status = 404) :
    ¬SameAnswer p s env db sub r r' := by
  have hstatus : (respond m db).1.status ≠ 404 := status_respond (S := fun n ↦ n ≠ 404) hok herr
  have hstatus' : (respond m' db).1.status = 404 := by
    rw [respond, Prog.transact_of_error hrun]
    exact hf
  intro hsame
  rw [SameAnswer, h, h'] at hsame
  rw [hsame] at hstatus
  exact hstatus hstatus'

/-- **The conversion of somebody else's lead** changes nothing and is answered as for a lead that
does not exist, if and only if its body is refused by the schema. -/
theorem convert_masked_iff {l : Lead} {y : UUID} {body : ConvertLeadBody}
    (hu : currentUser db sub = .ok u) (hrole : u.role = .comercial) (hl : l ∈ db.leads)
    (_hl' : l.ownerId ≠ some u.id) (hy : db.leads.find? y = none) :
    ((handle p s env db sub (.bound (.convertLead l.id body))).2 = db ∧
      SameAnswer p s env db sub (.convertLead l.id body) (.convertLead y body)) ↔
    body.validate? p = none := by
  have hmounted : ∀ k, mounted s (.convertLead k body) = true := fun k ↦ Bool.or_true _
  have hmem : u.role ∈ [Role.admin, Role.comercial] := by
    rw [hrole]
    decide
  rcases hb : body.validate? p with - | body'
  · have hreject : ∀ k, handle p s env db sub (.bound (.convertLead k body)) =
        (⟨422, .unprocessable⟩, db) := fun k ↦
      handle_of_unprocessable (hmounted k) (by rw [Request.validate?, hb]; rfl)
        (Handler.guard_requireRole.2 ⟨u, hu, hmem, rfl⟩)
    rw [SameAnswer, hreject, hreject]
    simp
  · have hv : ∀ k, (Request.convertLead k body).validate? p = some (.convertLead k body') := by
      intro k
      rw [Request.validate?, hb]
      rfl
    have hserve : ∀ k, handle p s env db sub (.bound (.convertLead k body)) =
        respond (do return ⟨201, .client (← ClientService.convertFromLead env k body' u.id)⟩) db :=
      fun k ↦ handle_of_admitted (hmounted k) (hv k)
        (Handler.guard_requireRole.2 ⟨u, hu, hmem, rfl⟩)
    have hmissing : (ClientService.convertFromLead env y body' u.id).run db =
        .error (.leadNotFound y) := by
      rw [ClientService.convertFromLead, Prog.run_bind_ok (Prog.run_query _ db), hy]
      rfl
    refine iff_of_false (fun h ↦ not_sameAnswer (hserve l.id) (hserve y) ?_ ?_
      (Prog.run_bind_error hmissing _) rfl h.2) (by simp)
    · exact Prog.ensures_bind.2 fun _ _ _ ↦ Prog.ensures_ret.2 (show 201 ≠ 404 by decide)
    · exact .bind (refuses_convertFromLead hl) fun _ _ ↦ Prog.refuses_ret

theorem currentUser_seller : currentUser unownedDb (.ok "seller@example.com") = .ok seller := by
  decide +kernel

theorem convert_masked_unowned :
    ∃ l ∈ unownedDb.leads, l.ownerId ≠ some seller.id ∧
      (((handle .sample .sample (.sample 50) unownedDb (.ok "seller@example.com")
          (.bound (.convertLead l.id ⟨none, none, none, none, none, some (-1), none, none⟩))).2 =
          unownedDb ∧
        SameAnswer .sample .sample (.sample 50) unownedDb (.ok "seller@example.com")
          (.convertLead l.id ⟨none, none, none, none, none, some (-1), none, none⟩)
          (.convertLead 11 ⟨none, none, none, none, none, some (-1), none, none⟩)) ↔
      ConvertLeadBody.validate? .sample ⟨none, none, none, none, none, some (-1), none, none⟩ =
        none) := by
  have hlead : ∃ l ∈ unownedDb.leads, l.ownerId ≠ some seller.id := by decide +kernel
  obtain ⟨l, hl, howner⟩ := hlead
  exact ⟨l, hl, howner,
    convert_masked_iff (u := seller) currentUser_seller rfl hl howner find_lead_unownedDb⟩

/-- **A comercial converts a lead that is not theirs**, and that `GET` hides from them. -/
theorem converts_unowned :
    currentUser unownedDb (.ok "seller@example.com") = .ok seller ∧ seller.role = .comercial ∧
      (∀ l ∈ unownedDb.leads, l.id = 10 ∧ l.ownerId ≠ some seller.id) ∧
      unownedDb.leads.find? 11 = none ∧
      SameAnswer .sample .sample (.sample 50) unownedDb (.ok "seller@example.com") (.getLead 10)
        (.getLead 11) ∧
      ¬((handle .sample .sample (.sample 50) unownedDb (.ok "seller@example.com")
          (.bound (.convertLead 10 .plain))).2 = unownedDb ∧
        SameAnswer .sample .sample (.sample 50) unownedDb (.ok "seller@example.com")
          (.convertLead 10 .plain) (.convertLead 11 .plain)) :=
  ⟨currentUser_seller, rfl, by decide +kernel, find_lead_unownedDb, by decide +kernel,
    fun h ↦ absurd h.2 (by decide +kernel)⟩

/-- The request changes no milestone and no entry of the log. -/
def LeavesMilestones (p : Platform) (s : Settings) (env : Env) (db : Db) (sub : Except Fault String)
    (r : Request) : Prop :=
  (handle p s env db sub (.bound r)).2.milestones = db.milestones ∧
    (handle p s env db sub (.bound r)).2.activityLog = db.activityLog

theorem createMilestone_masked_iff {sv : Service} {y : UUID} {body : MilestoneCreate}
    (hu : currentUser db sub = .ok u) (hsv : sv ∈ db.services) (hy : db.services.find? y = none) :
    (LeavesMilestones p s env db sub (.createMilestone sv.id body) ∧
      SameAnswer p s env db sub (.createMilestone sv.id body) (.createMilestone y body)) ↔
    body.validate? = none := by
  have hmounted : ∀ k, mounted s (.createMilestone k body) = true := fun k ↦ Bool.or_true _
  rcases hb : body.validate? with - | body'
  · have hreject : ∀ k, handle p s env db sub (.bound (.createMilestone k body)) =
        (⟨422, .unprocessable⟩, db) := fun k ↦
      handle_of_unprocessable (hmounted k) (by rw [Request.validate?, hb]; rfl)
        (Handler.guard_currentUser.2 ⟨u, hu, rfl⟩)
    rw [SameAnswer, LeavesMilestones, hreject, hreject]
    simp
  · have hv : ∀ k, (Request.createMilestone k body).validate? p =
        some (.createMilestone k body') := fun k ↦ by
      rw [Request.validate?, hb]
      rfl
    have hserve : ∀ k, handle p s env db sub (.bound (.createMilestone k body)) =
        respond (do return ⟨201, .milestone (← MilestoneService.createUnderService env k body')⟩)
          db := fun k ↦
      handle_of_admitted (hmounted k) (hv k) (Handler.guard_currentUser.2 ⟨u, hu, rfl⟩)
    have hmissing : (MilestoneService.createUnderService env y body').run db =
        .error (.serviceNotFound y) := by
      have hget : (MilestoneService.getService y).run db = .error (.serviceNotFound y) := by
        rw [MilestoneService.getService, Prog.run_bind_ok (Prog.run_query _ db), hy]
        rfl
      exact Prog.run_bind_error hget _
    refine iff_of_false (fun h ↦ not_sameAnswer (hserve sv.id) (hserve y) ?_ ?_
      (Prog.run_bind_error hmissing _) rfl h.2) (by simp)
    · exact Prog.ensures_bind.2 fun _ _ _ ↦ Prog.ensures_ret.2 (show 201 ≠ 404 by decide)
    · exact .bind (refuses_createUnderService hsv) fun _ _ ↦ Prog.refuses_ret

theorem updateMilestone_masked_iff {sv : Service} {y : UUID} {n : ℤ} {body : MilestoneUpdate}
    (hvalid : db.Valid) (hu : currentUser db sub = .ok u) (hy : db.services.find? y = none) :
    (LeavesMilestones p s env db sub (.updateMilestone sv.id n body) ∧
      SameAnswer p s env db sub (.updateMilestone sv.id n body) (.updateMilestone y n body)) ↔
    body.validate? = none ∨ ∀ m ∈ db.milestones, m.serviceId = sv.id → m.n.val ≠ n := by
  have hmounted : ∀ k, mounted s (.updateMilestone k n body) = true := fun k ↦ Bool.or_true _
  rcases hb : body.validate? with - | body'
  · have hreject : ∀ k, handle p s env db sub (.bound (.updateMilestone k n body)) =
        (⟨422, .unprocessable⟩, db) := fun k ↦
      handle_of_unprocessable (hmounted k) (by rw [Request.validate?, hb]; rfl)
        (Handler.guard_currentUser.2 ⟨u, hu, rfl⟩)
    rw [SameAnswer, LeavesMilestones, hreject, hreject]
    simp
  · have hv : ∀ k, (Request.updateMilestone k n body).validate? p =
        some (.updateMilestone k n body') := fun k ↦ by
      rw [Request.validate?, hb]
      rfl
    have hserve : ∀ k, handle p s env db sub (.bound (.updateMilestone k n body)) =
        respond (do return ⟨200, .milestone (← MilestoneService.update env k n body' u.id)⟩) db :=
      fun k ↦ handle_of_admitted (hmounted k) (hv k) (Handler.guard_currentUser.2 ⟨u, hu, rfl⟩)
    -- A service that does not exist has no milestones.
    have horphan : ∀ m ∈ db.milestones, m.serviceId = y → m.n.val ≠ n := by
      intro m hm hservice
      have hparent : db.services.has m.serviceId = true := hvalid.milestones.refers m hm
      rw [hservice, Table.has, hy] at hparent
      cases hparent
    have hmissing : ∀ k, (∀ m ∈ db.milestones, m.serviceId = k → m.n.val ≠ n) →
        (MilestoneService.update env k n body' u.id).run db =
          match (encode (some n) : Except DbError (PgInt 32)) with
          | .ok _ => .error (.milestoneNotFound k n)
          | .error e => .error (.db e) := by
      intro k hk
      have hget := run_getByIndex_of_missing hk
      rcases hindex : (encode (some n) : Except DbError (PgInt 32)) with e | index
      · rw [hindex] at hget
        exact Prog.run_bind_error hget _
      · rw [hindex] at hget
        exact Prog.run_bind_error hget _
    constructor
    · rintro ⟨-, hsame⟩
      refine Or.inr fun m hm hservice hn ↦ ?_
      have hindex : (encode (some n) : Except DbError (PgInt 32)) = .ok m.n :=
        hn ▸ encode_decode m.n
      have hy' := hmissing y horphan
      rw [hindex] at hy'
      refine not_sameAnswer (hserve sv.id) (hserve y) ?_ ?_ (Prog.run_bind_error hy' _) rfl hsame
      · exact Prog.ensures_bind.2 fun _ _ _ ↦ Prog.ensures_ret.2 (show 200 ≠ 404 by decide)
      · rw [← hservice, ← hn]
        exact .bind (refuses_update hm) fun _ _ ↦ Prog.refuses_ret
    · rintro (hnone | hnone)
      · cases hnone
      · have hx := hmissing sv.id hnone
        have hy' := hmissing y horphan
        rw [LeavesMilestones, SameAnswer, hserve, hserve, respond, respond]
        rcases hindex : (encode (some n) : Except DbError (PgInt 32)) with e | index
        · rw [hindex] at hx hy'
          rw [Prog.transact_of_error (Prog.run_bind_error hx _),
            Prog.transact_of_error (Prog.run_bind_error hy' _)]
          exact ⟨⟨rfl, rfl⟩, rfl⟩
        · rw [hindex] at hx hy'
          rw [Prog.transact_of_error (Prog.run_bind_error hx _),
            Prog.transact_of_error (Prog.run_bind_error hy' _)]
          exact ⟨⟨rfl, rfl⟩, rfl⟩

/-- **The milestones of somebody else's service.** A creation is masked, that is, it changes nothing
and is answered as for a service that does not exist, if and only if its body is refused by the
schema; an update, if and only if its body is refused or the service has no milestone with that
index. -/
theorem milestones_masked_iff {sv : Service} {y : UUID} (hvalid : db.Valid)
    (hu : currentUser db sub = .ok u) (_hrole : u.role = .consultor) (hsv : sv ∈ db.services)
    (_hsv' : sv.ownerId ≠ some u.id) (hy : db.services.find? y = none) :
    (∀ body, (LeavesMilestones p s env db sub (.createMilestone sv.id body) ∧
        SameAnswer p s env db sub (.createMilestone sv.id body) (.createMilestone y body)) ↔
      body.validate? = none) ∧
    ∀ n body, (LeavesMilestones p s env db sub (.updateMilestone sv.id n body) ∧
        SameAnswer p s env db sub (.updateMilestone sv.id n body) (.updateMilestone y n body)) ↔
      body.validate? = none ∨ ∀ m ∈ db.milestones, m.serviceId = sv.id → m.n.val ≠ n :=
  ⟨fun _ ↦ createMilestone_masked_iff hu hsv hy, fun _ _ ↦ updateMilestone_masked_iff hvalid hu hy⟩

theorem milestones_masked_unowned :
    ∃ sv ∈ unownedDb.services, sv.ownerId ≠ some adviser.id ∧
      (∀ m ∈ unownedDb.milestones, m.serviceId = sv.id → m.n.val ≠ 2) ∧
      SameAnswer .sample .sample (.sample 50) unownedDb (.ok "adviser@example.com")
        (.updateMilestone sv.id 2 ⟨.unset, .unset, .val (.aware 5)⟩)
        (.updateMilestone 31 2 ⟨.unset, .unset, .val (.aware 5)⟩) := by
  have hservice : ∃ sv ∈ unownedDb.services, sv.ownerId ≠ some adviser.id ∧
      ∀ m ∈ unownedDb.milestones, m.serviceId = sv.id → m.n.val ≠ 2 := by decide +kernel
  have huser := currentUser_adviser
  have hvalid : unownedDb.Valid := valid_run unowned
  obtain ⟨sv, hsv, howner, hn⟩ := hservice
  have hmissing := find_service_unownedDb
  exact ⟨sv, hsv, howner, hn,
    (((milestones_masked_iff hvalid huser rfl hsv howner hmissing).2 2 _).2 (Or.inr hn)).2⟩

/-- **A consultor completes a milestone of a service that is not theirs.** -/
theorem completes_unowned :
    currentUser unownedDb (.ok "adviser@example.com") = .ok adviser ∧ adviser.role = .consultor ∧
      (∀ sv ∈ unownedDb.services, sv.id = 30 ∧ sv.ownerId ≠ some adviser.id) ∧
      unownedDb.services.find? 31 = none ∧
      ¬(LeavesMilestones .sample .sample (.sample 50) unownedDb (.ok "adviser@example.com")
          (.updateMilestone 30 1 ⟨.unset, .unset, .val (.aware 5)⟩) ∧
        SameAnswer .sample .sample (.sample 50) unownedDb (.ok "adviser@example.com")
          (.updateMilestone 30 1 ⟨.unset, .unset, .val (.aware 5)⟩)
          (.updateMilestone 31 1 ⟨.unset, .unset, .val (.aware 5)⟩)) :=
  ⟨currentUser_adviser, rfl, by decide +kernel, find_service_unownedDb,
    fun h ↦ absurd h.2 (by decide +kernel)⟩

end Unscoped

end ZanovixCrm
