import ZanovixCrm.Guarantees.Portal
import ZanovixCrm.Services.Listings

/-!
# Accounts of clients in the internal API

The internal endpoints that ask for a role turn the account of a client away. The others take any
active account, and scope what it sees by role: a `consultor` or `comercial` sees what they own. The
fourth role is in none of these clauses, so it sees everything, and may write what no role is asked
for.

A request is isolated (`Isolated`) if it changes nothing and its answer is the same in all databases
that agree on the client of the account. `Request.Confined` says when: where the endpoint asks for a
role, where the request is for the rows of the account's own client, or where no other row could
satisfy its filters. **A request is isolated if and only if it is confined** (`isolated_iff`): for
every other one there are two databases, with and without a row of a stranger, that it tells apart.
-/

namespace ZanovixCrm

/-- **The account and its client are the same in both databases.** -/
structure SameAccount (u : User) (db db' : Db) : Prop where
  client : ∀ c, u.clientId = some c → AgreeOn c db db'
  billingProfiles : ∀ c, u.clientId = some c → ∀ x : BillingProfile, x.clientId = c →
    (x ∈ db.billingProfiles ↔ x ∈ db'.billingProfiles)

/-- **The request is isolated**: it changes nothing, and its answer depends on the account and its
client alone. -/
structure Isolated (p : Platform) (s : Settings) (env : Env) (u : User) (call : Call) : Prop where
  unchanged : ∀ db, db.Valid → u ∈ db.users → (handle p s env db (.ok u.email.val) call).2 = db
  independent : ∀ db db', db.Valid → db'.Valid → u ∈ db.users → u ∈ db'.users →
    SameAccount u db db' →
    (handle p s env db (.ok u.email.val) call).1 = (handle p s env db' (.ok u.email.val) call).1

/-- The database takes the text. -/
def noNul (text : Option String) : Bool := text.all fun t ↦ !t.toList.contains (Char.ofNat 0)

/-- The request, as the schema check has left it, **cannot reach the rows of others**. -/
def Request.Confined (p : Platform) (u : User) : Request → Prop
  | .listLeads query => ∀ f, query.bind = .ok f → Session.maxBigint < f.offset
  | .listClients query => ∀ f, query.bind p = .ok f → noNul f.stage = true → noNul f.sector = true →
      noNul f.q = true → f.offset ≤ Session.maxBigint →
      ∀ x, ClientService.selects p u f x = true → u.clientId = some x.id
  | .getClient clientId | .listContacts clientId => u.clientId = some clientId
  | .listServices query => ∀ f, query.bind p = .ok f → noNul f.state = true → noNul f.type = true →
      f.offset ≤ Session.maxBigint →
      ∀ x, ServiceService.selects u f x = true → u.clientId = some x.clientId
  | .getLead _ | .updateLead _ _ | .updateLeadStatus _ _ | .getService _ | .updateService _ _
  | .changeServiceState _ _ | .listMilestones _ | .createMilestone _ _ => False
  | .updateMilestone _ n _ => PgInt.store? 32 n = none
  | _ => True

/-- The same, for a call: one that is refused by the schema reaches nothing. -/
def Call.Confined (p : Platform) (u : User) : Call → Prop
  | .bound r => ∀ r', r.validate? p = some r' → r'.Confined p u
  | .malformed _ | .unreadable | .unrouted => True

section Confined

variable {p : Platform} {s : Settings} {env : Env} {u : User} {db db' : Db}

/-! ### What is confined -/

/-- A page beyond the last row number is an error, whatever there is. -/
theorem agrees_beyond {ρ β : Type} {list : Db → List ρ} {limit offset : ℤ}
    (h : Session.maxBigint < offset) {g : List ρ → Tx β} :
    (.query (fun db ↦ Session.limitOffset limit offset (list db)) >>= fun page ↦
      Session.column page >>= g : Tx β).Agrees db db' := by
  have hpage : ∀ rows : List ρ, Session.limitOffset limit offset rows = .error .data :=
    fun rows ↦ if_neg fun hin ↦ absurd hin.2.2.2 (not_le.2 h)
  refine .query_bind ((hpage _).trans (hpage _).symm) (.liftExcept_bind fun rows hrows ↦ ?_)
  rw [hpage] at hrows
  exact nomatch hrows

theorem agrees_listClients_of_confined (hsame : SameAccount u db db') {query : ClientQuery}
    (h : (Request.listClients query).Confined p u) {f : ClientFilters} (hf : query.bind p = .ok f) :
    (ClientService.listClients p u f).Agrees db db' := by
  refine .require_bind fun hstage ↦ .require_bind fun hsector ↦ .require_bind fun hq ↦ ?_
  by_cases hoffset : f.offset ≤ Session.maxBigint
  · have hrows : ∀ x, ClientService.selects p u f x = true → (x ∈ db.clients ↔ x ∈ db'.clients) :=
      fun x hx ↦ (hsame.client x.id (h f hf hstage hsector hq hoffset x hx)).client x rfl
    exact agrees_page hrows fun _ _ ↦ agrees_total hrows
  · exact agrees_beyond (not_le.1 hoffset)

theorem agrees_listServices_of_confined (hsame : SameAccount u db db') {query : ServiceQuery}
    (h : (Request.listServices query).Confined p u) {f : ServiceFilters}
    (hf : query.bind p = .ok f) :
    (ServiceService.listServices u f).Agrees db db' := by
  refine .require_bind fun hstate ↦ .require_bind fun htype ↦ ?_
  by_cases hoffset : f.offset ≤ Session.maxBigint
  · have hown : ∀ x, ServiceService.selects u f x = true → AgreeOn x.clientId db db' :=
      fun x hx ↦ hsame.client x.clientId (h f hf hstate htype hoffset x hx)
    have hrows : ∀ x, ServiceService.selects u f x = true → (x ∈ db.services ↔ x ∈ db'.services) :=
      fun x hx ↦ (hown x hx).services x rfl
    refine agrees_page hrows fun rows hmem ↦
      .query_bind (milestones_congr fun x hx ↦ ?_) (agrees_total hrows)
    exact (hown x (hmem x hx).2).milestones x (hmem x hx).1 rfl
  · exact agrees_beyond (not_le.1 hoffset)

/-- The detail of the account's own client. -/
theorem agrees_getClientDetail (hsame : SameAccount u db db') {c : UUID}
    (hc : u.clientId = some c) :
    (ClientService.getClientDetail u c).Agrees db db' := by
  have h := hsame.client c hc
  have hclient : db.clients.find? c = db'.clients.find? c := Table.find?_congr h.client
  show (.query (fun db ↦ (db.clients.find? c).filter fun x ↦ u.sees x.ownerId) >>= fun found ↦
    .demand found (.clientNotFound c) >>= _ : Tx ClientService.Detail).Agrees db db'
  refine .query_bind (by rw [hclient]) (.demand_bind fun x hx ↦ ?_)
  refine .query_bind (selectAsc_congr fun x hx ↦ h.contacts x (of_decide_eq_true hx)) ?_
  refine .query_bind (selectAsc_congr fun x hx ↦ h.services x (of_decide_eq_true hx)) ?_
  refine .query_bind (selectAsc_congr fun x hx ↦
    hsame.billingProfiles c hc x (of_decide_eq_true hx)) ?_
  refine .query_bind ?_ (Prog.agrees_ret _)
  rw [selectDesc_congr fun x hx ↦ h.activityLog x (of_decide_eq_true hx)]

/-- An index beyond `integer` is refused before the milestones are read. -/
theorem agrees_updateMilestone {serviceId : UUID} {n : ℤ} (hn : PgInt.store? 32 n = none)
    {body : MilestoneUpdate} {actor : UUID} :
    (MilestoneService.update env serviceId n body actor).Agrees db db' := by
  have hindex : (encode (some n) : Except DbError (PgInt 32)) = .error .data := by
    show orError .data (PgInt.store? 32 n) = _
    rw [hn]
    rfl
  have hrun : ∀ db, (MilestoneService.getByIndex serviceId n).run db = .error (.db .data) := by
    intro db
    rw [MilestoneService.getByIndex, hindex]
    rfl
  rw [Prog.agrees_iff, MilestoneService.update, Prog.run_bind_error (hrun db),
    Prog.run_bind_error (hrun db')]

/-- **A confined request** does the same on both databases. -/
theorem agrees_of_confined (hrole : u.role = .clientUser) (hsame : SameAccount u db db')
    {r : Request}
    (h : r.Confined p u) (hopen : r.isOpen = false) {m : Tx Response}
    (hm : (route p s env r).guard (.ok u) = .ok m) : m.Agrees db db' := by
  have huser : ∀ {f : User → Tx Response}, (Handler.currentUser f).guard (.ok u) = .ok m →
    m = f u := by
    intro f hf
    obtain ⟨u', hu, rfl⟩ := Handler.guard_currentUser.1 hf
    rw [Except.ok.inj hu]
  have hstaff : ∀ {roles : List Role} {f : User → Tx Response}, Role.clientUser ∉ roles →
      (Handler.requireRole roles f).guard (.ok u) ≠ .ok m := by
    intro roles f hroles hf
    obtain ⟨u', hu, hmem, -⟩ := Handler.guard_requireRole.1 hf
    obtain rfl := Except.ok.inj hu
    exact hroles (hrole ▸ hmem)
  cases r with
  | listLeads query =>
    obtain rfl := huser hm
    exact .liftExcept_bind fun f hf ↦ .bind (agrees_beyond (h f hf)) fun _ _ _ ↦ rfl
  | listClients query =>
    obtain rfl := huser hm
    exact .liftExcept_bind fun f hf ↦
      .bind (agrees_listClients_of_confined hsame h hf) fun _ _ _ ↦ rfl
  | getClient clientId =>
    obtain rfl := huser hm
    exact .bind (agrees_getClientDetail hsame h) fun _ _ _ ↦ rfl
  | listContacts clientId =>
    obtain rfl := huser hm
    exact .bind (agrees_listContacts (hsame.client clientId h)) fun _ _ _ ↦ rfl
  | listServices query =>
    obtain rfl := huser hm
    exact .liftExcept_bind fun f hf ↦
      .bind (agrees_listServices_of_confined hsame h hf) fun _ _ _ ↦ rfl
  | updateMilestone serviceId n body =>
    obtain rfl := huser hm
    exact .bind (agrees_updateMilestone h) fun _ _ _ ↦ rfl
  | health | root =>
    obtain ⟨-, rfl⟩ := Handler.guard_anonymous.1 hm
    rfl
  | getLead | updateLead | updateLeadStatus | getService | updateService | changeServiceState
  | listMilestones | createMilestone => exact h.elim
  | createLead | getMyClient | listMyServices | getMyService | getMyServiceDiagnostic
  | listMyContacts | listMyActivity | listMyMessages | sendMyMessage | listMyTickets
  | createMyTicket | updateMyTicket | login | logout | authMe => exact nomatch hopen
  | _ => exact absurd hm (hstaff (by decide))

/-- **A confined request commits nothing.** -/
theorem Step.not_confined {r : Request} {resp : Response} (h : Step p s env db (.ok u) r resp db')
    (hrole : u.role = .clientUser) (hopen : r.isOpen = false) : ¬r.Confined p u := by
  have hstaff : ∀ {roles : List Role}, u.role ∈ roles → Role.clientUser ∈ roles := fun h ↦ hrole ▸ h
  intro hconfined
  cases h with
  | @updateMilestone _ serviceId n body m m' log hservice hn hm hlog =>
    have hsome : PgInt.store? 32 n = some m.n := hn ▸ PgInt.store?_val m.n
    rw [show PgInt.store? 32 n = none from hconfined] at hsome
    exact nomatch hsome
  | updateLead | updateLeadStatus | updateService | changeServiceState | createMilestone =>
    exact hconfined
  | createLead | sendMyMessage | createMyTicket | updateMyTicket => exact nomatch hopen
  | assignLead h | convertLead h | createClient h | updateClient h | changeClientStage h
  | createContact h | updateContact h | deleteContact h | createService h | deleteMilestone h
  | createBillingProfile h | updateBillingProfile h | deleteBillingProfile h
  | setDefaultBillingProfile h | createClientMessage h | updateTicketInternal h =>
    exact absurd (hstaff h) (by decide)

theorem isolated_of_confined (hrole : u.role = .clientUser) (hactive : u.isActive = true)
    {call : Call}
    (hopen : ∀ r ∈ call.endpoint?, r.isOpen = false) (h : call.Confined p u) :
    Isolated p s env u call where
  unchanged db hvalid hu := by
    have hcurrent := currentUser_of_mem hvalid hu hactive
    rcases handle_cases p s env db (.ok u.email.val) call with ⟨hsame, -⟩ | ⟨r, r', rfl, hv, hstep⟩
    · exact hsame
    · rw [hcurrent] at hstep
      have hopen' : r'.isOpen = false := (sameKind_of_validate? hv).isOpen.trans (hopen r rfl)
      exact absurd (h r' hv) (hstep.not_confined hrole hopen')
  independent db db' hvalid hvalid' hu hu' hsame := by
    have hcurrent := currentUser_of_mem hvalid hu hactive
    refine handle_congr (hcurrent.trans (currentUser_of_mem hvalid' hu' hactive).symm) ?_
    rintro r r' m rfl hv hg
    have hopen' : r'.isOpen = false := (sameKind_of_validate? hv).isOpen.trans (hopen r rfl)
    exact agrees_of_confined hrole hsame (h r' hv) hopen' (hcurrent ▸ hg)

end Confined

/-! ### Databases with and without a stranger -/

/-- A client, of whom nothing but the id matters. -/
def Client.blank (k : UUID) : Client where
  id := k
  createdAt := 0
  updatedAt := 0
  name := .lit "Acme"
  sector := none
  size := none
  region := none
  ownerId := none
  stage := .lead
  enteredAt := 0
  mrrCents := none
  lifetimeValueCents := none

/-- A contact of a client. -/
def Contact.blank (clientId : UUID) : Contact where
  id := 0
  createdAt := 0
  updatedAt := 0
  clientId := clientId
  name := .lit "Ada"
  role := none
  email := none
  phone := none
  isPrimary := false

/-- A service of a client. -/
def Service.blank (k clientId : UUID) : Service where
  id := k
  createdAt := 0
  updatedAt := 0
  clientId := clientId
  ownerId := none
  type := .assessment
  title := .lit "Audit"
  state := .scoping
  progressPct := none
  startedAt := none
  endedAt := none
  setupPriceCents := none
  monthlyCents := none
  scoreInt := none
  diagnosticJson := none

/-- A milestone of a service. -/
def Milestone.blank (serviceId : UUID) (n : PgInt 32) : Milestone where
  id := 0
  serviceId := serviceId
  n := n
  title := .lit "Kick-off"
  dueDate := none
  completedAt := none

/-- A lead that satisfies the filters of a list. -/
def Lead.matching (k : UUID) (f : LeadFilters) : Lead where
  id := k
  createdAt := 0
  updatedAt := 0
  name := .lit "Ada"
  email := .lit "ada@example.com"
  phone := none
  company := none
  vertical := f.vertical.getD .general
  channel := f.channel.getD .webForm
  status := f.status.getD .new
  sourceUrl := none
  notes := none
  ownerId := none
  rawPayload :=
    ⟨[], ⟨"Ada", "ada@example.com", none, none, .general, .webForm, none, none, none⟩, 0, ""⟩
  convertedClientId := none
  role := none

/-- An account with another address. -/
def colleague (u : User) (k : UUID) : User :=
  .sample k (if u.email = .lit "a" then .lit "b" else .lit "a") .admin none

/-- The account alone, with its client. -/
def home (u : User) : Db :=
  match u.clientId with
  | some c => (Db.empty.put (Client.blank c)).put u
  | none => Db.empty.put u

/-- The same, with the account of an owner if there is to be one. -/
def homeOf (u : User) : Option UUID → Db
  | some k => (home u).put (colleague u k)
  | none => home u

section Home

variable {u : User} {db : Db}

theorem home_eq (u : User) : home u =
    { Db.empty with
      users := Table.empty.insert u
      clients := (u.clientId.map fun c ↦ Table.empty.insert (Client.blank c)).getD .empty } := by
  rw [home]
  rcases u.clientId with - | c <;> rfl

theorem homeOf_eq (u : User) (o : Option UUID) :
    homeOf u o = { home u with users := (homeOf u o).users } := by
  rcases o with - | k <;> rfl

/-! Only accounts and the client of the account are there. -/

@[simp] theorem leads_home (u : User) : (home u).leads = .empty :=
  congrArg Db.leads (home_eq u)

@[simp] theorem contacts_home (u : User) : (home u).contacts = .empty :=
  congrArg Db.contacts (home_eq u)

@[simp] theorem milestones_home (u : User) : (home u).milestones = .empty :=
  congrArg Db.milestones (home_eq u)

@[simp] theorem services_home (u : User) : (home u).services = .empty :=
  congrArg Db.services (home_eq u)

@[simp] theorem services_homeOf (u : User) (o : Option UUID) : (homeOf u o).services = .empty :=
  (congrArg Db.services (homeOf_eq u o)).trans (services_home u)

theorem valid_home (u : User) : (home u).Valid := by
  have hno : ∀ {x : User} {db : Db}, db.users = .empty → refersTo db.clients x.clientId = true →
      checkRow db x = .ok () := fun {x db} hempty hrefers ↦
    checkRow_eq_ok_iff.2 ⟨fun y hy ↦ absurd (hempty ▸ hy : y ∈ (Table.empty : Table User))
      Table.not_mem_empty, hrefers⟩
  rw [home]
  rcases hc : u.clientId with - | c
  · exact Db.valid_empty.put fun _ ↦ hno rfl (by rw [hc]; rfl)
  · refine (Db.valid_empty.put fun _ ↦ rfl).put fun _ ↦ hno rfl ?_
    rw [hc]
    exact Table.has_iff.2 ⟨_, Table.mem_insert_self rfl, rfl⟩

theorem mem_home (u : User) : u ∈ (home u).users := by
  rw [home_eq]
  exact Table.mem_insert_self rfl

theorem valid_homeOf (u : User) (o : Option UUID) : (homeOf u o).Valid := by
  rcases o with - | k
  · exact valid_home u
  · refine (valid_home u).put fun _ ↦ checkRow_eq_ok_iff.2 ⟨fun x hx _ hagrees ↦ ?_, rfl⟩
    have husers : x ∈ (home u).users := hx
    rw [home_eq, Table.mem_insert rfl] at husers
    rcases husers with hx | rfl
    · exact absurd hx Table.not_mem_empty
    · -- The two addresses are not the same.
      have hemail : x.email = if x.email = .lit "a" then .lit "b" else .lit "a" := hagrees
      split at hemail
      · next ha =>
        rw [ha] at hemail
        exact absurd hemail (by decide)
      · next ha => exact ha hemail

theorem mem_homeOf (u : User) (o : Option UUID) : u ∈ (homeOf u o).users := by
  rcases o with - | k
  · exact mem_home u
  · exact Table.mem_insert_of_mem (mem_home u)

theorem refersTo_homeOf (u : User) (o : Option UUID) : refersTo (homeOf u o).users o = true := by
  rcases o with - | k
  · rfl
  · exact Table.has_insert_self (home u).users (colleague u k)

theorem has_client_homeOf {o : Option UUID} {k : UUID} (hk : u.clientId ≠ some k) :
    (homeOf u o).clients.has k = false := by
  rw [homeOf_eq, home_eq]
  rcases hc : u.clientId with - | c
  · rfl
  · refine Table.has_eq_false_iff.2 fun x hx hkey ↦ hk ?_
    have hx' : x ∈ (Table.empty.insert (Client.blank c) : Table Client) := hx
    rcases (Table.mem_insert rfl).1 hx' with hx' | rfl
    · exact absurd hx' Table.not_mem_empty
    · rw [hc]
      exact congrArg some hkey

/-! ### Rows of strangers -/

theorem AgreeOn.trans {c : UUID} {db₁ db₂ db₃ : Db} (h : AgreeOn c db₁ db₂)
    (h' : AgreeOn c db₂ db₃) :
    AgreeOn c db₁ db₃ where
  client x hx := (h.client x hx).trans (h'.client x hx)
  contacts x hx := (h.contacts x hx).trans (h'.contacts x hx)
  services x hx := (h.services x hx).trans (h'.services x hx)
  milestones sv hsv hc x hx := (h.milestones sv hsv hc x hx).trans
    (h'.milestones sv ((h.services sv hc).1 hsv) hc x hx)
  tickets x hx := (h.tickets x hx).trans (h'.tickets x hx)
  messages x hx := (h.messages x hx).trans (h'.messages x hx)
  activityLog x hx := (h.activityLog x hx).trans (h'.activityLog x hx)

theorem SameAccount.trans {db₁ db₂ db₃ : Db} (h : SameAccount u db₁ db₂)
    (h' : SameAccount u db₂ db₃) :
    SameAccount u db₁ db₃ where
  client c hc := (h.client c hc).trans (h'.client c hc)
  billingProfiles c hc x hx := (h.billingProfiles c hc x hx).trans (h'.billingProfiles c hc x hx)

theorem AgreeOn.refl (c : UUID) (db : Db) : AgreeOn c db db :=
  ⟨fun _ _ ↦ .rfl, fun _ _ ↦ .rfl, fun _ _ ↦ .rfl, fun _ _ _ _ _ ↦ .rfl, fun _ _ ↦ .rfl,
    fun _ _ ↦ .rfl, fun _ _ ↦ .rfl⟩

theorem sameAccount_put_lead (x : Lead) : SameAccount u (db.put x) db where
  client c _ := { AgreeOn.refl c db with }
  billingProfiles _ _ _ _ := .rfl

theorem sameAccount_put_client {x : Client} (hx : u.clientId ≠ some x.id) :
    SameAccount u (db.put x) db where
  client c hc := { AgreeOn.refl c db with
    client := fun y hy ↦ Table.mem_insert_of_ne fun h ↦ hx (by rw [hc, ← hy, h]) }
  billingProfiles _ _ _ _ := .rfl

theorem sameAccount_put_contact {x : Contact} (hx : u.clientId ≠ some x.clientId) :
    SameAccount u (db.put x) db where
  client c hc := { AgreeOn.refl c db with
    contacts := fun y hy ↦ Table.mem_insert_of_ne fun h ↦ hx (by rw [hc, ← hy, h]) }
  billingProfiles _ _ _ _ := .rfl

theorem sameAccount_put_service {x : Service} (hx : u.clientId ≠ some x.clientId) :
    SameAccount u (db.put x) db where
  client c hc := { AgreeOn.refl c db with
    services := fun y hy ↦ Table.mem_insert_of_ne fun h ↦ hx (by rw [hc, ← hy, h])
    milestones := fun _ _ _ _ _ ↦ .rfl }
  billingProfiles _ _ _ _ := .rfl

theorem sameAccount_put_milestone {x : Milestone}
    (hx : ∀ sv ∈ db.services, u.clientId = some sv.clientId → x.serviceId ≠ sv.id) :
    SameAccount u (db.put x) db where
  client c hc := { AgreeOn.refl c db with
    milestones := fun sv hsv hclient y hy ↦ Table.mem_insert_of_ne fun h ↦
      hx sv hsv (by rw [hc, hclient]) (by rw [← h, hy]) }
  billingProfiles _ _ _ _ := .rfl

end Home

/-! ### What is not confined -/

/-- **The transaction tells two databases apart** that agree on the account. -/
def Tells (u : User) (m : Tx Response) : Prop :=
  ∃ db db', db.Valid ∧ db'.Valid ∧ u ∈ db.users ∧ u ∈ db'.users ∧ SameAccount u db db' ∧
    (respond m db).1 ≠ (respond m db').1

section Leaks

variable {p : Platform} {s : Settings} {env : Env} {u : User} {k : UUID}

/-- One that finds something in the one database, and answers 404 in the other. -/
theorem tells_of_status {m : Tx Response} {db : Db} (hvalid : db.Valid) (hu : u ∈ db.users)
    (hsame : SameAccount u db (home u)) (hok : m.Ensures db fun resp _ ↦ resp.status ≠ 404)
    (herr : m.Refuses db Fault.Present) {f : Fault} (hrun : m.run (home u) = .error f)
    (hf : f.response.status = 404) : Tells u m := by
  refine ⟨db, home u, hvalid, valid_home u, hu, mem_home u, hsame, fun h ↦ ?_⟩
  have hstatus : (respond m db).1.status ≠ 404 := status_respond (S := fun n ↦ n ≠ 404) hok herr
  rw [h, respond, Prog.transact_of_error hrun] at hstatus
  exact hstatus hf

/-- An answer that is never 404. -/
theorem ensures_answer {α : Type} {m : Tx α} {db : Db} {f : α → Response}
    (h : ∀ a, (f a).status ≠ 404) :
    (m >>= fun a ↦ return f a : Tx Response).Ensures db fun resp _ ↦ resp.status ≠ 404 :=
  Prog.ensures_bind.2 fun a _ _ ↦ Prog.ensures_ret.2 (h a)

theorem serviceAnswer_ne_404 {status : ℕ} (h : status ≠ 404) (x : ServiceWithMilestones) :
    (serviceAnswer p status x).status ≠ 404 := by
  rw [serviceAnswer]
  split
  · exact h
  · show 400 ≠ 404
    decide

/-- A lookup that finds nothing. -/
theorem run_fetch_of_missing {ρ : Type} [Keyed ρ UUID] {t : Db → Table ρ} {db : Db}
    {sees : ρ → Bool}
    {f : Fault} (h : (t db).find? k = none) :
    (.query (fun db ↦ ((t db).find? k).filter sees) >>= fun found ↦ .demand found f : Tx ρ).run db =
      .error f :=
  Prog.run_lookup_none db (by rw [h, Option.filter_none]) f

/-- A lookup that finds a row in scope. -/
theorem refuses_fetch {ρ : Type} [Keyed ρ UUID] {t : Db → Table ρ} {db : Db}
    {sees : ρ → Bool} {x : ρ}
    {f : Fault} {P : Fault → Prop} (hx : x ∈ t db) (hsees : sees x = true) :
    (.query (fun db ↦ ((t db).find? (key x)).filter sees) >>= fun found ↦ .demand found f :
      Tx ρ).Refuses db P := by
  refine Prog.refuses_bind.2 ⟨Prog.refuses_query, Prog.ensures_query.2 (Prog.refuses_demand.2 ?_)⟩
  rw [Table.find?_of_mem hx, Option.filter_some, if_pos hsees]
  exact fun h ↦ nomatch h

/-- The account is in no scoping clause. -/
theorem sees_of_clientUser (hrole : u.role = .clientUser) (o : Option UUID) : u.sees o = true := by
  rw [User.sees, User.ownerScoped, hrole]
  rfl

theorem seesService_of_clientUser (hrole : u.role = .clientUser) (x : Service) :
    u.seesService x = true := by
  rw [User.seesService, hrole]
  rfl

/-- The account, and a lead. -/
def withLead (u : User) (x : Lead) : Db := (home u).put x

/-- The lead is one of the database. -/
theorem mem_withLead (u : User) (x : Lead) : x ∈ (withLead u x).leads := by
  show x ∈ (home u).leads.insert x
  rw [leads_home]
  exact Table.mem_insert_self rfl

theorem find_lead_home (u : User) (k : UUID) : (home u).leads.find? k = none := by
  rw [leads_home]
  rfl

theorem valid_withLead (u : User) (f : LeadFilters) (k : UUID) :
    (withLead u (.matching k f)).Valid :=
  (valid_home u).put fun _ ↦ checkRow_eq_ok_iff.2 ⟨fun _ _ _ ↦ not_false, rfl⟩

/-- A lead by its id: it is found in the one database only. -/
theorem tells_lead {m : Tx Lead} (k : UUID)
    (herr : ∀ x : Lead, x.id = k → m.Refuses (withLead u x) Fault.Present) {f : Fault}
    (hrun : m.run (home u) = .error f) (hf : f.response.status = 404) :
    Tells u (m >>= fun l ↦ return leadAnswer 200 l) := by
  let x : Lead := .matching k ⟨none, none, none, 50, 0⟩
  have hanswer : ∀ l, (leadAnswer 200 l).status ≠ 404 := fun _ ↦ show 200 ≠ 404 by decide
  have hvalid : (withLead u x).Valid := valid_withLead u _ k
  exact tells_of_status hvalid (mem_home u) (sameAccount_put_lead x) (ensures_answer hanswer)
    (.bind (herr x rfl) fun _ _ ↦ Prog.refuses_ret) (Prog.run_bind_error hrun _) hf

theorem refuses_getForUser (hrole : u.role = .clientUser) (x : Lead) {P : Fault → Prop} :
    (LeadService.getForUser u x.id).Refuses (withLead u x) P :=
  refuses_fetch (mem_withLead u x) (sees_of_clientUser hrole _)

theorem run_getForUser_home (u : User) (k : UUID) :
    (LeadService.getForUser u k).run (home u) = .error (.leadNotFound k) :=
  run_fetch_of_missing (find_lead_home u k)

/-- What goes on after the lookup has its exceptions mapped. -/
theorem run_mapError_home {m : Lead → Tx Lead} (g : Fault → Fault) (k : UUID) :
    ((LeadService.getForUser u k >>= m).mapError g).run (home u) =
      .error (g (.leadNotFound k)) := by
  rw [Prog.run_mapError, Prog.run_bind_error (run_getForUser_home u k)]

theorem tells_getLead (hrole : u.role = .clientUser) (k : UUID) :
    Tells u (LeadService.getForUser u k >>= fun l ↦ return leadAnswer 200 l) := by
  refine tells_lead k ?_ (run_getForUser_home u k) rfl
  rintro x rfl
  exact refuses_getForUser hrole x

theorem tells_updateLead (hrole : u.role = .clientUser) (k : UUID) (body : LeadUpdate) :
    Tells u ((LeadService.update env u k body).mapError leadNotFoundHttp >>= fun l ↦
      return leadAnswer 200 l) := by
  refine tells_lead k ?_ (run_mapError_home leadNotFoundHttp k) rfl
  rintro x rfl
  refine Prog.refuses_mapError.2 (.bind (refuses_getForUser hrole x) fun _ _ ↦ ?_)
  exact .bind (Session.refuses_flush present_db) fun _ _ ↦ Session.refuses_refresh present_unhandled

theorem tells_updateLeadStatus (hrole : u.role = .clientUser) (k : UUID) (status : LeadStatus) :
    Tells u ((LeadService.updateStatus env u k status).mapError leadStatusHttp >>= fun l ↦
      return leadAnswer 200 l) := by
  refine tells_lead k ?_ (run_mapError_home leadStatusHttp k) rfl
  rintro x rfl
  refine Prog.refuses_mapError.2 (.bind (refuses_getForUser hrole x) fun _ _ ↦ ?_)
  refine .bind (Prog.refuses_require.2 fun _ ↦ show 409 ≠ 404 by decide) fun _ _ ↦ ?_
  exact .bind (Session.refuses_flush present_db) fun _ _ ↦ Session.refuses_refresh present_unhandled

/-- A client that is not the one of the account. -/
def stranger (u : User) : UUID := u.clientId.elim 0 (· + 1)

theorem stranger_ne (u : User) : u.clientId ≠ some (stranger u) := by
  rw [stranger]
  rcases u.clientId with - | c
  · exact nofun
  · exact fun h ↦ absurd (Option.some.inj h) (Nat.ne_of_lt (Nat.lt_succ_self c))

/-- The account, and a service of a stranger with one milestone. -/
def withService (u : User) (k : UUID) (n : PgInt 32) : Db :=
  (((home u).put (Client.blank (stranger u))).put (Service.blank k (stranger u))).put
    (Milestone.blank k n)

theorem services_withService (u : User) (k : UUID) (n : PgInt 32) :
    (withService u k n).services = Table.empty.insert (Service.blank k (stranger u)) := by
  show (home u).services.insert _ = _
  rw [services_home]

theorem milestones_withService (u : User) (k : UUID) (n : PgInt 32) :
    (withService u k n).milestones = Table.empty.insert (Milestone.blank k n) := by
  show (home u).milestones.insert _ = _
  rw [milestones_home]

theorem mem_withService (u : User) (k : UUID) (n : PgInt 32) :
    Service.blank k (stranger u) ∈ (withService u k n).services := by
  rw [services_withService]
  exact Table.mem_insert_self rfl

theorem valid_put_client {db : Db} (h : db.Valid) (k : UUID) : (db.put (Client.blank k)).Valid :=
  h.put fun _ ↦ checkRow_eq_ok_iff.2 ⟨fun _ _ _ ↦ not_false, rfl⟩

/-- The row that has just been stored is there. -/
theorem has_put_client (db : Db) (x : Client) : (db.put x).clients.has x.id = true :=
  Table.has_insert_self db.clients x

theorem valid_withService (u : User) (k : UUID) (n : PgInt 32) : (withService u k n).Valid := by
  refine ((valid_put_client (valid_home u) _).put fun _ ↦ ?_).put fun _ ↦ ?_
  · refine checkRow_eq_ok_iff.2 ⟨fun _ _ _ ↦ not_false, ?_⟩
    exact Bool.and_eq_true_iff.2 ⟨has_put_client _ (Client.blank (stranger u)), rfl⟩
  · refine checkRow_eq_ok_iff.2 ⟨fun x hx ↦ ?_, ?_⟩
    · have hx' : x ∈ (home u).milestones := hx
      rw [milestones_home] at hx'
      exact absurd hx' Table.not_mem_empty
    · exact Table.has_iff.2 ⟨_, mem_withService u k n, rfl⟩

theorem sameAccount_withService (u : User) (k : UUID) (n : PgInt 32) :
    SameAccount u (withService u k n) (home u) := by
  refine (sameAccount_put_milestone fun sv hsv hclient ↦ ?_).trans
    ((sameAccount_put_service (stranger_ne u)).trans (sameAccount_put_client (stranger_ne u)))
  -- The one service belongs to the stranger.
  have hsv' : sv ∈ (withService u k n).services := hsv
  rw [services_withService, Table.mem_insert rfl] at hsv'
  rcases hsv' with hsv' | rfl
  · exact absurd hsv' Table.not_mem_empty
  · exact absurd hclient (stranger_ne u)

theorem find_service_home (u : User) (k : UUID) : (home u).services.find? k = none := by
  rw [services_home]
  rfl

/-- A service by its id. -/
theorem tells_service {α : Type} {m : Tx α} {answer : α → Response}
    (hanswer : ∀ a, (answer a).status ≠ 404) (k : UUID) (n : PgInt 32)
    (herr : m.Refuses (withService u k n) Fault.Present) {f : Fault}
    (hrun : m.run (home u) = .error f)
    (hf : f.response.status = 404) : Tells u (m >>= fun a ↦ return answer a) :=
  tells_of_status (valid_withService u k n) (mem_home u) (sameAccount_withService u k n)
    (ensures_answer hanswer) (.bind herr fun _ _ ↦ Prog.refuses_ret) (Prog.run_bind_error hrun _) hf

/-- A milestone index. -/
def firstIndex : PgInt 32 := ⟨1, by decide⟩

theorem refuses_getServiceForWrite (hrole : u.role = .clientUser) (k : UUID) (n : PgInt 32)
    {P : Fault → Prop} : (ServiceService.getServiceForWrite u k).Refuses (withService u k n) P :=
  refuses_fetch (mem_withService u k n) (seesService_of_clientUser hrole _)

theorem run_getServiceForWrite_home (u : User) (k : UUID) :
    (ServiceService.getServiceForWrite u k).run (home u) = .error (.serviceNotFound k) :=
  run_fetch_of_missing (find_service_home u k)

theorem tells_getService (hrole : u.role = .clientUser) (k : UUID) :
    Tells u (ServiceService.getServiceDetail u k >>= fun x ↦ return serviceAnswer p 200 x) :=
  tells_service (serviceAnswer_ne_404 (by decide)) k firstIndex
    (.bind (refuses_getServiceForWrite hrole k _) fun _ _ ↦ Prog.refuses_query)
    (Prog.run_bind_error (run_getServiceForWrite_home u k) _) rfl

theorem present_refresh {db : Db} (k : UUID) :
    (ServiceService.refresh k).Refuses db Fault.Present :=
  .bind (Session.refuses_refresh present_unhandled) fun _ _ ↦ Prog.refuses_query

theorem tells_updateService (hrole : u.role = .clientUser) (k : UUID) (body : ServiceUpdate) :
    Tells u (ServiceService.updateService env u k body >>= fun x ↦ return serviceAnswer p 200 x) :=
  tells_service (serviceAnswer_ne_404 (by decide)) k firstIndex
    (.bind (refuses_getServiceForWrite hrole k _) fun _ _ ↦
      .bind (Session.refuses_flush present_db) fun _ _ ↦ present_refresh k)
    (Prog.run_bind_error (run_getServiceForWrite_home u k) _) rfl

theorem tells_changeServiceState (hrole : u.role = .clientUser) (k : UUID) (state : String) :
    Tells u (ServiceService.changeState env u k state >>= fun x ↦
      return serviceAnswer p 200 x) := by
  refine tells_service (serviceAnswer_ne_404 (by decide)) k firstIndex
    (.bind (refuses_getServiceForWrite hrole k _) fun _ _ ↦ ?_)
    (Prog.run_bind_error (run_getServiceForWrite_home u k) _) rfl
  refine .bind (Prog.refuses_require.2 fun _ ↦ show 409 ≠ 404 by decide) fun _ _ ↦ ?_
  refine .bind (Session.refuses_flush present_db) fun _ _ ↦ ?_
  exact .bind present_add fun _ _ ↦ present_refresh k

theorem tells_createMilestone (u : User) (k : UUID) (body : MilestoneCreate) :
    Tells u (MilestoneService.createUnderService env k body >>= fun x ↦
      return ⟨201, .milestone x⟩) := by
  refine tells_service (f := .serviceNotFound k) (fun _ ↦ show 201 ≠ 404 by decide) k firstIndex
    (refuses_createUnderService (mem_withService u k firstIndex)) (Prog.run_bind_error ?_ _) rfl
  exact Prog.run_lookup_none (q := fun db : Db ↦ db.services.find? k) _ (find_service_home u k) _

theorem tells_updateMilestone (u : User) (k : UUID) (n : PgInt 32) (body : MilestoneUpdate) :
    Tells u (MilestoneService.update env k n.val body u.id >>= fun x ↦
      return ⟨200, .milestone x⟩) := by
  have hmem : Milestone.blank k n ∈ (withService u k n).milestones := by
    rw [milestones_withService]
    exact Table.mem_insert_self rfl
  refine tells_service (f := .milestoneNotFound k n.val) (fun _ ↦ show 200 ≠ 404 by decide) k n
    (refuses_update hmem) (Prog.run_bind_error ?_ _) rfl
  have hindex : (encode (some n.val) : Except DbError (PgInt 32)) = .ok n := encode_decode n
  have hnone : ∀ x ∈ (home u).milestones, x.serviceId = k → x.n.val ≠ n.val := by
    rw [milestones_home]
    exact fun x hx ↦ absurd hx Table.not_mem_empty
  have hrun := run_getByIndex_of_missing hnone
  rwa [hindex] at hrun

/-- The list of the milestones of a service. -/
theorem tells_listMilestones (u : User) (k : UUID) :
    Tells u (MilestoneService.listMilestones k >>= fun x ↦ return ⟨200, .milestones x⟩) := by
  refine ⟨withService u k firstIndex, home u, valid_withService u k _, valid_home u, mem_home u,
    mem_home u, sameAccount_withService u k _, fun h ↦ ?_⟩
  have hlists : ServiceService.milestonesOf (withService u k firstIndex) k =
      ServiceService.milestonesOf (home u) k := Body.milestones.inj (congrArg Response.body h)
  have hmem : Milestone.blank k firstIndex ∈
      ServiceService.milestonesOf (withService u k firstIndex) k := by
    rw [ServiceService.milestonesOf, mem_selectAsc, milestones_withService]
    exact ⟨Table.mem_insert_self rfl, decide_eq_true rfl⟩
  rw [hlists, ServiceService.milestonesOf, mem_selectAsc, milestones_home] at hmem
  exact Table.not_mem_empty hmem.1

/-- The account, another client, and a contact of theirs. -/
def withContact (u : User) (k : UUID) : Db := ((home u).put (Client.blank k)).put (Contact.blank k)

theorem mem_withContact (u : User) (k : UUID) : Contact.blank k ∈ (withContact u k).contacts := by
  show Contact.blank k ∈ (home u).contacts.insert _
  rw [contacts_home]
  exact Table.mem_insert_self rfl

theorem valid_withContact (u : User) (k : UUID) : (withContact u k).Valid :=
  (valid_put_client (valid_home u) k).put fun _ ↦ checkRow_eq_ok_iff.2
    ⟨fun _ _ _ ↦ not_false, has_put_client _ (Client.blank k)⟩

theorem sameAccount_withContact (hk : u.clientId ≠ some k) :
    SameAccount u (withContact u k) (home u) :=
  (sameAccount_put_contact hk).trans (sameAccount_put_client hk)

theorem tells_listContacts (hk : u.clientId ≠ some k) :
    Tells u (ContactService.listContacts p k >>= fun x ↦ return ⟨200, .contacts x⟩) := by
  refine ⟨withContact u k, home u, valid_withContact u k, valid_home u, mem_home u, mem_home u,
    sameAccount_withContact hk, fun h ↦ ?_⟩
  have hlists := Body.contacts.inj (congrArg Response.body h)
  dsimp only at hlists
  have hmem : Contact.blank k ∈ selectAsc (withContact u k).contacts
      (fun x ↦ decide (x.clientId = k)) fun x ↦ p.collate x.name.val :=
    mem_selectAsc.2 ⟨mem_withContact u k, decide_eq_true rfl⟩
  rw [hlists, mem_selectAsc, contacts_home] at hmem
  exact Table.not_mem_empty hmem.1

theorem tells_getClient (hrole : u.role = .clientUser) (hk : u.clientId ≠ some k) :
    Tells u (ClientService.getClientDetail u k >>= fun x ↦ return clientDetailAnswer p x) := by
  have hnew : (home u).clients.has k = false := has_client_homeOf (o := none) hk
  have hmem : Client.blank k ∈ (withContact u k).clients := Table.mem_insert_self hnew
  have hget : (ClientService.getForUser u k).Refuses (withContact u k) Fault.Present :=
    refuses_fetch hmem (sees_of_clientUser hrole _)
  have hmissing : (ClientService.getForUser u k).run (home u) = .error (.clientNotFound k) :=
    run_fetch_of_missing (Option.isNone_iff_eq_none.1 (Option.isSome_eq_false_iff.1 hnew))
  refine tells_of_status (valid_withContact u k) (mem_home u) (sameAccount_withContact hk)
    (ensures_answer fun x ↦ ?_) (.bind (.bind hget fun _ _ ↦ ?_) fun _ _ ↦ Prog.refuses_ret)
    (Prog.run_bind_error (Prog.run_bind_error hmissing _) _) rfl
  · rw [clientDetailAnswer]
    split
    · show 200 ≠ 404
      decide
    · show 400 ≠ 404
      decide
  · exact .bind Prog.refuses_query fun _ _ ↦ .bind Prog.refuses_query fun _ _ ↦
      .bind Prog.refuses_query fun _ _ ↦ .bind Prog.refuses_query fun _ _ ↦ Prog.refuses_ret

/-! ### Lists -/

/-- The schemas of the filters check the page. -/
theorem checkPage_eq_ok_iff {limit offset : ℤ} :
    checkPage limit offset = .ok () ↔ Request.pageOk limit offset = true := by
  rw [checkPage]
  split
  · next h => exact iff_of_true rfl h
  · next h => exact iff_of_false nofun h

theorem LeadQuery.pageOk_of_bind {query : LeadQuery} {f : LeadFilters} (h : query.bind = .ok f) :
    Request.pageOk f.limit f.offset = true := by
  simp only [LeadQuery.bind, bind_eq_ok_iff, pure_eq_ok_iff] at h
  obtain ⟨limit, -, offset, -, vertical, -, channel, -, status, -, _, hpage, rfl⟩ := h
  exact checkPage_eq_ok_iff.1 hpage

theorem ClientQuery.pageOk_of_bind {query : ClientQuery} {f : ClientFilters}
    (h : query.bind p = .ok f) : Request.pageOk f.limit f.offset = true := by
  simp only [ClientQuery.bind, bind_eq_ok_iff, pure_eq_ok_iff] at h
  obtain ⟨limit, -, offset, -, ownerId, -, _, hpage, rfl⟩ := h
  exact checkPage_eq_ok_iff.1 hpage

theorem ServiceQuery.pageOk_of_bind {query : ServiceQuery} {f : ServiceFilters}
    (h : query.bind p = .ok f) : Request.pageOk f.limit f.offset = true := by
  simp only [ServiceQuery.bind, bind_eq_ok_iff, pure_eq_ok_iff] at h
  obtain ⟨limit, -, offset, -, clientId, -, ownerId, -, _, hpage, rfl⟩ := h
  exact checkPage_eq_ok_iff.1 hpage

/-- The answer of a transaction that returns. -/
theorem respond_of_run {α : Type} {m : Tx α} {db db' : Db} {a : α} (h : m.run db = .ok (a, db'))
    (answer : α → Response) : (respond (m >>= fun a ↦ return answer a) db).1 = answer a := by
  rw [respond, Prog.transact_of_ok (Prog.run_bind_ok h _)]

theorem run_listForUser {f : LeadFilters} (hpage : Request.pageOk f.limit f.offset = true)
    (hoffset : f.offset ≤ Session.maxBigint) (db : Db) :
    (LeadService.listForUser u f).run db =
      .ok ((((selectDesc db.leads (LeadService.selects u f) Lead.createdAt).drop
          f.offset.toNat).take f.limit.toNat,
        db.leads.rows.countP (LeadService.selects u f)), db) := by
  rw [Listing.run_listForUser,
    Listing.answer_eq_ok rfl db (Request.inBigint_of_pageOk hpage hoffset)]
  rfl

theorem run_listClients {f : ClientFilters} (hpage : Request.pageOk f.limit f.offset = true)
    (hoffset : f.offset ≤ Session.maxBigint) (hstage : noNul f.stage = true)
    (hsector : noNul f.sector = true) (hq : noNul f.q = true) (db : Db) :
    (ClientService.listClients p u f).run db =
      .ok ((((selectDesc db.clients (ClientService.selects p u f) Client.createdAt).drop
          f.offset.toNat).take f.limit.toNat,
        db.clients.rows.countP (ClientService.selects p u f)), db) := by
  have hbind : (Listing.clients p u f).bindable = true := by
    show (noNul f.stage && (noNul f.sector && (noNul f.q && true))) = true
    rw [hstage, hsector, hq]
    rfl
  rw [Listing.run_listClients,
    Listing.answer_eq_ok hbind db (Request.inBigint_of_pageOk hpage hoffset)]
  rfl

theorem run_listServices {f : ServiceFilters} (hpage : Request.pageOk f.limit f.offset = true)
    (hoffset : f.offset ≤ Session.maxBigint) (hstate : noNul f.state = true)
    (htype : noNul f.type = true) (db : Db) :
    (ServiceService.listServices u f).run db =
      .ok (((((selectDesc db.services (ServiceService.selects u f) Service.createdAt).drop
          f.offset.toNat).take f.limit.toNat).map
            fun x ↦ ⟨x, ServiceService.milestonesOf db x.id⟩,
        db.services.rows.countP (ServiceService.selects u f)), db) := by
  have hbind : (Listing.services u f).bindable = true := by
    show (noNul f.state && (noNul f.type && true)) = true
    rw [hstate, htype]
    rfl
  rw [Listing.run_listServices,
    Listing.answer_eq_ok hbind db (Request.inBigint_of_pageOk hpage hoffset)]
  rfl

theorem tells_listLeads (hrole : u.role = .clientUser) {query : LeadQuery} {f : LeadFilters}
    (hf : query.bind = .ok f) (hoffset : f.offset ≤ Session.maxBigint) :
    Tells u (Prog.liftExcept query.bind >>= fun f ↦ LeadService.listForUser u f >>= fun x ↦
      return ⟨200, .leads ⟨x.1.map LeadRead.ofLead, x.2, f.limit, f.offset⟩⟩) := by
  have hpage := LeadQuery.pageOk_of_bind hf
  have hget : ∀ {α : Type} [DecidableEq α] (o : Option α) (a : α),
      o.all (fun y ↦ decide (y = o.getD a)) = true := by
    intro α _ o a
    rcases o with - | y
    · rfl
    · exact decide_eq_true rfl
  -- Whatever the filters are, there could be such a lead.
  have hselects : LeadService.selects u f (.matching 0 f) = true := by
    have hvertical : f.vertical.all (· = (Lead.matching 0 f).vertical) = true := hget _ _
    have hchannel : f.channel.all (· = (Lead.matching 0 f).channel) = true := hget _ _
    have hstatus : f.status.all (· = (Lead.matching 0 f).status) = true := hget _ _
    rw [LeadService.selects, sees_of_clientUser hrole, hvertical, hchannel, hstatus]
    rfl
  refine ⟨withLead u (.matching 0 f), home u, valid_withLead u f 0, valid_home u, mem_home u,
    mem_home u,
    sameAccount_put_lead _, fun h ↦ ?_⟩
  rw [hf, Prog.liftExcept, Prog.ret_bind, respond_of_run (run_listForUser hpage hoffset _),
    respond_of_run (run_listForUser hpage hoffset _)] at h
  simp only [Response.mk.injEq, Body.leads.injEq, Page.mk.injEq] at h
  have hnew : (home u).leads.has (key (Lead.matching 0 f)) = false := by
    rw [leads_home]
    rfl
  have hcount := Table.countP_insert hnew hselects
  exact absurd (hcount.symm.trans h.2.2.1) (Nat.succ_ne_self _)

theorem tells_listClients {query : ClientQuery} {f : ClientFilters} (hf : query.bind p = .ok f)
    (hstage : noNul f.stage = true) (hsector : noNul f.sector = true) (hq : noNul f.q = true)
    (hoffset : f.offset ≤ Session.maxBigint) {x : Client}
    (hx : ClientService.selects p u f x = true)
    (hown : u.clientId ≠ some x.id) :
    Tells u (Prog.liftExcept (query.bind p) >>= fun f ↦ ClientService.listClients p u f >>= fun x ↦
      return ⟨200, .clients ⟨x.1, x.2, f.limit, f.offset⟩⟩) := by
  have hpage := ClientQuery.pageOk_of_bind hf
  have hnew : (homeOf u x.ownerId).clients.has (key x) = false := has_client_homeOf hown
  have hcheck : checkRow (homeOf u x.ownerId) x = .ok () :=
    checkRow_eq_ok_iff.2 ⟨fun _ _ _ ↦ not_false, refersTo_homeOf u x.ownerId⟩
  refine ⟨(homeOf u x.ownerId).put x, homeOf u x.ownerId, (valid_homeOf u _).put fun _ ↦ hcheck,
    valid_homeOf u _, mem_homeOf u _, mem_homeOf u _, sameAccount_put_client hown, fun h ↦ ?_⟩
  rw [hf, Prog.liftExcept, Prog.ret_bind,
    respond_of_run (run_listClients hpage hoffset hstage hsector hq _),
    respond_of_run (run_listClients hpage hoffset hstage hsector hq _)] at h
  simp only [Response.mk.injEq, Body.clients.injEq, Page.mk.injEq] at h
  have hcount := Table.countP_insert hnew hx
  exact absurd (hcount.symm.trans h.2.2.1) (Nat.succ_ne_self _)

theorem tells_listServices {query : ServiceQuery} {f : ServiceFilters} (hf : query.bind p = .ok f)
    (hstate : noNul f.state = true) (htype : noNul f.type = true)
    (hoffset : f.offset ≤ Session.maxBigint) {x : Service}
    (hx : ServiceService.selects u f x = true)
    (hown : u.clientId ≠ some x.clientId) :
    Tells u (Prog.liftExcept (query.bind p) >>= fun f ↦ ServiceService.listServices u f >>= fun x ↦
      return servicesAnswer p x.1 x.2 f.limit f.offset) := by
  have hpage := ServiceQuery.pageOk_of_bind hf
  have hvalid : (((homeOf u x.ownerId).put (Client.blank x.clientId)).put x).Valid := by
    refine (valid_put_client (valid_homeOf u _) _).put fun _ ↦
      checkRow_eq_ok_iff.2 ⟨fun _ _ _ ↦ not_false, Bool.and_eq_true_iff.2 ⟨?_, ?_⟩⟩
    · exact has_put_client _ (Client.blank x.clientId)
    · exact refersTo_homeOf u x.ownerId
  refine ⟨((homeOf u x.ownerId).put (Client.blank x.clientId)).put x, homeOf u x.ownerId, hvalid,
    valid_homeOf u _, mem_homeOf u _, mem_homeOf u _,
    (sameAccount_put_service hown).trans (sameAccount_put_client hown), fun h ↦ ?_⟩
  rw [hf, Prog.liftExcept, Prog.ret_bind,
    respond_of_run (run_listServices hpage hoffset hstate htype _),
    respond_of_run (run_listServices hpage hoffset hstate htype _)] at h
  have hnew : (homeOf u x.ownerId).services.has (key x) = false := by
    rw [services_homeOf]
    rfl
  have hcount := Table.countP_insert hnew hx
  -- Without the service, the list is empty and can be read.
  have hnone : ((selectDesc (homeOf u x.ownerId).services (ServiceService.selects u f)
      Service.createdAt).drop f.offset.toNat).take f.limit.toNat = [] := by
    rw [services_homeOf]
    show ((([] : List Service).drop f.offset.toNat).take f.limit.toNat) = []
    rw [List.drop_nil, List.take_nil]
  have hread : ∀ total, servicesAnswer p [] total f.limit f.offset =
      ⟨200, .services ⟨[], total, f.limit, f.offset⟩⟩ := fun _ ↦ rfl
  dsimp only at h
  rw [hnone, List.map_nil, hread, servicesAnswer] at h
  split at h
  · simp only [Response.mk.injEq, Body.services.injEq, Page.mk.injEq] at h
    exact absurd (hcount.symm.trans h.2.2.1) (Nat.succ_ne_self _)
  · have hstatus : 400 = 200 := congrArg Response.status h
    exact absurd hstatus (by decide)

/-- Nothing that an isolated request runs tells two databases apart. -/
theorem not_tells_of_isolated (hactive : u.isActive = true) {r r' : Request} {m : Tx Response}
    (h : Isolated p s env u (.bound r)) (hv : r.validate? p = some r')
    (hneeds : r'.needsPortal = false)
    (hg : (route p s env r').guard (.ok u) = .ok m) : ¬Tells u m := by
  have hmounted : mounted s r = true := by
    rw [mounted, ← (sameKind_of_validate? hv).needsPortal, hneeds]
    exact Bool.or_true _
  have hrespond : ∀ db, db.Valid → u ∈ db.users →
      handle p s env db (.ok u.email.val) (.bound r) = respond m db := fun db hvalid hu ↦
    handle_of_admitted hmounted hv (by rw [currentUser_of_mem hvalid hu hactive, hg])
  rintro ⟨db, db', hvalid, hvalid', hu, hu', hsame, hne⟩
  refine hne ?_
  rw [← hrespond db hvalid hu, ← hrespond db' hvalid' hu']
  exact h.independent db db' hvalid hvalid' hu hu' hsame

/-- **An isolated request is confined**: what is not confined is found out by one of the databases
above. -/
theorem confined_of_isolated (hrole : u.role = .clientUser) (hactive : u.isActive = true)
    {call : Call}
    (h : Isolated p s env u call) : call.Confined p u := by
  cases call with
  | malformed | unreadable | unrouted => exact trivial
  | bound r =>
    intro r' hv
    have hquiet : ∀ {f : User → Tx Response}, route p s env r' = .currentUser f →
        r'.needsPortal = false → ¬Tells u (f u) := fun hroute hneeds ↦
      not_tells_of_isolated hactive h hv hneeds (by rw [hroute]; rfl)
    cases r' with
    | listLeads query =>
      intro f hf
      by_contra hoffset
      exact hquiet rfl rfl (tells_listLeads hrole hf (not_lt.1 hoffset))
    | getLead k => exact hquiet rfl rfl (tells_getLead hrole k)
    | updateLead k body => exact hquiet rfl rfl (tells_updateLead hrole k body)
    | updateLeadStatus k status => exact hquiet rfl rfl (tells_updateLeadStatus hrole k status)
    | listClients query =>
      intro f hf hstage hsector hq hoffset x hx
      by_contra hown
      exact hquiet rfl rfl (tells_listClients hf hstage hsector hq hoffset hx hown)
    | getClient k =>
      show u.clientId = some k
      by_contra hown
      exact hquiet rfl rfl (tells_getClient hrole hown)
    | listContacts k =>
      show u.clientId = some k
      by_contra hown
      exact hquiet rfl rfl (tells_listContacts hown)
    | listServices query =>
      intro f hf hstate htype hoffset x hx
      by_contra hown
      exact hquiet rfl rfl (tells_listServices hf hstate htype hoffset hx hown)
    | getService k => exact hquiet rfl rfl (tells_getService hrole k)
    | updateService k body => exact hquiet rfl rfl (tells_updateService hrole k body)
    | changeServiceState k state => exact hquiet rfl rfl (tells_changeServiceState hrole k state)
    | listMilestones k => exact hquiet rfl rfl (tells_listMilestones u k)
    | createMilestone k body => exact hquiet rfl rfl (tells_createMilestone u k body)
    | updateMilestone k n body =>
      refine Option.eq_none_iff_forall_ne_some.2 fun index hindex ↦ ?_
      obtain rfl : index.val = n := PgInt.val_of_store? hindex
      exact hquiet rfl rfl (tells_updateMilestone u k index body)
    | _ => exact trivial

end Leaks

/-- **A request outside the portal is isolated if and only if it is confined.** -/
theorem isolated_iff {p : Platform} {s : Settings} {env : Env} {u : User} {call : Call}
    (hrole : u.role = .clientUser) (hactive : u.isActive = true)
    (hopen : ∀ r ∈ call.endpoint?, r.isOpen = false) :
    Isolated p s env u call ↔ call.Confined p u :=
  ⟨confined_of_isolated hrole hactive, isolated_of_confined hrole hactive hopen⟩

/-- The detail of the account's own client. -/
theorem isolated_own :
    Isolated .sample .sample (.sample 60) tenant (.bound (.getClient 30)) :=
  have hopen : ∀ r ∈ (Call.bound (.getClient 30)).endpoint?, r.isOpen = false :=
    fun _ h ↦ Option.some.inj h ▸ rfl
  (isolated_iff rfl rfl hopen).2 fun _ h ↦ Option.some.inj h ▸ rfl

/-- **The service of another client** is shown to the account, and takes a milestone from it. -/
theorem foreign_not_isolated :
    tenant.role = .clientUser ∧ tenant.isActive = true ∧
      ¬Isolated .sample .sample (.sample 60) tenant (.bound (.getService 40)) ∧
      ¬Isolated .sample .sample (.sample 60) tenant
        (.bound (.createMilestone 40 ⟨1, "Kick-off", none⟩)) := by
  refine ⟨rfl, rfl, fun h ↦ ?_, fun h ↦ ?_⟩
  · have hnone : ∀ first, ∀ x ∈ (neighbourhoodDb first).billingProfiles, False := by decide +kernel
    have hsame : SameAccount tenant (neighbourhoodDb true) (neighbourhoodDb false) :=
      ⟨fun _ hc ↦ Option.some.inj hc ▸ agreeOn_neighbourhood,
        fun _ _ _ _ ↦ iff_of_false (hnone true _) (hnone false _)⟩
    have hanswer := congrArg Response.status (h.independent _ _ (valid_run _) (valid_run _)
      (mem_neighbourhood true) (mem_neighbourhood false) hsame)
    exact absurd hanswer (by decide +kernel)
  · have hmilestones := congrArg (fun db ↦ db.milestones.rows.length)
      (h.unchanged _ (valid_run _) (mem_neighbourhood true))
    exact absurd hmilestones (by decide +kernel)

end ZanovixCrm
