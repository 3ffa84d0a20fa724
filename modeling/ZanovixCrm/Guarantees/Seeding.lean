import ZanovixCrm.Scripts.SeedDemoCrm
import ZanovixCrm.Scripts.SeedDemoLeads
import ZanovixCrm.Scripts.SeedUsers

/-!
# Seeding again

The seed scripts are meant to be run again: on a database in which other people have worked
meanwhile, or after half of the demo data has been deleted. **A script that has succeeded once does
nothing when it is run again** (`seed_again`), and **it only adds** (`seed_adds`): what it names is
there afterwards, once, and what was there before still is, but for the link of the demo account and
the date of that change.

For the two scripts on one table this is `createMissing`. The script for the core domain goes
through four tables, each under a parent in the one before, and flushes in between. Its invariant is
`Inv`: the books of `Ensured` for each table, and that a child is only looked up under a parent that
has been. So the children of a client that is looked up for the first time have not been looked up
either, and no key is looked up twice. `Covers` is what it has achieved for a client; it carries
over to later states since nothing is removed from the books or from the tables (`Appended`).
-/

namespace ZanovixCrm

/-- Nothing is removed or changed, but for the client that the demo account is linked to, and the
date of the account. -/
structure OnlyAdds (db db' : Db) : Prop where
  users : ∀ u ∈ db.users, ∃ u' ∈ db'.users, u' = u ∨
    u.email = SeedDemoCrm.demoEmail ∧
      u' = { u with clientId := u'.clientId, updatedAt := u'.updatedAt }
  leads : db.leads.rows <+: db'.leads.rows
  clients : db.clients.rows <+: db'.clients.rows
  contacts : db.contacts.rows <+: db'.contacts.rows
  services : db.services.rows <+: db'.services.rows
  milestones : db.milestones.rows <+: db'.milestones.rows
  activityLog : db.activityLog.rows <+: db'.activityLog.rows
  billingProfiles : db'.billingProfiles = db.billingProfiles
  tickets : db'.tickets = db.tickets
  messages : db'.messages = db.messages

namespace SeedDemoCrm

variable {e : ScriptEnv} {db db' db'' : Db}

/-! ### What the script does to the tables -/

/-- Rows have been appended to the tables of the core domain and the log; the others are as they
were. -/
structure Appended (db db' : Db) : Prop where
  clients : db.clients.rows <+: db'.clients.rows
  services : db.services.rows <+: db'.services.rows
  contacts : db.contacts.rows <+: db'.contacts.rows
  milestones : db.milestones.rows <+: db'.milestones.rows
  activityLog : db.activityLog.rows <+: db'.activityLog.rows
  users : db'.users = db.users
  leads : db'.leads = db.leads
  billingProfiles : db'.billingProfiles = db.billingProfiles
  tickets : db'.tickets = db.tickets
  messages : db'.messages = db.messages

namespace Appended

theorem refl (db : Db) : Appended db db :=
  ⟨List.prefix_rfl, List.prefix_rfl, List.prefix_rfl, List.prefix_rfl, List.prefix_rfl, rfl, rfl,
    rfl, rfl, rfl⟩

theorem trans (h : Appended db db') (h' : Appended db' db'') : Appended db db'' where
  clients := h.clients.trans h'.clients
  services := h.services.trans h'.services
  contacts := h.contacts.trans h'.contacts
  milestones := h.milestones.trans h'.milestones
  activityLog := h.activityLog.trans h'.activityLog
  users := h'.users.trans h.users
  leads := h'.leads.trans h.leads
  billingProfiles := h'.billingProfiles.trans h.billingProfiles
  tickets := h'.tickets.trans h.tickets
  messages := h'.messages.trans h.messages

theorem mem_clients (h : Appended db db') {c : Client} (hc : c ∈ db.clients) : c ∈ db'.clients :=
  h.clients.subset hc

theorem mem_services (h : Appended db db') {s : Service} (hs : s ∈ db.services) :
    s ∈ db'.services :=
  h.services.subset hs

end Appended

/-- The rows that a flush has written. -/
structure Written (u : UnitOfWork) (db db' : Db) : Prop where
  appended : Appended db db'
  clients : ∃ new, u.clients = new.map .ok ∧ db'.clients.rows = db.clients.rows ++ new
  services : ∃ new, u.services = new.map .ok ∧ db'.services.rows = db.services.rows ++ new
  contacts : ∃ new, u.contacts = new.map .ok ∧ db'.contacts.rows = db.contacts.rows ++ new
  milestones : ∃ new, u.milestones = new.map .ok ∧ db'.milestones.rows = db.milestones.rows ++ new

/-- **A flush writes everything that was kept back**, or it fails. -/
theorem ensures_flush (u : UnitOfWork) (db : Db) :
    u.flush.Ensures db fun _ db' ↦ Written u db db' := by
  rw [UnitOfWork.flush, Prog.ensures_bind]
  refine (Session.ensures_addAll u.clients db).mono ?_
  rintro - _ ⟨newClients, clients, hnewClients, hclients, rfl⟩
  rw [Prog.ensures_bind]
  refine (Session.ensures_addAll u.services _).mono ?_
  rintro - _ ⟨newServices, services, hnewServices, hservices, rfl⟩
  rw [Prog.ensures_bind]
  refine (Session.ensures_addAll u.contacts _).mono ?_
  rintro - _ ⟨newContacts, contacts, hnewContacts, hcontacts, rfl⟩
  rw [Prog.ensures_bind]
  refine (Session.ensures_addAll u.milestones _).mono ?_
  rintro - _ ⟨newMilestones, milestones, hnewMilestones, hmilestones, rfl⟩
  refine (Session.ensures_addAll u.activity _).mono ?_
  rintro - _ ⟨newActivity, activity, -, hactivity, rfl⟩
  exact {
    appended := ⟨⟨newClients, hclients.symm⟩, ⟨newServices, hservices.symm⟩,
      ⟨newContacts, hcontacts.symm⟩, ⟨newMilestones, hmilestones.symm⟩,
      ⟨newActivity, hactivity.symm⟩, rfl, rfl, rfl, rfl, rfl⟩
    clients := ⟨newClients, hnewClients, hclients⟩
    services := ⟨newServices, hnewServices, hservices⟩
    contacts := ⟨newContacts, hnewContacts, hcontacts⟩
    milestones := ⟨newMilestones, hnewMilestones, hmilestones⟩ }

theorem ensures_progress_flush (st : Progress) (db : Db) :
    st.flush.Ensures db fun st' db' ↦ st' = { st with pending := .empty } ∧
      Written st.pending db db' := by
  rw [Progress.flush, Prog.ensures_bind]
  refine (ensures_flush st.pending db).mono fun _ db' hw ↦ ?_
  exact Session.ensures_pure.2 ⟨rfl, hw⟩

/-! ### Keys under a parent -/

section Parents

variable {ρ κ β : Type} [Keyed ρ UUID] {t t' : Table ρ} {f : ρ → κ} {looked looked' : List κ}
  {keys : List (UUID × β)} {r : ρ}

/-- If keys are looked up only under rows that have been looked up themselves, none has been under
another row. -/
theorem fresh_of_parents (h : ∀ a ∈ keys, ∃ r ∈ t, key r = a.1 ∧ f r ∈ looked)
    (hsub : ∀ r ∈ t, r ∈ t') (hr : r ∈ t') (hnew : f r ∉ looked) : ∀ a ∈ keys, a.1 ≠ key r := by
  intro a ha heq
  obtain ⟨r', hr', hid, hk⟩ := h a ha
  exact hnew (Table.eq_of_key_eq (hsub r' hr') hr (hid.trans heq) ▸ hk)

/-- One more key, under a row that has been looked up. -/
theorem parents_append (h : ∀ a ∈ keys, ∃ r ∈ t, key r = a.1 ∧ f r ∈ looked) (hr : r ∈ t)
    (hk : f r ∈ looked) (b : β) :
    ∀ a ∈ keys ++ [(key r, b)], ∃ r ∈ t, key r = a.1 ∧ f r ∈ looked := by
  intro a ha
  rcases List.mem_append.1 ha with ha | ha
  · exact h a ha
  · rw [List.mem_singleton.1 ha]
    exact ⟨r, hr, rfl, hk⟩

/-- The table and what has been looked up in it grow. -/
theorem parents_mono (h : ∀ a ∈ keys, ∃ r ∈ t, key r = a.1 ∧ f r ∈ looked)
    (hsub : ∀ r ∈ t, r ∈ t') (hlooked : ∀ a ∈ looked, a ∈ looked') :
    ∀ a ∈ keys, ∃ r ∈ t', key r = a.1 ∧ f r ∈ looked' := by
  intro a ha
  obtain ⟨r, hr, hid, hk⟩ := h a ha
  exact ⟨r, hsub r hr, hid, hlooked _ hk⟩

end Parents

/-! ### The books -/

/-- The keys that have been looked up in each table. -/
structure Looked where
  clients : List (Str 200 × Option (Str 100))
  services : List (UUID × Str 200)
  contacts : List (UUID × Option (Str 320))
  milestones : List (UUID × ℤ)

/-- **The invariant of the script.** -/
structure Inv (db : Db) (u : UnitOfWork) (k : Looked) : Prop where
  clients : Books clientKey db.clients.rows u.clients k.clients
  services : Books serviceKey db.services.rows u.services k.services
  contacts : Books contactKey db.contacts.rows u.contacts k.contacts
  milestones : Books milestoneKey db.milestones.rows u.milestones k.milestones
  /-- Services are looked up under a client that has been. -/
  of_services : ∀ a ∈ k.services, ∃ c ∈ db.clients, c.id = a.1 ∧ clientKey c ∈ k.clients
  /-- So are contacts. -/
  of_contacts : ∀ a ∈ k.contacts, ∃ c ∈ db.clients, c.id = a.1 ∧ clientKey c ∈ k.clients
  /-- Milestones are looked up under such a service. -/
  of_milestones : ∀ a ∈ k.milestones, ∃ s ∈ db.services, s.id = a.1 ∧ serviceKey s ∈ k.services

namespace Inv

variable {u : UnitOfWork} {k : Looked}

theorem start (db : Db) : Inv db .empty ⟨[], [], [], []⟩ where
  clients := .start _ _
  services := .start _ _
  contacts := .start _ _
  milestones := .start _ _
  of_services _ h := absurd h List.not_mem_nil
  of_contacts _ h := absurd h List.not_mem_nil
  of_milestones _ h := absurd h List.not_mem_nil

/-- Under a client that had not been looked up, no service had been. -/
theorem fresh_services (h : Inv db u k) (happ : Appended db db') {c : Client}
    (hc : c ∈ db'.clients) (hnew : clientKey c ∉ k.clients) : ∀ a ∈ k.services, a.1 ≠ c.id :=
  fresh_of_parents h.of_services (fun _ ↦ happ.mem_clients) hc hnew

/-- Nor had a contact. -/
theorem fresh_contacts (h : Inv db u k) (happ : Appended db db') {c : Client}
    (hc : c ∈ db'.clients) (hnew : clientKey c ∉ k.clients) : ∀ a ∈ k.contacts, a.1 ≠ c.id :=
  fresh_of_parents h.of_contacts (fun _ ↦ happ.mem_clients) hc hnew

/-- Under a service that had not been looked up, no milestone had been. -/
theorem fresh_milestones (h : Inv db u k) (happ : Appended db db') {s : Service}
    (hs : s ∈ db'.services) (hnew : serviceKey s ∉ k.services) :
    ∀ a ∈ k.milestones, a.1 ≠ s.id :=
  fresh_of_parents h.of_milestones (fun _ ↦ happ.mem_services) hs hnew

/-- A client is looked up. -/
theorem client (h : Inv db u k) {a : Str 200 × Option (Str 100)}
    {pending : List (Except DbError Client)}
    (hbooks : Books clientKey db.clients.rows pending (k.clients ++ [a])) :
    Inv db { u with clients := pending } { k with clients := k.clients ++ [a] } where
  clients := hbooks
  services := h.services
  contacts := h.contacts
  milestones := h.milestones
  of_services := parents_mono h.of_services (fun _ ↦ id) fun _ ↦ List.mem_append_left _
  of_contacts := parents_mono h.of_contacts (fun _ ↦ id) fun _ ↦ List.mem_append_left _
  of_milestones := h.of_milestones

/-- A service is looked up. -/
theorem service (h : Inv db u k) {c : Client} {title : Str 200}
    {pending : List (Except DbError Service)} (hc : c ∈ db.clients) (hk : clientKey c ∈ k.clients)
    (hbooks : Books serviceKey db.services.rows pending (k.services ++ [(c.id, title)])) :
    Inv db { u with services := pending } { k with services := k.services ++ [(c.id, title)] } where
  clients := h.clients
  services := hbooks
  contacts := h.contacts
  milestones := h.milestones
  of_services := parents_append h.of_services hc hk title
  of_contacts := h.of_contacts
  of_milestones := parents_mono h.of_milestones (fun _ ↦ id) fun _ ↦ List.mem_append_left _

/-- A contact is looked up. -/
theorem contact (h : Inv db u k) {c : Client} {email : Option (Str 320)}
    {pending : List (Except DbError Contact)} (hc : c ∈ db.clients) (hk : clientKey c ∈ k.clients)
    (hbooks : Books contactKey db.contacts.rows pending (k.contacts ++ [(c.id, email)])) :
    Inv db { u with contacts := pending } { k with contacts := k.contacts ++ [(c.id, email)] } where
  clients := h.clients
  services := h.services
  contacts := hbooks
  milestones := h.milestones
  of_services := h.of_services
  of_contacts := parents_append h.of_contacts hc hk email
  of_milestones := h.of_milestones

/-- A milestone is looked up. -/
theorem milestone (h : Inv db u k) {s : Service} {n : ℤ} {pending : List (Except DbError Milestone)}
    (hs : s ∈ db.services) (hk : serviceKey s ∈ k.services)
    (hbooks : Books milestoneKey db.milestones.rows pending (k.milestones ++ [(s.id, n)])) :
    Inv db { u with milestones := pending }
      { k with milestones := k.milestones ++ [(s.id, n)] } where
  clients := h.clients
  services := h.services
  contacts := h.contacts
  milestones := hbooks
  of_services := h.of_services
  of_contacts := h.of_contacts
  of_milestones := parents_append h.of_milestones hs hk n

/-- Everything that was kept back is written. -/
theorem flush (h : Inv db u k) (hw : Written u db db') : Inv db' .empty k where
  clients := h.clients.flush hw.clients
  services := h.services.flush hw.services
  contacts := h.contacts.flush hw.contacts
  milestones := h.milestones.flush hw.milestones
  of_services := parents_mono h.of_services (fun _ ↦ hw.appended.mem_clients) fun _ ↦ id
  of_contacts := parents_mono h.of_contacts (fun _ ↦ hw.appended.mem_clients) fun _ ↦ id
  of_milestones := parents_mono h.of_milestones (fun _ ↦ hw.appended.mem_services) fun _ ↦ id

/-- The books do not cover the log. -/
theorem log {st : Progress} (h : Inv db st.pending k) (clientId : UUID) (kind : ActivityKind)
    (actor : Option UUID) (body : String) (createdAt : Time) :
    Inv db (st.log e clientId kind actor body createdAt).pending k :=
  ⟨h.clients, h.services, h.contacts, h.milestones, h.of_services, h.of_contacts, h.of_milestones⟩

end Inv

/-! ### One row -/

section Rows

variable {st st' : Progress} {k k' : Looked} {spec : ClientSpec} {c : Client} {svc : ServiceSpec}
  {s : Service}

theorem ensures_resolveOwner (ownerEmail : Option (Str 255)) (db : Db) :
    (resolveOwner ownerEmail).Ensures db fun _ db' ↦ db' = db := by
  unfold resolveOwner
  split
  · exact Session.ensures_pure.2 rfl
  · rw [Prog.ensures_bind, Session.ensures_existing]
    exact ⟨fun _ ↦ Session.ensures_pure.2 rfl, fun _ _ ↦ Session.ensures_pure.2 rfl⟩

/-- The client has been found or created, and nothing has been looked up under it. -/
structure ClientReady (db db' : Db) (st st' : Progress) (k : Looked) (spec : ClientSpec)
    (c : Client) : Prop where
  appended : Appended db db'
  inv : Inv db' st'.pending { k with clients := k.clients ++ [spec.key] }
  mem : c ∈ db'.clients
  key_eq : clientKey c = spec.key
  firstActive : st'.firstActive = st.firstActive
  fresh_services : ∀ a ∈ k.services, a.1 ≠ c.id
  fresh_contacts : ∀ a ∈ k.contacts, a.1 ≠ c.id

theorem ensures_clientFor (h : Inv db st.pending k) (hnew : spec.key ∉ k.clients) :
    (clientFor e st spec).Ensures db fun r db' ↦ ClientReady db db' st r.2 k spec r.1 := by
  rw [clientFor, Prog.ensures_bind, Session.ensures_existing]
  constructor
  · intro hnone
    rw [Prog.ensures_bind]
    refine (ensures_resolveOwner spec.ownerEmail db).mono ?_
    intro ownerId _ heq
    rw [heq, Prog.ensures_bind]
    refine (ensures_progress_flush _ db).mono ?_
    rintro _ db' ⟨rfl, hw⟩
    refine Session.ensures_pure.2 ?_
    have hbooks : Books clientKey db.clients.rows
        (st.pending.clients ++ [.ok (clientRow e spec (e.env.uuid st.drawn) ownerId)])
        (k.clients ++ [spec.key]) :=
      h.clients.created hnew hnone fun r hr ↦ by
        rw [← Except.ok.inj hr]
        rfl
    have hinv := (h.client hbooks).flush hw
    have hmem : clientRow e spec (e.env.uuid st.drawn) ownerId ∈ db'.clients :=
      Books.mem_of_flush hw.clients
    exact {
      appended := hw.appended
      inv := hinv.log _ _ _ _ _
      mem := hmem
      key_eq := rfl
      firstActive := rfl
      fresh_services := h.fresh_services hw.appended hmem hnew
      fresh_contacts := h.fresh_contacts hw.appended hmem hnew }
  · intro c hc
    obtain ⟨hrow, hkey⟩ := mem_of_filter_eq_singleton hc
    exact Session.ensures_pure.2 {
      appended := .refl db
      inv := h.client (h.clients.found hnew hc)
      mem := hrow
      key_eq := hkey
      firstActive := rfl
      fresh_services := h.fresh_services (.refl db) hrow (hkey ▸ hnew)
      fresh_contacts := h.fresh_contacts (.refl db) hrow (hkey ▸ hnew) }

/-- The service has been found or created, and nothing has been looked up under it. -/
structure ServiceReady (db db' : Db) (st st' : Progress) (k : Looked) (c : Client)
    (svc : ServiceSpec) (s : Service) : Prop where
  appended : Appended db db'
  inv : Inv db' st'.pending { k with services := k.services ++ [(c.id, svc.title)] }
  mem : s ∈ db'.services
  key_eq : serviceKey s = (c.id, svc.title)
  firstActive : st'.firstActive = st.firstActive
  fresh_milestones : ∀ a ∈ k.milestones, a.1 ≠ s.id

theorem serviceRow_spec {id : UUID} (h : serviceRow e svc c id = .ok s) :
    serviceKey s = (c.id, svc.title) := by
  simp only [serviceRow, bind_eq_ok_iff, pure_eq_ok_iff] at h
  obtain ⟨_, -, _, -, rfl⟩ := h
  rfl

theorem ensures_serviceFor (h : Inv db st.pending k) (hc : c ∈ db.clients)
    (hk : clientKey c ∈ k.clients) (hnew : (c.id, svc.title) ∉ k.services) :
    (serviceFor e c st svc).Ensures db fun r db' ↦ ServiceReady db db' st r.2 k c svc r.1 := by
  rw [serviceFor, Prog.ensures_bind, Session.ensures_existing]
  constructor
  · intro hnone
    rw [Prog.ensures_bind, Session.ensures_column]
    intro s hrow
    have hkey := serviceRow_spec hrow
    rw [Prog.ensures_bind]
    refine (ensures_progress_flush _ db).mono ?_
    rintro _ db' ⟨rfl, hw⟩
    refine Session.ensures_pure.2 ?_
    have hbooks : Books serviceKey db.services.rows (st.pending.services ++ [.ok s])
        (k.services ++ [(c.id, svc.title)]) :=
      h.services.created hnew hnone fun r hr ↦ Except.ok.inj hr ▸ hkey
    have hinv := (h.service hc hk hbooks).flush hw
    have hmem : s ∈ db'.services := Books.mem_of_flush hw.services
    exact {
      appended := hw.appended
      inv := hinv.log _ _ _ _ _
      mem := hmem
      key_eq := hkey
      firstActive := rfl
      fresh_milestones := h.fresh_milestones hw.appended hmem (hkey ▸ hnew) }
  · intro s hs
    obtain ⟨hrow, hkey⟩ := mem_of_filter_eq_singleton hs
    exact Session.ensures_pure.2 {
      appended := .refl db
      inv := h.service hc hk (h.services.found hnew hs)
      mem := hrow
      key_eq := hkey
      firstActive := rfl
      fresh_milestones := h.fresh_milestones (.refl db) hrow (hkey ▸ hnew) }

/-! ### The rows under a parent -/

/-- A key under a parent that has not been looked up before has not been looked up either, unless
it is one of those that have been since. -/
theorem not_mem_append_map {α β γ : Type} {keys : List (α × β)} {i : α} {l : List γ} {f : γ → β}
    {b : β} (hfresh : ∀ a ∈ keys, a.1 ≠ i) (hb : b ∉ l.map f) :
    (i, b) ∉ keys ++ l.map fun x ↦ (i, f x) := by
  intro hmem
  rcases List.mem_append.1 hmem with hmem | hmem
  · exact hfresh _ hmem rfl
  · obtain ⟨x, hx, heq⟩ := List.mem_map.1 hmem
    exact hb (List.mem_map.2 ⟨x, hx, (Prod.mk.inj heq).2⟩)

/-- The contacts of a client. -/
theorem ensures_contacts {l : List ContactSpec} (h : Inv db st.pending k) (hc : c ∈ db.clients)
    (hk : clientKey c ∈ k.clients) (hfresh : ∀ a ∈ k.contacts, a.1 ≠ c.id)
    (hl : (l.map ContactSpec.email).Nodup) :
    (l.foldlM (seedContact e spec c) st).Ensures db fun st' db' ↦ db' = db ∧
      Inv db st'.pending
        { k with contacts := k.contacts ++ l.map fun x ↦ (c.id, some x.email) } ∧
      st'.firstActive = st.firstActive := by
  refine Prog.ensures_foldlM (I := fun (done : List ContactSpec) (st' : Progress) db' ↦
      db' = db ∧ Inv db st'.pending
        { k with contacts := k.contacts ++ done.map fun x ↦ (c.id, some x.email) } ∧
      st'.firstActive = st.firstActive) ⟨rfl, ?_, rfl⟩ ?_
  · rw [List.map_nil, List.append_nil]
    exact h
  · rintro done x st' _ hupto ⟨rfl, hinv, hfirst⟩
    have hnew : (c.id, some x.email) ∉
        k.contacts ++ done.map fun x ↦ (c.id, some x.email) :=
      not_mem_append_map hfresh
        (not_mem_map_of_isPrefix (f := fun x : ContactSpec ↦ some x.email)
          (by simpa [Function.comp_def] using hl.map (Option.some_injective _)) hupto)
    rw [List.map_append, List.map_singleton, ← List.append_assoc]
    rw [seedContact, Prog.ensures_bind, Session.ensures_existing]
    constructor
    · intro hnone
      have hbooks := hinv.contacts.created hnew hnone
        (fun r hr ↦ Except.ok.inj hr ▸ rfl : ∀ r, (Except.ok
          (contactRow e x (e.env.uuid st'.drawn) c.id) : Except DbError Contact) = .ok r →
            contactKey r = (c.id, some x.email))
      exact Session.ensures_pure.2 ⟨rfl, (hinv.contact hc hk hbooks).log _ _ _ _ _, hfirst⟩
    · exact fun r hr ↦ Session.ensures_pure.2
        ⟨rfl, hinv.contact hc hk (hinv.contacts.found hnew hr), hfirst⟩

/-- The milestones of a service. -/
theorem ensures_milestones {l : List (MilestoneSpec × ℕ)} (h : Inv db st.pending k)
    (hs : s ∈ db.services) (hk : serviceKey s ∈ k.services)
    (hfresh : ∀ a ∈ k.milestones, a.1 ≠ s.id) (hl : (l.map Prod.snd).Nodup) :
    (l.foldlM (seedMilestone e c s) st).Ensures db fun st' db' ↦ db' = db ∧
      Inv db st'.pending
        { k with milestones := k.milestones ++ l.map fun ms ↦ (s.id, (ms.2 : ℤ)) } ∧
      st'.firstActive = st.firstActive := by
  refine Prog.ensures_foldlM (I := fun (done : List (MilestoneSpec × ℕ)) (st' : Progress) db' ↦
      db' = db ∧ Inv db st'.pending
        { k with milestones := k.milestones ++ done.map fun ms ↦ (s.id, (ms.2 : ℤ)) } ∧
      st'.firstActive = st.firstActive) ⟨rfl, ?_, rfl⟩ ?_
  · rw [List.map_nil, List.append_nil]
    exact h
  · rintro done ms st' _ hupto ⟨rfl, hinv, hfirst⟩
    have hnew : (s.id, (ms.2 : ℤ)) ∉
        k.milestones ++ done.map fun ms ↦ (s.id, (ms.2 : ℤ)) :=
      not_mem_append_map hfresh
        (not_mem_map_of_isPrefix (f := fun ms : MilestoneSpec × ℕ ↦ (ms.2 : ℤ))
          (by simpa [Function.comp_def] using hl.map fun _ _ h ↦ Int.ofNat_inj.1 h) hupto)
    rw [List.map_append, List.map_singleton, ← List.append_assoc]
    rw [seedMilestone, Prog.ensures_bind, Session.ensures_existing]
    constructor
    · intro hnone
      have hkey : ∀ r, milestoneRow e ms.1 ms.2 (e.env.uuid st'.drawn) s.id = .ok r →
          milestoneKey r = (s.id, (ms.2 : ℤ)) := by
        intro r hr
        simp only [milestoneRow, bind_eq_ok_iff, pure_eq_ok_iff] at hr
        obtain ⟨n, hn, _, -, rfl⟩ := hr
        exact Prod.ext rfl (PgInt.val_of_store? (orError_eq_ok_iff.1 hn))
      have hbooks := hinv.milestones.created hnew hnone hkey
      rcases ms.1.completedOffset with - | days
      · exact Session.ensures_pure.2 ⟨rfl, hinv.milestone hs hk hbooks, hfirst⟩
      · exact Session.ensures_pure.2 ⟨rfl, (hinv.milestone hs hk hbooks).log _ _ _ _ _, hfirst⟩
    · exact fun r hr ↦ Session.ensures_pure.2
        ⟨rfl, hinv.milestone hs hk (hinv.milestones.found hnew hr), hfirst⟩

/-! ### What has been achieved -/

/-- Nothing is removed from the books. -/
structure Looked.Sub (k k' : Looked) : Prop where
  clients : ∀ a ∈ k.clients, a ∈ k'.clients
  services : ∀ a ∈ k.services, a ∈ k'.services
  contacts : ∀ a ∈ k.contacts, a ∈ k'.contacts
  milestones : ∀ a ∈ k.milestones, a ∈ k'.milestones

namespace Looked.Sub

theorem refl (k : Looked) : k.Sub k := ⟨fun _ ↦ id, fun _ ↦ id, fun _ ↦ id, fun _ ↦ id⟩

theorem trans {k'' : Looked} (h : k.Sub k') (h' : k'.Sub k'') : k.Sub k'' :=
  ⟨fun a ha ↦ h'.clients a (h.clients a ha), fun a ha ↦ h'.services a (h.services a ha),
    fun a ha ↦ h'.contacts a (h.contacts a ha), fun a ha ↦ h'.milestones a (h.milestones a ha)⟩

end Looked.Sub

/-- The service of the client is there, and it and its milestones are in the books. -/
def CoversService (db : Db) (k : Looked) (c : Client) (svc : ServiceSpec) : Prop :=
  (c.id, svc.title) ∈ k.services ∧ ∃ s ∈ db.services, serviceKey s = (c.id, svc.title) ∧
    ∀ ms ∈ svc.milestones.zipIdx 1, (s.id, (ms.2 : ℤ)) ∈ k.milestones

theorem CoversService.mono (h : CoversService db k c svc) (happ : Appended db db')
    (hk : k.Sub k') : CoversService db' k' c svc := by
  obtain ⟨hlooked, s, hs, hkey, hms⟩ := h
  exact ⟨hk.services _ hlooked, s, happ.mem_services hs, hkey,
    fun ms hmem ↦ hk.milestones _ (hms ms hmem)⟩

/-- The client is there, and it and all that belongs to it are in the books. -/
structure Covers (db : Db) (k : Looked) (spec : ClientSpec) (c : Client) : Prop where
  looked : spec.key ∈ k.clients
  mem : c ∈ db.clients
  key_eq : clientKey c = spec.key
  contacts : ∀ x ∈ spec.contacts, (c.id, some x.email) ∈ k.contacts
  services : ∀ svc ∈ spec.services, CoversService db k c svc

theorem Covers.mono (h : Covers db k spec c) (happ : Appended db db') (hk : k.Sub k') :
    Covers db' k' spec c where
  looked := hk.clients _ h.looked
  mem := happ.mem_clients h.mem
  key_eq := h.key_eq
  contacts x hx := hk.contacts _ (h.contacts x hx)
  services svc hsvc := (h.services svc hsvc).mono happ hk

/-- The services of a client. -/
theorem ensures_services {l : List ServiceSpec} (h : Inv db st.pending k) (hc : c ∈ db.clients)
    (hk : clientKey c ∈ k.clients) (hfresh : ∀ a ∈ k.services, a.1 ≠ c.id)
    (hl : (l.map ServiceSpec.title).Nodup) :
    (l.foldlM (seedService e c) st).Ensures db fun st' db' ↦ ∃ k', Appended db db' ∧
      Inv db' st'.pending k' ∧ k.Sub k' ∧ k'.clients = k.clients ∧
      (∀ svc ∈ l, CoversService db' k' c svc) ∧ st'.firstActive = st.firstActive := by
  refine (Prog.ensures_foldlM (I := fun (done : List ServiceSpec) (st' : Progress) db' ↦
      ∃ k', Appended db db' ∧ Inv db' st'.pending k' ∧ k.Sub k' ∧ k'.clients = k.clients ∧
        (∀ svc ∈ done, CoversService db' k' c svc) ∧ st'.firstActive = st.firstActive ∧
        k'.services = k.services ++ done.map fun svc ↦ (c.id, svc.title))
      ⟨k, .refl db, h, .refl k, rfl, fun _ h ↦ absurd h List.not_mem_nil, rfl, ?_⟩ ?_).mono ?_
  · rw [List.map_nil, List.append_nil]
  · rintro done svc st₁ db₁ hupto ⟨k₁, happ, hinv, hsub, hclients, hcovers, hfirst, hservices⟩
    have hnew : (c.id, svc.title) ∉ k₁.services := by
      rw [hservices]
      exact not_mem_append_map hfresh (not_mem_map_of_isPrefix hl hupto)
    rw [seedService, Prog.ensures_bind]
    refine (ensures_serviceFor hinv (happ.mem_clients hc) (hclients ▸ hk) hnew).mono ?_
    rintro ⟨s, st₂⟩ db₂ hready
    have hsnd : ((svc.milestones.zipIdx 1).map Prod.snd).Nodup := by
      rw [List.zipIdx_map_snd]
      exact List.nodup_range' 1
    refine (ensures_milestones hready.inv hready.mem
      (hready.key_eq ▸ List.mem_append_right _ (List.mem_singleton_self _))
      hready.fresh_milestones hsnd).mono ?_
    rintro st₃ _ ⟨rfl, hinv₃, hfirst₃⟩
    have hsub₃ : k₁.Sub { k₁ with
        services := k₁.services ++ [(c.id, svc.title)]
        milestones := k₁.milestones ++
          (svc.milestones.zipIdx 1).map fun ms ↦ (s.id, (ms.2 : ℤ)) } :=
      ⟨fun _ ↦ id, fun _ ↦ List.mem_append_left _, fun _ ↦ id, fun _ ↦ List.mem_append_left _⟩
    refine ⟨_, happ.trans hready.appended, hinv₃, hsub.trans hsub₃, hclients, ?_,
      hfirst₃.trans (hready.firstActive.trans hfirst), ?_⟩
    · intro svc' hsvc'
      rcases List.mem_append.1 hsvc' with hsvc' | hsvc'
      · exact (hcovers svc' hsvc').mono hready.appended hsub₃
      · rw [List.mem_singleton.1 hsvc']
        exact ⟨List.mem_append_right _ (List.mem_singleton_self _), s, hready.mem, hready.key_eq,
          fun ms hms ↦ List.mem_append_right _ (List.mem_map_of_mem hms)⟩
    · rw [hservices, List.map_append, List.map_singleton, List.append_assoc]
  · rintro st' db' ⟨k', happ, hinv, hsub, hclients, hcovers, hfirst, -⟩
    exact ⟨k', happ, hinv, hsub, hclients, hcovers, hfirst⟩

/-! ### One client -/

/-- The keys under a client are told apart. -/
structure ClientSpec.Distinct (spec : ClientSpec) : Prop where
  contacts : (spec.contacts.map ContactSpec.email).Nodup
  services : (spec.services.map ServiceSpec.title).Nodup

/-- **One client with everything that belongs to it.** -/
theorem ensures_seedClient (h : Inv db st.pending k) (hnew : spec.key ∉ k.clients)
    (hspec : spec.Distinct) :
    (seedClient e st spec).Ensures db fun st' db' ↦ ∃ c k', Appended db db' ∧
      Inv db' st'.pending k' ∧ k.Sub k' ∧ k'.clients = k.clients ++ [spec.key] ∧
      Covers db' k' spec c ∧ st'.firstActive =
        if c.stage = .active then st.firstActive.or (some c) else st.firstActive := by
  rw [seedClient, Prog.ensures_bind]
  refine (ensures_clientFor h hnew).mono ?_
  rintro ⟨c, st₁⟩ db₁ hready
  have hk : clientKey c ∈ k.clients ++ [spec.key] :=
    hready.key_eq ▸ List.mem_append_right _ (List.mem_singleton_self _)
  dsimp only
  rw [Prog.ensures_bind]
  refine (ensures_contacts hready.inv hready.mem hk hready.fresh_contacts hspec.contacts).mono ?_
  rintro st₂ _ ⟨rfl, hinv₂, hfirst₂⟩
  rw [Prog.ensures_bind]
  refine (ensures_services hinv₂ hready.mem hk hready.fresh_services hspec.services).mono ?_
  rintro st₃ db₃ ⟨k₃, happ, hinv₃, hsub, hclients, hcovers, hfirst₃⟩
  refine Session.ensures_pure.2 ⟨c, k₃, hready.appended.trans happ, hinv₃, ?_, hclients, ?_, ?_⟩
  · exact ⟨fun a ha ↦ hsub.clients a (List.mem_append_left _ ha), hsub.services,
      fun a ha ↦ hsub.contacts a (List.mem_append_left _ ha), hsub.milestones⟩
  · exact {
      looked := hclients ▸ List.mem_append_right _ (List.mem_singleton_self _)
      mem := happ.mem_clients hready.mem
      key_eq := hready.key_eq
      contacts := fun x hx ↦
        hsub.contacts _ (List.mem_append_right _ (List.mem_map.2 ⟨x, hx, rfl⟩))
      services := hcovers }
  · show (if c.stage = .active then st₃.firstActive.or (some c) else st₃.firstActive) = _
    rw [hfirst₃, hfirst₂, hready.firstActive]

/-- **All clients**, in the order of the list. -/
theorem ensures_seedClients {l : List ClientSpec} (hkeys : (l.map ClientSpec.key).Nodup)
    (hspecs : ∀ spec ∈ l, spec.Distinct) (db : Db) :
    (l.foldlM (seedClient e) ⟨0, .empty, 0, 0, none⟩).Ensures db fun st' db' ↦
      Appended db db' ∧ ∃ k cs, Inv db' st'.pending k ∧ List.Forall₂ (Covers db' k) l cs ∧
        st'.firstActive = cs.find? fun c ↦ decide (c.stage = .active) := by
  refine (Prog.ensures_foldlM (I := fun (done : List ClientSpec) (st' : Progress) db' ↦
      Appended db db' ∧ ∃ k cs, Inv db' st'.pending k ∧ List.Forall₂ (Covers db' k) done cs ∧
        st'.firstActive = cs.find? (fun c ↦ decide (c.stage = .active)) ∧
        k.clients = done.map ClientSpec.key)
      ⟨.refl db, _, [], .start db, .nil, rfl, rfl⟩ ?_).mono ?_
  · rintro done spec st₁ db₁ hupto ⟨happ, k₁, cs, hinv, hcovers, hfirst, hclients⟩
    have hmem : spec ∈ l := mem_of_isPrefix hupto
    refine (ensures_seedClient hinv (hclients ▸ not_mem_map_of_isPrefix hkeys hupto)
      (hspecs spec hmem)).mono ?_
    rintro st₂ db₂ ⟨c, k₂, happ₂, hinv₂, hsub, hclients₂, hcovers₂, hfirst₂⟩
    refine ⟨happ.trans happ₂, k₂, cs ++ [c], hinv₂, ?_, ?_, ?_⟩
    · exact List.rel_append (hcovers.imp fun _ _ hc ↦ hc.mono happ₂ hsub) (.cons hcovers₂ .nil)
    · rw [hfirst₂, hfirst, List.find?_append]
      by_cases hactive : c.stage = .active
      · rw [if_pos hactive, List.find?_singleton, decide_eq_true hactive]
        rfl
      · rw [if_neg hactive, List.find?_singleton, decide_eq_false hactive]
        simp
    · rw [hclients₂, hclients, List.map_append, List.map_singleton]
  · rintro st' db' ⟨happ, k, cs, hinv, hcovers, hfirst, -⟩
    exact ⟨happ, k, cs, hinv, hcovers, hfirst⟩

end Rows

/-! ### What is there afterwards -/

/-- The service is there, once, and so are its milestones. -/
def ServicePresent (db : Db) (c : Client) (svc : ServiceSpec) : Prop :=
  ∃ s : Service,
    db.services.rows.filter (fun s ↦ decide (serviceKey s = (c.id, svc.title))) = [s] ∧
    ∀ ms ∈ svc.milestones.zipIdx 1, ∃ m : Milestone,
      db.milestones.rows.filter (fun m ↦ decide (milestoneKey m = (s.id, (ms.2 : ℤ)))) = [m]

/-- The client is there, once, and so is all that belongs to it. -/
structure ClientPresent (db : Db) (spec : ClientSpec) (c : Client) : Prop where
  client : db.clients.rows.filter (fun c ↦ decide (clientKey c = spec.key)) = [c]
  contacts : ∀ x ∈ spec.contacts, ∃ r : Contact,
    db.contacts.rows.filter (fun r ↦ decide (contactKey r = (c.id, some x.email))) = [r]
  services : ∀ svc ∈ spec.services, ServicePresent db c svc

/-- The client of a specification. -/
def clientOf (db : Db) (spec : ClientSpec) : Option Client :=
  (db.clients.rows.filter fun c ↦ decide (clientKey c = spec.key)).head?

/-- The first client on the list that is active now. -/
def firstActive (db : Db) : Option Client :=
  (clients.filterMap (clientOf db)).find? fun c ↦ decide (c.stage = .active)

/-- All clients are there, and the demo account is linked to the first active one. -/
structure AllPresent (db : Db) : Prop where
  clients : ∀ spec ∈ clients, ∃ c, ClientPresent db spec c
  account : ∀ c, firstActive db = some c → ∃ u : User,
    db.users.rows.filter (fun u ↦ decide (u.email = demoEmail)) = [u] ∧ u.clientId = some c.id

theorem ClientPresent.clientOf_eq {spec : ClientSpec} {c : Client} (h : ClientPresent db spec c) :
    clientOf db spec = some c := by
  rw [clientOf, h.client, List.head?_cons]

/-- What is in the books when nothing is kept back is there. -/
theorem Covers.present {k : Looked} {spec : ClientSpec} {c : Client} (hinv : Inv db .empty k)
    (h : Covers db k spec c) : ClientPresent db spec c where
  client := hinv.clients.filter_eq h.looked h.mem h.key_eq
  contacts x hx :=
    let ⟨r, _, _, hr⟩ := hinv.contacts.exists_filter (h.contacts x hx)
    ⟨r, hr⟩
  services svc hsvc := by
    obtain ⟨hlooked, s, hs, hkey, hms⟩ := h.services svc hsvc
    refine ⟨s, hinv.services.filter_eq hlooked hs hkey, fun ms hmem ↦ ?_⟩
    obtain ⟨m, -, -, hm⟩ := hinv.milestones.exists_filter (hms ms hmem)
    exact ⟨m, hm⟩

/-- The clients that the script has gone through are those of the list. -/
theorem filterMap_clientOf {k : Looked} {l : List ClientSpec} {cs : List Client}
    (hinv : Inv db .empty k) (h : List.Forall₂ (Covers db k) l cs) :
    l.filterMap (clientOf db) = cs := by
  induction h with
  | nil => rfl
  | cons hc _ ih => rw [List.filterMap_cons, (hc.present hinv).clientOf_eq, ih]

/-- What the commit makes of the accounts: one of them is linked, or it is new. -/
structure Linked (clientId : UUID) (users users' : Table User) : Prop where
  linked : ∃ u : User, users'.rows.filter (fun u ↦ decide (u.email = demoEmail)) = [u] ∧
    u.clientId = some clientId
  kept : ∀ u ∈ users, ∃ u' ∈ users', u' = u ∨
    u.email = demoEmail ∧ u' = { u with clientId := some clientId, updatedAt := u'.updatedAt }
  others : users'.rows.filter (fun u ↦ decide (u.email ≠ demoEmail)) =
    users.rows.filter fun u ↦ decide (u.email ≠ demoEmail)

theorem userRow_spec {now : Time} {id clientId : UUID} {hash : String} {u : User}
    (h : userRow now id clientId hash = .ok u) :
    u.email = demoEmail ∧ u.clientId = some clientId := by
  simp only [userRow, bind_eq_ok_iff, pure_eq_ok_iff] at h
  obtain ⟨_, -, rfl⟩ := h
  exact ⟨rfl, rfl⟩

theorem ensures_seedClientUserFor (drawn : ℕ) (c : Client) (db : Db) :
    (seedClientUserFor e drawn c).Ensures db fun account db₁ ↦ db₁ = db ∧
      ∀ db₂ : Db, db₂.users = db.users → account.Ensures db₂ fun _ db' ↦
        ∃ t, db' = { db₂ with users := t } ∧ Linked c.id db₂.users t := by
  rw [seedClientUserFor, Prog.ensures_bind, Session.ensures_existing]
  constructor
  · intro hnone
    rw [Prog.ensures_bind, Prog.ensures_demand]
    refine fun hash _ ↦ Session.ensures_pure.2 ⟨rfl, fun db₂ husers ↦ ?_⟩
    rw [Session.ensures_add]
    intro u hu hfresh _
    rw [table_users] at hfresh ⊢
    obtain ⟨hemail, hclient⟩ := userRow_spec hu
    have hnone' : db₂.users.rows.filter (fun u ↦ decide (u.email = demoEmail)) = [] := by
      rw [husers]
      exact hnone
    refine ⟨_, rfl, ⟨u, ?_, hclient⟩, fun x hx ↦ ⟨x, Table.mem_insert_of_mem hx, Or.inl rfl⟩, ?_⟩
    · rw [Table.rows_insert hfresh, List.filter_append, hnone', List.nil_append,
        List.filter_singleton, decide_eq_true hemail]
      rfl
    · rw [Table.rows_insert hfresh, List.filter_append, List.filter_singleton,
        decide_eq_false (not_not.2 hemail)]
      exact List.append_nil _
  · intro u hu
    refine Session.ensures_pure.2 ⟨rfl, fun db₂ husers ↦ ?_⟩
    have hu₂ : db₂.users.rows.filter (fun u ↦ decide (u.email = demoEmail)) = [u] := by
      rw [husers]
      exact hu
    obtain ⟨hrow, hemail⟩ := mem_of_filter_eq_singleton hu₂
    split
    · rw [Prog.ensures_exec]
      intro db' hw
      obtain ⟨_, -, -, rfl⟩ := (apply_update (ρ := User)).1 hw
      -- The link does not change the address of an account.
      have hemails : ∀ p : Str 255 → Bool, (db₂.users.alter u.id (link e.env.now c.id)).rows.filter
          (fun u ↦ p u.email) = (db₂.users.rows.filter fun u ↦ p u.email).map
            fun r ↦ if key r = u.id then (link e.env.now c.id).fn r else r := by
        intro p
        rw [Table.rows_alter, List.filter_map]
        congr 2
        funext r
        by_cases hr : key r = u.id
        · rw [Function.comp_apply, if_pos hr]
          rfl
        · rw [Function.comp_apply, if_neg hr]
      refine ⟨_, rfl, ⟨(link e.env.now c.id).fn u, ?_, rfl⟩, fun x hx ↦ ?_, ?_⟩
      · rw [table_users, hemails fun a ↦ decide (a = demoEmail), hu₂, List.map_singleton,
          if_pos (show key u = u.id from rfl)]
      · by_cases hx' : key x = u.id
        · obtain rfl := Table.eq_of_key_eq hx hrow hx'
          exact ⟨(link e.env.now c.id).fn x, Table.mem_alter.2 ⟨x, hx, if_pos hx'⟩,
            Or.inr ⟨hemail, rfl⟩⟩
        · exact ⟨x, Table.mem_alter.2 ⟨x, hx, if_neg hx'⟩, Or.inl rfl⟩
      · rw [table_users, hemails fun a ↦ decide (a ≠ demoEmail)]
        refine (List.map_congr_left fun r hr ↦ if_neg fun hid ↦ ?_).trans (List.map_id _)
        obtain ⟨hr, hother⟩ := List.mem_filter.1 hr
        exact of_decide_eq_true hother (Table.eq_of_key_eq hr hrow hid ▸ hemail)
    · next hlinked =>
      exact Session.ensures_pure.2 ⟨db₂.users, rfl, ⟨u, hu₂, not_not.1 hlinked⟩,
        fun x hx ↦ ⟨x, hx, Or.inl rfl⟩, rfl⟩

/-! ### The whole script -/

/-- The demo data are told apart. -/
theorem clients_distinct :
    (clients.map ClientSpec.key).Nodup ∧ ∀ spec ∈ clients, spec.Distinct := by
  have h : (clients.map ClientSpec.key).Nodup ∧ ∀ spec ∈ clients,
      (spec.contacts.map ContactSpec.email).Nodup ∧
        (spec.services.map ServiceSpec.title).Nodup := by decide
  exact ⟨h.1, fun spec hspec ↦ ⟨(h.2 spec hspec).1, (h.2 spec hspec).2⟩⟩

theorem exists_of_forall₂ {α β : Type} {R : α → β → Prop} {l : List α} {l' : List β}
    (h : List.Forall₂ R l l') {a : α} (ha : a ∈ l) : ∃ b, R a b := by
  induction h with
  | nil => cases ha
  | cons hab _ ih =>
    rcases List.mem_cons.1 ha with rfl | ha
    · exact ⟨_, hab⟩
    · exact ih ha

/-- The leads and the other accounts are as they were. -/
def SparesOthers (db db' : Db) : Prop :=
  db'.leads = db.leads ∧ db'.users.rows.filter (fun u ↦ decide (u.email ≠ demoEmail)) =
    db.users.rows.filter fun u ↦ decide (u.email ≠ demoEmail)

/-- **After a run everything is there**, and nothing is lost. -/
theorem ensures_main (db : Db) : (main e).Ensures db fun _ db' ↦
    OnlyAdds db db' ∧ AllPresent db' ∧ SparesOthers db db' := by
  rw [main, Prog.ensures_bind]
  refine (ensures_seedClients clients_distinct.1 clients_distinct.2 db).mono ?_
  rintro st db₁ ⟨happ, k, cs, hinv, hcovers, hfirst⟩
  have hflush : ∀ db₂, Written st.pending db₁ db₂ →
      Appended db db₂ ∧ (∀ spec ∈ clients, ∃ c, ClientPresent db₂ spec c) ∧
        firstActive db₂ = st.firstActive := by
    intro db₂ hw
    have hinv₂ := hinv.flush hw
    have hcovers₂ : List.Forall₂ (Covers db₂ k) clients cs :=
      hcovers.imp fun _ _ hc ↦ hc.mono hw.appended (.refl k)
    refine ⟨happ.trans hw.appended, fun spec hspec ↦ ?_, ?_⟩
    · obtain ⟨c, hc⟩ := exists_of_forall₂ hcovers₂ hspec
      exact ⟨c, hc.present hinv₂⟩
    · rw [firstActive, filterMap_clientOf hinv₂ hcovers₂, hfirst]
  rw [Prog.ensures_bind, wireAccount]
  rcases hst : st.firstActive with - | c
  · refine Session.ensures_pure.2 ?_
    rw [Prog.ensures_bind]
    refine (ensures_flush st.pending db₁).mono fun _ db₂ hw ↦ ?_
    obtain ⟨happ₂, hpresent, hactive⟩ := hflush db₂ hw
    refine Session.ensures_pure.2 ⟨?_, ⟨hpresent, fun c hc ↦ ?_⟩, happ₂.leads, by rw [happ₂.users]⟩
    · exact ⟨fun u hu ↦ ⟨u, happ₂.users ▸ hu, Or.inl rfl⟩, happ₂.leads ▸ List.prefix_rfl,
        happ₂.clients, happ₂.contacts, happ₂.services, happ₂.milestones, happ₂.activityLog,
        happ₂.billingProfiles, happ₂.tickets, happ₂.messages⟩
    · rw [hactive, hst] at hc
      cases hc
  · refine (ensures_seedClientUserFor st.drawn c db₁).mono ?_
    rintro account _ ⟨rfl, haccount⟩
    rw [Prog.ensures_bind]
    refine (ensures_flush st.pending _).mono fun _ db₂ hw ↦ ?_
    obtain ⟨happ₂, hpresent, hactive⟩ := hflush db₂ hw
    rw [Prog.ensures_bind]
    refine (haccount db₂ hw.appended.users).mono ?_
    rintro - _ ⟨users, rfl, hlinked, hkept, hothers⟩
    refine Session.ensures_pure.2 ⟨?_, ⟨fun spec hspec ↦ ?_, fun c' hc' ↦ ?_⟩, happ₂.leads,
      happ₂.users ▸ hothers⟩
    · refine ⟨fun u hu ↦ ?_, happ₂.leads ▸ List.prefix_rfl, happ₂.clients, happ₂.contacts,
        happ₂.services, happ₂.milestones, happ₂.activityLog, happ₂.billingProfiles, happ₂.tickets,
        happ₂.messages⟩
      obtain ⟨u', hu', h⟩ := hkept u (happ₂.users ▸ hu)
      refine ⟨u', hu', h.imp_right fun ⟨hemail, heq⟩ ↦ ⟨hemail, ?_⟩⟩
      rw [heq]
    · obtain ⟨c', hc'⟩ := hpresent spec hspec
      exact ⟨c', hc'.client, hc'.contacts, hc'.services⟩
    · have heq : firstActive db₂ = some c' := hc'
      rw [hactive, hst] at heq
      obtain rfl := Option.some.inj heq
      exact hlinked

/-! ### A run where everything is there -/

section Again

variable {st : Progress} {spec : ClientSpec} {c : Client}

theorem run_seedService {svc : ServiceSpec} (h : ServicePresent db c svc) :
    (seedService e c st svc).run db = .ok (st, db) := by
  obtain ⟨s, hs, hms⟩ := h
  have hfor : (serviceFor e c st svc).run db = .ok ((s, st), db) := by
    rw [serviceFor, Prog.run_bind_ok (Session.run_existing hs)]
    rfl
  rw [seedService, Prog.run_bind_ok hfor]
  obtain ⟨st', hrun, hst'⟩ := Prog.run_foldlM_of_idle (l := svc.milestones.zipIdx 1)
    (f := seedMilestone e c s) (s := db) (b := st) (J := fun _ st' ↦ st' = st) rfl (by
      rintro done ms st' hupto hst'
      obtain ⟨m, hm⟩ := hms ms
        (mem_of_isPrefix hupto)
      refine ⟨st', ?_, hst'⟩
      rw [seedMilestone, Prog.run_bind_ok (Session.run_existing hm)]
      rfl)
  exact hst' ▸ hrun

theorem run_seedClient (h : ClientPresent db spec c) :
    (seedClient e st spec).run db = .ok ({ st with
      skipped := st.skipped + 1
      firstActive := if c.stage = .active then st.firstActive.or (some c) else st.firstActive },
      db) := by
  have hfor : (clientFor e st spec).run db =
      .ok ((c, { st with skipped := st.skipped + 1 }), db) := by
    rw [clientFor, Prog.run_bind_ok (Session.run_existing h.client)]
    rfl
  rw [seedClient, Prog.run_bind_ok hfor]
  obtain ⟨st₁, hrun₁, hst₁⟩ := Prog.run_foldlM_of_idle (l := spec.contacts)
    (f := seedContact e spec c) (s := db) (b := { st with skipped := st.skipped + 1 })
    (J := fun _ st' ↦ st' = { st with skipped := st.skipped + 1 }) rfl (by
      rintro done x st' hupto hst'
      obtain ⟨r, hr⟩ := h.contacts x
        (mem_of_isPrefix hupto)
      refine ⟨st', ?_, hst'⟩
      rw [seedContact, Prog.run_bind_ok (Session.run_existing hr)]
      rfl)
  obtain ⟨st₂, hrun₂, hst₂⟩ := Prog.run_foldlM_of_idle (l := spec.services)
    (f := seedService e c) (s := db) (b := { st with skipped := st.skipped + 1 })
    (J := fun _ st' ↦ st' = { st with skipped := st.skipped + 1 }) rfl (by
      intro done svc st' hupto hst'
      exact ⟨st', run_seedService (h.services svc
        (mem_of_isPrefix hupto)), hst'⟩)
  rw [hst₁] at hrun₁
  rw [hst₂] at hrun₂
  dsimp only
  rw [Prog.run_bind_ok hrun₁, Prog.run_bind_ok hrun₂]
  rfl

/-- **Where everything is there, nothing is done.** -/
theorem run_main (h : AllPresent db) : (main e).run db = .ok ((0, clients.length), db) := by
  obtain ⟨st, hrun, hst⟩ := Prog.run_foldlM_of_idle (l := clients) (f := seedClient e) (s := db)
    (b := ⟨0, .empty, 0, 0, none⟩)
    (J := fun done st' ↦ st' = ⟨0, .empty, 0, done.length,
      (done.filterMap (clientOf db)).find? fun c ↦ decide (c.stage = .active)⟩) rfl (by
      rintro done spec _ hupto rfl
      obtain ⟨c, hc⟩ := h.clients spec
        (mem_of_isPrefix hupto)
      refine ⟨_, run_seedClient hc, ?_⟩
      rw [List.length_append, List.filterMap_append, List.find?_append, List.filterMap_cons,
        hc.clientOf_eq, List.filterMap_nil, List.find?_singleton]
      by_cases hactive : c.stage = .active
      · simp [hactive]
      · simp [hactive])
  rw [hst] at hrun
  rw [main, Prog.run_bind_ok hrun, wireAccount]
  have haccount : firstActive db = none ∨ ∃ c u, firstActive db = some c ∧
      db.users.rows.filter (fun u ↦ decide (u.email = demoEmail)) = [u] ∧
        u.clientId = some c.id := by
    rcases hactive : firstActive db with - | c
    · exact Or.inl rfl
    · obtain ⟨u, hu, hclient⟩ := h.account c hactive
      exact Or.inr ⟨c, u, rfl, hu, hclient⟩
  rw [firstActive] at haccount
  rcases haccount with hnone | ⟨c, u, hsome, hu, hclient⟩
  · rw [hnone]
    rfl
  · rw [hsome]
    dsimp only
    have hrun' : (seedClientUserFor e 0 c).run db = .ok (pure (), db) := by
      rw [seedClientUserFor, Prog.run_bind_ok (Session.run_existing hu)]
      dsimp only
      rw [if_neg (not_not.2 hclient)]
      rfl
    rw [Prog.run_bind_ok hrun']
    rfl

end Again

end SeedDemoCrm

/-! ### The scripts -/

/-- The seed scripts. -/
inductive SeedScript where
  | users
  | demoLeads
  | demoCrm

/-- A run of a script, with what it takes from its surroundings. -/
structure SeedRun where
  script : SeedScript
  e : ScriptEnv
  /-- The snapshots that the leads are stored with. -/
  payload : ℕ → RawPayload

namespace SeedScript

/-- The program of a script. -/
def main (e : ScriptEnv) (payload : ℕ → RawPayload) : SeedScript → Tx (ℕ × ℕ)
  | .users => SeedUsers.main e
  | .demoLeads => SeedDemoLeads.main e payload
  | .demoCrm => SeedDemoCrm.main e

/-- The number of its entries. -/
def size : SeedScript → ℕ
  | .users => SeedUsers.usersToSeed.length
  | .demoLeads => SeedDemoLeads.leadsToSeed.length
  | .demoCrm => SeedDemoCrm.clients.length

/-- What it is to create is there, once. -/
def AllPresent (db : Db) : SeedScript → Prop
  | .users => Present User.email SeedUsers.Spec.email SeedUsers.usersToSeed db
  | .demoLeads => Present SeedDemoLeads.leadKey SeedDemoLeads.Spec.key SeedDemoLeads.leadsToSeed db
  | .demoCrm => SeedDemoCrm.AllPresent db

end SeedScript

/-- The database after a run, which is as it was if the run fails. -/
def SeedRun.exec (r : SeedRun) (db : Db) : Db := ((r.script.main r.e r.payload).transact db).2

/-- A run that succeeds. -/
theorem SeedRun.transact_eq {r : SeedRun} {db : Db} {out : ℕ × ℕ}
    (h : ((r.script.main r.e r.payload).transact db).1 = .ok out) :
    (r.script.main r.e r.payload).transact db = (.ok out, r.exec db) := Prod.ext h rfl

section Scripts

variable {e e' : ScriptEnv} {payload payload' : ℕ → RawPayload} {db db' : Db}

theorem ensures_makeUser (i : ℕ) (spec : SeedUsers.Spec) (db : Db) :
    (SeedUsers.make e i spec).Ensures db fun row db' ↦
      db' = db ∧ ∀ u, row = .ok u → u.email = spec.email := by
  rw [SeedUsers.make, Prog.ensures_bind, Prog.ensures_demand]
  refine fun hash _ ↦ Session.ensures_pure.2 ⟨rfl, fun u hu ↦ ?_⟩
  simp only [SeedUsers.row, bind_eq_ok_iff, pure_eq_ok_iff] at hu
  obtain ⟨_, -, rfl⟩ := hu
  rfl

theorem ensures_makeLead (i : ℕ) (spec : SeedDemoLeads.Spec) (db : Db) :
    (SeedDemoLeads.make e payload i spec).Ensures db fun row db' ↦
      db' = db ∧ ∀ l, row = .ok l → SeedDemoLeads.leadKey l = spec.key := by
  have hrow : ∀ ownerId l, (.ok (SeedDemoLeads.row e (payload i) spec (e.env.uuid i) ownerId) :
      Except DbError Lead) = .ok l → SeedDemoLeads.leadKey l = spec.key :=
    fun _ _ hl ↦ Except.ok.inj hl ▸ rfl
  rw [SeedDemoLeads.make, Prog.ensures_bind]
  unfold SeedDemoLeads.resolveOwner
  split
  · exact Session.ensures_pure.2 (Session.ensures_pure.2 ⟨rfl, hrow _⟩)
  · rw [Prog.ensures_bind, Session.ensures_existing]
    exact ⟨fun _ ↦ Session.ensures_pure.2 (Session.ensures_pure.2 ⟨rfl, hrow _⟩),
      fun _ _ ↦ Session.ensures_pure.2 (Session.ensures_pure.2 ⟨rfl, hrow _⟩)⟩

/-- The users script, on its one table. -/
theorem ensures_seedUsers (db : Db) : (SeedUsers.main e).Ensures db fun _ db' ↦
    SeedScript.users.AllPresent db' ∧ ∃ (new : List User) (t : Table User),
      t.rows = db.users.rows ++ new ∧ db' = { db with users := t } ∧
        ∀ u ∈ new, u.email ∈ SeedUsers.usersToSeed.map SeedUsers.Spec.email :=
  ensures_createMissing (by decide) ensures_makeUser db

/-- The leads script, on its one table. -/
theorem ensures_seedDemoLeads (db : Db) : (SeedDemoLeads.main e payload).Ensures db fun _ db' ↦
    SeedScript.demoLeads.AllPresent db' ∧ ∃ (new : List Lead) (t : Table Lead),
      t.rows = db.leads.rows ++ new ∧ db' = { db with leads := t } := by
  refine (ensures_createMissing (by decide) ensures_makeLead db).mono ?_
  rintro - _ ⟨hpresent, new, t, ht, rfl, -⟩
  exact ⟨hpresent, new, t, ht, rfl⟩

/-- **A seed script only adds**: in every database, after a run that succeeds, every row that was
there is there unchanged, but for the link of the demo account, and everything that the script names
is there exactly once. -/
theorem seed_adds {script : SeedScript} {out : ℕ × ℕ}
    (h : (script.main e payload).transact db = (.ok out, db')) :
    OnlyAdds db db' ∧ script.AllPresent db' := by
  have hrun : (script.main e payload).run db = .ok (out, db') := by
    rcases (script.main e payload).transact_cases db with ⟨_, _, hr, ht⟩ | ⟨_, -, ht⟩
    · rw [h] at ht
      obtain ⟨⟨⟩, rfl⟩ := Prod.mk.inj ht
      exact hr
    · rw [h] at ht
      cases (Prod.mk.inj ht).1
  cases script with
  | users =>
    obtain ⟨hpresent, new, t, ht, rfl, -⟩ := ensures_seedUsers db out db' hrun
    refine ⟨⟨fun u hu ↦ ⟨u, ?_, Or.inl rfl⟩, List.prefix_rfl, List.prefix_rfl, List.prefix_rfl,
      List.prefix_rfl, List.prefix_rfl, List.prefix_rfl, rfl, rfl, rfl⟩, hpresent⟩
    show u ∈ t.rows
    exact ht ▸ List.mem_append_left _ hu
  | demoLeads =>
    obtain ⟨hpresent, new, t, ht, rfl⟩ := ensures_seedDemoLeads db out db' hrun
    exact ⟨⟨fun u hu ↦ ⟨u, hu, Or.inl rfl⟩, ⟨new, ht.symm⟩, List.prefix_rfl, List.prefix_rfl,
      List.prefix_rfl, List.prefix_rfl, List.prefix_rfl, rfl, rfl, rfl⟩, hpresent⟩
  | demoCrm =>
    obtain ⟨hadds, hpresent, -⟩ := SeedDemoCrm.ensures_main db out db' hrun
    exact ⟨hadds, hpresent⟩

/-- The snapshot of a lead, for examples. -/
def seedPayload (_ : ℕ) : RawPayload where
  headers := [("user-agent", "seed-script")]
  body := ⟨"Ada", "ada@example.com", none, none, .general, .other, none, none, none⟩
  ingestedAt := 0
  clientIpHashed := ""

/-- A database that is in use: it has a client of its own, and the demo account is linked to it. -/
def inUse : Db :=
  let client : Client := {
    id := 20, createdAt := 0, updatedAt := 0, name := .lit "Talleres Olmo", sector := none
    size := none, region := none, ownerId := none, stage := .active, enteredAt := 0
    mrrCents := none, lifetimeValueCents := none }
  let account : User := .sample 7 SeedDemoCrm.demoEmail .clientUser (some 20)
  { Db.empty with clients := Table.empty.insert client, users := Table.empty.insert account }

/-- The six clients are created, and the account is linked to the first of them. -/
theorem transact_seedDemoCrm :
    (SeedScript.demoCrm.main (.sample 100) seedPayload).transact inUse =
      (.ok (6, 0), (SeedRun.mk .demoCrm (.sample 100) seedPayload).exec inUse) :=
  SeedRun.transact_eq (r := ⟨.demoCrm, .sample 100, seedPayload⟩) (by decide +kernel)

theorem seed_adds_example :
    OnlyAdds inUse ((SeedRun.mk .demoCrm (.sample 100) seedPayload).exec inUse) ∧
      SeedScript.demoCrm.AllPresent
        ((SeedRun.mk .demoCrm (.sample 100) seedPayload).exec inUse) :=
  seed_adds transact_seedDemoCrm

/-! ### Again -/

/-- Where everything is there, a script does nothing. -/
theorem SeedScript.AllPresent.run {script : SeedScript} (h : script.AllPresent db) :
    (script.main e payload).run db = .ok ((0, script.size), db) := by
  cases script with
  | users => exact run_createMissing h
  | demoLeads => exact run_createMissing h
  | demoCrm => exact SeedDemoCrm.run_main h

/-- The accounts of the system are not the demo account. -/
theorem email_ne_demoEmail {a : Str 255} (h : a ∈ SeedUsers.usersToSeed.map SeedUsers.Spec.email) :
    a ≠ SeedDemoCrm.demoEmail := by
  have hall : ∀ a ∈ SeedUsers.usersToSeed.map SeedUsers.Spec.email, a ≠ SeedDemoCrm.demoEmail := by
    decide
  exact hall a h

/-- The demo clients do not depend on the leads, nor on accounts with other addresses. -/
theorem SeedDemoCrm.AllPresent.congr (h : SeedDemoCrm.AllPresent db)
    (hclients : db'.clients = db.clients) (hcontacts : db'.contacts = db.contacts)
    (hservices : db'.services = db.services) (hmilestones : db'.milestones = db.milestones)
    (husers : db'.users.rows.filter (fun u ↦ decide (u.email = demoEmail)) =
      db.users.rows.filter fun u ↦ decide (u.email = demoEmail)) :
    SeedDemoCrm.AllPresent db' where
  clients spec hspec := by
    obtain ⟨c, hc⟩ := h.clients spec hspec
    refine ⟨c, hclients ▸ hc.client, hcontacts ▸ hc.contacts, fun svc hsvc ↦ ?_⟩
    obtain ⟨s, hs, hms⟩ := hc.services svc hsvc
    exact ⟨s, hservices ▸ hs, hmilestones ▸ hms⟩
  account c hc := by
    rw [husers]
    refine h.account c ?_
    have hclientOf : clientOf db' = clientOf db := by
      funext spec
      rw [clientOf, clientOf, hclients]
    rw [← hc, firstActive, firstActive, hclientOf]

/-- **What one script has created, no script undoes.** -/
theorem SeedScript.AllPresent.exec {script : SeedScript} (h : script.AllPresent db) (r : SeedRun) :
    script.AllPresent (r.exec db) := by
  obtain ⟨script', e, payload⟩ := r
  rw [SeedRun.exec]
  rcases (script'.main e payload).transact_cases db with ⟨out, db', hrun, ht⟩ | ⟨_, -, ht⟩
  rotate_left
  · rw [ht]
    exact h
  rw [ht]
  cases script' with
  | users =>
    obtain ⟨hpresent, new, t, hrows, rfl, hnew⟩ := ensures_seedUsers db out db' hrun
    cases script with
    | users => exact hpresent
    | demoLeads => exact h
    | demoCrm =>
      refine SeedDemoCrm.AllPresent.congr h rfl rfl rfl rfl ?_
      have hnone : new.filter (fun u ↦ decide (u.email = SeedDemoCrm.demoEmail)) = [] :=
        List.filter_eq_nil_iff.2 fun u hu hemail ↦
          email_ne_demoEmail (hnew u hu) (of_decide_eq_true hemail)
      show t.rows.filter _ = _
      rw [hrows, List.filter_append, hnone, List.append_nil]
  | demoLeads =>
    obtain ⟨hpresent, -, t, -, rfl⟩ := ensures_seedDemoLeads db out db' hrun
    cases script with
    | users => exact h
    | demoLeads => exact hpresent
    | demoCrm => exact SeedDemoCrm.AllPresent.congr h rfl rfl rfl rfl rfl
  | demoCrm =>
    obtain ⟨-, hpresent, hleads, hothers⟩ := SeedDemoCrm.ensures_main db out db' hrun
    cases script with
    | users =>
      intro spec hspec
      obtain ⟨u, hu⟩ := h spec hspec
      have hne : spec.email ≠ SeedDemoCrm.demoEmail :=
        email_ne_demoEmail (List.mem_map_of_mem hspec)
      -- The accounts with this address are among those that are not the demo account.
      have hfilter : ∀ users : List User, users.filter (fun u ↦ decide (u.email = spec.email)) =
          (users.filter fun u ↦ decide (u.email ≠ SeedDemoCrm.demoEmail)).filter
            fun u ↦ decide (u.email = spec.email) := by
        intro users
        rw [List.filter_filter]
        refine List.filter_congr fun u _ ↦ ?_
        by_cases hemail : u.email = spec.email <;> simp [hemail, hne]
      refine ⟨u, ?_⟩
      rw [table_users] at hu ⊢
      rw [hfilter, hothers, ← hfilter, hu]
    | demoLeads =>
      intro spec hspec
      obtain ⟨l, hl⟩ := h spec hspec
      rw [table_leads] at hl ⊢
      exact ⟨l, hleads ▸ hl⟩
    | demoCrm => exact hpresent

/-- **A seed script that has succeeded once does nothing when it is run again**, at any other time,
with any passwords, however often any of the scripts have been run in between. -/
theorem seed_again {script : SeedScript} {out : ℕ × ℕ} (between : List SeedRun)
    (h : (script.main e payload).transact db = (.ok out, db')) :
    (script.main e' payload').transact (between.foldl (fun db r ↦ r.exec db) db') =
      (.ok (0, script.size), between.foldl (fun db r ↦ r.exec db) db') := by
  have hpresent : script.AllPresent (between.foldl (fun db r ↦ r.exec db) db') := by
    have hstart := (seed_adds h).2
    clear h
    induction between generalizing db' with
    | nil => exact hstart
    | cons r between ih => exact ih (hstart.exec r)
  exact Prog.transact_of_ok hpresent.run

/-- The accounts are created in an empty database. -/
theorem transact_seedUsers : (SeedScript.users.main (.sample 1) seedPayload).transact .empty =
    (.ok (3, 0), (SeedRun.mk .users (.sample 1) seedPayload).exec .empty) :=
  SeedRun.transact_eq (r := ⟨.users, .sample 1, seedPayload⟩) rfl

/-- The script for the users, again, after the other two. -/
theorem seed_again_example :
    let between : List SeedRun :=
      [⟨.demoLeads, .sample 100, seedPayload⟩, ⟨.demoCrm, .sample 200, seedPayload⟩]
    let later := between.foldl (fun db r ↦ r.exec db)
      ((SeedRun.mk .users (.sample 1) seedPayload).exec .empty)
    (SeedScript.users.main (.sample 1000) seedPayload).transact later =
      (.ok (0, SeedScript.users.size), later) :=
  seed_again _ transact_seedUsers

end Scripts

end ZanovixCrm
