import ZanovixCrm.Guarantees.LeadConversion

/-!
# Write authority

Which requests may change which columns. The services update rows by dumping the fields that a body
sets, so what a request can change is decided by which fields its schema lists; the governed columns
(statuses, stages, flags, references to parents) are in none of these schemas but the one of the
internal ticket update, and there the route checks the role.

`Governs` is the rule for one request, column by column, and `FieldUpdates` is the frame of the
eight partial updates: one row changes, in the fields that were set. `Step.governs` and
`Step.fieldUpdates` derive them from what a request can do; `governed_run` is the result for every
act of every run.
-/

namespace ZanovixCrm

/-- **The governed columns.** `Asks` holds of the request that is served, `user` is its sender. -/
structure Governs (Asks : Request → Prop) (user : Except Fault User) (db db' : Db) : Prop where
  leadStatus : ∀ l ∈ db.leads, ∀ l' ∈ db'.leads, l'.id = l.id → l'.status ≠ l.status →
    (∃ st, Asks (.updateLeadStatus l.id st)) ∨ ∃ body, Asks (.convertLead l.id body)
  leadLink : ∀ l ∈ db.leads, ∀ l' ∈ db'.leads, l'.id = l.id →
    l'.convertedClientId ≠ l.convertedClientId → ∃ body, Asks (.convertLead l.id body)
  clientStage : ∀ c ∈ db.clients, ∀ c' ∈ db'.clients, c'.id = c.id → c'.stage ≠ c.stage →
    ∃ st, Asks (.changeClientStage c.id st)
  serviceState : ∀ s ∈ db.services, ∀ s' ∈ db'.services, s'.id = s.id → s'.state ≠ s.state →
    ∃ st, Asks (.changeServiceState s.id st)
  isDefault : ∀ b ∈ db.billingProfiles, ∀ b' ∈ db'.billingProfiles, b'.id = b.id →
    b'.isDefault ≠ b.isDefault →
    (∃ c body, Asks (.createBillingProfile c body)) ∨ (∃ k, Asks (.deleteBillingProfile k)) ∨
      ∃ k, Asks (.setDefaultBillingProfile k)
  ticketStatus : ∀ t ∈ db.tickets, ∀ t' ∈ db'.tickets, t'.id = t.id → t'.status ≠ t.status →
    (∃ body, Asks (.updateTicketInternal t.id body)) ∧
      ∃ u, user = .ok u ∧ u.role ∈ [Role.admin, Role.consultor]
  contactParent : ∀ c ∈ db.contacts, ∀ c' ∈ db'.contacts, c'.id = c.id → c'.clientId = c.clientId
  serviceParent : ∀ s ∈ db.services, ∀ s' ∈ db'.services, s'.id = s.id → s'.clientId = s.clientId
  milestoneParent : ∀ m ∈ db.milestones, ∀ m' ∈ db'.milestones, m'.id = m.id →
    m'.serviceId = m.serviceId ∧ m'.n = m.n
  billingProfileParent : ∀ b ∈ db.billingProfiles, ∀ b' ∈ db'.billingProfiles, b'.id = b.id →
    b'.clientId = b.clientId
  ticketParent : ∀ t ∈ db.tickets, ∀ t' ∈ db'.tickets, t'.id = t.id →
    t'.clientId = t.clientId ∧ t'.serviceId = t.serviceId
  /-- Messages are never changed or deleted; in particular they stay with their client. -/
  messages : ∀ m ∈ db.messages, m ∈ db'.messages
  /-- Entries of the log are never changed or deleted. -/
  activityLog : ∀ a ∈ db.activityLog, a ∈ db'.activityLog

/-- All rows are as before, except for one row of one table, and for new rows. -/
structure OnlyTouches (t : TableName) (k : UUID) (db db' : Db) : Prop where
  users : ∀ x ∈ db.users, (t = .users → x.id ≠ k) → x ∈ db'.users
  leads : ∀ x ∈ db.leads, (t = .leads → x.id ≠ k) → x ∈ db'.leads
  clients : ∀ x ∈ db.clients, (t = .clients → x.id ≠ k) → x ∈ db'.clients
  contacts : ∀ x ∈ db.contacts, (t = .contacts → x.id ≠ k) → x ∈ db'.contacts
  services : ∀ x ∈ db.services, (t = .services → x.id ≠ k) → x ∈ db'.services
  milestones : ∀ x ∈ db.milestones, (t = .milestones → x.id ≠ k) → x ∈ db'.milestones
  billingProfiles : ∀ x ∈ db.billingProfiles, (t = .billingProfiles → x.id ≠ k) →
    x ∈ db'.billingProfiles
  tickets : ∀ x ∈ db.tickets, (t = .tickets → x.id ≠ k) → x ∈ db'.tickets
  messages : ∀ x ∈ db.messages, (t = .messages → x.id ≠ k) → x ∈ db'.messages
  activityLog : ∀ x ∈ db.activityLog, (t = .activityLog → x.id ≠ k) → x ∈ db'.activityLog

/-- **The partial updates**: each changes one row, and of that row the fields that its body sets. -/
structure FieldUpdates (Asks : Request → Prop) (db db' : Db) : Prop where
  lead : ∀ k body, Asks (.updateLead k body) → OnlyTouches .leads k db db' ∧
    ∃ l ∈ db.leads, ∃ l' ∈ db'.leads, l.id = k ∧ l'.id = k ∧ l' = LeadService.merge body l' l
  client : ∀ k body, Asks (.updateClient k body) → OnlyTouches .clients k db db' ∧
    ∃ c ∈ db.clients, ∃ c' ∈ db'.clients, c.id = k ∧ c'.id = k ∧ c' = ClientService.merge body c' c
  contact : ∀ clientId k body, Asks (.updateContact clientId k body) →
    OnlyTouches .contacts k db db' ∧ ∃ c ∈ db.contacts, ∃ c' ∈ db'.contacts,
      c.id = k ∧ c'.id = k ∧ c' = ContactService.merge body c' c
  service : ∀ k body, Asks (.updateService k body) → OnlyTouches .services k db db' ∧
    ∃ s ∈ db.services, ∃ s' ∈ db'.services,
      s.id = k ∧ s'.id = k ∧ s' = ServiceService.merge body s' s
  milestone : ∀ serviceId n body, Asks (.updateMilestone serviceId n body) →
    ∃ m ∈ db.milestones, ∃ m' ∈ db'.milestones, m.serviceId = serviceId ∧ m.n.val = n ∧
      m'.id = m.id ∧ m' = MilestoneService.merge body m' m ∧ OnlyTouches .milestones m.id db db'
  billingProfile : ∀ k body, Asks (.updateBillingProfile k body) →
    OnlyTouches .billingProfiles k db db' ∧ ∃ b ∈ db.billingProfiles, ∃ b' ∈ db'.billingProfiles,
      b.id = k ∧ b'.id = k ∧ b' = BillingProfileService.merge body b' b
  myTicket : ∀ k body, Asks (.updateMyTicket k body) → OnlyTouches .tickets k db db' ∧
    ∃ t ∈ db.tickets, ∃ t' ∈ db'.tickets,
      t.id = k ∧ t'.id = k ∧ t' = TicketService.patchMerge body t' t
  ticket : ∀ k body, Asks (.updateTicketInternal k body) → OnlyTouches .tickets k db db' ∧
    ∃ t ∈ db.tickets, ∃ t' ∈ db'.tickets,
      t.id = k ∧ t'.id = k ∧ t' = TicketService.updateMerge body t' t

/-! ### One request, table by table -/

section Step

variable {p : Platform} {s : Settings} {env : Env} {db db' : Db} {user : Except Fault User}
  {r : Request} {resp : Response}

/-- The stage of a client is changed by the stage endpoint alone. -/
theorem Step.clients (h : Step p s env db user r resp db') :
    Table.Evolves (fun c c' : Client ↦ c'.stage = c.stage ∨ ∃ st, r = .changeClientStage c.id st)
      (fun _ ↦ True) db.clients db'.clients := by
  cases h with
  | convertLead _ _ _ _ _ hnew => exact .insert (fun _ ↦ Or.inl rfl) hnew trivial
  | createClient _ _ hnew => exact .insert (fun _ ↦ Or.inl rfl) hnew trivial
  | updateClient _ _ hc =>
    have heq := congrArg Client.stage (ClientService.eq_merge hc)
    exact hc.evolves (fun _ ↦ Or.inl rfl) (Or.inl heq)
  | changeClientStage _ _ _ hc =>
    have hid : Client.id _ = _ := hc.key_old
    exact hc.evolves (fun _ ↦ Or.inl rfl) (Or.inr ⟨_, by rw [hid]⟩)
  | _ => exact .refl fun _ ↦ Or.inl rfl

/-- The state of a service is changed by the state endpoint alone, and its client by nobody. -/
theorem Step.services (h : Step p s env db user r resp db') :
    Table.Evolves (fun sv sv' : Service ↦ sv'.clientId = sv.clientId ∧
        (sv'.state = sv.state ∨ ∃ st, r = .changeServiceState sv.id st))
      (fun _ ↦ True) db.services db'.services := by
  cases h with
  | createService _ _ _ _ hnew => exact .insert (fun _ ↦ ⟨rfl, Or.inl rfl⟩) hnew trivial
  | updateService _ hs =>
    have hclient := congrArg Service.clientId (ServiceService.eq_merge hs)
    have hstate := congrArg Service.state (ServiceService.eq_merge hs)
    exact hs.evolves (fun _ ↦ ⟨rfl, Or.inl rfl⟩) ⟨hclient, Or.inl hstate⟩
  | changeServiceState _ _ hs =>
    have hid : Service.id _ = _ := hs.key_old
    have hclient := hs.preserves (f := Service.clientId) (.assignText fun _ _ ↦ rfl) fun _ _ ↦ rfl
    exact hs.evolves (fun _ ↦ ⟨rfl, Or.inl rfl⟩) ⟨hclient, Or.inr ⟨_, by rw [hid]⟩⟩
  | _ => exact .refl fun _ ↦ ⟨rfl, Or.inl rfl⟩

theorem Step.contacts (h : Step p s env db user r resp db') :
    Table.Evolves (fun c c' : Contact ↦ c'.clientId = c.clientId) (fun _ ↦ True) db.contacts
      db'.contacts := by
  cases h with
  | convertLead _ _ _ _ _ _ hnew => exact .insert (fun _ ↦ rfl) hnew trivial
  | createContact _ _ hnew => exact .insert (fun _ ↦ rfl) hnew trivial
  | updateContact _ _ hc =>
    have hclient := congrArg Contact.clientId (ContactService.eq_merge hc)
    exact hc.evolves (fun _ ↦ rfl) hclient
  | deleteContact => exact .erase fun _ ↦ rfl
  | _ => exact .refl fun _ ↦ rfl

theorem Step.milestones (h : Step p s env db user r resp db') :
    Table.Evolves (fun m m' : Milestone ↦ m'.serviceId = m.serviceId ∧ m'.n = m.n)
      (fun _ ↦ True) db.milestones db'.milestones := by
  cases h with
  | createMilestone _ hnew => exact .insert (fun _ ↦ ⟨rfl, rfl⟩) hnew trivial
  | updateMilestone _ _ hm =>
    have hservice := congrArg Milestone.serviceId (MilestoneService.eq_merge hm)
    have hn := congrArg Milestone.n (MilestoneService.eq_merge hm)
    exact hm.evolves (fun _ ↦ ⟨rfl, rfl⟩) ⟨hservice, hn⟩
  | deleteMilestone => exact .erase fun _ ↦ ⟨rfl, rfl⟩
  | _ => exact .refl fun _ ↦ ⟨rfl, rfl⟩

/-- The requests that hand the default of a client's billing profiles over. -/
def ManagesDefault (r : Request) : Prop :=
  (∃ c body, r = .createBillingProfile c body) ∨ (∃ k, r = .deleteBillingProfile k) ∨
    ∃ k, r = .setDefaultBillingProfile k

/-- The client of a profile is changed by nobody, and its flag by three endpoints. -/
theorem Step.billingProfiles (h : Step p s env db user r resp db') :
    Table.Evolves (fun b b' : BillingProfile ↦ b'.clientId = b.clientId ∧
        (b'.isDefault = b.isDefault ∨ ManagesDefault r))
      (fun _ ↦ True) db.billingProfiles db'.billingProfiles := by
  -- The three endpoints may change the flag, so that for them the client is all that matters.
  have hmanages : ∀ {t : Table BillingProfile}, ManagesDefault r →
      Table.Evolves BillingProfileService.FlagOnly (fun _ ↦ True) db.billingProfiles t →
      Table.Evolves (fun b b' : BillingProfile ↦ b'.clientId = b.clientId ∧
        (b'.isDefault = b.isDefault ∨ ManagesDefault r)) (fun _ ↦ True) db.billingProfiles t :=
    fun hr ht ↦ ht.mono (fun _ _ h ↦ ⟨h.clientId_eq, Or.inr hr⟩) fun _ ↦ id
  cases h with
  | @convertLead u leadId body l c a t _ _ _ _ _ _ _ hbilling =>
    rcases hb : body.billingProfile with - | payload
    · rw [hb] at hbilling
      obtain rfl : t = db.billingProfiles := hbilling
      exact .refl fun _ ↦ ⟨rfl, Or.inl rfl⟩
    · rw [hb] at hbilling
      obtain ⟨b, -, hnew, rfl⟩ := hbilling
      exact .insert (fun _ ↦ ⟨rfl, Or.inl rfl⟩) hnew trivial
  | createBillingProfile _ _ _ hnew =>
    exact hmanages (Or.inl ⟨_, _, rfl⟩)
      (BillingProfileService.evolves_create (fun _ _ _ _ ↦ trivial) hnew trivial)
  | updateBillingProfile _ hb =>
    have hclient := congrArg BillingProfile.clientId (BillingProfileService.eq_merge hb)
    have hdefault := congrArg BillingProfile.isDefault (BillingProfileService.eq_merge hb)
    exact hb.evolves (fun _ ↦ ⟨rfl, Or.inl rfl⟩) ⟨hclient, Or.inl hdefault⟩
  | deleteBillingProfile _ _ ht =>
    exact hmanages (Or.inr (Or.inl ⟨_, rfl⟩)) (BillingProfileService.evolves_delete ht _)
  | @setDefaultBillingProfile u k b b' _ hb =>
    obtain ⟨hmem, rfl⟩ := Table.find?_eq_some_iff.1 hb
    exact hmanages (Or.inr (Or.inr ⟨_, rfl⟩))
      (BillingProfileService.evolves_setDefault hmem fun _ _ _ _ ↦ trivial)
  | _ => exact .refl fun _ ↦ ⟨rfl, Or.inl rfl⟩

/-- The status of a ticket is changed by the internal update alone, and not by a `comercial`; its
client and its service by nobody. A new ticket is one that the client has opened. -/
theorem Step.tickets (h : Step p s env db user r resp db') :
    Table.Evolves (fun t t' : Ticket ↦ (t'.clientId = t.clientId ∧ t'.serviceId = t.serviceId) ∧
        (t'.status = t.status ∨ (∃ body, r = .updateTicketInternal t.id body) ∧
          ∃ u, user = .ok u ∧ u.role ∈ [Role.admin, Role.consultor]))
      (fun t ↦ ∃ u body, user = .ok u ∧ r = .createMyTicket body ∧ u.clientId = some t.clientId ∧
        t.serviceId = body.serviceId) db.tickets db'.tickets := by
  cases h with
  | createMyTicket _ hclient hrow hnew =>
    obtain ⟨-, hc, hservice, -⟩ := TicketService.row_spec hrow
    exact .insert (fun _ ↦ ⟨⟨rfl, rfl⟩, Or.inl rfl⟩) hnew
      ⟨_, _, rfl, rfl, by rw [hclient, hc], hservice⟩
  | updateMyTicket _ _ _ ht =>
    have heq := TicketService.eq_patchMerge ht
    have hclient := congrArg Ticket.clientId heq
    have hservice := congrArg Ticket.serviceId heq
    have hstatus := congrArg Ticket.status heq
    exact ht.evolves (fun _ ↦ ⟨⟨rfl, rfl⟩, Or.inl rfl⟩) ⟨⟨hclient, hservice⟩, Or.inl hstatus⟩
  | updateTicketInternal hrole hcomercial ht =>
    rename_i u k body t t' a text _
    have heq := TicketService.eq_updateMerge ht
    have hclient := congrArg Ticket.clientId heq
    have hservice := congrArg Ticket.serviceId heq
    have hid : t.id = k := ht.key_old
    refine ht.evolves (fun _ ↦ ⟨⟨rfl, rfl⟩, Or.inl rfl⟩) ⟨⟨hclient, hservice⟩, ?_⟩
    by_cases hu : u.role = .comercial
    · -- A `comercial` sets no status, and a `null` would have been refused.
      have hstatus := TicketService.status_of_flushed ht
      have hnone := hcomercial hu
      left
      rcases hs : body.status with - | - | st
      · rw [hs] at hstatus
        exact Option.some.inj hstatus
      · rw [hs] at hstatus
        cases hstatus
      · rw [hs] at hnone
        cases hnone
    · refine Or.inr ⟨⟨body, by rw [hid]⟩, u, rfl, ?_⟩
      simpa [hu] using hrole
  | _ => exact .refl fun _ ↦ ⟨⟨rfl, rfl⟩, Or.inl rfl⟩

theorem Step.messages (h : Step p s env db user r resp db') :
    ∀ m ∈ db.messages, m ∈ db'.messages := by
  cases h with
  | sendMyMessage | createClientMessage => exact fun m hm ↦ Table.mem_insert_of_mem hm
  | _ => exact fun m hm ↦ hm

/-- The log after a milestone update has all earlier entries. -/
theorem MilestoneService.LogsCompletion.mono {serviceId : UUID} {m : Milestone}
    {body : MilestoneUpdate} {log : Table ActivityLog}
    (h : LogsCompletion db serviceId m body log) :
    ∀ a ∈ db.activityLog, a ∈ log := by
  unfold LogsCompletion at h
  intro a ha
  split at h
  · split at h
    · obtain ⟨x, text, hx, rfl⟩ := h
      exact Table.mem_insert_of_mem ha
    · exact h ▸ ha
  · exact h ▸ ha

theorem Step.activityLog (h : Step p s env db user r resp db') :
    ∀ a ∈ db.activityLog, a ∈ db'.activityLog := by
  cases h with
  | updateMilestone _ _ _ hlog => exact hlog.mono
  | convertLead | createClient | changeClientStage | createContact | updateContact | createService
  | changeServiceState | sendMyMessage | createMyTicket | updateMyTicket | createClientMessage
  | updateTicketInternal => exact fun a ha ↦ Table.mem_insert_of_mem ha
  | _ => exact fun a ha ↦ ha

/-- **The governed columns, request by request.** -/
theorem Step.governs (h : Step p s env db user r resp db') : Governs (· = r) user db db' where
  leadStatus l hl l' hl' hid hne := by
    cases h.leads.rel hl hl' hid with
    | kept hstatus hlink => exact absurd hstatus hne
    | moved st hr => exact Or.inl ⟨st, hr⟩
    | converted body c hr => exact Or.inr ⟨body, hr⟩
  leadLink l hl l' hl' hid hne := by
    cases h.leads.rel hl hl' hid with
    | kept hstatus hlink => exact absurd hlink hne
    | moved st hr hedge hstatus hlink => exact absurd hlink hne
    | converted body c hr => exact ⟨body, hr⟩
  clientStage c hc c' hc' hid hne := by
    obtain hstage | ⟨st, rfl⟩ := h.clients.rel hc hc' hid
    · exact absurd hstage hne
    · exact ⟨st, rfl⟩
  serviceState sv hs sv' hs' hid hne := by
    obtain ⟨-, hstate | ⟨st, rfl⟩⟩ := h.services.rel hs hs' hid
    · exact absurd hstate hne
    · exact ⟨st, rfl⟩
  isDefault b hb b' hb' hid hne := by
    obtain ⟨-, hdefault | ⟨c, body, rfl⟩ | ⟨k, rfl⟩ | ⟨k, rfl⟩⟩ := h.billingProfiles.rel hb hb' hid
    · exact absurd hdefault hne
    · exact Or.inl ⟨c, body, rfl⟩
    · exact Or.inr (Or.inl ⟨k, rfl⟩)
    · exact Or.inr (Or.inr ⟨k, rfl⟩)
  ticketStatus t ht t' ht' hid hne := by
    obtain ⟨-, hstatus | ⟨⟨body, rfl⟩, hu⟩⟩ := h.tickets.rel ht ht' hid
    · exact absurd hstatus hne
    · exact ⟨⟨body, rfl⟩, hu⟩
  contactParent c hc c' hc' hid := h.contacts.rel hc hc' hid
  serviceParent sv hs sv' hs' hid := (h.services.rel hs hs' hid).1
  milestoneParent m hm m' hm' hid := h.milestones.rel hm hm' hid
  billingProfileParent b hb b' hb' hid := (h.billingProfiles.rel hb hb' hid).1
  ticketParent t ht t' ht' hid := (h.tickets.rel ht ht' hid).1
  messages := h.messages
  activityLog := h.activityLog

theorem OnlyTouches.refl (t : TableName) (k : UUID) (db : Db) : OnlyTouches t k db db :=
  ⟨fun _ hx _ ↦ hx, fun _ hx _ ↦ hx, fun _ hx _ ↦ hx, fun _ hx _ ↦ hx, fun _ hx _ ↦ hx,
    fun _ hx _ ↦ hx, fun _ hx _ ↦ hx, fun _ hx _ ↦ hx, fun _ hx _ ↦ hx, fun _ hx _ ↦ hx⟩

/-- **A partial update changes one row, in the fields that it sets.** -/
theorem Step.fieldUpdates (h : Step p s env db user r resp db') : FieldUpdates (· = r) db db' where
  lead k body hr := by
    subst hr
    cases h with
    | updateLead hsees hl =>
      refine ⟨{ OnlyTouches.refl .leads k db with
        leads := fun x hx hne ↦ (Table.mem_alter_of_ne (hne rfl)).2 hx }, ?_⟩
      exact hl.exists_rows (LeadService.eq_merge hl)
  client k body hr := by
    subst hr
    cases h with
    | updateClient hrole hsees hc =>
      refine ⟨{ OnlyTouches.refl .clients k db with
        clients := fun x hx hne ↦ (Table.mem_alter_of_ne (hne rfl)).2 hx }, ?_⟩
      exact hc.exists_rows (ClientService.eq_merge hc)
  contact clientId k body hr := by
    subst hr
    cases h with
    | updateContact hrole hclient hc ha =>
      refine ⟨{ OnlyTouches.refl .contacts k db with
        contacts := fun x hx hne ↦ (Table.mem_alter_of_ne (hne rfl)).2 hx
        activityLog := fun x hx _ ↦ Table.mem_insert_of_mem hx }, ?_⟩
      exact hc.exists_rows (ContactService.eq_merge hc)
  service k body hr := by
    subst hr
    cases h with
    | updateService hsees hs =>
      refine ⟨{ OnlyTouches.refl .services k db with
        services := fun x hx hne ↦ (Table.mem_alter_of_ne (hne rfl)).2 hx }, ?_⟩
      exact hs.exists_rows (ServiceService.eq_merge hs)
  milestone serviceId n body hr := by
    subst hr
    cases h with
    | updateMilestone hservice hn hm hlog =>
      obtain ⟨m, hmem, m', hmem', hk, hk', heq, rfl⟩ :=
        hm.exists_rows (R := fun m m' ↦ m' = MilestoneService.merge body m' m ∧ m = _)
          ⟨MilestoneService.eq_merge hm, rfl⟩
      refine ⟨_, hmem, m', hmem', hservice, hn, hk', heq, ?_⟩
      exact { OnlyTouches.refl .milestones _ db with
        milestones := fun x hx hne ↦ (Table.mem_alter_of_ne (hne rfl)).2 hx
        activityLog := fun x hx _ ↦ hlog.mono x hx }
  billingProfile k body hr := by
    subst hr
    cases h with
    | updateBillingProfile hrole hb =>
      refine ⟨{ OnlyTouches.refl .billingProfiles k db with
        billingProfiles := fun x hx hne ↦ (Table.mem_alter_of_ne (hne rfl)).2 hx }, ?_⟩
      exact hb.exists_rows (BillingProfileService.eq_merge hb)
  myTicket k body hr := by
    subst hr
    cases h with
    | updateMyTicket hrole hclient howner ht ha =>
      refine ⟨{ OnlyTouches.refl .tickets k db with
        tickets := fun x hx hne ↦ (Table.mem_alter_of_ne (hne rfl)).2 hx
        activityLog := fun x hx _ ↦ Table.mem_insert_of_mem hx }, ?_⟩
      exact ht.exists_rows (TicketService.eq_patchMerge ht)
  ticket k body hr := by
    subst hr
    cases h with
    | updateTicketInternal hrole hstatus ht ha =>
      refine ⟨{ OnlyTouches.refl .tickets k db with
        tickets := fun x hx hne ↦ (Table.mem_alter_of_ne (hne rfl)).2 hx
        activityLog := fun x hx _ ↦ Table.mem_insert_of_mem hx }, ?_⟩
      exact ht.exists_rows (TicketService.eq_updateMerge ht)

end Step

/-! ### All runs -/

/-- The user on whose behalf an act is done. -/
def Act.caller (db : Db) : Act → Except Fault User
  | .request _ sub _ => currentUser db sub
  | .account _ => .error .unhandled

section Act

variable {p : Platform} {s : Settings} {Asks Asks' : Request → Prop} {db db' : Db}
  {user : Except Fault User} {a : Act} {answer : Option Response}

theorem Governs.refl (Asks : Request → Prop) (user : Except Fault User) (db : Db) :
    Governs Asks user db db where
  leadStatus l hl l' hl' hid hne := absurd (congrArg _ (Table.eq_of_key_eq hl' hl hid)) hne
  leadLink l hl l' hl' hid hne := absurd (congrArg _ (Table.eq_of_key_eq hl' hl hid)) hne
  clientStage c hc c' hc' hid hne := absurd (congrArg _ (Table.eq_of_key_eq hc' hc hid)) hne
  serviceState sv hs sv' hs' hid hne := absurd (congrArg _ (Table.eq_of_key_eq hs' hs hid)) hne
  isDefault b hb b' hb' hid hne := absurd (congrArg _ (Table.eq_of_key_eq hb' hb hid)) hne
  ticketStatus t ht t' ht' hid hne := absurd (congrArg _ (Table.eq_of_key_eq ht' ht hid)) hne
  contactParent c hc c' hc' hid := congrArg _ (Table.eq_of_key_eq hc' hc hid)
  serviceParent sv hs sv' hs' hid := congrArg _ (Table.eq_of_key_eq hs' hs hid)
  milestoneParent m hm m' hm' hid := by
    obtain rfl : m' = m := Table.eq_of_key_eq hm' hm hid
    exact ⟨rfl, rfl⟩
  billingProfileParent b hb b' hb' hid := congrArg _ (Table.eq_of_key_eq hb' hb hid)
  ticketParent t ht t' ht' hid := by
    obtain rfl : t' = t := Table.eq_of_key_eq ht' ht hid
    exact ⟨rfl, rfl⟩
  messages _ hm := hm
  activityLog _ ha := ha

theorem Governs.mono (h : Governs Asks user db db') (hasks : ∀ r, Asks r → Asks' r) :
    Governs Asks' user db db' :=
  { h with
    leadStatus := fun l hl l' hl' hid hne ↦ (h.leadStatus l hl l' hl' hid hne).imp
      (fun ⟨st, hst⟩ ↦ ⟨st, hasks _ hst⟩) fun ⟨body, hbody⟩ ↦ ⟨body, hasks _ hbody⟩
    leadLink := fun l hl l' hl' hid hne ↦
      (h.leadLink l hl l' hl' hid hne).imp fun _ ↦ hasks _
    clientStage := fun c hc c' hc' hid hne ↦
      (h.clientStage c hc c' hc' hid hne).imp fun _ ↦ hasks _
    serviceState := fun sv hs sv' hs' hid hne ↦
      (h.serviceState sv hs sv' hs' hid hne).imp fun _ ↦ hasks _
    isDefault := fun b hb b' hb' hid hne ↦ (h.isDefault b hb b' hb' hid hne).imp
      (fun ⟨c, body, hr⟩ ↦ ⟨c, body, hasks _ hr⟩)
      (Or.imp (fun ⟨k, hr⟩ ↦ ⟨k, hasks _ hr⟩) fun ⟨k, hr⟩ ↦ ⟨k, hasks _ hr⟩)
    ticketStatus := fun t ht t' ht' hid hne ↦
      (h.ticketStatus t ht t' ht' hid hne).imp_left (Exists.imp fun _ ↦ hasks _) }

theorem FieldUpdates.mono (h : FieldUpdates Asks db db') (hasks : ∀ r, Asks' r → Asks r) :
    FieldUpdates Asks' db db' where
  lead k body hr := h.lead k body (hasks _ hr)
  client k body hr := h.client k body (hasks _ hr)
  contact c k body hr := h.contact c k body (hasks _ hr)
  service k body hr := h.service k body (hasks _ hr)
  milestone sv n body hr := h.milestone sv n body (hasks _ hr)
  billingProfile k body hr := h.billingProfile k body (hasks _ hr)
  myTicket k body hr := h.myTicket k body (hasks _ hr)
  ticket k body hr := h.ticket k body (hasks _ hr)

/-- The reading endpoints are no partial updates. -/
theorem FieldUpdates.of_isRead (h : ∀ r, Asks r → r.isRead = true) : FieldUpdates Asks db db' where
  lead _ _ hr := nomatch h _ hr
  client _ _ hr := nomatch h _ hr
  contact _ _ _ hr := nomatch h _ hr
  service _ _ hr := nomatch h _ hr
  milestone _ _ _ hr := nomatch h _ hr
  billingProfile _ _ hr := nomatch h _ hr
  myTicket _ _ hr := nomatch h _ hr
  ticket _ _ hr := nomatch h _ hr

theorem Happens.governs (h : Happens p s db a answer db') :
    Governs (a.Asks p) (a.caller db) db db' := by
  cases h with
  | idle h => exact .refl _ _ db
  | step hv h => exact h.governs.mono fun r hr ↦ hr ▸ Act.asks_bound hv _ _
  | account h =>
    obtain ⟨t, rfl⟩ := TableOp.exists_setTable h
    exact { Governs.refl _ _ db with }
  | refused => exact .refl _ _ db

theorem Happens.fieldUpdates (h : Happens p s db a answer db') :
    FieldUpdates (fun r ↦ a.Asks p r ∧ answer.any Response.isOk = true) db db' := by
  cases h with
  | idle h =>
    refine .of_isRead fun r ⟨hasks, hok⟩ ↦ ?_
    obtain ⟨r₀, rfl, hread⟩ := h hok
    obtain ⟨_, _, r₁, ha, hv⟩ := hasks
    cases ha
    exact (sameKind_of_validate? hv).isRead.trans hread
  | step hv h =>
    refine h.fieldUpdates.mono fun r ⟨hasks, _⟩ ↦ ?_
    exact hasks.unique (Act.asks_bound hv _ _)
  | account h => exact .of_isRead fun r ⟨_, hok⟩ ↦ nomatch hok
  | refused => exact .of_isRead fun r ⟨_, hok⟩ ↦ nomatch hok

end Act

/-- **Write authority over a run.** -/
structure Governed (p : Platform) (r : Run) : Prop where
  governs : ∀ e ∈ r.events, Governs (e.act.Asks p) (e.act.caller e.before) e.before e.after
  fieldUpdates : ∀ e ∈ r.events,
    FieldUpdates (fun q ↦ e.act.Asks p q ∧ e.succeeded = true) e.before e.after
  /-- Messages stay to the end, as they were sent. -/
  messages : ∀ e ∈ r.events, ∀ m ∈ e.after.messages, m ∈ r.db.messages
  /-- Entries of the log stay to the end, as they were written. -/
  activityLog : ∀ e ∈ r.events, ∀ a ∈ e.after.activityLog, a ∈ r.db.activityLog

/-- **In every run, governed columns change only by the endpoints that govern them**, and partial
updates change nothing but the fields that they set. -/
theorem governed_run (p : Platform) (s : Settings) (acts : List Act) :
    Governed p (run p s acts) := by
  have hempty : Governed p Run.empty := ⟨fun e he ↦ absurd he List.not_mem_nil,
    fun e he ↦ absurd he List.not_mem_nil, fun e he ↦ absurd he List.not_mem_nil,
    fun e he ↦ absurd he List.not_mem_nil⟩
  refine run_induction hempty (fun r a answer db' _ _ hI h ↦ ?_) acts
  have hgoverns := h.governs
  refine ⟨fun e he ↦ ?_, fun e he ↦ ?_, fun e he m hm ↦ ?_, fun e he x hx ↦ ?_⟩ <;>
    rcases List.mem_append.1 he with he | he
  · exact hI.governs e he
  · obtain rfl := List.mem_singleton.1 he
    exact hgoverns
  · exact hI.fieldUpdates e he
  · obtain rfl := List.mem_singleton.1 he
    exact h.fieldUpdates
  · exact hgoverns.messages m (hI.messages e he m hm)
  · obtain rfl := List.mem_singleton.1 he
    exact hm
  · exact hgoverns.activityLog x (hI.activityLog e he x hx)
  · obtain rfl := List.mem_singleton.1 he
    exact hx

end ZanovixCrm
