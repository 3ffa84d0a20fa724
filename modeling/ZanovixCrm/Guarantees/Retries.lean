import ZanovixCrm.Api.Runs
import ZanovixCrm.Database.Replay

/-!
# Requests that are sent again

A client that has got no answer sends its request again. Most requests may be: an edit assigns what
it has assigned already, a transition is refused from the value it leads to, a deletion finds
nothing, and the schema or the handler notices that a lead has been converted, an index or an
identifier given out. All that a second copy of such a request can do, directly after the first, is
to date rows anew, and to record the edit of a contact or of a ticket a second time
(`retry_harmless`). The exceptions are the requests that add a row which clashes with none
(`Request.repeats`).

Copies between which others have acted are left out: an edit that is sent again then takes their
changes back.
-/

namespace ZanovixCrm

/-- The request adds a row each time it is sent. -/
def Request.repeats : Request → Bool
  | .createLead .. | .createClient _ | .createContact .. | .createService .. | .sendMyMessage _
  | .createMyTicket _ | .createClientMessage .. => true
  | _ => false

/-- The request records an edit in the log whether or not it has changed anything. -/
def Request.logsEdits : Request → Bool
  | .updateContact .. | .updateMyTicket .. | .updateTicketInternal .. => true
  | _ => false

/-- The databases have the same rows, but for the dates of their last changes, and for one entry
more in the log if the request records edits. -/
structure Db.SameBut (r : Request) (db db' : Db) : Prop where
  users : db'.users = db.users
  leads : db.leads.SameUndated db'.leads
  clients : db.clients.SameUndated db'.clients
  contacts : db.contacts.SameUndated db'.contacts
  services : db.services.SameUndated db'.services
  milestones : db'.milestones = db.milestones
  billingProfiles : db.billingProfiles.SameUndated db'.billingProfiles
  tickets : db.tickets.SameUndated db'.tickets
  messages : db'.messages = db.messages
  activityLog : db'.activityLog = db.activityLog ∨
    r.logsEdits = true ∧ ∃ a, db'.activityLog = db.activityLog.insert a

theorem Db.SameBut.refl (r : Request) (db : Db) : Db.SameBut r db db :=
  ⟨rfl, rfl, rfl, rfl, rfl, rfl, rfl, rfl, rfl, Or.inl rfl⟩

namespace Db.SameBut

variable {r : Request} {db : Db}

theorem withLeads {t : Table Lead} (h : db.leads.SameUndated t) :
    Db.SameBut r db { db with leads := t } :=
  { Db.SameBut.refl r db with leads := h }

theorem withClients {t : Table Client} (h : db.clients.SameUndated t) :
    Db.SameBut r db { db with clients := t } :=
  { Db.SameBut.refl r db with clients := h }

theorem withServices {t : Table Service} (h : db.services.SameUndated t) :
    Db.SameBut r db { db with services := t } :=
  { Db.SameBut.refl r db with services := h }

/-- Milestones are not dated. -/
theorem withMilestones {t : Table Milestone} {log : Table ActivityLog}
    (h : db.milestones.SameUndated t) (hlog : log = db.activityLog) :
    Db.SameBut r db { db with milestones := t, activityLog := log } := by
  have hid : (undated : Milestone → Milestone) = id := rfl
  rw [Table.SameUndated, hid, List.map_id, List.map_id] at h
  exact { Db.SameBut.refl r db with milestones := Table.ext h, activityLog := Or.inl hlog }

theorem withBillingProfiles {t : Table BillingProfile} (h : db.billingProfiles.SameUndated t) :
    Db.SameBut r db { db with billingProfiles := t } :=
  { Db.SameBut.refl r db with billingProfiles := h }

theorem withContacts {t : Table Contact} {a : ActivityLog} (hr : r.logsEdits = true)
    (h : db.contacts.SameUndated t) :
    Db.SameBut r db { db with contacts := t, activityLog := db.activityLog.insert a } :=
  { Db.SameBut.refl r db with contacts := h, activityLog := Or.inr ⟨hr, a, rfl⟩ }

theorem withTickets {t : Table Ticket} {a : ActivityLog} (hr : r.logsEdits = true)
    (h : db.tickets.SameUndated t) :
    Db.SameBut r db { db with tickets := t, activityLog := db.activityLog.insert a } :=
  { Db.SameBut.refl r db with tickets := h, activityLog := Or.inr ⟨hr, a, rfl⟩ }

end Db.SameBut

/-! ### The edits are independent assignments -/

section Edits

theorem independent_lead (body : LeadUpdate) : Independent (LeadService.changes body) :=
  ColumnPatch.independent [⟨Lead.Col.name, body.name⟩, ⟨Lead.Col.phone, body.phone⟩,
    ⟨Lead.Col.company, body.company⟩, ⟨Lead.Col.notes, body.notes⟩, ⟨Lead.Col.role, body.role⟩]

theorem independent_client (body : ClientUpdate) : Independent (ClientService.changes body) :=
  ColumnPatch.independent [⟨Client.Col.name, body.name⟩, ⟨Client.Col.sector, body.sector⟩,
    ⟨Client.Col.size, body.size⟩, ⟨Client.Col.region, body.region⟩,
    ⟨Client.Col.ownerId, body.ownerId⟩, ⟨Client.Col.mrrCents, body.mrrCents⟩,
    ⟨Client.Col.lifetimeValueCents, body.lifetimeValueCents⟩]

theorem independent_contact (body : ContactUpdate) : Independent (ContactService.changes body) :=
  ColumnPatch.independent [⟨Contact.Col.name, body.name⟩, ⟨Contact.Col.role, body.role⟩,
    ⟨Contact.Col.email, body.email⟩, ⟨Contact.Col.phone, body.phone⟩,
    ⟨Contact.Col.isPrimary, body.isPrimary⟩]

theorem independent_service (body : ServiceUpdate) : Independent (ServiceService.changes body) :=
  ColumnPatch.independent [⟨Service.Col.title, body.title⟩, ⟨Service.Col.ownerId, body.ownerId⟩,
    ⟨Service.Col.progressPct, body.progressPct⟩, ⟨Service.Col.startedAt, body.startedAt⟩,
    ⟨Service.Col.endedAt, body.endedAt⟩, ⟨Service.Col.setupPriceCents, body.setupPriceCents⟩,
    ⟨Service.Col.monthlyCents, body.monthlyCents⟩, ⟨Service.Col.scoreInt, body.scoreInt⟩]

theorem independent_milestone (body : MilestoneUpdate) :
    Independent (MilestoneService.changes body) :=
  ColumnPatch.independent [⟨Milestone.Col.title, body.title⟩, ⟨Milestone.Col.dueDate, body.dueDate⟩,
    ⟨Milestone.Col.completedAt, body.completedAt⟩]

theorem independent_billingProfile (body : BillingProfileUpdate) :
    Independent (BillingProfileService.changes body) :=
  ColumnPatch.independent [⟨BillingProfile.Col.legalName, body.legalName⟩,
    ⟨BillingProfile.Col.taxId, body.taxId⟩, ⟨BillingProfile.Col.taxIdType, body.taxIdType⟩,
    ⟨BillingProfile.Col.taxRegime, body.taxRegime⟩,
    ⟨BillingProfile.Col.addressLine1, body.addressLine1⟩,
    ⟨BillingProfile.Col.addressLine2, body.addressLine2⟩, ⟨BillingProfile.Col.city, body.city⟩,
    ⟨BillingProfile.Col.province, body.province⟩, ⟨BillingProfile.Col.postalCode, body.postalCode⟩,
    ⟨BillingProfile.Col.country, body.country⟩,
    ⟨BillingProfile.Col.billingEmail, body.billingEmail⟩]

theorem independent_ticketPatch (body : TicketPatch) :
    Independent (TicketService.patchChanges body) :=
  ColumnPatch.independent [⟨Ticket.Col.title, body.title⟩, ⟨Ticket.Col.priority, body.priority⟩,
    ⟨Ticket.Col.body, body.body⟩]

theorem independent_ticketUpdate (body : TicketUpdate) :
    Independent (TicketService.updateChanges body) :=
  ColumnPatch.independent [⟨Ticket.Col.title, body.title⟩, ⟨Ticket.Col.priority, body.priority⟩,
    ⟨Ticket.Col.status, body.status⟩, ⟨Ticket.Col.body, body.body⟩,
    ⟨Ticket.Col.assignedToUserId, body.assignedToUserId⟩]

end Edits

/-! ### What is refused the second time -/

theorem LeadStatusMachine.not_edge_self (a : LeadStatus) : ¬LeadStatusMachine.Edge a a := by
  cases a <;> decide

theorem ClientStageMachine.not_canTransition_self (a : ClientStage) :
    ClientStageMachine.canTransition a (TextEnum.text a) false = false := by
  cases a <;> decide

theorem ServiceStateMachine.not_canTransition_self (a : ServiceState) :
    ServiceStateMachine.canTransition a (TextEnum.text a) = false := by
  cases a <;> decide

section Refused

variable {now now' : Time} {db db' : Db} {k : UUID}

/-- The row that a flush has left is the one that the next flush loads. -/
theorem Session.Flushed.reloaded {ρ : Type} [Keyed ρ UUID] [Touched ρ] [Relation ρ]
    {cs ds : List (Change ρ)} {old new old' new' : ρ} (h : Session.Flushed now cs db k old new)
    (hdb' : (Relation.table db' : Table ρ) =
      (Relation.table db : Table ρ).alter k (Session.saved now old cs))
    (h' : Session.Flushed now' ds db' k old' new') : old' = new := by
  have hfound := h'.found
  rw [hdb', Table.find?_alter_self h.found, ← h.new_eq] at hfound
  exact (Option.some.inj hfound).symm

theorem status_of_flushed {l l' : Lead} {status : LeadStatus}
    (h : Session.Flushed now [Lead.Col.status.assign (some status)] db k l l') :
    l'.status = status := by
  rw [h.new_eq, LeadService.saved_status]
  split
  · assumption
  · rfl

theorem stage_of_flushed {c c' : Client} {stage : String}
    (h : Session.Flushed now [Client.Col.stage.assignText stage] db k c c') :
    TextEnum.text c'.stage = stage := by
  obtain ⟨st, rfl⟩ : ∃ st : ClientStage, TextEnum.text st = stage := h.accepted.flushes.exists_text
  rw [h.new_eq, ClientService.saved_stage]
  split
  · next heq => rw [heq]
  · rfl

theorem state_of_flushed {sv sv' : Service} {state : String}
    (h : Session.Flushed now [Service.Col.state.assignText state] db k sv sv') :
    TextEnum.text sv'.state = state := by
  obtain ⟨st, rfl⟩ : ∃ st : ServiceState, TextEnum.text st = state :=
    h.accepted.flushes.exists_text
  rw [h.new_eq, ServiceService.saved_state]
  split
  · next heq => rw [heq]
  · rfl

/-- Two milestones of one service with one index are the same. -/
theorem milestone_unique (hvalid : db.Valid) {m m' : Milestone} (hm : m ∈ db.milestones)
    (hm' : m' ∈ db.milestones) (hservice : m'.serviceId = m.serviceId) (hn : m'.n = m.n) :
    m'.id = m.id :=
  hvalid.milestones.unique m' hm' m hm (Prod.ext hservice hn)

/-- A milestone that is created has the index of the body. -/
theorem milestone_index {env env' : Env} {serviceId : UUID} {body : MilestoneCreate}
    {m m' : Milestone} (h : MilestoneService.row env serviceId body = .ok m)
    (h' : MilestoneService.row env' serviceId body = .ok m') : m'.n = m.n := by
  simp only [MilestoneService.row, bind_eq_ok_iff, pure_eq_ok_iff] at h h'
  obtain ⟨index, hindex, title, -, rfl⟩ := h
  obtain ⟨index', hindex', title', -, rfl⟩ := h'
  exact Except.ok.inj (hindex'.symm.trans hindex)

/-- A profile that is created has the identifier of the body. -/
theorem billingProfile_taxId {env env' : Env} {k k' clientId : UUID} {body : BillingProfileCreate}
    {d d' : Bool} {b b' : BillingProfile}
    (h : ClientService.billingProfileRow env k clientId body d = .ok b)
    (h' : ClientService.billingProfileRow env' k' clientId body d' = .ok b') :
    (b'.clientId, b'.taxId) = (b.clientId, b.taxId) := by
  simp only [ClientService.billingProfileRow, bind_eq_ok_iff, pure_eq_ok_iff] at h h'
  obtain ⟨legal, -, taxId, htax, l1, -, l2, -, city, -, prov, -, post, -, country, -, email, -,
    rfl⟩ := h
  obtain ⟨legal', -, taxId', htax', l1', -, l2', -, city', -, prov', -, post', -, country', -,
    email', -, rfl⟩ := h'
  rw [Except.ok.inj (htax'.symm.trans htax)]

/-- A first completion is not recorded again. -/
theorem not_completes_again {body : MilestoneUpdate} {m m' : Milestone}
    (h : Session.Flushed now (MilestoneService.changes body) db k m m') :
    MilestoneService.completes m' body = false := by
  have hsome := isSome_of_encode (MilestoneService.completedAt_of_flushed h)
  rw [MilestoneService.completes]
  rcases hm' : m'.completedAt with - | t
  · -- It is still open, so the update sets no completion.
    rw [hm'] at hsome
    rcases hbody : body.completedAt with - | - | v
    · rfl
    · rfl
    · rw [hbody] at hsome
      cases hsome
  · rfl

/-- The siblings of a profile that has been made the default are not the default. -/
theorem isDefault_of_sibling {env : Env} {b x : BillingProfile} {a : Assign BillingProfile}
    (hx : x ∈ (BillingProfileService.demoted env db b).alter b.id a)
    (hclient : x.clientId = b.clientId) (hid : x.id ≠ b.id) : x.isDefault = false := by
  replace hx := (Table.mem_alter_of_ne hid).1 hx
  obtain ⟨z, -, rfl⟩ := Table.mem_alterWhere.1 hx
  split
  · rfl
  · next hnot =>
    rw [if_neg hnot] at hclient hid
    exact absurd (decide_eq_true ⟨hclient, hid⟩) hnot

/-- The default is given to a profile that has it: the others have lost it already. -/
theorem sameUndated_setDefault_again {env env' : Env} {b b₂ : BillingProfile}
    {t : Table BillingProfile} (hb : db.billingProfiles.find? k = some b)
    (ht : t = (BillingProfileService.demoted env db b).alter k
      (Session.saved env.now b [BillingProfile.Col.isDefault.assign (some true)]))
    (hb₂ : t.find? k = some b₂) :
    t.SameUndated ((BillingProfileService.demoted env' { db with billingProfiles := t } b₂).alter k
      (Session.saved env'.now b₂ [BillingProfile.Col.isDefault.assign (some true)])) := by
  obtain ⟨hmem, rfl⟩ := Table.find?_eq_some_iff.1 hb
  obtain ⟨hmem₂, hkey⟩ := Table.find?_eq_some_iff.1 hb₂
  have hnew : b₂ = (Session.saved env.now b
      [BillingProfile.Col.isDefault.assign (some true)]).fn b := by
    rw [ht, key_billingProfile, Table.find?_alter_self
      (BillingProfileService.find?_demoted hmem)] at hb₂
    exact (Option.some.inj hb₂).symm
  have hclient : b₂.clientId = b.clientId :=
    hnew ▸ (BillingProfileService.flagOnly_saved env.now b true).clientId_eq
  have hdefault : b₂.isDefault = true := by
    rw [hnew, BillingProfileService.saved_isDefault]
    split
    · assumption
    · rfl
  have hdemoted : t.SameUndated
      (BillingProfileService.demoted env' { db with billingProfiles := t } b₂) := by
    refine .alterWhere fun x hx hsibling ↦ ?_
    obtain ⟨hxclient, hxid⟩ := of_decide_eq_true hsibling
    have hflag : x.isDefault = false :=
      isDefault_of_sibling (ht ▸ hx) (hxclient.trans hclient) fun h ↦ hxid (h.trans hkey.symm)
    cases x
    cases hflag
    rfl
  have hfound : (BillingProfileService.demoted env' { db with billingProfiles := t } b₂).find?
      b₂.id = some b₂ := BillingProfileService.find?_demoted hmem₂
  rw [← hkey]
  refine hdemoted.trans (.alter hfound ?_)
  rw [BillingProfileService.saved_isDefault, if_pos hdefault]

end Refused

/-! ### Two steps for one request -/

section Steps

variable {p : Platform} {s : Settings} {env env' : Env} {db db' db'' : Db}
  {user user' : Except Fault User} {r : Request} {resp resp' : Response}

/-- **A step that is taken again** changes nothing but dates. -/
theorem Step.again (hdb : db.Valid) (hdb' : db'.Valid) (hdb'' : db''.Valid)
    (hr : r.repeats = false)
    (h : Step p s env db user r resp db') (h' : Step p s env' db' user' r resp' db'') :
    Db.SameBut r db' db'' := by
  cases h with
  | createLead | createClient | createContact | createService | sendMyMessage | createMyTicket
  | createClientMessage => cases hr
  | @updateLead u leadId body l l' hsees hl =>
    cases h' with
    | updateLead hsees' hl' => exact .withLeads (hl.again (independent_lead body) rfl hl')
  | @updateLeadStatus u leadId status l l' hsees hedge hl =>
    cases h' with
    | updateLeadStatus hsees' hedge' hl' =>
      rw [hl.reloaded rfl hl', status_of_flushed hl] at hedge'
      exact absurd hedge' (LeadStatusMachine.not_edge_self status)
  | @assignLead u leadId ownerId l l' hrole hl =>
    cases h' with
    | assignLead hrole' hl' =>
      exact .withLeads (hl.again
        (independent_assign ⟨fun _ _ ↦ rfl, fun _ ↦ rfl, fun _ _ _ ↦ rfl⟩ _) rfl hl')
  | @convertLead u leadId body l c a t hrole hl hunlinked hqualified hrow hnew hcontact hbilling ha
      hflush =>
    cases h' with
    | @convertLead u' _ _ l₂ c₂ a₂ t₂ hrole' hl' hunlinked' hqualified' =>
      replace hl' : (db.leads.alter leadId
        (Session.saved env.now l (ClientService.conversionChanges env))).find? leadId =
          some l₂ := hl'
      rw [Table.find?_alter_self hl, ClientService.saved_conversion _ _ hqualified hunlinked] at hl'
      rw [← Option.some.inj hl'] at hunlinked'
      cases hunlinked'
  | @updateClient u clientId body c c' hrole hsees hc =>
    cases h' with
    | updateClient hrole' hsees' hc' =>
      exact .withClients (hc.again (independent_client body) rfl hc')
  | @changeClientStage u clientId stage c c' a hrole hsees hcan hc ha =>
    cases h' with
    | changeClientStage hrole' hsees' hcan' hc' ha' =>
      rw [hc.reloaded rfl hc', ← stage_of_flushed hc,
        ClientStageMachine.not_canTransition_self] at hcan'
      cases hcan'
  | @updateContact u clientId contactId body c c' a hrole hclient hc ha =>
    cases h' with
    | updateContact hrole' hclient' hc' ha' =>
      exact .withContacts rfl (hc.again (independent_contact body) rfl hc')
  | @deleteContact u clientId contactId c hrole hc hclient =>
    cases h' with
    | deleteContact hrole' hc' =>
      exact absurd (Table.key_of_find? hc') (Table.mem_erase.1 (Table.mem_of_find? hc')).2
  | @updateService u serviceId body sv sm hsees hs =>
    generalize serviceAnswer p 200 sm = answer at *
    cases h' with
    | updateService hsees' hs' =>
      exact .withServices (hs.again (independent_service body) rfl hs')
  | @changeServiceState u serviceId state sv sm a hsees hcan hs ha =>
    generalize serviceAnswer p 200 sm = answer at *
    cases h' with
    | changeServiceState hsees' hcan' hs' ha' =>
      rw [hs.reloaded rfl hs', ← state_of_flushed hs,
        ServiceStateMachine.not_canTransition_self] at hcan'
      cases hcan'
  | @createMilestone u serviceId body m hrow hnew =>
    cases h' with
    | @createMilestone _ _ _ m₂ hrow' hnew' =>
      obtain ⟨-, hservice, -⟩ := MilestoneService.row_spec hrow
      obtain ⟨-, hservice', -⟩ := MilestoneService.row_spec hrow'
      have hkey := milestone_unique hdb'' (Table.mem_insert_of_mem (Table.mem_insert_self hnew))
        (Table.mem_insert_self hnew') (hservice'.trans hservice.symm) (milestone_index hrow hrow')
      exact absurd hkey.symm (Table.has_eq_false_iff.1 hnew' m (Table.mem_insert_self hnew))
  | @updateMilestone u serviceId n body m m' log hservice hn hm hlog =>
    cases h' with
    | @updateMilestone _ _ _ _ m₂ m₂' log₂ hservice' hn' hm' hlog' =>
      -- The milestone is found again: an edit leaves its service and its index alone.
      have hid := congrArg Milestone.id (MilestoneService.eq_merge hm)
      have hparent := congrArg Milestone.serviceId (MilestoneService.eq_merge hm)
      have hindex := congrArg Milestone.n (MilestoneService.eq_merge hm)
      have hkey : m₂.id = m.id :=
        (milestone_unique hdb' hm.mem_new (Table.mem_of_find? hm'.found)
          (hservice'.trans (hservice.symm.trans hparent.symm))
          ((PgInt.val_injective (hn'.trans hn.symm)).trans hindex.symm)).trans hid
      rw [hkey] at hm' ⊢
      have hlog₂ : log₂ = log := by
        rw [MilestoneService.LogsCompletion, hm.reloaded rfl hm', not_completes_again hm] at hlog'
        exact hlog'
      exact .withMilestones (hm.again (independent_milestone body) rfl hm') hlog₂
  | @deleteMilestone u serviceId n m hrole hm hservice hn =>
    cases h' with
    | deleteMilestone hrole' hm' hservice' hn' =>
      obtain ⟨hmem, hne⟩ := Table.mem_erase.1 hm'
      exact absurd (milestone_unique hdb hm hmem (hservice'.trans hservice.symm)
        (PgInt.val_injective (hn'.trans hn.symm))) hne
  | @createBillingProfile u clientId body b hrole hclient hrow hnew =>
    generalize billingProfileAnswer p 201 b = answer at *
    cases h' with
    | @createBillingProfile _ _ _ b₂ hrole' hclient' hrow' hnew' =>
      -- The first profile may have lost its flag, but not its identifier.
      obtain ⟨hevolves, hkeys⟩ := BillingProfileService.evolves_claimed (N := fun _ ↦ True) env'
        { db with
          billingProfiles := (BillingProfileService.claimed env db clientId body).2.insert b }
        clientId body
      have hfirst := Table.mem_insert_self hnew
      obtain ⟨b₁, hb₁, hkey₁⟩ := Table.has_iff.1 (hkeys b.id (Table.has_iff.2 ⟨b, hfirst, rfl⟩))
      have hflag := hevolves.rel hfirst hb₁ hkey₁
      have hagrees : (b₁.clientId, b₁.taxId) = (b₂.clientId, b₂.taxId) := by
        rw [hflag.clientId_eq, hflag.taxId_eq, billingProfile_taxId hrow hrow']
      have hid := hdb''.billingProfiles.unique b₁ (Table.mem_insert_of_mem hb₁) b₂
        (Table.mem_insert_self hnew') hagrees
      exact absurd hid (Table.has_eq_false_iff.1 hnew' b₁ hb₁)
  | @updateBillingProfile u profileId body b b' hrole hb =>
    generalize billingProfileAnswer p 200 b' = answer at *
    cases h' with
    | updateBillingProfile hrole' hb' =>
      exact .withBillingProfiles (hb.again (independent_billingProfile body) rfl hb')
  | @deleteBillingProfile u profileId b t hrole hb ht =>
    cases h' with
    | deleteBillingProfile hrole' hb' ht' =>
      exact absurd (Table.key_of_find? hb') (Table.mem_erase.1 (Table.mem_of_find? hb')).2
  | @setDefaultBillingProfile u profileId b b' hrole hb hflush hb' =>
    generalize billingProfileAnswer p 200 b' = answer at *
    cases h' with
    | @setDefaultBillingProfile _ _ b₂ b₂' hrole' hb₂ hflush' hb₂' =>
      exact .withBillingProfiles (sameUndated_setDefault_again hb rfl hb₂)
  | @updateMyTicket u clientId ticketId body t t' a text hrole hclient howner ht ha =>
    cases h' with
    | updateMyTicket hrole' hclient' howner' ht' ha' =>
      exact .withTickets rfl (ht.again (independent_ticketPatch body) rfl ht')
  | @updateTicketInternal u ticketId body t t' a text hrole hstatus ht ha =>
    cases h' with
    | updateTicketInternal hrole' hstatus' ht' ha' =>
      exact .withTickets rfl (ht.again (independent_ticketUpdate body) rfl ht')

/-- A request that has been answered with success, or has changed something. -/
def Took (p : Platform) (s : Settings) (env : Env) (db : Db) (sub : Except Fault String)
    (r : Request) : Prop :=
  (handle p s env db sub (.bound r)).1.isOk = true ∨ (handle p s env db sub (.bound r)).2 ≠ db

theorem Step.not_isRead (h : Step p s env db user r resp db') : r.isRead = false := by
  cases h <;> rfl

/-- The schema check keeps what may be sent again. -/
theorem repeats_of_validate? {r' : Request} (h : r.validate? p = some r') :
    r'.repeats = r.repeats ∧ r'.logsEdits = r.logsEdits := by
  cases r <;>
    simp only [Request.validate?, Option.map_eq_some_iff, accept_eq_some_iff,
      Option.some.injEq] at h <;>
    obtain ⟨-, -, rfl⟩ := h <;>
    exact ⟨rfl, rfl⟩

/-- **A request that is sent again does what it has done**, but for dates and the log of edits. -/
theorem sameBut_again (hdb : db.Valid) (sub sub' : Except Fault String) (hr : r.repeats = false)
    (htook : Took p s env db sub r) :
    Db.SameBut r (handle p s env db sub (.bound r)).2
      (handle p s env' (handle p s env db sub (.bound r)).2 sub' (.bound r)).2 := by
  have hdb' : (handle p s env db sub (.bound r)).2.Valid := (valid_handle hdb sub (.bound r)).2
  have hdb'' : (handle p s env' (handle p s env db sub (.bound r)).2 sub' (.bound r)).2.Valid :=
    (valid_handle hdb' sub' (.bound r)).2
  rcases handle_cases p s env' (handle p s env db sub (.bound r)).2 sub' (.bound r) with
    ⟨hsame, -⟩ | ⟨r₀, r', heq, hv, h'⟩
  · rw [hsame]
    exact .refl r _
  obtain rfl := Call.bound.inj heq
  rcases handle_cases p s env db sub (.bound r) with ⟨hsame, hok⟩ | ⟨r₁, r'', heq', hv', h⟩
  · -- Nothing was written, so the request reads, and the second copy writes nothing either.
    rcases htook with hsuccess | hchanged
    · obtain ⟨r₁, heq', hread⟩ := hok hsuccess
      obtain rfl := Call.bound.inj heq'
      rw [← (sameKind_of_validate? hv).isRead, h'.not_isRead] at hread
      cases hread
    · exact absurd hsame hchanged
  · obtain rfl := Call.bound.inj heq'
    obtain rfl := Option.some.inj (hv.symm.trans hv')
    obtain ⟨hrepeats, hlogs⟩ := repeats_of_validate? hv
    have hagain := Step.again hdb hdb' hdb'' (hrepeats.trans hr) h h'
    exact { hagain with activityLog := hlogs ▸ hagain.activityLog }

end Steps

/-- **A retry is harmless.** In any run, a request that took is sent again directly after the first
copy, by anyone and with any clock: the database is as it was after the first copy, but for the
dates of last changes, and for an entry in the log if it edits a contact or a ticket. -/
theorem retry_harmless {p : Platform} {s : Settings} (acts : List Act) {env : Env} (env' : Env)
    {sub : Except Fault String} (sub' : Except Fault String) {r : Request}
    (hr : r.repeats = false) (htook : Took p s env (run p s acts).db sub r) :
    Db.SameBut r (run p s (acts ++ [.request env sub (.bound r)])).db
      (run p s (acts ++ [.request env sub (.bound r), .request env' sub' (.bound r)])).db := by
  have happend : acts ++ [Act.request env sub (.bound r), Act.request env' sub' (.bound r)] =
      (acts ++ [.request env sub (.bound r)]) ++ [.request env' sub' (.bound r)] := by
    rw [List.append_assoc]
    rfl
  have hlast := run_append (p := p) (s := s) (acts ++ [.request env sub (.bound r)])
    (.request env' sub' (.bound r))
  rw [happend, hlast, run_append acts]
  exact sameBut_again (valid_run acts) sub sub' hr htook

/-- The account of the example. -/
def editor : User := .sample 1 (.lit "root@example.com") .admin none

/-- An edit of a client. -/
def clientEdit : Request :=
  .updateClient 20 ⟨.val "Acme Iberia", .unset, .null, .unset, .unset, .val 5, .unset⟩

theorem retry_harmless_example :
    let before : List Act := [.account (.insert editor),
      .request (.sample 20) (.ok "root@example.com")
        (.bound (.createClient ⟨"Acme", none, none, none, none, none, "lead"⟩))]
    let edit (first : ℕ) : Act :=
      .request (.sample first) (.ok "root@example.com") (.bound clientEdit)
    Db.SameBut clientEdit (run .sample .sample (before ++ [edit 30])).db
      (run .sample .sample (before ++ [edit 30, edit 40])).db :=
  retry_harmless _ _ _ rfl (Or.inl (by decide +kernel))

end ZanovixCrm
