import ZanovixCrm.Guarantees.WriteAuthority
import ZanovixCrm.Library.Versions

/-!
# `updated_at` is a version

A flush with a changed attribute sets `updated_at` to the time of its transaction, and one without
sends no statement. So a request leaves a row as it is or dates it (`Step.dated`), whichever of the
six tables with time stamps the row is in and whichever endpoint writes it, bulk updates included.
If requests come one after the other, two states of the database that agree on the `updated_at` of a
row agree on the row (`versioned_run`).
-/

namespace ZanovixCrm

/-- Rows with `created_at` and `updated_at`. -/
class Dated (ρ : Type) [Keyed ρ UUID] [Touched ρ] where
  createdAt : ρ → Time
  updatedAt : ρ → Time
  createdAt_touch : ∀ now r, createdAt ((touch now : Assign ρ).fn r) = createdAt r
  updatedAt_touch : ∀ now r, updatedAt ((touch now : Assign ρ).fn r) = now

instance : Dated Lead := ⟨Lead.createdAt, Lead.updatedAt, fun _ _ ↦ rfl, fun _ _ ↦ rfl⟩
instance : Dated Client := ⟨Client.createdAt, Client.updatedAt, fun _ _ ↦ rfl, fun _ _ ↦ rfl⟩
instance : Dated Contact := ⟨Contact.createdAt, Contact.updatedAt, fun _ _ ↦ rfl, fun _ _ ↦ rfl⟩
instance : Dated Service := ⟨Service.createdAt, Service.updatedAt, fun _ _ ↦ rfl, fun _ _ ↦ rfl⟩
instance : Dated BillingProfile :=
  ⟨BillingProfile.createdAt, BillingProfile.updatedAt, fun _ _ ↦ rfl, fun _ _ ↦ rfl⟩
instance : Dated Ticket := ⟨Ticket.createdAt, Ticket.updatedAt, fun _ _ ↦ rfl, fun _ _ ↦ rfl⟩

section Rows

variable {ρ : Type} [Keyed ρ UUID] [Touched ρ] [Dated ρ] {now m : Time} {loaded : ρ}
  {cs : List (Change ρ)}

/-- The row after writes at `now`. -/
abbrev Redated (now : Time) (r r' : ρ) : Prop :=
  Table.Redated Dated.createdAt Dated.updatedAt now r r'

/-- The row was inserted at `now`. -/
abbrev Inserted (now : Time) (r : ρ) : Prop :=
  Table.Inserted Dated.createdAt Dated.updatedAt now r

/-- The table after writes at `now`. -/
abbrev WrittenAt (now : Time) (t t' : Table ρ) : Prop :=
  Table.WrittenAt Dated.createdAt Dated.updatedAt now t t'

omit [Dated ρ] in
/-- A flush does nothing to the row, or ends with the time stamp. -/
theorem saved_eq_or_touch (now : Time) (loaded : ρ) (cs : List (Change ρ)) (r : ρ) :
    (Session.saved now loaded cs).fn r = r ∨
      ∃ x, (Session.saved now loaded cs).fn r = (touch now : Assign ρ).fn x := by
  by_cases hclean : (Session.dirty loaded cs).isEmpty = true
  · rw [Session.saved_of_clean hclean]
    exact Or.inl rfl
  · rcases ha : Session.updateOf now loaded cs with e | a
    · refine Or.inl ?_
      rw [Session.saved, if_neg hclean, ha]
      rfl
    · obtain ⟨as, -, rfl⟩ := Session.updateOf_eq_ok ha
      rw [Session.saved_of_updateOf hclean ha, Assign.seq_append_fn, Assign.seq_cons_fn,
        Assign.seq_nil_fn]
      exact Or.inr ⟨_, rfl⟩

theorem redated_saved {r : ρ}
    (h : Dated.createdAt ((Session.saved now loaded cs).fn r) = Dated.createdAt r) :
    Redated now r ((Session.saved now loaded cs).fn r) := by
  rcases saved_eq_or_touch now loaded cs r with heq | ⟨x, heq⟩
  · exact Or.inl heq
  · exact Or.inr ⟨h, by rw [heq, Dated.updatedAt_touch]⟩

/-- **A flush dates the row that it changes.** -/
theorem Session.Flushed.writtenAt [Relation ρ] {db : Db} {k : UUID} {old new : ρ}
    (h : Session.Flushed now cs db k old new)
    (hcreated : Dated.createdAt new = Dated.createdAt old) :
    WrittenAt now (Relation.table db : Table ρ)
      ((Relation.table db : Table ρ).alter k (Session.saved now old cs)) :=
  .alter h.found (redated_saved (h.new_eq ▸ hcreated))

end Rows

/-! ### One request -/

/-- Every row with time stamps is as before, or was dated `now`. -/
structure DatedStep (now : Time) (db db' : Db) : Prop where
  leads : WrittenAt now db.leads db'.leads
  clients : WrittenAt now db.clients db'.clients
  contacts : WrittenAt now db.contacts db'.contacts
  services : WrittenAt now db.services db'.services
  billingProfiles : WrittenAt now db.billingProfiles db'.billingProfiles
  tickets : WrittenAt now db.tickets db'.tickets

theorem DatedStep.refl (now : Time) (db : Db) : DatedStep now db db :=
  ⟨.refl _, .refl _, .refl _, .refl _, .refl _, .refl _⟩

section Step

variable {p : Platform} {s : Settings} {env : Env} {db db' : Db} {user : Except Fault User}
  {r : Request} {resp : Response}

theorem ClientService.inserted_row {name stage : String} {sector size region : Option String}
    {ownerId : Option UUID} {mrrCents : Option ℤ} {c : Client}
    (h : row env name sector size region ownerId mrrCents stage = .ok c) :
    Inserted env.now c := by
  simp only [row, bind_eq_ok_iff, pure_eq_ok_iff] at h
  obtain ⟨name, -, sector, -, size, -, region, -, mrrCents, -, stage, -, rfl⟩ := h
  exact ⟨rfl, rfl⟩

theorem ClientService.inserted_billingProfileRow {id clientId : UUID} {b : BillingProfileCreate}
    {d : Bool} {x : BillingProfile} (h : billingProfileRow env id clientId b d = .ok x) :
    Inserted env.now x := by
  simp only [billingProfileRow, bind_eq_ok_iff, pure_eq_ok_iff] at h
  obtain ⟨legalName, -, taxId, -, line1, -, line2, -, city, -, province, -, postalCode, -, country,
    -, billingEmail, -, rfl⟩ := h
  exact ⟨rfl, rfl⟩

theorem Step.dated_leads (h : Step p s env db user r resp db') :
    WrittenAt env.now db.leads db'.leads := by
  cases h with
  | createLead hrow hnew =>
    refine .insert hnew ?_
    simp only [LeadService.row, bind_eq_ok_iff, pure_eq_ok_iff] at hrow
    obtain ⟨name, -, email, -, phone, -, company, -, sourceUrl, -, notes, -, role, -, rfl⟩ := hrow
    exact ⟨rfl, rfl⟩
  | updateLead _ hl =>
    have hcreated := congrArg Lead.createdAt (LeadService.eq_merge hl)
    exact hl.writtenAt hcreated
  | updateLeadStatus _ _ hl =>
    exact hl.writtenAt (hl.preserves (f := Lead.createdAt) (.assign fun _ _ ↦ rfl) fun _ _ ↦ rfl)
  | assignLead _ hl =>
    exact hl.writtenAt (hl.preserves (f := Lead.createdAt) (.assign fun _ _ ↦ rfl) fun _ _ ↦ rfl)
  | convertLead _ hl hunlinked hqualified =>
    refine .alter hl (redated_saved ?_)
    rw [ClientService.saved_conversion _ _ hqualified hunlinked]
    rfl
  | _ => exact .refl _

theorem Step.dated_clients (h : Step p s env db user r resp db') :
    WrittenAt env.now db.clients db'.clients := by
  cases h with
  | convertLead _ _ _ _ hrow hnew => exact .insert hnew (ClientService.inserted_row hrow)
  | createClient _ hrow hnew => exact .insert hnew (ClientService.inserted_row hrow)
  | updateClient _ _ hc =>
    have hcreated := congrArg Client.createdAt (ClientService.eq_merge hc)
    exact hc.writtenAt hcreated
  | changeClientStage _ _ _ hc =>
    exact hc.writtenAt
      (hc.preserves (f := Client.createdAt) (.assignText fun _ _ ↦ rfl) fun _ _ ↦ rfl)
  | _ => exact .refl _

theorem Step.dated_contacts (h : Step p s env db user r resp db') :
    WrittenAt env.now db.contacts db'.contacts := by
  cases h with
  | convertLead _ _ _ _ _ _ hnew => exact .insert hnew ⟨rfl, rfl⟩
  | createContact _ hrow hnew =>
    refine .insert hnew ?_
    simp only [ContactService.row, bind_eq_ok_iff, pure_eq_ok_iff] at hrow
    obtain ⟨name, -, role, -, email, -, phone, -, rfl⟩ := hrow
    exact ⟨rfl, rfl⟩
  | updateContact _ _ hc =>
    have hcreated := congrArg Contact.createdAt (ContactService.eq_merge hc)
    exact hc.writtenAt hcreated
  | deleteContact => exact .erase (.refl _)
  | _ => exact .refl _

theorem Step.dated_services (h : Step p s env db user r resp db') :
    WrittenAt env.now db.services db'.services := by
  cases h with
  | createService _ _ _ hrow hnew =>
    refine .insert hnew ?_
    simp only [ServiceService.row, bind_eq_ok_iff, pure_eq_ok_iff] at hrow
    obtain ⟨type, -, title, -, setup, -, monthly, -, hrow⟩ := hrow
    rw [← hrow]
    exact ⟨rfl, rfl⟩
  | updateService _ hs =>
    have hcreated := congrArg Service.createdAt (ServiceService.eq_merge hs)
    exact hs.writtenAt hcreated
  | changeServiceState _ _ hs =>
    exact hs.writtenAt
      (hs.preserves (f := Service.createdAt) (.assignText fun _ _ ↦ rfl) fun _ _ ↦ rfl)
  | _ => exact .refl _

theorem Step.dated_tickets (h : Step p s env db user r resp db') :
    WrittenAt env.now db.tickets db'.tickets := by
  cases h with
  | createMyTicket _ _ hrow hnew =>
    refine .insert hnew ?_
    simp only [TicketService.row, bind_eq_ok_iff, pure_eq_ok_iff] at hrow
    obtain ⟨title, -, text, -, rfl⟩ := hrow
    exact ⟨rfl, rfl⟩
  | updateMyTicket _ _ _ ht =>
    have hcreated := congrArg Ticket.createdAt (TicketService.eq_patchMerge ht)
    exact ht.writtenAt hcreated
  | updateTicketInternal _ _ ht =>
    have hcreated := congrArg Ticket.createdAt (TicketService.eq_updateMerge ht)
    exact ht.writtenAt hcreated
  | _ => exact .refl _

/-- The bulk update dates the profiles that it demotes. -/
theorem BillingProfileService.redated_demote (b : BillingProfile) :
    Redated env.now b ((demote env).fn b) := by
  refine Or.inr ⟨?_, ?_⟩ <;> simp [demote, BillingProfile.Col.isDefault, touch, Dated.createdAt,
    Dated.updatedAt]

theorem BillingProfileService.redated_isDefault (b : BillingProfile) (d : Bool) :
    Redated env.now b
      ((Session.saved env.now b [BillingProfile.Col.isDefault.assign (some d)]).fn b) := by
  refine redated_saved ?_
  rw [saved_isDefault]
  split <;> rfl

theorem BillingProfileService.writtenAt_claimed {clientId : UUID} {payload : BillingProfileCreate} :
    WrittenAt env.now db.billingProfiles (claimed env db clientId payload).2 := by
  rcases claimed_cases env db clientId payload with ⟨-, hclaim⟩ | ⟨-, -, hclaim⟩ | ⟨-, -, hclaim⟩
  · rw [hclaim]
    exact .refl _
  · rw [hclaim]
    exact .alterWhere redated_demote
  · rw [hclaim]
    exact .refl _

theorem BillingProfileService.HandsOver.writtenAt {b : BillingProfile} {t : Table BillingProfile}
    (h : HandsOver env db b t) : WrittenAt env.now db.billingProfiles t := by
  cases h with
  | notDefault => exact .refl _
  | @promote _ oldest rest hsiblings =>
    have hmem : oldest ∈ siblings db b := hsiblings ▸ List.mem_cons_self
    exact .alter (Table.find?_of_mem (mem_selectAsc.1 hmem).1) (redated_isDefault oldest true)

theorem Step.dated_billingProfiles (h : Step p s env db user r resp db') :
    WrittenAt env.now db.billingProfiles db'.billingProfiles := by
  cases h with
  | @convertLead u leadId body l c a t _ _ _ _ _ _ _ hbilling =>
    rcases hb : body.billingProfile with - | payload
    · rw [hb] at hbilling
      obtain rfl : t = db.billingProfiles := hbilling
      exact .refl _
    · rw [hb] at hbilling
      obtain ⟨b, hrow, hnew, rfl⟩ := hbilling
      exact .insert hnew (ClientService.inserted_billingProfileRow hrow)
  | createBillingProfile _ _ hrow hnew =>
    refine BillingProfileService.writtenAt_claimed.trans
      (.insert hnew (ClientService.inserted_billingProfileRow hrow)) fun k hk ↦ ?_
    exact (BillingProfileService.evolves_claimed (N := fun _ ↦ True) env db _ _).2 k hk
  | updateBillingProfile _ hb =>
    have hcreated := congrArg BillingProfile.createdAt (BillingProfileService.eq_merge hb)
    exact hb.writtenAt hcreated
  | deleteBillingProfile _ _ ht => exact .erase ht.writtenAt
  | @setDefaultBillingProfile u k b b' _ hb =>
    obtain ⟨hmem, rfl⟩ := Table.find?_eq_some_iff.1 hb
    have hdemoted : WrittenAt env.now db.billingProfiles
        (BillingProfileService.demoted env db b) :=
      .alterWhere BillingProfileService.redated_demote
    refine hdemoted.trans ?_ fun _ hk ↦ Table.has_alterWhere.trans hk
    exact .alter (BillingProfileService.find?_demoted hmem)
      (BillingProfileService.redated_isDefault b true)
  | _ => exact .refl _

/-- **A request leaves a row as it is, or dates it.** -/
theorem Step.dated (h : Step p s env db user r resp db') : DatedStep env.now db db' :=
  ⟨h.dated_leads, h.dated_clients, h.dated_contacts, h.dated_services, h.dated_billingProfiles,
    h.dated_tickets⟩

end Step

/-! ### Runs -/

/-- The time of a request. -/
def Act.now? : Act → Option Time
  | .request env _ _ => some env.now
  | .account _ => none

/-- The times of the requests. -/
def times (acts : List Act) : List Time := acts.filterMap Act.now?

section Runs

variable {p : Platform} {s : Settings}

/-- What an act does to the rows with time stamps: nothing, or writes at its time. -/
theorem dated_perform (db : Db) (a : Act) :
    (∃ t, (a.perform p s db).2 = { db with users := t }) ∨
      ∃ now, a.now? = some now ∧ DatedStep now db (a.perform p s db).2 := by
  have h := happens (p := p) (s := s) db a
  generalize (a.perform p s db).1 = answer, (a.perform p s db).2 = db' at h ⊢
  cases h with
  | idle h => exact Or.inl ⟨db.users, rfl⟩
  | step hv h => exact Or.inr ⟨_, rfl, h.dated⟩
  | account h => exact Or.inl (TableOp.exists_setTable h)
  | refused => exact Or.inl ⟨db.users, rfl⟩

section Table

variable {ρ : Type} [Keyed ρ UUID] [Touched ρ] [Dated ρ]

variable (p s) in
/-- A table that acts leave as it is, or write at their time. -/
structure ActsDate (tbl : Db → Table ρ) : Prop where
  empty : tbl Db.empty = .empty
  perform : ∀ (db : Db) (a : Act), tbl (a.perform p s db).2 = tbl db ∨
    ∃ now, a.now? = some now ∧ WrittenAt now (tbl db) (tbl (a.perform p s db).2)

theorem times_append_singleton (acts : List Act) (a : Act) :
    times (acts ++ [a]) = times acts ++ a.now?.toList := by
  rw [times, times, List.filterMap_append]
  rcases h : a.now? with - | now
  · rw [List.filterMap_cons_none h]
    rfl
  · rw [List.filterMap_cons_some h]
    rfl

namespace ActsDate

variable {tbl : Db → Table ρ}

theorem datedBy (h : ActsDate p s tbl) {acts : List Act} (hclock : (times acts).Pairwise (· < ·))
    {m : Time} (hm : ∀ t ∈ times acts, t ≤ m) :
    Table.DatedBy Dated.createdAt Dated.updatedAt m (tbl (run p s acts).db) := by
  induction acts using List.reverseRecOn generalizing m with
  | nil =>
    intro r hr
    rw [show (run p s []).db = Db.empty from rfl, h.empty] at hr
    exact absurd hr List.not_mem_nil
  | append_singleton acts a ih =>
    rw [times_append_singleton] at hclock hm
    obtain ⟨hacts, -, hlast⟩ := List.pairwise_append.1 hclock
    rw [run_append]
    rcases h.perform (run p s acts).db a with heq | ⟨now, hnow, hw⟩
    · show Table.DatedBy _ _ _ (tbl (a.perform p s (run p s acts).db).2)
      rw [heq]
      exact ih hacts fun t ht ↦ hm t (List.mem_append_left _ ht)
    · have hmem : now ∈ a.now?.toList := by rw [hnow]; exact List.mem_singleton_self _
      have hdated := (ih hacts fun t ht ↦ (hlast t ht now hmem).le).written le_rfl hw
      intro r hr
      exact ⟨(hdated r hr).1, (hdated r hr).2.trans (hm now (List.mem_append_right _ hmem))⟩

theorem sameUntil (h : ActsDate p s tbl) (before : List Act) {after : List Act} {m : Time}
    (hm : ∀ t ∈ times after, m < t) :
    Table.SameUntil Dated.updatedAt m (tbl (run p s before).db)
      (tbl (run p s (before ++ after)).db) := by
  induction after using List.reverseRecOn with
  | nil =>
    rw [List.append_nil]
    exact .refl _
  | append_singleton after a ih =>
    rw [times_append_singleton] at hm
    rw [← List.append_assoc, run_append]
    have hbefore := ih fun t ht ↦ hm t (List.mem_append_left _ ht)
    rcases h.perform (run p s (before ++ after)).db a with heq | ⟨now, hnow, hw⟩
    · show Table.SameUntil _ _ _ (tbl (a.perform p s (run p s (before ++ after)).db).2)
      rw [heq]
      exact hbefore
    · refine hbefore.written (hm now (List.mem_append_right _ ?_)) hw
      rw [hnow]
      exact List.mem_singleton_self _

/-- A moment between the requests of two parts of a run. -/
theorem exists_clock_between {before after : List ℤ} (h : (before ++ after).Pairwise (· < ·)) :
    ∃ m, (∀ t ∈ before, t ≤ m) ∧ ∀ t ∈ after, m < t := by
  obtain ⟨hbefore, hafter, hlt⟩ := List.pairwise_append.1 h
  rcases List.eq_nil_or_concat before with rfl | ⟨init, last, rfl⟩
  · rcases after with - | ⟨first, rest⟩
    · exact ⟨0, fun _ h ↦ absurd h List.not_mem_nil, fun _ h ↦ absurd h List.not_mem_nil⟩
    · refine ⟨first - 1, fun _ h ↦ absurd h List.not_mem_nil, fun t ht ↦ ?_⟩
      rcases List.mem_cons.1 ht with rfl | ht
      · omega
      · have := (List.pairwise_cons.1 hafter).1 t ht
        omega
  · refine ⟨last, fun t ht ↦ ?_, fun t ht ↦ hlt last (by simp) t ht⟩
    rw [List.concat_eq_append] at ht hbefore
    rcases List.mem_append.1 ht with ht | ht
    · exact ((List.pairwise_append.1 hbefore).2.2 t ht last (List.mem_singleton_self _)).le
    · exact (List.mem_singleton.1 ht).le

/-- **The version of a row**, in two states of one run. -/
theorem versioned (h : ActsDate p s tbl) {before after : List Act}
    (hclock : (times (before ++ after)).Pairwise (· < ·)) :
    Table.Versioned Dated.createdAt Dated.updatedAt (tbl (run p s before).db)
      (tbl (run p s (before ++ after)).db) := by
  have happend : times (before ++ after) = times before ++ times after := List.filterMap_append
  obtain ⟨m, hbefore, hafter⟩ := exists_clock_between (happend ▸ hclock)
  have hall : (times (before ++ after) ++ []).Pairwise (· < ·) := by rwa [List.append_nil]
  obtain ⟨last, hlast, -⟩ := exists_clock_between hall
  rw [happend] at hclock
  have hclock' := (List.pairwise_append.1 hclock).1
  rw [← happend] at hclock
  exact (h.sameUntil before hafter).versioned (h.datedBy hclock' hbefore) (h.datedBy hclock hlast)

end ActsDate

end Table

/-- An act leaves a table with time stamps as it is, or writes it at its time. -/
theorem actsDate {ρ : Type} [Keyed ρ UUID] [Touched ρ] [Dated ρ] (tbl : Db → Table ρ)
    (hempty : tbl Db.empty = .empty) (husers : ∀ db t, tbl { db with users := t } = tbl db)
    (hstep : ∀ {now db db'}, DatedStep now db db' → WrittenAt now (tbl db) (tbl db')) :
    ActsDate p s tbl := by
  refine ⟨hempty, fun db a ↦ ?_⟩
  rcases dated_perform (p := p) (s := s) db a with ⟨t, heq⟩ | ⟨now, hnow, hd⟩
  · rw [heq]
    exact Or.inl (husers db t)
  · exact Or.inr ⟨now, hnow, hstep hd⟩

/-- Two states of the database that agree on the `updated_at` of a row agree on the row. -/
structure Versioned (db db' : Db) : Prop where
  leads : Table.Versioned Lead.createdAt Lead.updatedAt db.leads db'.leads
  clients : Table.Versioned Client.createdAt Client.updatedAt db.clients db'.clients
  contacts : Table.Versioned Contact.createdAt Contact.updatedAt db.contacts db'.contacts
  services : Table.Versioned Service.createdAt Service.updatedAt db.services db'.services
  billingProfiles : Table.Versioned BillingProfile.createdAt BillingProfile.updatedAt
    db.billingProfiles db'.billingProfiles
  tickets : Table.Versioned Ticket.createdAt Ticket.updatedAt db.tickets db'.tickets

/-- **`updated_at` is a version**, on every run whose requests come one after the other. -/
theorem versioned_run (before after : List Act)
    (hclock : (times (before ++ after)).Pairwise (· < ·)) :
    Versioned (run p s before).db (run p s (before ++ after)).db where
  leads := (actsDate Db.leads rfl (fun _ _ ↦ rfl) DatedStep.leads).versioned hclock
  clients := (actsDate Db.clients rfl (fun _ _ ↦ rfl) DatedStep.clients).versioned hclock
  contacts :=
    (actsDate Db.contacts rfl (fun _ _ ↦ rfl) DatedStep.contacts).versioned hclock
  services :=
    (actsDate Db.services rfl (fun _ _ ↦ rfl) DatedStep.services).versioned hclock
  billingProfiles := (actsDate Db.billingProfiles rfl (fun _ _ ↦ rfl)
    DatedStep.billingProfiles).versioned hclock
  tickets := (actsDate Db.tickets rfl (fun _ _ ↦ rfl) DatedStep.tickets).versioned hclock

end Runs

/-- Requests of an administrator, each a microsecond after the one before. -/
def ticking (requests : List (UUID × Request)) (start : Time) : List Act :=
  requests.mapIdx fun i r ↦
    .request { Env.sample r.1 with now := start + i } (.ok "root@example.com") (.bound r.2)

/-- A client is created. -/
def createsClient : List Act :=
  .account (.insert (.sample 1 (.lit "root@example.com") .admin none)) ::
    ticking [(20, .createClient ⟨"Acme", none, none, none, none, none, "lead"⟩)] 1

/-- It changes its stage, and is then updated to what it is. -/
def editsClient : List Act :=
  ticking [(30, .changeClientStage 20 "discovery_scheduled"),
    (40, .updateClient 20 ⟨.val "Acme", .unset, .unset, .unset, .unset, .unset, .unset⟩)] 2

theorem versioned_run_example :
    ((run .sample .sample createsClient).db.clients.find? 20).map Client.updatedAt = some 1 ∧
      ((run .sample .sample (createsClient ++ editsClient)).db.clients.find? 20).map
        Client.updatedAt = some 2 ∧
      Versioned (run .sample .sample createsClient).db
        (run .sample .sample (createsClient ++ editsClient)).db :=
  ⟨by decide +kernel, by decide +kernel, versioned_run createsClient editsClient (by decide)⟩

end ZanovixCrm
