import ZanovixCrm.Guarantees.FiscalIdentity
import ZanovixCrm.Guarantees.Rejections
import ZanovixCrm.Guarantees.Scoping
import ZanovixCrm.Guarantees.Storability

/-!
# Integrity errors

A request can name a row that does not exist, or repeat what a unique constraint allows only once.
Some services look first and raise an exception of the domain. The others leave it to the database,
whose `IntegrityError` nobody translates: it ends in the general handler as 500.

`violates` says of a request that it does one of the two, and `unguarded` that it gets as far as a
statement that the database refuses for it. **A violation is answered with a client error, and
changes nothing, exactly if it is not unguarded** (`violation_reported_iff`). What the services
check is enough for contacts, billing profiles and the owner of a lead. What they do not check is
the owner of a client and of a service, the index of a new milestone, the client that staff write
a message to, the service of a new ticket and the assignee of one.
-/

namespace ZanovixCrm

namespace Request

/-- A reference of the request is to a row that does not exist. The `client_id` that the bodies of a
contact and of a service repeat from the path is not one: nobody reads it. -/
def dangles (db : Db) : Request → Bool
  | .assignLead _ ownerId => !db.users.has ownerId
  | .convertLead _ body => !refersTo db.users body.ownerId
  | .createClient body => !refersTo db.users body.ownerId
  | .updateClient clientId body =>
    !db.clients.has clientId || !refersTo db.users body.ownerId.toOption
  | .changeClientStage clientId _ | .createContact clientId _ | .updateContact clientId _ _
  | .deleteContact clientId _ | .createBillingProfile clientId _
  | .createClientMessage clientId _ => !db.clients.has clientId
  | .createService clientId body => !db.clients.has clientId || !refersTo db.users body.ownerId
  | .updateService serviceId body =>
    !db.services.has serviceId || !refersTo db.users body.ownerId.toOption
  | .changeServiceState serviceId _ | .createMilestone serviceId _ | .updateMilestone serviceId _ _
  | .deleteMilestone serviceId _ => !db.services.has serviceId
  | .createMyTicket body => !refersTo db.services body.serviceId
  | .updateTicketInternal _ body => !refersTo db.users body.assignedToUserId.toOption
  | _ => false

/-- Another row has the values that a unique constraint allows once: the index under the service,
or the identifier under the client. -/
def collides (db : Db) : Request → Bool
  | .createMilestone serviceId body =>
    db.milestones.rows.any fun m ↦ decide (m.serviceId = serviceId ∧ m.n.val = body.n)
  | r => (r.taxIdWrite? db).any fun w ↦ db.billingProfiles.rows.any fun b ↦
    decide (b.clientId = w.clientId ∧ b.taxId.val = w.taxId) && w.profileId.all (· ≠ b.id)

/-- **The request violates the integrity of the database.** -/
def violates (db : Db) (r : Request) : Bool := r.dangles db || r.collides db

/-- **The request gets to a statement that the database refuses for the violation**: its service
finds the rows that it looks for, and does not look at the one that matters. -/
def unguarded (db : Db) (u : User) : Request → Bool
  | .convertLead leadId body => !refersTo db.users body.ownerId &&
    (db.leads.find? leadId).any fun l ↦
      decide (l.convertedClientId = none ∧ l.status = .qualified)
  | .createClient body => !refersTo db.users body.ownerId
  | .updateClient clientId body => !refersTo db.users body.ownerId.toOption &&
    (db.clients.find? clientId).any fun c ↦ u.sees c.ownerId
  | .createService clientId body => !refersTo db.users body.ownerId &&
    (db.clients.find? clientId).any fun c ↦ decide (c.stage ≠ .lost)
  | .updateService serviceId body => !refersTo db.users body.ownerId.toOption &&
    (db.services.find? serviceId).any u.seesService
  | .createMilestone serviceId body => (Request.createMilestone serviceId body).collides db
  | .createClientMessage clientId _ => !db.clients.has clientId
  | .createMyTicket body => !refersTo db.services body.serviceId
  | .updateTicketInternal ticketId body => !refersTo db.users body.assignedToUserId.toOption &&
    db.tickets.has ticketId && !decide (u.role = .comercial ∧ body.status.toOption.isSome)
  | _ => false

/-- The index of a milestone in the path is an `integer`. -/
def pathIndexFits : Request → Bool
  | .updateMilestone _ n _ | .deleteMilestone _ n => decide (-2 ^ (32 - 1) ≤ n ∧ n < 2 ^ (32 - 1))
  | _ => true

end Request

/-- The exception is answered with a client error. -/
def Fault.isClientError (f : Fault) : Bool :=
  decide (400 ≤ f.response.status ∧ f.response.status < 500)

/-- The exception is answered with a client error. -/
def ClientError (f : Fault) : Prop := f.isClientError = true

/-- The exception is one of the database. -/
def Fault.isDbError (f : Fault) : Prop := ∃ e, f = .db e

theorem isDbError_db (e : DbError) : Fault.isDbError (.db e) := ⟨e, rfl⟩

/-- **The violation is reported**: the answer is a client error, and no row has changed. -/
def Reported (db : Db) (answer : Response × Db) : Prop :=
  400 ≤ answer.1.status ∧ answer.1.status < 500 ∧ answer.2 = db

/-! ### Statements that the database refuses -/

section Statements

variable {ρ : Type} [Keyed ρ UUID] [Stored ρ] {db : Db} {env : Env}

/-- A row that does not satisfy the constraints is not inserted, whatever the reason. -/
theorem raises_add {row : Except DbError ρ}
    (h : ∀ r, row = .ok r → (Relation.table db : Table ρ).has (key r) = false →
      checkRow db r ≠ .ok ()) : (Session.add row).Raises db Fault.isDbError :=
  .of_refuses (Session.ensures_add.2 h) (Session.refuses_add isDbError_db)

variable [Constrained ρ]

/-- A row with a reference to no row is not inserted. -/
theorem raises_add_of_refers {row : Except DbError ρ}
    (h : ∀ r, row = .ok r → Relation.refers db r = false) :
    (Session.add row).Raises db Fault.isDbError := by
  refine raises_add fun r hr _ hc ↦ ?_
  have hrefers := (checkRow_eq_ok_iff.1 hc).2
  rw [h r hr] at hrefers
  cases hrefers

variable [Touched ρ] {loaded : ρ} {cs : List (Change ρ)}

/-- The references of the row after a flush that gets through. -/
theorem refers_of_accepted (hfits : Fits db (Relation.table db : Table ρ))
    (hmem : loaded ∈ (Relation.table db : Table ρ))
    (h : Session.Accepted env.now loaded cs db) :
    Relation.refers db ((Session.saved env.now loaded cs).fn loaded) = true := by
  rcases h with hclean | ⟨a, r, ha, hfound, hc⟩
  · rw [Session.saved_of_clean hclean]
    exact hfits.refers loaded hmem
  · obtain rfl : loaded = r := Option.some.inj ((Table.find?_of_mem hmem).symm.trans hfound)
    by_cases hclean : (Session.dirty loaded cs).isEmpty = true
    · rw [Session.saved_of_clean hclean]
      exact hfits.refers loaded hmem
    · rw [Session.saved_of_updateOf hclean ha]
      exact (of_checkChange hfits hmem (a.key_fn loaded) hc).2

/-- **A flush that sets a reference to no row is refused.** The row that is loaded has a reference
to a row, so the attribute has changed. -/
theorem raises_flush_of_dangling {σ : Type} [Keyed σ UUID] {t : Table σ}
    {c : Column ρ (Option UUID)} {f : Field UUID} (hfits : Fits db (Relation.table db : Table ρ))
    (hmem : loaded ∈ (Relation.table db : Table ρ)) (hpatches : Session.Patches c f cs)
    (htouch : ∀ now r, c.get ((touch now : Assign ρ).fn r) = c.get r)
    (hrefers : ∀ r : ρ, Relation.refers db r = true → refersTo t (c.get r) = true)
    (hdangling : refersTo t f.toOption = false) :
    (Session.flush env loaded cs).Raises db Fault.isDbError := by
  refine .of_refuses (Session.ensures_flush.2 fun hok ↦ ?_) (Session.refuses_flush isDbError_db)
  have hstored := Session.encode_onto_of_patches hok.flushes hpatches htouch
  have hrefers' := hrefers _ (refers_of_accepted hfits hmem hok)
  cases f with
  | unset | null => cases hdangling
  | val k =>
    have hget : some k = c.get ((Session.saved env.now loaded cs).fn loaded) :=
      Except.ok.inj hstored
    rw [← hget] at hrefers'
    cases hrefers'.symm.trans hdangling

end Statements

/-! ### Unguarded violations -/

section Unguarded

variable {p : Platform} {s : Settings} {env : Env} {db : Db} {u : User} {m : Tx Response}
  {r : Request}

theorem ownerId_of_row_service {body : ServiceCreate} {sv : Service}
    (h : ServiceService.row env body = .ok sv) : sv.ownerId = body.ownerId := by
  simp only [ServiceService.row, bind_eq_ok_iff, pure_eq_ok_iff] at h
  obtain ⟨type, -, title, -, setup, -, monthly, -, rfl⟩ := h
  rfl

theorem n_of_row_milestone {serviceId : UUID} {body : MilestoneCreate} {x : Milestone}
    (h : MilestoneService.row env serviceId body = .ok x) : x.n.val = body.n := by
  simp only [MilestoneService.row, bind_eq_ok_iff, pure_eq_ok_iff] at h
  obtain ⟨n, hn, title, -, rfl⟩ := h
  exact PgInt.val_of_store? (orError_eq_ok_iff.1 hn)

theorem clientId_of_row_message {body : MessageCreate} {clientId sender : UUID} {x : Message}
    (h : MessageService.row env body clientId sender = .ok x) : x.clientId = clientId := by
  simp only [MessageService.row, bind_eq_ok_iff, pure_eq_ok_iff] at h
  obtain ⟨text, -, rfl⟩ := h
  rfl

theorem serviceId_of_row_ticket {body : TicketCreate} {clientId actor : UUID} {t : Ticket}
    (h : TicketService.row env body clientId actor = .ok t) : t.serviceId = body.serviceId := by
  simp only [TicketService.row, bind_eq_ok_iff, pure_eq_ok_iff] at h
  obtain ⟨title, -, text, -, rfl⟩ := h
  rfl

/-- A client that is owned by nobody is not stored. -/
theorem raises_add_client {name stage : String} {sector size region : Option String}
    {ownerId : Option UUID} {mrrCents : Option ℤ} (h : refersTo db.users ownerId = false) :
    (Session.add (ClientService.row env name sector size region ownerId mrrCents stage)).Raises db
      Fault.isDbError :=
  raises_add_of_refers fun c hc ↦ by
    show refersTo db.users c.ownerId = false
    rw [ClientService.ownerId_of_row hc, h]

theorem patches_ownerId_client (body : ClientUpdate) :
    Session.Patches Client.Col.ownerId body.ownerId (ClientService.changes body) := by
  refine .left (.left (.right .self ?_) (.patch fun _ _ _ ↦ rfl)) (.patch fun _ _ _ ↦ rfl)
  simp only [Preserves.append, and_assoc]
  refine ⟨.patch ?_, .patch ?_, .patch ?_, .patch ?_⟩ <;> exact fun _ _ _ ↦ rfl

theorem patches_ownerId_service (body : ServiceUpdate) :
    Session.Patches Service.Col.ownerId body.ownerId (ServiceService.changes body) := by
  unfold ServiceService.changes
  simp only [List.append_assoc]
  refine .right (.left .self ?_) (.patch fun _ _ _ ↦ rfl)
  simp only [Preserves.append]
  refine ⟨.patch ?_, .patch ?_, .patch ?_, .patch ?_, .patch ?_, .patch ?_⟩ <;>
    exact fun _ _ _ ↦ rfl

theorem patches_assignedToUserId (body : TicketUpdate) :
    Session.Patches Ticket.Col.assignedToUserId body.assignedToUserId
      (TicketService.updateChanges body) := by
  refine .right .self ?_
  simp only [Preserves.append, and_assoc]
  refine ⟨.patch ?_, .patch ?_, .patch ?_, .patch ?_⟩ <;> exact fun _ _ _ ↦ rfl

/-- **An unguarded violation is refused by the database**, and nobody translates the error. -/
theorem raises_of_unguarded (hvalid : db.Valid) (hm : (route p s env r).guard (.ok u) = .ok m)
    (h : r.unguarded db u = true) : m.Raises db Fault.isDbError := by
  cases r with
  | convertLead leadId body =>
    obtain ⟨u', hu, -, rfl⟩ := Handler.guard_requireRole.1 hm
    simp only [Request.unguarded, Bool.and_eq_true, Bool.not_eq_true', Option.any_eq_true,
      decide_eq_true_eq] at h
    obtain ⟨hdangling, l, hl, hunlinked, hqualified⟩ := h
    refine .bind ?_ _
    refine Prog.raises_found_bind.2 (Or.inr ⟨l, hl, ?_⟩)
    rw [hunlinked]
    refine Prog.raises_require_bind.2 (Or.inr ⟨decide_eq_true hqualified, ?_⟩)
    exact .bind (raises_add_client hdangling) _
  | createClient body =>
    obtain ⟨u', hu, -, rfl⟩ := Handler.guard_requireRole.1 hm
    rw [Request.unguarded, Bool.not_eq_true'] at h
    exact .bind (.bind (raises_add_client h) _) _
  | updateClient clientId body =>
    obtain ⟨u', hu, -, rfl⟩ := Handler.guard_requireRole.1 hm
    cases hu
    simp only [Request.unguarded, Bool.and_eq_true, Bool.not_eq_true', Option.any_eq_true] at h
    obtain ⟨hdangling, c, hc, hsees⟩ := h
    refine .bind ?_ _
    refine Prog.raises_lookup_bind.2 (Or.inr ⟨c,
      filter_of_sees (fun c : Client ↦ u.sees c.ownerId) hc hsees, ?_⟩)
    refine .bind (raises_flush_of_dangling hvalid.clients (Table.mem_of_find? hc)
      (patches_ownerId_client body) (fun _ _ ↦ rfl) (fun _ hr ↦ hr) hdangling) _
  | createService clientId body =>
    obtain ⟨u', hu, -, rfl⟩ := Handler.guard_requireRole.1 hm
    simp only [Request.unguarded, Bool.and_eq_true, Bool.not_eq_true', Option.any_eq_true] at h
    obtain ⟨hdangling, c, hc, hstage⟩ := h
    refine .bind ?_ _
    refine Prog.raises_found_bind.2 (Or.inr ⟨c, hc, ?_⟩)
    refine Prog.raises_require_bind.2 (Or.inr ⟨hstage, .bind (raises_add_of_refers ?_) _⟩)
    intro sv hsv
    show (db.clients.has sv.clientId && refersTo db.users sv.ownerId) = false
    rw [ownerId_of_row_service hsv, hdangling, Bool.and_false]
  | updateService serviceId body =>
    obtain ⟨u', hu, rfl⟩ := Handler.guard_currentUser.1 hm
    cases hu
    simp only [Request.unguarded, Bool.and_eq_true, Bool.not_eq_true', Option.any_eq_true] at h
    obtain ⟨hdangling, sv, hsv, hsees⟩ := h
    refine .bind ?_ _
    refine Prog.raises_lookup_bind.2 (Or.inr ⟨sv, filter_of_sees u.seesService hsv hsees, ?_⟩)
    refine .bind (raises_flush_of_dangling hvalid.services (Table.mem_of_find? hsv)
      (patches_ownerId_service body) (fun _ _ ↦ rfl) (fun _ hr ↦ (Bool.and_eq_true_iff.1 hr).2)
      hdangling) _
  | createMilestone serviceId body =>
    obtain ⟨u', hu, rfl⟩ := Handler.guard_currentUser.1 hm
    simp only [Request.unguarded, Request.collides, List.any_eq_true, decide_eq_true_eq] at h
    obtain ⟨x, hx, hservice, hn⟩ := h
    obtain ⟨sv, hsv⟩ := Option.isSome_iff_exists.1 (hvalid.milestones.refers x hx)
    rw [hservice] at hsv
    refine .bind ?_ _
    refine Prog.raises_lookup_bind.2 (Or.inr ⟨sv, hsv, ?_⟩)
    refine .bind (raises_add fun y hy hnew hc ↦ ?_) _
    refine (checkRow_eq_ok_iff.1 hc).1 x hx (Table.has_eq_false_iff.1 hnew x hx) ?_
    refine Prod.ext (hservice.trans (MilestoneService.row_spec hy).2.1.symm) ?_
    exact PgInt.val_injective (hn.trans (n_of_row_milestone hy).symm)
  | createClientMessage clientId body =>
    obtain ⟨u', hu, -, rfl⟩ := Handler.guard_requireRole.1 hm
    rw [Request.unguarded, Bool.not_eq_true'] at h
    refine .bind (.bind (raises_add_of_refers fun x hx ↦ ?_) _) _
    show (db.clients.has x.clientId && refersTo db.users x.senderUserId) = false
    rw [clientId_of_row_message hx, h, Bool.false_and]
  | createMyTicket body =>
    obtain ⟨u', c, hu, -, -, rfl⟩ := Handler.guard_scopeToClient.1 hm
    rw [Request.unguarded, Bool.not_eq_true'] at h
    refine .bind (.bind (raises_add_of_refers fun t ht ↦ ?_) _) _
    show (db.clients.has t.clientId && refersTo db.services t.serviceId &&
      refersTo db.users t.createdByUserId && refersTo db.users t.assignedToUserId) = false
    rw [serviceId_of_row_ticket ht, h, Bool.and_false, Bool.false_and, Bool.false_and]
  | updateTicketInternal ticketId body =>
    obtain ⟨u', hu, -, rfl⟩ := Handler.guard_requireRole.1 hm
    cases hu
    simp only [Request.unguarded, Bool.and_eq_true, Bool.not_eq_true'] at h
    obtain ⟨⟨hdangling, hhas⟩, hmay⟩ := h
    obtain ⟨t, ht⟩ := Option.isSome_iff_exists.1 hhas
    refine Prog.raises_require_bind.2 (Or.inr ⟨congrArg not hmay, ?_⟩)
    refine .bind ?_ _
    refine Prog.raises_lookup_bind.2 (Or.inr ⟨t, filter_of_sees (fun _ ↦ true) ht rfl, ?_⟩)
    refine .bind (raises_flush_of_dangling hvalid.tickets (Table.mem_of_find? ht)
      (patches_assignedToUserId body) (fun _ _ ↦ rfl) (fun _ hr ↦ (Bool.and_eq_true_iff.1 hr).2)
      hdangling) _
  | _ => cases h

end Unguarded

/-! ### Guarded violations -/

section Guarded

variable {p : Platform} {s : Settings} {env : Env} {db : Db} {u : User} {m : Tx Response}
  {r : Request}

/-- A lookup in a scope that does not have the row. -/
theorem filter_eq_none {ρ : Type} {o : Option ρ} {q : ρ → Bool} (h : o.any q = false) :
    o.filter q = none := by
  rcases o with - | x
  · rfl
  · exact if_neg (Bool.eq_false_iff.1 h)

/-- A missing row is in no scope. -/
theorem any_eq_false_of_has {ρ : Type} [Keyed ρ UUID] {t : Table ρ} {k : UUID} (q : ρ → Bool)
    (h : t.has k = false) : (t.find? k).any q = false := by
  rw [Table.has, Option.isSome_eq_false_iff, Option.isNone_iff_eq_none] at h
  rw [h]
  rfl

theorem find?_eq_none_of_has {ρ : Type} [Keyed ρ UUID] {t : Table ρ} {k : UUID}
    (h : t.has k = false) : t.find? k = none :=
  Option.isNone_iff_eq_none.1 (Option.isSome_eq_false_iff.1 h)

/-- A lookup that finds nothing, whose exception is a client error. -/
theorem raises_fetch {ρ : Type} {q : Db → Option ρ} {f : Fault} (hq : q db = none)
    (hf : f.isClientError = true) :
    (.query q >>= fun found ↦ .demand found f : Tx ρ).Raises db ClientError :=
  Prog.raises_query_bind.2 (Prog.raises_demand.2 ⟨hq, hf⟩)

/-- A contact of a client that does not exist. -/
theorem filter_contact_of_has (hvalid : db.Valid) {clientId contactId : UUID}
    (h : db.clients.has clientId = false) :
    (db.contacts.find? contactId).filter (fun c ↦ decide (c.clientId = clientId)) = none := by
  refine filter_eq_none ?_
  rcases hc : db.contacts.find? contactId with - | c
  · rfl
  · refine decide_eq_false fun hclient ↦ ?_
    have hhas : db.clients.has c.clientId = true :=
      hvalid.contacts.refers c (Table.mem_of_find? hc)
    rw [hclient, h] at hhas
    cases hhas

/-- A milestone of a service that does not exist. -/
theorem raises_getByIndex_of_has (hvalid : db.Valid) {serviceId : UUID} {n : ℤ}
    (h : db.services.has serviceId = false)
    (hindex : -2 ^ (32 - 1) ≤ n ∧ n < 2 ^ (32 - 1)) :
    (MilestoneService.getByIndex serviceId n).Raises db ClientError := by
  obtain ⟨index, henc⟩ := (takes_int.some n).2 (decide_eq_true hindex)
  have hnone : ∀ x ∈ db.milestones, x.serviceId = serviceId → x.n.val ≠ n := by
    intro x hx hservice
    have hhas : db.services.has x.serviceId = true := hvalid.milestones.refers x hx
    rw [hservice, h] at hhas
    cases hhas
  have hrun := run_getByIndex_of_missing hnone
  rw [henc] at hrun
  exact ⟨_, hrun, rfl⟩

/-- **A guarded violation raises an exception with a client error**, before anything is written. -/
theorem raises_of_guarded (hvalid : db.Valid) (hm : (route p s env r).guard (.ok u) = .ok m)
    (hindex : r.pathIndexFits = true) (h : r.violates db = true)
    (hguarded : r.unguarded db u = false) : m.Raises db ClientError := by
  cases r with
  | assignLead leadId ownerId =>
    obtain ⟨u', hu, -, rfl⟩ := Handler.guard_requireRole.1 hm
    simp only [Request.violates, Request.dangles, Request.collides, Request.taxIdWrite?,
      Option.any_none, Bool.or_false, Bool.not_eq_true'] at h
    refine .bind ?_ _
    exact Prog.raises_found_bind.2 (Or.inl ⟨find?_eq_none_of_has h, rfl⟩)
  | convertLead leadId body =>
    obtain ⟨u', hu, -, rfl⟩ := Handler.guard_requireRole.1 hm
    simp only [Request.violates, Request.dangles, Request.collides, Request.taxIdWrite?,
      Option.any_none, Bool.or_false] at h
    rw [Request.unguarded, h, Bool.true_and] at hguarded
    refine .bind ?_ _
    rcases hl : db.leads.find? leadId with - | l
    · exact Prog.raises_found_bind.2 (Or.inl ⟨hl, rfl⟩)
    · refine Prog.raises_found_bind.2 (Or.inr ⟨l, hl, ?_⟩)
      rw [hl, Option.any_some, decide_eq_false_iff_not] at hguarded
      rcases hlinked : l.convertedClientId with - | clientId
      · refine Prog.raises_require_bind.2 (Or.inl ⟨decide_eq_false fun hq ↦ ?_, rfl⟩)
        exact hguarded ⟨hlinked, hq⟩
      · exact Prog.raises_raise.2 rfl
  | updateClient clientId body =>
    obtain ⟨u', hu, -, rfl⟩ := Handler.guard_requireRole.1 hm
    cases hu
    refine .bind (.bind (raises_fetch (filter_eq_none ?_) rfl) _) _
    simp only [Request.violates, Request.dangles, Request.collides, Request.taxIdWrite?,
      Option.any_none, Bool.or_false, Bool.or_eq_true, Bool.not_eq_true'] at h
    rcases h with h | h
    · exact any_eq_false_of_has _ h
    · rwa [Request.unguarded, h, Bool.not_false, Bool.true_and] at hguarded
  | changeClientStage clientId stage =>
    obtain ⟨u', hu, -, rfl⟩ := Handler.guard_requireRole.1 hm
    simp only [Request.violates, Request.dangles, Request.collides, Request.taxIdWrite?,
      Option.any_none, Bool.or_false, Bool.not_eq_true'] at h
    exact .bind (.bind (raises_fetch (filter_eq_none (any_eq_false_of_has _ h)) rfl) _) _
  | createContact clientId body =>
    obtain ⟨u', hu, -, rfl⟩ := Handler.guard_requireRole.1 hm
    simp only [Request.violates, Request.dangles, Request.collides, Request.taxIdWrite?,
      Option.any_none, Bool.or_false, Bool.not_eq_true'] at h
    exact .bind (.bind (raises_fetch (find?_eq_none_of_has h) rfl) _) _
  | updateContact clientId contactId body =>
    obtain ⟨u', hu, -, rfl⟩ := Handler.guard_requireRole.1 hm
    simp only [Request.violates, Request.dangles, Request.collides, Request.taxIdWrite?,
      Option.any_none, Bool.or_false, Bool.not_eq_true'] at h
    exact .bind (.bind (raises_fetch (filter_contact_of_has hvalid h) rfl) _) _
  | deleteContact clientId contactId =>
    obtain ⟨u', hu, -, rfl⟩ := Handler.guard_requireRole.1 hm
    simp only [Request.violates, Request.dangles, Request.collides, Request.taxIdWrite?,
      Option.any_none, Bool.or_false, Bool.not_eq_true'] at h
    exact .bind (.bind (raises_fetch (filter_contact_of_has hvalid h) rfl) _) _
  | createService clientId body =>
    obtain ⟨u', hu, -, rfl⟩ := Handler.guard_requireRole.1 hm
    simp only [Request.violates, Request.dangles, Request.collides, Request.taxIdWrite?,
      Option.any_none, Bool.or_false, Bool.or_eq_true, Bool.not_eq_true'] at h
    refine .bind ?_ _
    rcases hc : db.clients.find? clientId with - | c
    · exact Prog.raises_found_bind.2 (Or.inl ⟨hc, rfl⟩)
    · refine Prog.raises_found_bind.2 (Or.inr ⟨c, hc, ?_⟩)
      have hdangling : refersTo db.users body.ownerId = false :=
        h.resolve_left fun hhas ↦ Bool.noConfusion (hhas.symm.trans (has_of_find? hc))
      rw [Request.unguarded, hdangling, hc, Bool.not_false, Bool.true_and, Option.any_some]
        at hguarded
      exact Prog.raises_require_bind.2 (Or.inl ⟨hguarded, rfl⟩)
  | updateService serviceId body =>
    obtain ⟨u', hu, rfl⟩ := Handler.guard_currentUser.1 hm
    cases hu
    refine .bind (.bind (raises_fetch (filter_eq_none ?_) rfl) _) _
    simp only [Request.violates, Request.dangles, Request.collides, Request.taxIdWrite?,
      Option.any_none, Bool.or_false, Bool.or_eq_true, Bool.not_eq_true'] at h
    rcases h with h | h
    · exact any_eq_false_of_has _ h
    · rwa [Request.unguarded, h, Bool.not_false, Bool.true_and] at hguarded
  | changeServiceState serviceId state =>
    obtain ⟨u', hu, rfl⟩ := Handler.guard_currentUser.1 hm
    simp only [Request.violates, Request.dangles, Request.collides, Request.taxIdWrite?,
      Option.any_none, Bool.or_false, Bool.not_eq_true'] at h
    exact .bind (.bind (raises_fetch (filter_eq_none (any_eq_false_of_has _ h)) rfl) _) _
  | createMilestone serviceId body =>
    obtain ⟨u', hu, rfl⟩ := Handler.guard_currentUser.1 hm
    rw [Request.unguarded] at hguarded
    rw [Request.violates, hguarded, Bool.or_false, Request.dangles, Bool.not_eq_true'] at h
    exact .bind (.bind (raises_fetch (find?_eq_none_of_has h) rfl) _) _
  | updateMilestone serviceId n body =>
    obtain ⟨u', hu, rfl⟩ := Handler.guard_currentUser.1 hm
    simp only [Request.violates, Request.dangles, Request.collides, Request.taxIdWrite?,
      Option.any_none, Bool.or_false, Bool.not_eq_true'] at h
    exact .bind (.bind (raises_getByIndex_of_has hvalid h (of_decide_eq_true hindex)) _) _
  | deleteMilestone serviceId n =>
    obtain ⟨u', hu, -, rfl⟩ := Handler.guard_requireRole.1 hm
    simp only [Request.violates, Request.dangles, Request.collides, Request.taxIdWrite?,
      Option.any_none, Bool.or_false, Bool.not_eq_true'] at h
    exact .bind (.bind (raises_getByIndex_of_has hvalid h (of_decide_eq_true hindex)) _) _
  | createBillingProfile clientId body =>
    obtain ⟨u', hu, -, rfl⟩ := Handler.guard_requireRole.1 hm
    refine .bind ?_ _
    rcases Bool.or_eq_true_iff.1 h with h | h
    · rw [Request.dangles, Bool.not_eq_true'] at h
      refine .bind ?_ _
      exact Prog.raises_found_bind.2 (Or.inl ⟨find?_eq_none_of_has h, rfl⟩)
    · simp only [Request.collides, Request.taxIdWrite?, Option.any_some, List.any_eq_true] at h
      obtain ⟨b, hb, hhas⟩ := h
      exact ⟨_, run_createForClient_of_repeats env hvalid hb hhas, rfl⟩
  | updateBillingProfile profileId body =>
    obtain ⟨u', hu, -, rfl⟩ := Handler.guard_requireRole.1 hm
    simp only [Request.violates, Request.dangles, Request.collides, Request.taxIdWrite?,
      Bool.false_or] at h
    rcases hloaded : db.billingProfiles.find? profileId with - | loaded <;>
      rcases hfld : body.taxId with - | - | t <;>
      simp only [hloaded, hfld, Option.any_none, Option.any_some, Bool.false_eq_true,
        List.any_eq_true] at h
    obtain ⟨b, hb, hhas⟩ := h
    obtain ⟨hsame, hother⟩ := Bool.and_eq_true_iff.1 hhas
    -- The profile itself does not have the identifier, which is that of another one.
    have hchanges : t ≠ loaded.taxId.val := by
      rintro rfl
      obtain ⟨hclient, htax⟩ := of_decide_eq_true hsame
      have hkey : b.id = loaded.id := hvalid.billingProfiles.unique b hb loaded
        (Table.mem_of_find? hloaded) (Prod.ext hclient (Varchar.ext htax))
      refine of_decide_eq_true hother ?_
      exact (Table.key_of_find? hloaded).symm.trans hkey.symm
    refine .bind ?_ _
    exact ⟨_, run_update_of_repeats env hvalid hloaded hfld hchanges hb hhas, rfl⟩
  | updateTicketInternal ticketId body =>
    obtain ⟨u', hu, -, rfl⟩ := Handler.guard_requireRole.1 hm
    cases hu
    simp only [Request.violates, Request.dangles, Request.collides, Request.taxIdWrite?,
      Option.any_none, Bool.or_false] at h
    rw [Request.unguarded, h, Bool.true_and] at hguarded
    refine Prog.raises_require_bind.2 ?_
    by_cases hmay : (!decide (u.role = .comercial ∧ body.status.toOption.isSome)) = true
    · rw [hmay, Bool.and_true] at hguarded
      refine Or.inr ⟨hmay, .bind (.bind (raises_fetch (filter_eq_none ?_) rfl) _) _⟩
      exact any_eq_false_of_has _ hguarded
    · exact Or.inl ⟨Bool.eq_false_iff.2 hmay, rfl⟩
  | createClient body | createClientMessage clientId body | createMyTicket body =>
    simp only [Request.violates, Request.dangles, Request.collides, Request.taxIdWrite?,
      Option.any_none, Bool.or_false] at h
    rw [Request.unguarded, h] at hguarded
    cases hguarded
  | _ => cases h

end Guarded

/-! ### The answers -/

section Answers

variable {p : Platform} {s : Settings} {env : Env} {db : Db} {m : Tx Response}

theorem reported_of_raises (h : m.Raises db ClientError) : Reported db (respond m db) := by
  obtain ⟨f, hrun, hf⟩ := h
  rw [respond, Prog.transact_of_error hrun]
  obtain ⟨hlo, hhi⟩ := of_decide_eq_true hf
  exact ⟨hlo, hhi, rfl⟩

/-- An error of the database is answered with 500. -/
theorem not_reported_of_raises (h : m.Raises db Fault.isDbError) :
    ¬Reported db (respond m db) := by
  obtain ⟨f, hrun, e, rfl⟩ := h
  rw [respond, Prog.transact_of_error hrun]
  rintro ⟨-, hhi, -⟩
  have hstatus : (500 : ℕ) < 500 := hhi
  exact absurd hstatus (by decide)

/-- **A violation of integrity is reported as a client error exactly if it is not unguarded**, in
every state that a run reaches and for every request that passes its schema and its guard. -/
theorem violation_reported_iff (p : Platform) (s : Settings) (env : Env) (acts : List Act)
    {sub : Except Fault String} {u : User} {r r' : Request} (hmounted : mounted s r = true)
    (hv : r.validate? p = some r') (hu : currentUser (run p s acts).db sub = .ok u)
    (hm : (route p s env r').guard (.ok u) = .ok m) (hindex : r'.pathIndexFits = true)
    (hviolates : r'.violates (run p s acts).db = true) :
    Reported (run p s acts).db (handle p s env (run p s acts).db sub (.bound r)) ↔
      r'.unguarded (run p s acts).db u = false := by
  have hvalid : (run p s acts).db.Valid := valid_run acts
  rw [handle_of_admitted hmounted hv (by rw [hu]; exact hm)]
  rcases hguarded : r'.unguarded (run p s acts).db u with - | -
  · exact iff_of_true (reported_of_raises
      (raises_of_guarded hvalid hm hindex hviolates hguarded)) rfl
  · exact iff_of_false (not_reported_of_raises (raises_of_unguarded hvalid hm hguarded))
      Bool.true_eq_false_eq_False

end Answers

/-- A contact for a client that does not exist is answered with 404. -/
theorem violation_reported_contact :
    Reported newcomers (handle .sample .sample (.sample 30) newcomers (.ok "root@example.com")
      (.bound (.createContact 99 ⟨99, "Grace", none, none, none, false⟩))) := by
  have hrole : operator.role ∈ [Role.admin, .comercial] := by decide
  have hv : (Request.createContact 99 ⟨99, "Grace", none, none, none, false⟩).validate? .sample =
      some (.createContact 99 ⟨99, "Grace", none, none, none, false⟩) := by decide +kernel
  exact (violation_reported_iff .sample .sample (.sample 30) _ rfl hv currentUser_newcomers
    (Handler.guard_requireRole.2 ⟨operator, rfl, hrole, rfl⟩) rfl (by decide +kernel)).2 rfl

/-- **A client for an owner who does not exist** passes its schema, fits its columns, and is
answered with 500. -/
theorem dangling_owner_unreported :
    (Request.createClient ⟨"Acme", none, none, none, some 99, none, "lead"⟩).violates newcomers =
        true ∧
      (Request.createClient ⟨"Acme", none, none, none, some 99, none, "lead"⟩).storable = true ∧
      (handle .sample .sample (.sample 30) newcomers (.ok "root@example.com")
        (.bound (.createClient ⟨"Acme", none, none, none, some 99, none, "lead"⟩))).1 =
          ⟨500, .internal⟩ ∧
      ¬Reported newcomers (handle .sample .sample (.sample 30) newcomers (.ok "root@example.com")
        (.bound (.createClient ⟨"Acme", none, none, none, some 99, none, "lead"⟩))) := by
  have hanswer : (handle .sample .sample (.sample 30) newcomers (.ok "root@example.com")
      (.bound (.createClient ⟨"Acme", none, none, none, some 99, none, "lead"⟩))).1 =
        ⟨500, .internal⟩ := by decide +kernel
  refine ⟨by decide +kernel, by decide +kernel, hanswer, fun h ↦ ?_⟩
  have hhi := h.2.1
  rw [hanswer] at hhi
  exact absurd hhi (by decide)

end ZanovixCrm
