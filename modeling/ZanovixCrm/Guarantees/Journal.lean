import ZanovixCrm.Guarantees.Readability

/-!
# The journal

The activity log records what happened, once and in order.

`Request.entry` says what a committed request should leave in the log, in terms of the rows before
and after it and of its answer, without a look at what the services write. `Step.log` shows that
each request appends just that; so the log of a run is the list of the entries of its events.

What the entries of kind `stage_change` say is parsed back from their text by `stageTarget?`. Over
the log of one client they tell its stages (`StageTrail`): the last of them is the current stage,
and each change is an edge of the stage machine.
-/

namespace ZanovixCrm

/-! ### What should be in the log -/

/-- `completed_at` of the milestone goes from null to a value. -/
def completesMilestone (before after : Db) (serviceId : UUID) (n : ℤ) : Bool :=
  before.milestones.rows.any fun m ↦
    decide (m.serviceId = serviceId ∧ m.n.val = n ∧ m.completedAt = none) &&
      (after.milestones.find? m.id).any fun m' ↦ m'.completedAt.isSome

/-- The status of the ticket goes from another value to `closed`. -/
def closesTicket (before after : Db) (ticketId : UUID) : Bool :=
  (before.tickets.find? ticketId).any (fun t ↦ decide (t.status ≠ .closed)) &&
    (after.tickets.find? ticketId).any fun t ↦ decide (t.status = .closed)

/-- The entry for the update of a ticket. -/
def ticketEntry (before after : Db) (ticketId : UUID) : Option (UUID × ActivityKind) :=
  (before.tickets.find? ticketId).map fun t ↦
    (t.clientId, if closesTicket before after ticketId then .ticketClosed else .ticketUpdated)

/-- The client, if the answer is one. -/
def Body.client? : Body → Option Client
  | .client c => some c
  | _ => none

/-- The ticket, if the answer is one. -/
def Body.ticket? : Body → Option Ticket
  | .ticket t => some t
  | _ => none

/-- The message, if the answer is one. -/
def Body.message? : Body → Option Message
  | .message m => some m
  | _ => none

/-- **What a committed request should leave in the log**: the client and the kind of the entry. -/
def Request.entry (before after : Db) (body : Body) : Request → Option (UUID × ActivityKind)
  | .createClient _ => body.client?.map fun c ↦ (c.id, .stageChange)
  | .changeClientStage clientId _ => some (clientId, .stageChange)
  | .convertLead .. => body.client?.map fun c ↦ (c.id, .leadConverted)
  | .createContact clientId _ => some (clientId, .contactAdded)
  | .updateContact clientId .. => some (clientId, .contactUpdated)
  | .createService clientId _ => some (clientId, .serviceStarted)
  | .changeServiceState serviceId _ =>
    (before.services.find? serviceId).map fun sv ↦ (sv.clientId, .serviceStateChange)
  | .updateMilestone serviceId n _ =>
    if completesMilestone before after serviceId n then
      (before.services.find? serviceId).map fun sv ↦ (sv.clientId, .milestoneCompleted)
    else none
  | .createMyTicket _ => body.ticket?.map fun t ↦ (t.clientId, .ticketOpened)
  | .updateMyTicket ticketId _ => ticketEntry before after ticketId
  | .updateTicketInternal ticketId _ => ticketEntry before after ticketId
  | .sendMyMessage _ => body.message?.map fun m ↦ (m.clientId, .messageSent)
  | .createClientMessage .. => body.message?.map fun m ↦ (m.clientId, .messageSent)
  | _ => none

/-- What an event should leave in the log: nothing, unless it is a request that succeeded. -/
def Event.entry (e : Event) : Option (UUID × ActivityKind) :=
  match e.act, e.answer with
  | .request _ _ (.bound r), some resp =>
    if resp.isOk then r.entry e.before e.after resp.body else none
  | _, _ => none

theorem Event.entry_request {before after : Db} {env : Env} {sub : Except Fault String}
    {r : Request} {resp : Response} :
    Event.entry ⟨before, .request env sub (.bound r), some resp, after⟩ =
      if resp.isOk then r.entry before after resp.body else none := rfl

/-- The schema check does not change which entry is due. -/
theorem Request.entry_of_validate? {p : Platform} {r r' : Request} (h : r.validate? p = some r')
    (before after : Db) (body : Body) : r'.entry before after body = r.entry before after body := by
  cases r <;>
    simp only [Request.validate?, Option.map_eq_some_iff, accept_eq_some_iff,
      Option.some.injEq] at h <;>
    obtain ⟨-, -, rfl⟩ := h <;>
    rfl

/-! ### What is in the log -/

/-- A request leaves `entry` in the log. -/
inductive Logs (db db' : Db) : Option (UUID × ActivityKind) → Prop where
  | appended {a : ActivityLog} (hnew : db.activityLog.has a.id = false)
    (hlog : db'.activityLog = db.activityLog.insert a) : Logs db db' (some (a.clientId, a.kind))
  | silent (hlog : db'.activityLog = db.activityLog) : Logs db db' none

/-- The log after a request, row by row. -/
theorem Logs.rows {db db' : Db} {entry : Option (UUID × ActivityKind)} (h : Logs db db' entry) :
    db'.activityLog.rows.map (fun a ↦ (a.clientId, a.kind)) =
      db.activityLog.rows.map (fun a ↦ (a.clientId, a.kind)) ++ entry.toList := by
  cases h with
  | appended hnew hlog =>
    rw [hlog, Table.rows_insert hnew, List.map_append]
    rfl
  | silent hlog =>
    rw [hlog]
    exact (List.append_nil _).symm

theorem ActivityLogService.Records.logs {db db' : Db} {clientId : UUID} {kind : ActivityKind}
    {text : String} {a : ActivityLog} (h : Records db clientId kind text a)
    (hlog : db'.activityLog = db.activityLog.insert a) : Logs db db' (some (clientId, kind)) := by
  rw [← h.clientId_eq, ← h.kind_eq]
  exact .appended h.fresh hlog

section Step

variable {p : Platform} {s : Settings} {env : Env} {db db' : Db} {user : Except Fault User}
  {r : Request} {resp : Response}

/-- In terms of the rows, an update that completes a milestone is one that finds it incomplete and
leaves it complete. -/
theorem completesMilestone_eq (hvalid : db.Valid) {m m' : Milestone} {body : MilestoneUpdate}
    (hm : Session.Flushed env.now (MilestoneService.changes body) db m.id m m')
    (hafter : db'.milestones =
      db.milestones.alter m.id (Session.saved env.now m (MilestoneService.changes body))) :
    completesMilestone db db' m.serviceId m.n.val = MilestoneService.completes m body := by
  have hmem : m ∈ db.milestones := Table.mem_of_find? hm.found
  have hfind : db'.milestones.find? m.id = some m' := by
    rw [hafter, hm.new_eq]
    exact Table.find?_alter_self hm.found _
  rw [Bool.eq_iff_iff, MilestoneService.completes_iff hm, completesMilestone, List.any_eq_true]
  constructor
  · rintro ⟨x, hx, hcomp⟩
    rw [Bool.and_eq_true, decide_eq_true_eq] at hcomp
    obtain ⟨⟨hservice, hn, hnone⟩, hafter'⟩ := hcomp
    -- The service and the index identify the milestone.
    obtain rfl : x = m := Table.eq_of_key_eq hx hmem
      (hvalid.milestones.unique x hx m hmem (Prod.ext hservice (PgInt.val_injective hn)))
    rw [hfind, Option.any_some, Option.isSome_iff_ne_none] at hafter'
    exact ⟨hnone, hafter'⟩
  · rintro ⟨hnone, hsome⟩
    refine ⟨m, hmem, ?_⟩
    rw [hfind, Option.any_some, Option.isSome_iff_ne_none.2 hsome]
    simp [hnone]

/-- In terms of the rows, an update that closes a ticket is one that finds it open and leaves it
closed. -/
theorem ticketEntry_eq {cs : List (Change Ticket)} {ticketId : UUID} {t t' : Ticket}
    (ht : Session.Flushed env.now cs db ticketId t t') {log : Table ActivityLog} :
    ticketEntry db { db with
        tickets := db.tickets.alter ticketId (Session.saved env.now t cs)
        activityLog := log } ticketId =
      some (t.clientId, if decide (t'.status = .closed ∧ t.status ≠ .closed) then .ticketClosed
        else .ticketUpdated) := by
  have hbefore : db.tickets.find? ticketId = some t := ht.found
  have hafter : (db.tickets.alter ticketId (Session.saved env.now t cs)).find? ticketId =
      some t' := by
    rw [ht.new_eq]
    exact Table.find?_alter_self hbefore _
  rw [ticketEntry, closesTicket, hbefore, hafter]
  simp [and_comm]

/-- **Each committed request appends the entry that it should.** -/
theorem Step.log (h : Step p s env db user r resp db') (hvalid : db.Valid) :
    Logs db db' (r.entry db db' resp.body) := by
  cases h with
  | convertLead _ _ _ _ _ _ _ _ ha => exact ha.logs rfl
  | createClient _ _ _ ha => exact ha.logs rfl
  | changeClientStage _ _ _ _ ha => exact ha.logs rfl
  | createContact _ _ _ ha => exact ha.logs rfl
  | updateContact _ _ _ ha => exact ha.logs rfl
  | createService _ _ _ _ _ ha => exact ha.logs rfl
  | changeServiceState _ _ hs ha =>
    have hfound := hs.found
    rw [Request.entry, show db.services.find? _ = some _ from hfound]
    exact ha.logs rfl
  | @updateMilestone u serviceId n body m m' log hservice hn hm hlog =>
    subst hservice hn
    rw [Request.entry, completesMilestone_eq hvalid hm rfl]
    -- The service of a milestone exists.
    obtain ⟨sv, hsv, hid⟩ := Table.has_iff.1
      (hvalid.milestones.refers m (Table.mem_of_find? hm.found))
    have hfound : db.services.find? m.serviceId = some sv := Table.find?_eq_some_iff.2 ⟨hsv, hid⟩
    unfold MilestoneService.LogsCompletion at hlog
    split
    · next hcomp =>
      rw [if_pos hcomp, hfound] at hlog
      obtain ⟨a, text, ha, rfl⟩ := hlog
      rw [hfound]
      exact ha.logs rfl
    · next hcomp =>
      rw [if_neg hcomp] at hlog
      exact .silent hlog
  | @sendMyMessage u clientId body m a _ _ hrow _ ha =>
    obtain ⟨-, rfl⟩ := MessageService.row_spec hrow
    exact ha.logs rfl
  | @createMyTicket u clientId body t a _ _ hrow _ ha =>
    obtain ⟨-, rfl, -⟩ := TicketService.row_spec hrow
    exact ha.logs rfl
  | @createClientMessage u clientId body m a _ hrow _ ha =>
    obtain ⟨-, rfl⟩ := MessageService.row_spec hrow
    exact ha.logs rfl
  | @updateMyTicket u clientId ticketId body t t' a text _ _ _ ht ha =>
    have hentry : Logs db { db with
        tickets := db.tickets.alter ticketId
          (Session.saved env.now t (TicketService.patchChanges body))
        activityLog := db.activityLog.insert a } (some (t.clientId, .ticketUpdated)) := ha.logs rfl
    have hstatus := congrArg Ticket.status (TicketService.eq_patchMerge ht)
    have hopen : ¬(t'.status = .closed ∧ t.status ≠ .closed) := by
      rintro ⟨hc, hne⟩
      exact hne (hstatus.symm.trans hc)
    rw [Request.entry, ticketEntry_eq ht, decide_eq_false hopen]
    exact hentry
  | @updateTicketInternal u ticketId body t t' a text _ _ ht ha =>
    have hentry : Logs db { db with
        tickets := db.tickets.alter ticketId
          (Session.saved env.now t (TicketService.updateChanges body))
        activityLog := db.activityLog.insert a }
        (some (t.clientId,
          if TicketService.closes t body then .ticketClosed else .ticketUpdated)) :=
      ha.logs rfl
    have hcloses : decide (t'.status = .closed ∧ t.status ≠ .closed) =
        TicketService.closes t body := by
      rw [Bool.eq_iff_iff, decide_eq_true_eq, TicketService.closes_iff ht]
    rw [Request.entry, ticketEntry_eq ht, hcloses]
    exact hentry
  | _ => exact .silent rfl

end Step

/-! ### What the log says about stages -/

/-- The text of the entry for a new client. -/
def creationBody (stage : String) : String := "Client created at stage: " ++ stage

/-- The stage to which the text of a `stage_change` says the client has come. -/
def stageTarget? (text : String) : Option ClientStage :=
  (TextEnum.values : List ClientStage).find? fun st ↦
    text == creationBody (TextEnum.text st) ||
      (TextEnum.values : List ClientStage).any fun old ↦
        text == ClientService.stageChangeBody (TextEnum.text old) (TextEnum.text st)

theorem stageTarget?_creationBody (st : ClientStage) :
    stageTarget? (creationBody (TextEnum.text st)) = some st := by
  cases st <;> decide

theorem stageTarget?_stageChangeBody (old st : ClientStage) :
    stageTarget? (ClientService.stageChangeBody (TextEnum.text old) (TextEnum.text st)) =
      some st := by
  cases old <;> cases st <;> decide

/-- The stage after the entries, from a given one on. -/
def stageAfter (st : ClientStage) (entries : List ActivityLog) : ClientStage :=
  entries.foldl (fun st a ↦ (stageTarget? a.body.val).getD st) st

/-- The `stage_change` entries of a client, oldest first. -/
def stageEntries (db : Db) (clientId : UUID) : List ActivityLog :=
  db.activityLog.rows.filter fun a ↦ decide (a.clientId = clientId ∧ a.kind = .stageChange)

/-- The entries tell a history that leads from `st₀` to a stage: the entry for the creation, where
there is one, is the first; each other entry is an edge of the machine, from the stage before. -/
inductive StageTrail (st₀ : ClientStage) : List ActivityLog → ClientStage → Prop where
  | start : StageTrail st₀ [] st₀
  | created {a : ActivityLog} (ha : a.body.val = creationBody (TextEnum.text st₀)) :
    StageTrail st₀ [a] st₀
  | changed {entries : List ActivityLog} {old st : ClientStage} {a : ActivityLog}
    (h : StageTrail st₀ entries old) (hedge : ClientStageMachine.Edge old st)
    (ha : a.body.val = ClientService.stageChangeBody (TextEnum.text old) (TextEnum.text st)) :
    StageTrail st₀ (entries ++ [a]) st

/-- **The trail ends where its targets lead.** -/
theorem StageTrail.stageAfter_eq {st₀ st : ClientStage} {entries : List ActivityLog}
    (h : StageTrail st₀ entries st) : stageAfter st₀ entries = st := by
  cases h with
  | start => rfl
  | created ha => simp [stageAfter, ha, stageTarget?_creationBody]
  | changed h hedge ha => simp [stageAfter, ha, stageTarget?_stageChangeBody]

/-- **Each entry of a trail** is that of the creation, in the first place, or an edge. -/
theorem StageTrail.edge {st₀ st : ClientStage} {entries : List ActivityLog}
    (h : StageTrail st₀ entries st) {before after : List ActivityLog} {a : ActivityLog}
    (hsplit : entries = before ++ a :: after) :
    (before = [] ∧ a.body.val = creationBody (TextEnum.text st₀)) ∨
      ∃ st', a.body.val = ClientService.stageChangeBody (TextEnum.text (stageAfter st₀ before))
          (TextEnum.text st') ∧ ClientStageMachine.Edge (stageAfter st₀ before) st' := by
  induction h generalizing after with
  | start => simp at hsplit
  | @created x ha =>
    obtain ⟨hbefore, hx⟩ : before = [] ∧ a = x := by
      rcases before with - | ⟨y, before⟩
      · simp only [List.nil_append, List.cons.injEq] at hsplit
        exact ⟨rfl, hsplit.1.symm⟩
      · simp at hsplit
    exact Or.inl ⟨hbefore, hx ▸ ha⟩
  | @changed entries old st x h hedge ha ih =>
    rcases after.eq_nil_or_concat with rfl | ⟨after, y, rfl⟩
    · obtain ⟨rfl, hx⟩ := List.append_inj' hsplit rfl
      obtain rfl := List.singleton_inj.1 hx
      rw [h.stageAfter_eq]
      exact Or.inr ⟨st, ha, hedge⟩
    · rw [List.concat_eq_append, ← List.cons_append, ← List.append_assoc] at hsplit
      exact ih (List.append_inj' hsplit rfl).1

/-- What a request does to the stage of a client and to the entries that tell it. -/
inductive StageChange (db db' : Db) (c c' : Client) : Prop where
  | kept (hstage : c'.stage = c.stage)
    (hentries : stageEntries db' c.id = stageEntries db c.id)
  | changed {a : ActivityLog} (hedge : ClientStageMachine.Edge c.stage c'.stage)
    (ha : a.body.val =
      ClientService.stageChangeBody (TextEnum.text c.stage) (TextEnum.text c'.stage))
    (hentries : stageEntries db' c.id = stageEntries db c.id ++ [a])

/-- A client as it is inserted, with the entries that tell where it starts. -/
def FreshClient (db' : Db) (c : Client) : Prop :=
  StageTrail c.stage (stageEntries db' c.id) c.stage

/-- The requests that record a stage. -/
def Request.recordsStage : Request → Bool
  | .createClient _ | .changeClientStage .. => true
  | _ => false

theorem Request.kind_ne_of_mem_entry {r : Request} (h : r.recordsStage = false) {before after : Db}
    {body : Body} : ∀ x ∈ r.entry before after body, x.2 ≠ .stageChange := by
  intro x hx
  cases r with
  | createClient | changeClientStage => cases h
  | convertLead | changeServiceState | createMyTicket | sendMyMessage | createClientMessage =>
    obtain ⟨y, -, rfl⟩ := Option.map_eq_some_iff.1 hx
    simp
  | createContact | updateContact | createService =>
    obtain rfl := Option.some.inj hx
    simp
  | updateMilestone serviceId n body =>
    rw [Option.mem_def, Request.entry] at hx
    split at hx
    · obtain ⟨y, -, rfl⟩ := Option.map_eq_some_iff.1 hx
      simp
    · cases hx
  | updateMyTicket | updateTicketInternal =>
    obtain ⟨y, -, rfl⟩ := Option.map_eq_some_iff.1 hx
    split <;> simp
  | _ => cases hx

section Stages

variable {p : Platform} {s : Settings} {env : Env} {db db' : Db} {user : Except Fault User}
  {r : Request} {resp : Response}

/-- The entries of a client after one more row of the log. -/
theorem stageEntries_insert {a : ActivityLog} (hnew : db.activityLog.has a.id = false)
    (hlog : db'.activityLog = db.activityLog.insert a) (k : UUID) :
    stageEntries db' k = stageEntries db k ++
      if a.clientId = k ∧ a.kind = .stageChange then [a] else [] := by
  rw [stageEntries, hlog, Table.rows_insert hnew, List.filter_append]
  split
  · next h => simp [stageEntries, h]
  · next h => simp [stageEntries, h]

theorem Logs.stageEntries_eq {entry : Option (UUID × ActivityKind)} (h : Logs db db' entry)
    (hkind : ∀ x ∈ entry, x.2 ≠ .stageChange) (k : UUID) :
    stageEntries db' k = stageEntries db k := by
  cases h with
  | @appended a hnew hlog =>
    have hne : ¬(a.clientId = k ∧ a.kind = .stageChange) := fun hc ↦ hkind _ rfl hc.2
    rw [stageEntries_insert hnew hlog, if_neg hne, List.append_nil]
  | silent hlog => rw [stageEntries, hlog, stageEntries]

/-- A client that does not exist has no entries. -/
theorem stageEntries_of_new (hvalid : db.Valid) {k : UUID} (hk : db.clients.has k = false) :
    stageEntries db k = [] := by
  refine List.filter_eq_nil_iff.2 fun a ha hc ↦ ?_
  have hclient := (of_decide_eq_true hc).1
  have hrefers := hvalid.activityLog.refers a ha
  simp only [Relation.refers, Bool.and_eq_true, hclient, hk] at hrefers
  exact nomatch hrefers.1

/-- **The stages after a request.** -/
theorem Step.stages (h : Step p s env db user r resp db') (hvalid : db.Valid) :
    Table.Evolves (StageChange db db') (FreshClient db') db.clients db'.clients := by
  have hsame : r.recordsStage = false → ∀ k, stageEntries db' k = stageEntries db k := fun hr ↦
    (h.log hvalid).stageEntries_eq (Request.kind_ne_of_mem_entry hr)
  cases h with
  | convertLead _ _ _ _ _ hnew =>
    have hentries := hsame rfl
    refine .insert (fun c ↦ .kept rfl (hentries c.id)) hnew ?_
    rw [FreshClient, hentries, stageEntries_of_new hvalid hnew]
    exact .start
  | @createClient u body c a _ hrow hnew ha =>
    have hlog : ({ db with
        clients := db.clients.insert c
        activityLog := db.activityLog.insert a } : Db).activityLog = db.activityLog.insert a := rfl
    have hentries := stageEntries_insert ha.fresh hlog
    refine .insert_of_mem (fun x hx ↦ .kept rfl ?_) hnew ?_
    · -- The entry is not about a client that exists.
      have hne : ¬(a.clientId = x.id ∧ a.kind = .stageChange) := by
        rintro ⟨hid, -⟩
        rw [ha.clientId_eq] at hid
        exact Table.has_eq_false_iff.1 hnew x hx hid.symm
      rw [hentries, if_neg hne, List.append_nil]
    · rw [FreshClient, hentries, if_pos ⟨ha.clientId_eq, ha.kind_eq⟩,
        stageEntries_of_new hvalid hnew]
      refine .created ?_
      rw [ha.body_eq, (ClientService.row_spec hrow).2]
      rfl
  | updateClient _ _ hc =>
    have hstage := congrArg Client.stage (ClientService.eq_merge hc)
    exact hc.evolves (fun c ↦ .kept rfl (hsame rfl c.id)) (.kept hstage (hsame rfl _))
  | @changeClientStage u clientId stage c c' a _ _ hcan hc ha =>
    obtain ⟨st, rfl⟩ : ∃ st : ClientStage, TextEnum.text st = stage :=
      hc.accepted.flushes.exists_text
    have hedge : ClientStageMachine.Edge c.stage st := by
      rw [ClientStageMachine.canTransition, Bool.false_and, Bool.false_or, permits_text_iff] at hcan
      exact hcan
    have hne : c.stage ≠ st := by
      rintro rfl
      revert hedge
      cases c.stage <;> decide
    have hstage : c'.stage = st := by
      rw [hc.new_eq, ClientService.saved_stage, if_neg hne]
    have hid : c.id = clientId := hc.key_old
    have hlog : ({ db with
        clients := db.clients.alter clientId
          (Session.saved env.now c [Client.Col.stage.assignText (TextEnum.text st)])
        activityLog := db.activityLog.insert a } : Db).activityLog = db.activityLog.insert a := rfl
    have hentries := stageEntries_insert ha.fresh hlog
    refine .alter_of_ne (fun x hx hk ↦ .kept rfl ?_) hc.found ?_
    · have hne : ¬(a.clientId = x.id ∧ a.kind = .stageChange) := fun h ↦
        hk (h.1.symm.trans ha.clientId_eq)
      rw [hentries, if_neg hne, List.append_nil]
    · rw [← hc.new_eq]
      refine .changed (a := a) (hstage ▸ hedge) ?_ ?_
      · rw [ha.body_eq, hstage]
      · rw [hentries, if_pos ⟨ha.clientId_eq.trans hid.symm, ha.kind_eq⟩]
  | _ => exact .refl fun c ↦ .kept rfl (hsame rfl c.id)

end Stages

/-! ### All runs -/

section Acts

variable {p : Platform} {s : Settings} {db db' : Db} {a : Act} {answer : Option Response}

theorem Request.entry_of_isRead {r : Request} (h : r.isRead = true) (before after : Db)
    (body : Body) : r.entry before after body = none := by
  cases r <;> first | rfl | cases h

theorem Happens.log (h : Happens p s db a answer db') (hvalid : db.Valid) (hI : Readable p db) :
    Logs db db' (Event.entry ⟨db, a, answer, db'⟩) := by
  cases h with
  | @idle env sub call resp h =>
    have hnone : Event.entry ⟨db, .request env sub call, some resp, db⟩ = none := by
      cases call with
      | bound r =>
        rw [Event.entry_request]
        split
        · next hok =>
          obtain ⟨r', hr', hread⟩ := h hok
          cases hr'
          exact Request.entry_of_isRead hread _ _ _
        · rfl
      | _ => rfl
    rw [hnone]
    exact .silent rfl
  | @step env sub r r' resp db' hv h =>
    have hok : resp.isOk = true := h.isOk (Request.checked_of_validate? hv) hI
    have hentry : Event.entry ⟨db, .request env sub (.bound r), some resp, db'⟩ =
        r'.entry db db' resp.body := by
      rw [Event.entry_request, if_pos hok, Request.entry_of_validate? hv]
    rw [hentry]
    exact h.log hvalid
  | account h =>
    obtain ⟨t, rfl⟩ := TableOp.exists_setTable h
    exact .silent rfl
  | refused => exact .silent rfl

theorem Happens.stages (h : Happens p s db a answer db') (hvalid : db.Valid) :
    Table.Evolves (StageChange db db') (FreshClient db') db.clients db'.clients := by
  cases h with
  | idle h => exact .refl fun c ↦ .kept rfl rfl
  | step hv h => exact h.stages hvalid
  | account h =>
    obtain ⟨t, rfl⟩ := TableOp.exists_setTable h
    exact .refl fun c ↦ .kept rfl rfl
  | refused => exact .refl fun c ↦ .kept rfl rfl

end Acts

/-- At some point of the run the client was inserted, with the stage. -/
def Run.Inserted (r : Run) (clientId : UUID) (st : ClientStage) : Prop :=
  ∃ e ∈ r.events, e.before.clients.has clientId = false ∧
    ∃ c ∈ e.after.clients, c.id = clientId ∧ c.stage = st

theorem Run.Inserted.next {r : Run} {clientId : UUID} {st : ClientStage}
    (h : r.Inserted clientId st) (e : Event) :
    Run.Inserted ⟨e.after, r.events ++ [e]⟩ clientId st := by
  obtain ⟨e', he', hins⟩ := h
  exact ⟨e', List.mem_append_left _ he', hins⟩

/-- **What the log says about the stages of a client** that was inserted with stage `st₀`. -/
structure StageHistory (r : Run) (c : Client) (st₀ : ClientStage) : Prop where
  inserted : r.Inserted c.id st₀
  /-- The targets of the entries lead to the current stage. -/
  folds : stageAfter st₀ (stageEntries r.db c.id) = c.stage
  /-- Apart from the entry for the creation, which comes first if there is one, each entry is a
  change of stage from where the entries before it lead, along an edge. -/
  edges : ∀ (before : List ActivityLog) (a : ActivityLog) (after : List ActivityLog),
    stageEntries r.db c.id = before ++ a :: after →
      (before = [] ∧ a.body.val = creationBody (TextEnum.text st₀)) ∨
      ∃ st, a.body.val = ClientService.stageChangeBody
          (TextEnum.text (stageAfter st₀ before)) (TextEnum.text st) ∧
        ClientStageMachine.Edge (stageAfter st₀ before) st

/-- **The log is a journal of the run.** -/
structure Journaled (r : Run) : Prop where
  /-- The entries are those of the events, one for one and in order. -/
  entries : r.db.activityLog.rows.map (fun a ↦ (a.clientId, a.kind)) =
    r.events.filterMap Event.entry
  /-- A request that fails changes nothing. -/
  failed : ∀ e ∈ r.events, ∀ resp, e.answer = some resp → resp.isOk = false → e.after = e.before
  stages : ∀ c ∈ r.db.clients, ∃ st₀, StageHistory r c st₀

/-- What holds after a run, in the form in which one more act preserves it. -/
structure JournalInvariant (p : Platform) (r : Run) : Prop where
  readable : Readable p r.db
  entries : r.db.activityLog.rows.map (fun a ↦ (a.clientId, a.kind)) =
    r.events.filterMap Event.entry
  failed : ∀ e ∈ r.events, ∀ resp, e.answer = some resp → resp.isOk = false → e.after = e.before
  stages : ∀ c ∈ r.db.clients, ∃ st₀, r.Inserted c.id st₀ ∧
    StageTrail st₀ (stageEntries r.db c.id) c.stage

section Runs

variable {p : Platform} {s : Settings}

theorem journalInvariant_empty : JournalInvariant p Run.empty where
  readable := readable_empty
  entries := rfl
  failed _ he := absurd he List.not_mem_nil
  stages _ hc := absurd hc Table.not_mem_empty

/-- **One more act keeps the invariant.** -/
theorem JournalInvariant.next {r : Run} (h : JournalInvariant p r) (hvalid : r.db.Valid) {a : Act}
    {answer : Option Response} {db' : Db} (hact : Happens p s r.db a answer db') :
    JournalInvariant p ⟨db', r.events ++ [⟨r.db, a, answer, db'⟩]⟩ := by
  refine ⟨hact.readable h.readable, ?entries, ?failed, ?stages⟩
  case entries =>
    have hlog := (hact.log hvalid h.readable).rows
    rw [h.entries] at hlog
    rw [hlog, List.filterMap_append]
    rcases hentry : Event.entry ⟨r.db, a, answer, db'⟩ with - | x <;>
      rw [List.filterMap_cons, hentry] <;> rfl
  case failed =>
    intro e he resp hresp hfail
    rcases List.mem_append.1 he with he | he
    · exact h.failed e he resp hresp hfail
    · obtain rfl := List.mem_singleton.1 he
      exact hact.failed h.readable hresp hfail
  case stages =>
    intro c' hc'
    rcases hact.stages hvalid c' hc' with ⟨c, hc, hid, hchange⟩ | ⟨hnew, hfresh⟩
    · have hid' : c.id = c'.id := hid
      obtain ⟨st₀, hins, htrail⟩ := h.stages c hc
      refine ⟨st₀, hid' ▸ hins.next ⟨r.db, a, answer, db'⟩, ?_⟩
      rw [← hid']
      cases hchange with
      | kept hstage hentries =>
        rw [hstage, hentries]
        exact htrail
      | changed hedge ha hentries =>
        rw [hentries]
        exact .changed htrail hedge ha
    · exact ⟨c'.stage, ⟨⟨r.db, a, answer, db'⟩, List.mem_append_right _ (List.mem_singleton_self _),
        hnew, c', hc', rfl, rfl⟩, hfresh⟩

end Runs

/-- **In every run, the activity log is a faithful journal.** -/
theorem journaled_run (p : Platform) (s : Settings) (acts : List Act) :
    Journaled (run p s acts) := by
  have h : JournalInvariant p (run p s acts) :=
    run_induction journalInvariant_empty (fun _ _ _ _ hvalid _ hI h ↦ hI.next hvalid h) acts
  refine ⟨h.entries, h.failed, fun c hc ↦ ?_⟩
  obtain ⟨st₀, hins, htrail⟩ := h.stages c hc
  exact ⟨st₀, hins, htrail.stageAfter_eq, fun before a after hsplit ↦ htrail.edge hsplit⟩

end ZanovixCrm
