import ZanovixCrm.Services.ActivityLogService

/-!
# Ticket service

The client filter is an argument of every read: `some c` for the portal, `none` for internal roles.

**What is not checked is modelled too**: the service that a ticket names is stored without a look at
whose service it is, and a status may be set to any value. An edit by the client and one by the
staff differ in their fields and in the entry that they leave in the log; each keeps its own body
here, as in the source.
-/

namespace ZanovixCrm.TicketService

/-- The rows of the list, before paging. -/
def selects (clientIdFilter : Option UUID) (status priority : Option String) (t : Ticket) : Bool :=
  clientIdFilter.all (· = t.clientId) && status.all (· = TextEnum.text t.status) &&
    priority.all (· = TextEnum.text t.priority)

def listTickets (clientIdFilter : Option UUID) (limit offset : ℤ)
    (status priority : Option String) : Tx (List Ticket × ℕ) := do
  Session.bindText status
  Session.bindText priority
  let page ← .query fun db ↦ Session.limitOffset limit offset
    (selectDesc db.tickets (selects clientIdFilter status priority) Ticket.createdAt)
  let rows ← Session.column page
  let total ← .query fun db ↦ db.tickets.rows.countP (selects clientIdFilter status priority)
  return (rows, total)

def getTicket (ticketId : UUID) (clientIdFilter : Option UUID) : Tx Ticket := do
  let found ← .query fun db ↦
    (db.tickets.find? ticketId).filter fun t ↦ clientIdFilter.all (· = t.clientId)
  .demand found (.ticketNotFound ticketId)

/-- The new row. -/
def row (env : Env) (body : TicketCreate) (clientId actor : UUID) : Except DbError Ticket := do
  let title : Str 200 ← encode (some body.title)
  let text : Option FreeText ← encode body.body
  return {
    id := env.uuid 0, clientId, serviceId := body.serviceId, title, body := text
    priority := body.priority, status := .pending, createdByUserId := some actor
    assignedToUserId := none, createdAt := env.now, updatedAt := env.now }

def createTicket (env : Env) (body : TicketCreate) (clientId actor : UUID) : Tx Ticket := do
  Session.add (row env body clientId actor)
  ActivityLogService.appendActivity env (env.uuid 1) clientId .ticketOpened
    ("Ticket '" ++ body.title ++ "' opened (priority=" ++ TextEnum.text body.priority ++ ")") actor
  Session.refresh (env.uuid 0)

/-- `str(list(keys))`. -/
def keysRepr (keys : List String) : String :=
  "[" ++ ", ".intercalate (keys.map fun k ↦ "'" ++ k ++ "'") ++ "]"

/-- The name of a field, if it was set. -/
def keyOf {α : Type} (name : String) (f : Field α) : List String := if f.isSet then [name] else []

/-- The text of an update, given the title after it. -/
def updateText (title : Field String) (ticket : Ticket) (what : String) (keys : List String) :
    String :=
  "Ticket '" ++ (title.onto (some ticket.title.val)).getD "" ++ "' " ++ what ++ " (fields: " ++
    keysRepr keys ++ ")"

/-- The attributes that the client's update assigns. -/
def patchChanges (body : TicketPatch) : List (Change Ticket) :=
  Ticket.Col.title.patch body.title ++ Ticket.Col.priority.patch body.priority ++
    Ticket.Col.body.patch body.body

def updateTicket (env : Env) (ticketId : UUID) (body : TicketPatch) (clientIdFilter : Option UUID)
    (actor : UUID) : Tx Ticket := do
  let ticket ← getTicket ticketId clientIdFilter
  Session.flush env ticket (patchChanges body)
  ActivityLogService.appendActivity env (env.uuid 0) ticket.clientId .ticketUpdated
    (updateText body.title ticket "updated"
      (keyOf "title" body.title ++ keyOf "priority" body.priority ++ keyOf "body" body.body)) actor
  Session.refresh ticketId

/-- The attributes that an internal update assigns. -/
def updateChanges (body : TicketUpdate) : List (Change Ticket) :=
  Ticket.Col.title.patch body.title ++ Ticket.Col.priority.patch body.priority ++
    Ticket.Col.status.patch body.status ++ Ticket.Col.body.patch body.body ++
    Ticket.Col.assignedToUserId.patch body.assignedToUserId

/-- The update takes the status from another value to `closed`. -/
def closes (ticket : Ticket) (body : TicketUpdate) : Bool :=
  decide (body.status = .val .closed ∧ ticket.status ≠ .closed)

def updateTicketInternal (env : Env) (ticketId : UUID) (body : TicketUpdate) (actor : UUID) :
    Tx Ticket := do
  let ticket ← getTicket ticketId none
  Session.flush env ticket (updateChanges body)
  ActivityLogService.appendActivity env (env.uuid 0) ticket.clientId
    (if closes ticket body then .ticketClosed else .ticketUpdated)
    (updateText body.title ticket
      (if closes ticket body then "ticket closed" else "ticket updated")
      (keyOf "title" body.title ++ keyOf "priority" body.priority ++ keyOf "status" body.status ++
        keyOf "body" body.body ++ keyOf "assigned_to_user_id" body.assignedToUserId)) actor
  Session.refresh ticketId

/-! ### Specifications -/

section Specs

variable {env : Env} {db : Db} {ticketId actor : UUID}

theorem row_spec {body : TicketCreate} {clientId : UUID} {t : Ticket}
    (h : row env body clientId actor = .ok t) :
    t.id = env.uuid 0 ∧ t.clientId = clientId ∧ t.serviceId = body.serviceId ∧
      t.createdByUserId = some actor ∧ t.assignedToUserId = none := by
  simp only [row, bind_eq_ok_iff, pure_eq_ok_iff] at h
  obtain ⟨title, -, text, -, rfl⟩ := h
  exact ⟨rfl, rfl, rfl, rfl, rfl⟩

/-- The row `old` with the fields of `new` that the payload sets, and its time stamp. -/
def patchMerge (payload : TicketPatch) (new old : Ticket) : Ticket :=
  { old with
    updatedAt := new.updatedAt
    title := if payload.title.isSet then new.title else old.title
    priority := if payload.priority.isSet then new.priority else old.priority
    body := if payload.body.isSet then new.body else old.body }

/-- **An edit changes the fields that it sets, and no others.** -/
theorem eq_patchMerge {now : Time} {payload : TicketPatch} {k : UUID} {t t' : Ticket}
    (h : Session.Flushed now (patchChanges payload) db k t t') : t' = patchMerge payload t' t := by
  have hmerge : patchMerge payload t' t' = patchMerge payload t' t := by
    refine h.preserves (f := patchMerge payload t') ?_ fun _ _ ↦ rfl
    simp only [patchChanges, Preserves.append, and_assoc]
    refine ⟨.patch ?_, .patch ?_, .patch ?_⟩ <;>
      intro hset _ _ <;> simp only [patchMerge, hset, if_true] <;> rfl
  rw [← hmerge]
  simp only [patchMerge, ite_self]

/-- The row `old` with the fields of `new` that the payload sets, and its time stamp. -/
def updateMerge (payload : TicketUpdate) (new old : Ticket) : Ticket :=
  { old with
    updatedAt := new.updatedAt
    title := if payload.title.isSet then new.title else old.title
    priority := if payload.priority.isSet then new.priority else old.priority
    status := if payload.status.isSet then new.status else old.status
    body := if payload.body.isSet then new.body else old.body
    assignedToUserId :=
      if payload.assignedToUserId.isSet then new.assignedToUserId else old.assignedToUserId }

/-- **An edit changes the fields that it sets, and no others.** -/
theorem eq_updateMerge {now : Time} {payload : TicketUpdate} {k : UUID} {t t' : Ticket}
    (h : Session.Flushed now (updateChanges payload) db k t t') :
    t' = updateMerge payload t' t := by
  have hmerge : updateMerge payload t' t' = updateMerge payload t' t := by
    refine h.preserves (f := updateMerge payload t') ?_ fun _ _ ↦ rfl
    simp only [updateChanges, Preserves.append, and_assoc]
    refine ⟨.patch ?_, .patch ?_, .patch ?_, .patch ?_, .patch ?_⟩ <;>
      intro hset _ _ <;> simp only [updateMerge, hset, if_true] <;> rfl
  rw [← hmerge]
  simp only [updateMerge, ite_self]

/-- **The status after an internal update** is the one that was set, if one was. An explicit `null`
is refused by the database. -/
theorem status_of_flushed {now : Time} {payload : TicketUpdate} {k : UUID} {t t' : Ticket}
    (h : Session.Flushed now (updateChanges payload) db k t t') :
    some t'.status = payload.status.onto (some t.status) := by
  have hpatches : Session.Patches Ticket.Col.status payload.status (updateChanges payload) := by
    refine .left (.left (.right .self ?_) (.patch fun _ _ _ ↦ rfl)) (.patch fun _ _ _ ↦ rfl)
    exact Preserves.append.2 ⟨.patch fun _ _ _ ↦ rfl, .patch fun _ _ _ ↦ rfl⟩
  have hstored := Session.encode_onto_of_patches h.accepted.flushes hpatches fun _ _ ↦ rfl
  rw [← h.new_eq] at hstored
  exact (eq_some_of_encode hstored).symm

/-- Which updates close a ticket, in terms of the rows. -/
theorem closes_iff {now : Time} {payload : TicketUpdate} {k : UUID} {t t' : Ticket}
    (h : Session.Flushed now (updateChanges payload) db k t t') :
    closes t payload = true ↔ t'.status = .closed ∧ t.status ≠ .closed := by
  have hstatus := status_of_flushed h
  rw [closes, decide_eq_true_eq]
  constructor
  · rintro ⟨hs, hne⟩
    rw [hs] at hstatus
    exact ⟨Option.some.inj hstatus, hne⟩
  · rintro ⟨hclosed, hne⟩
    rw [hclosed] at hstatus
    rcases hs : payload.status with - | - | st
    · rw [hs] at hstatus
      exact absurd (Option.some.inj hstatus).symm hne
    · rw [hs] at hstatus
      cases hstatus
    · rw [hs] at hstatus
      exact ⟨by rw [Option.some.inj hstatus], hne⟩

theorem ensures_getTicket {clientIdFilter : Option UUID} {Q : Ticket → Db → Prop} :
    (getTicket ticketId clientIdFilter).Ensures db Q ↔
      ∀ t, db.tickets.find? ticketId = some t → clientIdFilter.all (· = t.clientId) = true →
        Q t db := by
  simp [getTicket]

theorem ensures_createTicket {body : TicketCreate} {clientId : UUID} :
    (createTicket env body clientId actor).Ensures db fun t db' ↦ ∃ a,
      row env body clientId actor = .ok t ∧ db.tickets.has t.id = false ∧
      ActivityLogService.Records db clientId .ticketOpened
        ("Ticket '" ++ body.title ++ "' opened (priority=" ++ TextEnum.text body.priority ++ ")")
        a ∧
      db' = { db with
        tickets := db.tickets.insert t, activityLog := db.activityLog.insert a } := by
  simp only [createTicket, Prog.ensures_bind, Session.ensures_add]
  intro t hrow hnew _
  refine ActivityLogService.ensures_appendActivity fun a ha ↦ ?_
  rw [Session.ensures_refresh]
  intro t' ht'
  obtain rfl := Table.eq_of_find?_insert hnew (row_spec hrow).1 ht'
  exact ⟨a, hrow, hnew, ⟨ha.fresh, ha.clientId_eq, ha.kind_eq, ha.body_eq⟩, rfl⟩

theorem ensures_updateTicket {body : TicketPatch} {clientIdFilter : Option UUID} :
    (updateTicket env ticketId body clientIdFilter actor).Ensures db fun t' db' ↦ ∃ t a text,
      clientIdFilter.all (· = t.clientId) = true ∧
      Session.Flushed env.now (patchChanges body) db ticketId t t' ∧
      ActivityLogService.Records db t.clientId .ticketUpdated text a ∧
      db' = { db with
        tickets := db.tickets.alter ticketId (Session.saved env.now t (patchChanges body))
        activityLog := db.activityLog.insert a } := by
  simp only [updateTicket, Prog.ensures_bind, ensures_getTicket, Session.ensures_flush,
    table_tickets, setTable_tickets]
  intro t ht hclient hok
  refine ActivityLogService.ensures_appendActivity fun a ha ↦ ?_
  rw [Session.ensures_refresh]
  intro t' ht'
  obtain ⟨hflushed, hkey⟩ := Session.Flushed.of_find? ht hok ht'
  exact ⟨t, a, _, hclient, hflushed, ⟨ha.fresh, ha.clientId_eq, ha.kind_eq, ha.body_eq⟩,
    by rw [← hkey]⟩

theorem ensures_updateTicketInternal {body : TicketUpdate} :
    (updateTicketInternal env ticketId body actor).Ensures db fun t' db' ↦ ∃ t a text,
      Session.Flushed env.now (updateChanges body) db ticketId t t' ∧
      ActivityLogService.Records db t.clientId
        (if closes t body then .ticketClosed else .ticketUpdated) text a ∧
      db' = { db with
        tickets := db.tickets.alter ticketId (Session.saved env.now t (updateChanges body))
        activityLog := db.activityLog.insert a } := by
  simp only [updateTicketInternal, Prog.ensures_bind, ensures_getTicket, Session.ensures_flush,
    table_tickets, setTable_tickets]
  intro t ht _ hok
  refine ActivityLogService.ensures_appendActivity fun a ha ↦ ?_
  rw [Session.ensures_refresh]
  intro t' ht'
  obtain ⟨hflushed, hkey⟩ := Session.Flushed.of_find? ht hok ht'
  exact ⟨t, a, _, hflushed, ⟨ha.fresh, ha.clientId_eq, ha.kind_eq, ha.body_eq⟩, by rw [← hkey]⟩

end Specs

end ZanovixCrm.TicketService
