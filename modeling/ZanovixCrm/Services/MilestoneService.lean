import ZanovixCrm.Services.ServiceService

/-!
# Milestone service

A milestone is addressed by its service and its index. Completing one for the first time, that is
taking `completed_at` from null to a value, is recorded in the log of the service's client.

**The index is addressed, not the key.** An index beyond `integer` is an error of the database and
not a missing row, and two milestones of one service may not share an index, which is a constraint
of the table. `completed_at` comes from the request, is not compared with the clock, and may be
cleared again; the next completion is then recorded as well.
-/

namespace ZanovixCrm.MilestoneService

/-- Fetch the parent service. -/
def getService (serviceId : UUID) : Tx Service := do
  let found ← .query fun db ↦ db.services.find? serviceId
  .demand found (.serviceNotFound serviceId)

def listMilestones (serviceId : UUID) : Tx (List Milestone) :=
  .query fun db ↦ ServiceService.milestonesOf db serviceId

/-- The new row. -/
def row (env : Env) (serviceId : UUID) (body : MilestoneCreate) : Except DbError Milestone := do
  let n : PgInt 32 ← encode (some body.n)
  let title : Str 300 ← encode (some body.title)
  return { id := env.uuid 0, serviceId, n, title, dueDate := body.dueDate, completedAt := none }

def createUnderService (env : Env) (serviceId : UUID) (body : MilestoneCreate) : Tx Milestone := do
  let _ ← getService serviceId
  Session.add (row env serviceId body)
  Session.refresh (env.uuid 0)

/-- Fetch a milestone by service and index; an index beyond `integer` is an error. -/
def getByIndex (serviceId : UUID) (n : ℤ) : Tx Milestone := do
  let index : PgInt 32 ← Session.column (encode (some n))
  let rows ← .query fun db ↦
    db.milestones.rows.filter fun m ↦ decide (m.serviceId = serviceId ∧ m.n = index)
  let found ← Session.scalarOneOrNone rows
  .demand found (.milestoneNotFound serviceId n)

/-- The attributes that a partial update assigns. -/
def changes (body : MilestoneUpdate) : List (Change Milestone) :=
  Milestone.Col.title.patch body.title ++ Milestone.Col.dueDate.patch body.dueDate ++
    Milestone.Col.completedAt.patch body.completedAt

/-- The update takes `completed_at` from null to a value. -/
def completes (m : Milestone) (body : MilestoneUpdate) : Bool :=
  m.completedAt.isNone && (body.completedAt.onto (decode m.completedAt)).isSome

/-- The entry that records a first completion, under the parent service. -/
def logCompletion (env : Env) (serviceId : UUID) (title : String) (actor : UUID) : Tx Unit := do
  let found ← .query fun db ↦ db.services.find? serviceId
  match found with
  | some service =>
    ActivityLogService.appendActivity env (env.uuid 0) service.clientId .milestoneCompleted
      ("Milestone '" ++ title ++ "' completed (service='" ++ service.title.val ++ "')") actor
  | none => pure ()

def update (env : Env) (serviceId : UUID) (n : ℤ) (body : MilestoneUpdate) (actor : UUID) :
    Tx Milestone := do
  let milestone ← getByIndex serviceId n
  Session.flush env milestone (changes body)
  if completes milestone body then
    logCompletion env serviceId ((body.title.onto (some milestone.title.val)).getD "") actor
  Session.refresh milestone.id

def delete (serviceId : UUID) (n : ℤ) : Tx Unit := do
  let milestone ← getByIndex serviceId n
  Session.delete .milestones milestone.id

/-! ### Specifications -/

section Specs

variable {env : Env} {db : Db} {serviceId actor : UUID} {n : ℤ}

theorem row_spec {body : MilestoneCreate} {m : Milestone} (h : row env serviceId body = .ok m) :
    m.id = env.uuid 0 ∧ m.serviceId = serviceId ∧ m.completedAt = none := by
  simp only [row, bind_eq_ok_iff, pure_eq_ok_iff] at h
  obtain ⟨index, -, title, -, rfl⟩ := h
  exact ⟨rfl, rfl, rfl⟩

/-- The row `old` with the fields of `new` that the payload sets. -/
def merge (payload : MilestoneUpdate) (new old : Milestone) : Milestone :=
  { old with
    title := if payload.title.isSet then new.title else old.title
    dueDate := if payload.dueDate.isSet then new.dueDate else old.dueDate
    completedAt := if payload.completedAt.isSet then new.completedAt else old.completedAt }

/-- **An edit changes the fields that it sets, and no others.** -/
theorem eq_merge {now : Time} {payload : MilestoneUpdate} {k : UUID} {m m' : Milestone}
    (h : Session.Flushed now (changes payload) db k m m') : m' = merge payload m' m := by
  have hmerge : merge payload m' m' = merge payload m' m := by
    refine h.preserves (f := merge payload m') ?_ fun _ _ ↦ rfl
    simp only [changes, Preserves.append, and_assoc]
    refine ⟨.patch ?_, .patch ?_, .patch ?_⟩ <;>
      intro hset _ _ <;> simp only [merge, hset, if_true] <;> rfl
  rw [← hmerge]
  simp only [merge, ite_self]

/-- **The completion after an update** is the one that was set, if it was; `null` clears it. It is
stored as the column has it. -/
theorem completedAt_of_flushed {now : Time} {payload : MilestoneUpdate} {k : UUID}
    {m m' : Milestone} (h : Session.Flushed now (changes payload) db k m m') :
    encode (payload.completedAt.onto (decode m.completedAt)) = .ok m'.completedAt := by
  have hmerge := congrArg Milestone.completedAt (eq_merge h)
  have hset : payload.completedAt.isSet = true →
      encode payload.completedAt.toOption = .ok (Milestone.Col.completedAt.get m') := by
    intro hset
    rw [h.new_eq]
    refine Session.encode_eq_get_of_patch h.accepted.flushes hset ?_ ?_ fun _ _ ↦ rfl
    · simp only [changes, List.mem_append]
      exact fun x hx ↦ Or.inr hx
    · simp only [changes, Session.Assigns.append]
      refine ⟨⟨.of_preserves ?_, .of_preserves ?_⟩, .self⟩ <;> exact .patch fun _ _ _ ↦ rfl
  rcases hc : payload.completedAt with - | - | time
  · rw [merge, hc] at hmerge
    rw [hmerge]
    exact encode_decode m.completedAt
  · rw [hc] at hset
    exact hset rfl
  · rw [hc] at hset
    exact hset rfl

/-- Which updates complete a milestone, in terms of the rows. -/
theorem completes_iff {now : Time} {payload : MilestoneUpdate} {k : UUID} {m m' : Milestone}
    (h : Session.Flushed now (changes payload) db k m m') :
    completes m payload = true ↔ m.completedAt = none ∧ m'.completedAt ≠ none := by
  rw [completes, ← isSome_of_encode (completedAt_of_flushed h), Bool.and_eq_true,
    Option.isNone_iff_eq_none, Option.isSome_iff_ne_none]

theorem ensures_createUnderService {body : MilestoneCreate} :
    (createUnderService env serviceId body).Ensures db fun m db' ↦
      row env serviceId body = .ok m ∧ db.milestones.has m.id = false ∧
      db' = { db with milestones := db.milestones.insert m } := by
  simp only [createUnderService, getService, Prog.ensures_bind, Prog.ensures_query,
    Prog.ensures_demand, Session.ensures_add, Session.ensures_refresh]
  intro _ _ m hrow hnew _ m' hm'
  obtain rfl := Table.eq_of_find?_insert hnew (row_spec hrow).1 hm'
  exact ⟨hrow, hnew, rfl⟩

/-- The milestone that an index addresses. -/
theorem ensures_getByIndex {Q : Milestone → Db → Prop}
    (h : ∀ m, m ∈ db.milestones → m.serviceId = serviceId → m.n.val = n → Q m db) :
    (getByIndex serviceId n).Ensures db Q := by
  simp only [getByIndex, Prog.ensures_bind, Session.ensures_column, Prog.ensures_query,
    Session.ensures_scalarOneOrNone, Prog.ensures_demand]
  intro index hindex
  refine ⟨fun _ m hm ↦ (by cases hm), fun m hm m' hm' ↦ ?_⟩
  obtain rfl := Option.some.inj hm'
  have hmem : m ∈ db.milestones.rows.filter
      fun m ↦ decide (m.serviceId = serviceId ∧ m.n = index) := by
    rw [hm]
    exact List.mem_singleton_self m
  obtain ⟨hmem, hm⟩ := List.mem_filter.1 hmem
  obtain ⟨hservice, hn⟩ := of_decide_eq_true hm
  exact h m hmem hservice (hn ▸ PgInt.val_of_store? (orError_eq_ok_iff.1 hindex))

/-- The log after an update: a first completion is recorded under the client of the service. -/
def LogsCompletion (db : Db) (serviceId : UUID) (m : Milestone) (body : MilestoneUpdate)
    (log : Table ActivityLog) : Prop :=
  if completes m body then
    match db.services.find? serviceId with
    | some s => ∃ a text, ActivityLogService.Records db s.clientId .milestoneCompleted text a ∧
        log = db.activityLog.insert a
    | none => log = db.activityLog
  else log = db.activityLog

theorem ensures_logCompletion {title : String} {Q : Unit → Db → Prop}
    (hsome : ∀ s, db.services.find? serviceId = some s → ∀ a text,
      ActivityLogService.Records db s.clientId .milestoneCompleted text a →
      Q () { db with activityLog := db.activityLog.insert a })
    (hnone : db.services.find? serviceId = none → Q () db) :
    (logCompletion env serviceId title actor).Ensures db Q := by
  rw [logCompletion, Prog.ensures_bind, Prog.ensures_query]
  rcases hs : db.services.find? serviceId with - | s
  · exact Session.ensures_pure.2 (hnone hs)
  · exact ActivityLogService.ensures_appendActivity fun a ha ↦ hsome s hs a _ ha

theorem ensures_update {body : MilestoneUpdate} :
    (update env serviceId n body actor).Ensures db fun m' db' ↦ ∃ m log,
      m.serviceId = serviceId ∧ m.n.val = n ∧
      Session.Flushed env.now (changes body) db m.id m m' ∧
      LogsCompletion db serviceId m body log ∧
      db' = { db with
        milestones := db.milestones.alter m.id (Session.saved env.now m (changes body))
        activityLog := log } := by
  rw [update, Prog.ensures_bind]
  refine ensures_getByIndex fun m hm hservice hn ↦ ?_
  have hfound : (Relation.table db : Table Milestone).find? m.id = some m := Table.find?_of_mem hm
  rw [Prog.ensures_bind, Session.ensures_flush]
  intro hok
  -- Whatever the log is afterwards, the milestone is the flushed one.
  have hrefresh : ∀ log, LogsCompletion db serviceId m body log →
      (Session.refresh m.id : Tx Milestone).Ensures { db with
        milestones := db.milestones.alter m.id (Session.saved env.now m (changes body))
        activityLog := log } fun m' db' ↦ ∃ m log,
      m.serviceId = serviceId ∧ m.n.val = n ∧
      Session.Flushed env.now (changes body) db m.id m m' ∧
      LogsCompletion db serviceId m body log ∧
      db' = { db with
        milestones := db.milestones.alter m.id (Session.saved env.now m (changes body))
        activityLog := log } := by
    intro log hlog
    rw [Session.ensures_refresh]
    intro m' hm'
    obtain ⟨hflushed, -⟩ := Session.Flushed.of_find? hfound hok hm'
    exact ⟨m, log, hservice, hn, hflushed, hlog, rfl⟩
  rcases hc : completes m body with - | -
  · exact hrefresh db.activityLog (by rw [LogsCompletion, hc]; rfl)
  · rw [if_pos rfl, Prog.ensures_bind]
    refine ensures_logCompletion (fun s hs a text ha ↦ ?_) fun hs ↦ ?_
    · refine hrefresh _ ?_
      rw [LogsCompletion, if_pos hc]
      have hs' : db.services.find? serviceId = some s := hs
      rw [hs']
      exact ⟨a, text, ⟨ha.fresh, ha.clientId_eq, ha.kind_eq, ha.body_eq⟩, rfl⟩
    · refine hrefresh _ ?_
      rw [LogsCompletion, if_pos hc]
      have hs' : db.services.find? serviceId = none := hs
      rw [hs']

theorem ensures_delete :
    (delete serviceId n).Ensures db fun _ db' ↦ ∃ m, m ∈ db.milestones ∧
      m.serviceId = serviceId ∧ m.n.val = n ∧
      db' = { db with milestones := db.milestones.erase m.id } := by
  rw [delete, Prog.ensures_bind]
  refine ensures_getByIndex fun m hm hservice hn ↦ ?_
  rw [Session.ensures_delete]
  exact ⟨m, hm, hservice, hn, rfl⟩

end Specs

end ZanovixCrm.MilestoneService
