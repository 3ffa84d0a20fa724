import ZanovixCrm.Services.ClientService

/-!
# Service service

Only a `consultor` is restricted to the services they own. A service is always read together with
its milestones, in the order of their index.

**Left out.** The state of a service is changed by its own endpoint only; the partial update has no
such field. `diagnostic_json` is written by no endpoint. The order of milestones with equal index
does not arise.
-/

namespace ZanovixCrm

/-- A service with its milestones. -/
structure ServiceWithMilestones where
  service : Service
  milestones : List Milestone
deriving DecidableEq

/-- The scoping clause of services. -/
def User.seesService (u : User) (s : Service) : Bool :=
  decide (u.role ≠ .consultor) || decide (s.ownerId = some u.id)

namespace ServiceService

/-- The milestones of a service, by index. -/
def milestonesOf (db : Db) (serviceId : UUID) : List Milestone :=
  selectAsc db.milestones (fun m ↦ decide (m.serviceId = serviceId)) fun m ↦ m.n.val

/-- The milestones that are loaded with each service. -/
def loadMilestones (services : List Service) : Tx (List ServiceWithMilestones) :=
  .query fun db ↦ services.map fun s ↦ ⟨s, milestonesOf db s.id⟩

/-- The milestones that are loaded with a service. -/
def loadMilestones₁ (service : Service) : Tx ServiceWithMilestones :=
  .query fun db ↦ ⟨service, milestonesOf db service.id⟩

/-- The rows of the client's list, before paging. -/
def selectsForClient (clientId : Option UUID) (state type : Option String) (s : Service) : Bool :=
  clientId.all (· = s.clientId) && state.all (· = TextEnum.text s.state) &&
    type.all (· = TextEnum.text s.type)

def listForClient (clientIdFilter : Option UUID) (limit offset : ℤ) (state type : Option String) :
    Tx (List ServiceWithMilestones × ℕ) := do
  Session.bindText state
  Session.bindText type
  let page ← .query fun db ↦ Session.limitOffset limit offset
    (selectDesc db.services (selectsForClient clientIdFilter state type) Service.createdAt)
  let rows ← Session.column page
  let rows ← loadMilestones rows
  let total ← .query fun db ↦ db.services.rows.countP (selectsForClient clientIdFilter state type)
  return (rows, total)

def getForClient (serviceId : UUID) (clientIdFilter : Option UUID) : Tx ServiceWithMilestones := do
  let found ← .query fun db ↦
    (db.services.find? serviceId).filter fun s ↦ clientIdFilter.all (· = s.clientId)
  let service ← .demand found (.serviceNotFound serviceId)
  loadMilestones₁ service

/-- The rows of the list, before paging. -/
def selects (user : User) (f : ServiceFilters) (s : Service) : Bool :=
  user.seesService s && f.clientId.all (· = s.clientId) &&
    f.ownerId.all (fun o ↦ s.ownerId = some o) && f.state.all (· = TextEnum.text s.state) &&
    f.type.all (· = TextEnum.text s.type)

def listServices (user : User) (f : ServiceFilters) : Tx (List ServiceWithMilestones × ℕ) := do
  Session.bindText f.state
  Session.bindText f.type
  let page ← .query fun db ↦ Session.limitOffset f.limit f.offset
    (selectDesc db.services (selects user f) Service.createdAt)
  let rows ← Session.column page
  let rows ← loadMilestones rows
  let total ← .query fun db ↦ db.services.rows.countP (selects user f)
  return (rows, total)

/-- Fetch a service within the scope of the user. -/
def getServiceForWrite (user : User) (serviceId : UUID) : Tx Service := do
  let found ← .query fun db ↦ (db.services.find? serviceId).filter user.seesService
  .demand found (.serviceNotFound serviceId)

def getServiceDetail (user : User) (serviceId : UUID) : Tx ServiceWithMilestones := do
  let service ← getServiceForWrite user serviceId
  loadMilestones₁ service

/-- The new row. -/
def row (env : Env) (body : ServiceCreate) : Except DbError Service := do
  let type ← encodeText ServiceType body.type
  let title : Str 200 ← encode (some body.title)
  let setupPriceCents : Option (PgInt 64) ← encode body.setupPriceCents
  let monthlyCents : Option (PgInt 64) ← encode body.monthlyCents
  return {
    id := env.uuid 0, createdAt := env.now, updatedAt := env.now, clientId := body.clientId
    ownerId := body.ownerId, type, title, state := .scoping, progressPct := none, startedAt := none
    endedAt := none, setupPriceCents, monthlyCents, scoreInt := none, diagnosticJson := none }

/-- `session.refresh(service)`, which loads the milestones again. -/
def refresh (serviceId : UUID) : Tx ServiceWithMilestones := do
  let service : Service ← Session.refresh serviceId
  loadMilestones₁ service

def createService (env : Env) (body : ServiceCreate) (actor : UUID) : Tx ServiceWithMilestones := do
  let found ← .query fun db ↦ db.clients.find? body.clientId
  let client ← .demand found (.clientNotFound body.clientId)
  .require (decide (client.stage ≠ .lost)) (.cannotCreateOnLostClient body.clientId)
  Session.add (row env body)
  ActivityLogService.appendActivity env (env.uuid 1) body.clientId .serviceStarted
    ("Service '" ++ body.title ++ "' started (type=" ++ body.type ++ ")") actor
  refresh (env.uuid 0)

/-- The attributes that a partial update assigns. -/
def changes (body : ServiceUpdate) : List (Change Service) :=
  Service.Col.title.patch body.title ++ Service.Col.ownerId.patch body.ownerId ++
    Service.Col.progressPct.patch body.progressPct ++ Service.Col.startedAt.patch body.startedAt ++
    Service.Col.endedAt.patch body.endedAt ++
    Service.Col.setupPriceCents.patch body.setupPriceCents ++
    Service.Col.monthlyCents.patch body.monthlyCents ++ Service.Col.scoreInt.patch body.scoreInt

def updateService (env : Env) (user : User) (serviceId : UUID) (body : ServiceUpdate) :
    Tx ServiceWithMilestones := do
  let service ← getServiceForWrite user serviceId
  Session.flush env service (changes body)
  refresh serviceId

def changeState (env : Env) (user : User) (serviceId : UUID) (newState : String) :
    Tx ServiceWithMilestones := do
  let service ← getServiceForWrite user serviceId
  .require (ServiceStateMachine.canTransition service.state newState)
    (.invalidTransition (TextEnum.text service.state) newState
      ((ServiceStateMachine.validTransitions service.state).map TextEnum.text))
  Session.flush env service [Service.Col.state.assignText newState]
  ActivityLogService.appendActivity env (env.uuid 0) service.clientId .serviceStateChange
    ("Service '" ++ service.title.val ++ "' state: " ++ TextEnum.text service.state ++ " → " ++
      newState) user.id
  refresh serviceId

/-! ### Specifications -/

section Specs

variable {env : Env} {db : Db} {user : User} {serviceId : UUID}

/-- A new service is in scoping, and has no diagnostic. -/
theorem row_spec {body : ServiceCreate} {s : Service} (h : row env body = .ok s) :
    s.id = env.uuid 0 ∧ s.clientId = body.clientId ∧ s.state = .scoping ∧
      s.diagnosticJson = none := by
  simp only [row, bind_eq_ok_iff, pure_eq_ok_iff] at h
  obtain ⟨type, -, title, -, setup, -, monthly, -, rfl⟩ := h
  exact ⟨rfl, rfl, rfl, rfl⟩

/-- The row `old` with the fields of `new` that the payload sets, and its time stamp. -/
def merge (payload : ServiceUpdate) (new old : Service) : Service :=
  { old with
    updatedAt := new.updatedAt
    title := if payload.title.isSet then new.title else old.title
    ownerId := if payload.ownerId.isSet then new.ownerId else old.ownerId
    progressPct := if payload.progressPct.isSet then new.progressPct else old.progressPct
    startedAt := if payload.startedAt.isSet then new.startedAt else old.startedAt
    endedAt := if payload.endedAt.isSet then new.endedAt else old.endedAt
    setupPriceCents :=
      if payload.setupPriceCents.isSet then new.setupPriceCents else old.setupPriceCents
    monthlyCents := if payload.monthlyCents.isSet then new.monthlyCents else old.monthlyCents
    scoreInt := if payload.scoreInt.isSet then new.scoreInt else old.scoreInt }

/-- **An edit changes the fields that it sets, and no others.** -/
theorem eq_merge {now : Time} {payload : ServiceUpdate} {k : UUID} {s s' : Service}
    (h : Session.Flushed now (changes payload) db k s s') : s' = merge payload s' s := by
  have hmerge : merge payload s' s' = merge payload s' s := by
    refine h.preserves (f := merge payload s') ?_ fun _ _ ↦ rfl
    simp only [changes, Preserves.append, and_assoc]
    refine ⟨.patch ?_, .patch ?_, .patch ?_, .patch ?_, .patch ?_, .patch ?_, .patch ?_, .patch
      ?_⟩ <;>
      intro hset _ _ <;> simp only [merge, hset, if_true] <;> rfl
  rw [← hmerge]
  simp only [merge, ite_self]

theorem saved_state (now : Time) (s : Service) (st : ServiceState) :
    (Session.saved now s [Service.Col.state.assignText (TextEnum.text st)]).fn s =
      if s.state = st then s else { s with state := st, updatedAt := now } :=
  Session.saved_assignText

theorem ensures_getServiceForWrite {Q : Service → Db → Prop} :
    (getServiceForWrite user serviceId).Ensures db Q ↔
      ∀ s, db.services.find? serviceId = some s → user.seesService s = true → Q s db := by
  simp [getServiceForWrite]

theorem ensures_refresh {Q : ServiceWithMilestones → Db → Prop} :
    (refresh serviceId).Ensures db Q ↔
      ∀ s, db.services.find? serviceId = some s → Q ⟨s, milestonesOf db s.id⟩ db := by
  simp [refresh, loadMilestones₁]

theorem ensures_createService {body : ServiceCreate} {actor : UUID} :
    (createService env body actor).Ensures db fun s db' ↦ ∃ c a,
      db.clients.find? body.clientId = some c ∧ c.stage ≠ .lost ∧
      row env body = .ok s.service ∧ db.services.has s.service.id = false ∧
      ActivityLogService.Records db body.clientId .serviceStarted
        ("Service '" ++ body.title ++ "' started (type=" ++ body.type ++ ")") a ∧
      db' = { db with
        services := db.services.insert s.service, activityLog := db.activityLog.insert a } := by
  simp only [createService, Prog.ensures_bind, Prog.ensures_query, Prog.ensures_demand,
    Prog.ensures_require, Session.ensures_add]
  intro c hc hstage s hrow hnew _
  refine ActivityLogService.ensures_appendActivity fun a ha ↦ ?_
  rw [ensures_refresh]
  intro s' hs'
  obtain rfl := Table.eq_of_find?_insert hnew (row_spec hrow).1 hs'
  exact ⟨c, a, hc, of_decide_eq_true hstage, hrow, hnew,
    ⟨ha.fresh, ha.clientId_eq, ha.kind_eq, ha.body_eq⟩, rfl⟩

theorem ensures_updateService {body : ServiceUpdate} :
    (updateService env user serviceId body).Ensures db fun s' db' ↦ ∃ s,
      user.seesService s = true ∧
      Session.Flushed env.now (changes body) db serviceId s s'.service ∧
      db' = { db with
        services := db.services.alter serviceId (Session.saved env.now s (changes body)) } := by
  simp only [updateService, Prog.ensures_bind, ensures_getServiceForWrite, Session.ensures_flush,
    ensures_refresh, table_services, setTable_services]
  intro s hs hsees hok s' hs'
  obtain ⟨hflushed, hkey⟩ := Session.Flushed.of_find? hs hok hs'
  exact ⟨s, hsees, hflushed, by rw [hkey]⟩

theorem ensures_changeState {newState : String} :
    (changeState env user serviceId newState).Ensures db fun s' db' ↦ ∃ s a,
      user.seesService s = true ∧ ServiceStateMachine.canTransition s.state newState = true ∧
      Session.Flushed env.now [Service.Col.state.assignText newState] db serviceId s s'.service ∧
      ActivityLogService.Records db s.clientId .serviceStateChange
        ("Service '" ++ s.title.val ++ "' state: " ++ TextEnum.text s.state ++ " → " ++ newState)
        a ∧
      db' = { db with
        services := db.services.alter serviceId
          (Session.saved env.now s [Service.Col.state.assignText newState])
        activityLog := db.activityLog.insert a } := by
  simp only [changeState, Prog.ensures_bind, ensures_getServiceForWrite, Prog.ensures_require,
    Session.ensures_flush, table_services, setTable_services]
  intro s hs hsees hcan hok
  refine ActivityLogService.ensures_appendActivity fun a ha ↦ ?_
  rw [ensures_refresh]
  intro s' hs'
  obtain ⟨hflushed, hkey⟩ := Session.Flushed.of_find? hs hok hs'
  exact ⟨s, a, hsees, hcan, hflushed, ⟨ha.fresh, ha.clientId_eq, ha.kind_eq, ha.body_eq⟩,
    by rw [← hkey]⟩

end Specs

end ServiceService

end ZanovixCrm
