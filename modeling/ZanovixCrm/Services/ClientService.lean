import ZanovixCrm.Services.ActivityLogService
import ZanovixCrm.Services.LeadService

/-!
# Client service

Clients, their stages, and the conversion of a lead into a client: six statements in one
transaction, the last of which marks the lead that the first one read.

**The scope of a user** restricts reading and editing, and not conversion, which no role but `admin`
and `comercial` reaches. The relations that the source loads for its answers are queries here. The
log entries are appended in the transaction that they record, so there is none for a change that
does not commit.
-/

namespace ZanovixCrm.ClientService

/-- The new row, from the attributes of a `Client(…)`. -/
def row (env : Env) (name : String) (sector size region : Option String) (ownerId : Option UUID)
    (mrrCents : Option ℤ) (stage : String) : Except DbError Client := do
  let name : Str 200 ← encode (some name)
  let sector : Option (Str 100) ← encode sector
  let size : Option (Str 50) ← encode size
  let region : Option (Str 100) ← encode region
  let mrrCents : Option (PgInt 64) ← encode mrrCents
  let stage ← encodeText ClientStage stage
  return {
    id := env.uuid 0, createdAt := env.now, updatedAt := env.now, name, sector, size, region
    ownerId, stage, enteredAt := env.now, mrrCents, lifetimeValueCents := none }

/-- The rows of the list, before paging; `q` is part of an `ILIKE` pattern. -/
def selects (p : Platform) (user : User) (f : ClientFilters) (c : Client) : Bool :=
  user.sees c.ownerId && f.stage.all (· = TextEnum.text c.stage) &&
    f.ownerId.all (fun o ↦ c.ownerId = some o) &&
    f.sector.all (fun s ↦ c.sector.map Varchar.val = some s) &&
    f.q.all fun q ↦ Session.like (p.ilower ("%" ++ q ++ "%")).toList (p.ilower c.name.val).toList

def listClients (p : Platform) (user : User) (f : ClientFilters) : Tx (List Client × ℕ) := do
  Session.bindText f.stage
  Session.bindText f.sector
  Session.bindText f.q
  let page ← .query fun db ↦
    Session.limitOffset f.limit f.offset (selectDesc db.clients (selects p user f) Client.createdAt)
  let rows ← Session.column page
  let total ← .query fun db ↦ db.clients.rows.countP (selects p user f)
  return (rows, total)

/-- What `get_client_detail` loads, with the relationships that its response uses. -/
structure Detail where
  client : Client
  contacts : List Contact
  services : List Service
  billingProfiles : List BillingProfile
  recentActivity : List ActivityLog
deriving DecidableEq

/-- Fetch a client within the scope of the user. -/
def getForUser (user : User) (clientId : UUID) : Tx Client := do
  let client ← .query fun db ↦ (db.clients.find? clientId).filter fun c ↦ user.sees c.ownerId
  .demand client (.clientNotFound clientId)

/-- The relationships are loaded without an order; they are answered by key. -/
def getClientDetail (user : User) (clientId : UUID) : Tx Detail := do
  let client ← getForUser user clientId
  let contacts ← .query fun db ↦
    selectAsc db.contacts (fun c ↦ decide (c.clientId = clientId)) Contact.id
  let services ← .query fun db ↦
    selectAsc db.services (fun s ↦ decide (s.clientId = clientId)) Service.id
  let billingProfiles ← .query fun db ↦
    selectAsc db.billingProfiles (fun b ↦ decide (b.clientId = clientId)) BillingProfile.id
  let recentActivity ← .query fun db ↦
    (selectDesc db.activityLog (fun a ↦ decide (a.clientId = clientId)) ActivityLog.createdAt).take
      20
  return { client, contacts, services, billingProfiles, recentActivity }

def createClient (env : Env) (body : ClientCreate) (actor : UUID) : Tx Client := do
  Session.add (row env body.name body.sector body.size body.region body.ownerId body.mrrCents
    body.stage)
  ActivityLogService.appendActivity env (env.uuid 1) (env.uuid 0) .stageChange
    ("Client created at stage: " ++ body.stage) actor
  Session.refresh (env.uuid 0)

/-- The attributes that a partial update assigns. -/
def changes (body : ClientUpdate) : List (Change Client) :=
  Client.Col.name.patch body.name ++ Client.Col.sector.patch body.sector ++
    Client.Col.size.patch body.size ++ Client.Col.region.patch body.region ++
    Client.Col.ownerId.patch body.ownerId ++ Client.Col.mrrCents.patch body.mrrCents ++
    Client.Col.lifetimeValueCents.patch body.lifetimeValueCents

def updateClient (env : Env) (user : User) (clientId : UUID) (body : ClientUpdate) : Tx Client := do
  let client ← getForUser user clientId
  Session.flush env client (changes body)
  Session.refresh clientId

/-- The text that records a change of stage. -/
def stageChangeBody (old new : String) : String := "Stage: " ++ old ++ " → " ++ new

def changeStage (env : Env) (user : User) (clientId : UUID) (newStage : String) (force : Bool) :
    Tx Client := do
  let client ← getForUser user clientId
  .require (ClientStageMachine.canTransition client.stage newStage force)
    (.invalidTransition (TextEnum.text client.stage) newStage
      ((ClientStageMachine.validTransitions client.stage).map TextEnum.text))
  Session.flush env client [Client.Col.stage.assignText newStage]
  ActivityLogService.appendActivity env (env.uuid 0) clientId .stageChange
    (stageChangeBody (TextEnum.text client.stage) newStage) user.id
  Session.refresh clientId

/-! ### Conversion -/

/-- Python's `or`: the first text that is present and not empty, else the last. -/
def orElse (a : Option String) (b : String) : String := (a.filter (· ≠ "")).getD b

/-- The name of the new client: `body.name or lead.company or lead.name`. -/
def clientName (body : ConvertLeadBody) (lead : Lead) : String :=
  orElse body.name (orElse (lead.company.map Varchar.val) lead.name.val)

/-- The contact that a conversion creates. -/
def contactRow (env : Env) (lead : Lead) : Contact where
  id := env.uuid 1
  createdAt := env.now
  updatedAt := env.now
  clientId := env.uuid 0
  name := lead.name
  role := lead.role
  email := some lead.email
  phone := lead.phone
  isPrimary := true

/-- A `BillingProfile(…)` from a payload. -/
def billingProfileRow (env : Env) (id clientId : UUID) (b : BillingProfileCreate)
    (isDefault : Bool) : Except DbError BillingProfile := do
  let legalName : Str 255 ← encode (some b.legalName)
  let taxId : Str 32 ← encode (some b.taxId)
  let addressLine1 : Str 255 ← encode (some b.addressLine1)
  let addressLine2 : Option (Str 255) ← encode b.addressLine2
  let city : Str 120 ← encode (some b.city)
  let province : Str 120 ← encode (some b.province)
  let postalCode : Str 20 ← encode (some b.postalCode)
  let country : CountryCode ← encode (some b.country)
  let billingEmail : Option (Str 255) ← encode b.billingEmail
  return {
    id, createdAt := env.now, updatedAt := env.now, clientId, legalName, taxId
    taxIdType := b.taxIdType, taxRegime := b.taxRegime, addressLine1, addressLine2, city, province
    postalCode, country, billingEmail, isDefault }

/-- The billing profile of a conversion, if the body has one. -/
def addBillingProfile (env : Env) : Option BillingProfileCreate → Tx Unit
  | some b => Session.add (billingProfileRow env (env.uuid 2) (env.uuid 0) b true)
  | none => pure ()

/-- The attributes that a conversion assigns on the lead. -/
def conversionChanges (env : Env) : List (Change Lead) :=
  [Lead.Col.status.assign (some .converted), Lead.Col.convertedClientId.assign (some (env.uuid 0))]

def convertFromLead (env : Env) (leadId : UUID) (body : ConvertLeadBody) (actor : UUID) :
    Tx Client := do
  let found ← .query fun db ↦ db.leads.find? leadId
  let lead ← .demand found (.leadNotFound leadId)
  -- A converted lead has status `converted`, so this comes before the test of the status.
  match lead.convertedClientId with
  | some clientId => .raise (.leadAlreadyConverted leadId clientId)
  | none => do
    .require (decide (lead.status = .qualified))
      (.leadNotQualified leadId (TextEnum.text lead.status))
    Session.add (row env (clientName body lead) body.sector body.size body.region body.ownerId
      body.mrrCents (body.stage.getD "lead"))
    Session.add (.ok (contactRow env lead))
    addBillingProfile env body.billingProfile
    ActivityLogService.appendActivity env (env.uuid 3) (env.uuid 0) .leadConverted
      ("Lead " ++ lead.name.val ++ " converted to client") actor
    Session.flush env lead (conversionChanges env)
    Session.refresh (env.uuid 0)

/-! ### Specifications -/

section Specs

variable {env : Env} {db : Db} {user : User} {clientId : UUID}

/-- A new client has the stage that was asked for. -/
theorem row_spec {name stage : String} {sector size region : Option String} {ownerId : Option UUID}
    {mrrCents : Option ℤ} {c : Client}
    (h : row env name sector size region ownerId mrrCents stage = .ok c) :
    c.id = env.uuid 0 ∧ TextEnum.text c.stage = stage := by
  simp only [row, bind_eq_ok_iff, pure_eq_ok_iff] at h
  obtain ⟨name, -, sector, -, size, -, region, -, mrrCents, -, stage, hstage, rfl⟩ := h
  exact ⟨rfl, encodeText_eq_ok_iff.1 hstage⟩

/-- A new client has the owner that was asked for. -/
theorem ownerId_of_row {name stage : String} {sector size region : Option String}
    {ownerId : Option UUID} {mrrCents : Option ℤ} {c : Client}
    (h : row env name sector size region ownerId mrrCents stage = .ok c) : c.ownerId = ownerId := by
  simp only [row, bind_eq_ok_iff, pure_eq_ok_iff] at h
  obtain ⟨name, -, sector, -, size, -, region, -, mrrCents, -, stage, -, rfl⟩ := h
  rfl

/-- The row `old` with the fields of `new` that the payload sets, and its time stamp. -/
def merge (payload : ClientUpdate) (new old : Client) : Client :=
  { old with
    updatedAt := new.updatedAt
    name := if payload.name.isSet then new.name else old.name
    sector := if payload.sector.isSet then new.sector else old.sector
    size := if payload.size.isSet then new.size else old.size
    region := if payload.region.isSet then new.region else old.region
    ownerId := if payload.ownerId.isSet then new.ownerId else old.ownerId
    mrrCents := if payload.mrrCents.isSet then new.mrrCents else old.mrrCents
    lifetimeValueCents :=
      if payload.lifetimeValueCents.isSet then new.lifetimeValueCents
      else old.lifetimeValueCents }

/-- **An edit changes the fields that it sets, and no others.** -/
theorem eq_merge {now : Time} {payload : ClientUpdate} {k : UUID} {c c' : Client}
    (h : Session.Flushed now (changes payload) db k c c') : c' = merge payload c' c := by
  have hmerge : merge payload c' c' = merge payload c' c := by
    refine h.preserves (f := merge payload c') ?_ fun _ _ ↦ rfl
    simp only [changes, Preserves.append, and_assoc]
    refine ⟨.patch ?_, .patch ?_, .patch ?_, .patch ?_, .patch ?_, .patch ?_, .patch ?_⟩ <;>
      intro hset _ _ <;> simp only [merge, hset, if_true] <;> rfl
  rw [← hmerge]
  simp only [merge, ite_self]

theorem saved_stage (now : Time) (c : Client) (st : ClientStage) :
    (Session.saved now c [Client.Col.stage.assignText (TextEnum.text st)]).fn c =
      if c.stage = st then c else { c with stage := st, updatedAt := now } :=
  Session.saved_assignText

theorem ensures_getForUser {Q : Client → Db → Prop} :
    (getForUser user clientId).Ensures db Q ↔
      ∀ c, db.clients.find? clientId = some c → user.sees c.ownerId = true → Q c db := by
  simp [getForUser]

theorem ensures_createClient {body : ClientCreate} {actor : UUID} :
    (createClient env body actor).Ensures db fun c db' ↦ ∃ a,
      row env body.name body.sector body.size body.region body.ownerId body.mrrCents body.stage =
        .ok c ∧
      db.clients.has c.id = false ∧
      ActivityLogService.Records db c.id .stageChange
        ("Client created at stage: " ++ body.stage) a ∧
      db' = { db with
        clients := db.clients.insert c, activityLog := db.activityLog.insert a } := by
  rw [createClient, Prog.ensures_bind, Session.ensures_add]
  intro c hrow hnew _
  rw [Prog.ensures_bind]
  refine ActivityLogService.ensures_appendActivity fun a ha ↦ ?_
  rw [Session.ensures_refresh]
  intro c' hc'
  obtain rfl := Table.eq_of_find?_insert hnew (row_spec hrow).1 hc'
  rw [← (row_spec hrow).1] at ha
  exact ⟨a, hrow, hnew, ⟨ha.fresh, ha.clientId_eq, ha.kind_eq, ha.body_eq⟩, rfl⟩

theorem ensures_updateClient {body : ClientUpdate} :
    (updateClient env user clientId body).Ensures db fun c' db' ↦ ∃ c,
      user.sees c.ownerId = true ∧ Session.Flushed env.now (changes body) db clientId c c' ∧
      db' = { db with
        clients := db.clients.alter clientId (Session.saved env.now c (changes body)) } := by
  simp only [updateClient, Prog.ensures_bind, ensures_getForUser, Session.ensures_flush,
    Session.ensures_refresh, table_clients, setTable_clients]
  intro c hc hsees hok c' hc'
  obtain ⟨hflushed, hkey⟩ := Session.Flushed.of_find? hc hok hc'
  exact ⟨c, hsees, hflushed, by rw [hkey]⟩

theorem ensures_changeStage {newStage : String} {force : Bool} :
    (changeStage env user clientId newStage force).Ensures db fun c' db' ↦ ∃ c a,
      user.sees c.ownerId = true ∧
      ClientStageMachine.canTransition c.stage newStage force = true ∧
      Session.Flushed env.now [Client.Col.stage.assignText newStage] db clientId c c' ∧
      ActivityLogService.Records db clientId .stageChange
        (stageChangeBody (TextEnum.text c.stage) newStage) a ∧
      db' = { db with
        clients := db.clients.alter clientId
          (Session.saved env.now c [Client.Col.stage.assignText newStage])
        activityLog := db.activityLog.insert a } := by
  simp only [changeStage, Prog.ensures_bind, ensures_getForUser, Prog.ensures_require,
    Session.ensures_flush, table_clients, setTable_clients]
  intro c hc hsees hcan hok
  refine ActivityLogService.ensures_appendActivity fun a ha ↦ ?_
  rw [Session.ensures_refresh]
  intro c' hc'
  obtain ⟨hflushed, hkey⟩ := Session.Flushed.of_find? hc hok hc'
  exact ⟨c, a, hsees, hcan, hflushed, ⟨ha.fresh, ha.clientId_eq, ha.kind_eq, ha.body_eq⟩,
    by rw [← hkey]⟩

/-- A new billing profile belongs to the client it was created for. -/
theorem billingProfileRow_spec {id : UUID} {payload : BillingProfileCreate} {isDefault : Bool}
    {b : BillingProfile} (h : billingProfileRow env id clientId payload isDefault = .ok b) :
    b.id = id ∧ b.clientId = clientId ∧ b.isDefault = isDefault := by
  simp only [billingProfileRow, bind_eq_ok_iff, pure_eq_ok_iff] at h
  obtain ⟨legalName, -, taxId, -, line₁, -, line₂, -, city, -, province, -, postal, -, country, -,
    email, -, rfl⟩ := h
  exact ⟨rfl, rfl, rfl⟩

/-- The `UPDATE` of the lead in a conversion. -/
def conversionAssign (env : Env) (now : Time) : Assign Lead :=
  .seq ([Lead.Col.status.put .converted, Lead.Col.convertedClientId.put (some (env.uuid 0))] ++
    [touch now])

/-- Both attributes have changed, so both are in the `UPDATE`. -/
theorem updateOf_conversion (env : Env) (now : Time) {l : Lead} (hstatus : l.status = .qualified)
    (hunlinked : l.convertedClientId = none) :
    Session.updateOf now l (conversionChanges env) = .ok (conversionAssign env now) ∧
      (Session.dirty l (conversionChanges env)).isEmpty = false := by
  have hdirty : Session.dirty l (conversionChanges env) = conversionChanges env := by
    simp [Session.dirty, conversionChanges, Column.assign, Lead.Col.status,
      Lead.Col.convertedClientId, decode, Encoding.load, hstatus, hunlinked]
  rw [Session.updateOf, hdirty]
  exact ⟨rfl, rfl⟩

/-- The lead after a conversion. -/
theorem saved_conversion (env : Env) (now : Time) {l : Lead} (hstatus : l.status = .qualified)
    (hunlinked : l.convertedClientId = none) :
    (Session.saved now l (conversionChanges env)).fn l =
      { l with
        status := .converted, convertedClientId := some (env.uuid 0), updatedAt := now } := by
  obtain ⟨hassign, hdirty⟩ := updateOf_conversion env now hstatus hunlinked
  rw [Session.saved_of_updateOf (by rw [hdirty]; exact Bool.false_ne_true) hassign]
  rfl

/-- The billing profiles after the billing step of a conversion. -/
def AddsBillingProfile (env : Env) (t : Table BillingProfile) :
    Option BillingProfileCreate → Table BillingProfile → Prop
  | some b, t' => ∃ r, billingProfileRow env (env.uuid 2) (env.uuid 0) b true = .ok r ∧
      t.has r.id = false ∧ t' = t.insert r
  | none, t' => t' = t

theorem ensures_addBillingProfile {b : Option BillingProfileCreate} {Q : Unit → Db → Prop}
    (h : ∀ t, AddsBillingProfile env db.billingProfiles b t →
      Q () { db with billingProfiles := t }) :
    (addBillingProfile env b).Ensures db Q := by
  rcases b with - | b
  · exact Session.ensures_pure.2 (h db.billingProfiles rfl)
  · rw [addBillingProfile, Session.ensures_add]
    exact fun r hrow hnew _ ↦ h _ ⟨r, hrow, hnew, rfl⟩

theorem ensures_convertFromLead {leadId : UUID} {body : ConvertLeadBody} {actor : UUID} :
    (convertFromLead env leadId body actor).Ensures db fun c db' ↦ ∃ l a t,
      db.leads.find? leadId = some l ∧ l.convertedClientId = none ∧ l.status = .qualified ∧
      row env (clientName body l) body.sector body.size body.region body.ownerId body.mrrCents
        (body.stage.getD "lead") = .ok c ∧
      db.clients.has c.id = false ∧ db.contacts.has (env.uuid 1) = false ∧
      AddsBillingProfile env db.billingProfiles body.billingProfile t ∧
      ActivityLogService.Records db c.id .leadConverted
        ("Lead " ++ l.name.val ++ " converted to client") a ∧
      Session.Flushes env.now l (conversionChanges env) ∧
      db' = { db with
        leads := db.leads.alter leadId (Session.saved env.now l (conversionChanges env))
        clients := db.clients.insert c
        contacts := db.contacts.insert (contactRow env l)
        billingProfiles := t
        activityLog := db.activityLog.insert a } := by
  rw [convertFromLead, Prog.ensures_bind, Prog.ensures_query, Prog.ensures_bind,
    Prog.ensures_demand]
  intro l hl
  rcases hclient : l.convertedClientId with - | clientId
  · simp only [Prog.ensures_bind, Prog.ensures_require, Session.ensures_add, decide_eq_true_eq]
    intro hstatus c hrow hnew _ r hr hcontact _
    obtain rfl := Except.ok.inj hr
    refine ensures_addBillingProfile fun t ht ↦ ?_
    refine ActivityLogService.ensures_appendActivity fun a ha ↦ ?_
    simp only [Session.ensures_flush, Session.ensures_refresh]
    intro hok c' hc'
    obtain rfl := Table.eq_of_find?_insert hnew (row_spec hrow).1 hc'
    rw [← (row_spec hrow).1] at ha
    have hkey : key l = leadId := Table.key_of_find? hl
    exact ⟨l, a, t, hl, hclient, hstatus, hrow, hnew, hcontact, ht,
      ⟨ha.fresh, ha.clientId_eq, ha.kind_eq, ha.body_eq⟩, hok.flushes, by rw [← hkey]; rfl⟩
  · exact Prog.ensures_raise

end Specs

end ZanovixCrm.ClientService
