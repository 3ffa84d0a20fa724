import ZanovixCrm.Database.Attributes
import ZanovixCrm.Domain.StatusMachines

/-!
# Lead service

The service layer scopes what a user sees by role: a `consultor` or `comercial` sees the rows they
own, and **every other role is unrestricted**, which is how the source writes it.

What a user may not see is not found, whether it is read or edited. After an edit the source reads
the lead again, which is `Session.refresh` here, with the failure that it may end in.
-/

namespace ZanovixCrm

/-- `user.role in ("consultor", "comercial")`. -/
def User.ownerScoped (u : User) : Bool := decide (u.role = .consultor ∨ u.role = .comercial)

/-- The scoping clause `owner_id == user.id`, where it applies. -/
def User.sees (u : User) (ownerId : Option UUID) : Bool :=
  !u.ownerScoped || decide (ownerId = some u.id)

namespace LeadService

/-- The new row. `source_url` is dropped if it is empty. -/
def row (env : Env) (payload : LeadCreate) (rawPayload : RawPayload) : Except DbError Lead := do
  let name : Str 200 ← encode (some payload.name)
  let email : Str 320 ← encode (some payload.email)
  let phone : Option (Str 50) ← encode payload.phone
  let company : Option (Str 200) ← encode payload.company
  let sourceUrl : Option (Str 2048) ← encode (payload.sourceUrl.filter (· ≠ ""))
  let notes : Option Text ← encode payload.notes
  let role : Option (Str 100) ← encode payload.role
  return {
    id := env.uuid 0, createdAt := env.now, updatedAt := env.now
    name, email, phone, company, vertical := payload.vertical, channel := payload.channel
    status := .new, sourceUrl, notes, ownerId := none, rawPayload, convertedClientId := none, role }

def create (env : Env) (payload : LeadCreate) (rawPayload : RawPayload) : Tx Lead := do
  Session.add (row env payload rawPayload)
  Session.refresh (env.uuid 0)

/-- The rows of the list, before paging. -/
def selects (user : User) (f : LeadFilters) (l : Lead) : Bool :=
  user.sees l.ownerId && f.vertical.all (· = l.vertical) && f.channel.all (· = l.channel) &&
    f.status.all (· = l.status)

def listForUser (user : User) (f : LeadFilters) : Tx (List Lead × ℕ) := do
  let page ← .query fun db ↦
    Session.limitOffset f.limit f.offset (selectDesc db.leads (selects user f) Lead.createdAt)
  let rows ← Session.column page
  let total ← .query fun db ↦ db.leads.rows.countP (selects user f)
  return (rows, total)

def getForUser (user : User) (leadId : UUID) : Tx Lead := do
  let lead ← .query fun db ↦ (db.leads.find? leadId).filter fun l ↦ user.sees l.ownerId
  .demand lead (.leadNotFound leadId)

def updateStatus (env : Env) (user : User) (leadId : UUID) (newStatus : LeadStatus) : Tx Lead := do
  let lead ← getForUser user leadId
  .require (LeadStatusMachine.canTransition lead.status (TextEnum.text newStatus))
    (.invalidTransition (TextEnum.text lead.status) (TextEnum.text newStatus)
      ((LeadStatusMachine.validTransitions lead.status).map TextEnum.text))
  Session.flush env lead [Lead.Col.status.assign (some newStatus)]
  Session.refresh leadId

/-- The attributes that a partial update assigns. -/
def changes (payload : LeadUpdate) : List (Change Lead) :=
  Lead.Col.name.patch payload.name ++ Lead.Col.phone.patch payload.phone ++
    Lead.Col.company.patch payload.company ++ Lead.Col.notes.patch payload.notes ++
    Lead.Col.role.patch payload.role

def update (env : Env) (user : User) (leadId : UUID) (payload : LeadUpdate) : Tx Lead := do
  let lead ← getForUser user leadId
  Session.flush env lead (changes payload)
  Session.refresh leadId

def assignOwner (env : Env) (leadId ownerId : UUID) : Tx Lead := do
  let found ← .query fun db ↦ db.leads.find? leadId
  let lead ← .demand found (.leadNotFound leadId)
  Session.flush env lead [Lead.Col.ownerId.assign (some ownerId)]
  Session.refresh leadId

/-! ### Specifications -/

section Specs

variable {env : Env} {db : Db} {user : User} {leadId : UUID}

/-- A new lead is new and not linked to a client. -/
theorem row_spec {payload : LeadCreate} {rawPayload : RawPayload} {l : Lead}
    (h : row env payload rawPayload = .ok l) :
    l.id = env.uuid 0 ∧ l.status = .new ∧ l.convertedClientId = none := by
  simp only [row, bind_eq_ok_iff, pure_eq_ok_iff] at h
  obtain ⟨name, -, email, -, phone, -, company, -, sourceUrl, -, notes, -, role, -, rfl⟩ := h
  exact ⟨rfl, rfl, rfl⟩

theorem ensures_create {payload : LeadCreate} {rawPayload : RawPayload} :
    (create env payload rawPayload).Ensures db fun l db' ↦
      row env payload rawPayload = .ok l ∧ db.leads.has l.id = false ∧
        db' = { db with leads := db.leads.insert l } := by
  simp only [create, Prog.ensures_bind, Session.ensures_add, Session.ensures_refresh, table_leads,
    setTable_leads, key_lead]
  intro l hrow hnew _ l' hl'
  obtain rfl := Table.eq_of_find?_insert hnew (row_spec hrow).1 hl'
  exact ⟨hrow, hnew, rfl⟩

/-- The row `old` with the fields of `new` that the payload sets, and its time stamp. -/
def merge (payload : LeadUpdate) (new old : Lead) : Lead :=
  { old with
    updatedAt := new.updatedAt
    name := if payload.name.isSet then new.name else old.name
    phone := if payload.phone.isSet then new.phone else old.phone
    company := if payload.company.isSet then new.company else old.company
    notes := if payload.notes.isSet then new.notes else old.notes
    role := if payload.role.isSet then new.role else old.role }

/-- **An edit changes the fields that it sets, and no others.** -/
theorem eq_merge {now : Time} {payload : LeadUpdate} {k : UUID} {l l' : Lead}
    (h : Session.Flushed now (changes payload) db k l l') : l' = merge payload l' l := by
  have hmerge : merge payload l' l' = merge payload l' l := by
    refine h.preserves (f := merge payload l') ?_ fun _ _ ↦ rfl
    simp only [changes, Preserves.append, and_assoc]
    refine ⟨.patch ?_, .patch ?_, .patch ?_, .patch ?_, .patch ?_⟩ <;>
      intro hset _ _ <;> simp only [merge, hset, if_true] <;> rfl
  rw [← hmerge]
  simp only [merge, ite_self]

theorem saved_status (now : Time) (l : Lead) (st : LeadStatus) :
    (Session.saved now l [Lead.Col.status.assign (some st)]).fn l =
      if l.status = st then l else { l with status := st, updatedAt := now } :=
  Session.saved_assign rfl rfl

theorem saved_ownerId (now : Time) (l : Lead) (ownerId : UUID) :
    (Session.saved now l [Lead.Col.ownerId.assign (some ownerId)]).fn l =
      if l.ownerId = some ownerId then l
      else { l with ownerId := some ownerId, updatedAt := now } :=
  Session.saved_assign rfl rfl

theorem ensures_getForUser {Q : Lead → Db → Prop} :
    (getForUser user leadId).Ensures db Q ↔
      ∀ l, db.leads.find? leadId = some l → user.sees l.ownerId = true → Q l db := by
  simp [getForUser]

theorem ensures_updateStatus {newStatus : LeadStatus} :
    (updateStatus env user leadId newStatus).Ensures db fun l' db' ↦ ∃ l,
      user.sees l.ownerId = true ∧ LeadStatusMachine.Edge l.status newStatus ∧
      Session.Flushed env.now [Lead.Col.status.assign (some newStatus)] db leadId l l' ∧
      db' = { db with
        leads := db.leads.alter leadId
          (Session.saved env.now l [Lead.Col.status.assign (some newStatus)]) } := by
  simp only [updateStatus, Prog.ensures_bind, ensures_getForUser, Prog.ensures_require,
    Session.ensures_flush, Session.ensures_refresh, table_leads, setTable_leads]
  intro l hl hsees hcan hok l' hl'
  obtain ⟨hflushed, hkey⟩ := Session.Flushed.of_find? hl hok hl'
  exact ⟨l, hsees, permits_text_iff.1 hcan, hflushed, by rw [hkey]⟩

theorem ensures_update {payload : LeadUpdate} :
    (update env user leadId payload).Ensures db fun l' db' ↦ ∃ l,
      user.sees l.ownerId = true ∧ Session.Flushed env.now (changes payload) db leadId l l' ∧
      db' = { db with
        leads := db.leads.alter leadId
          (Session.saved env.now l (changes payload)) } := by
  simp only [update, Prog.ensures_bind, ensures_getForUser, Session.ensures_flush,
    Session.ensures_refresh, table_leads, setTable_leads]
  intro l hl hsees hok l' hl'
  obtain ⟨hflushed, hkey⟩ := Session.Flushed.of_find? hl hok hl'
  exact ⟨l, hsees, hflushed, by rw [hkey]⟩

theorem ensures_assignOwner {ownerId : UUID} :
    (assignOwner env leadId ownerId).Ensures db fun l' db' ↦ ∃ l,
      Session.Flushed env.now [Lead.Col.ownerId.assign (some ownerId)] db leadId l l' ∧
      db' = { db with
        leads := db.leads.alter leadId
          (Session.saved env.now l [Lead.Col.ownerId.assign (some ownerId)]) } := by
  simp only [assignOwner, Prog.ensures_bind, Prog.ensures_query, Prog.ensures_demand,
    Session.ensures_flush, Session.ensures_refresh, table_leads, setTable_leads]
  intro l hl hok l' hl'
  obtain ⟨hflushed, hkey⟩ := Session.Flushed.of_find? hl hok hl'
  exact ⟨l, hflushed, by rw [hkey]⟩

end Specs

end LeadService

end ZanovixCrm
