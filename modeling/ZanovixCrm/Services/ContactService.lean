import ZanovixCrm.Services.ClientService

/-!
# Contact service

Contacts are ordered by name, in the collation of the database.

**The collation** is a parameter: the order is that of `Platform.collate`, with ties in the order of
the table. Contacts have no owner; who may see one is decided by the route that names the client.
-/

namespace ZanovixCrm.ContactService

def getClient (clientId : UUID) : Tx Client := do
  let found ← .query fun db ↦ db.clients.find? clientId
  .demand found (.clientNotFound clientId)

def listContacts (p : Platform) (clientId : UUID) : Tx (List Contact) :=
  .query fun db ↦
    selectAsc db.contacts (fun c ↦ decide (c.clientId = clientId)) fun c ↦ p.collate c.name.val

def getContact (clientId contactId : UUID) : Tx Contact := do
  let found ← .query fun db ↦
    (db.contacts.find? contactId).filter fun c ↦ decide (c.clientId = clientId)
  .demand found (.contactNotFound contactId)

/-- The new row. -/
def row (env : Env) (clientId : UUID) (body : ContactCreate) : Except DbError Contact := do
  let name : Str 200 ← encode (some body.name)
  let role : Option (Str 100) ← encode body.role
  let email : Option (Str 320) ← encode body.email
  let phone : Option (Str 50) ← encode body.phone
  return {
    id := env.uuid 0, createdAt := env.now, updatedAt := env.now, clientId, name, role, email, phone
    isPrimary := body.isPrimary }

def createContact (env : Env) (clientId : UUID) (body : ContactCreate) (actor : UUID) :
    Tx Contact := do
  let _ ← getClient clientId
  Session.add (row env clientId body)
  ActivityLogService.appendActivity env (env.uuid 1) clientId .contactAdded
    ("Contact '" ++ body.name ++ "' added") actor
  Session.refresh (env.uuid 0)

/-- The attributes that a partial update assigns. -/
def changes (body : ContactUpdate) : List (Change Contact) :=
  Contact.Col.name.patch body.name ++ Contact.Col.role.patch body.role ++
    Contact.Col.email.patch body.email ++ Contact.Col.phone.patch body.phone ++
    Contact.Col.isPrimary.patch body.isPrimary

def updateContact (env : Env) (clientId contactId : UUID) (body : ContactUpdate) (actor : UUID) :
    Tx Contact := do
  let contact ← getContact clientId contactId
  Session.flush env contact (changes body)
  ActivityLogService.appendActivity env (env.uuid 0) clientId .contactUpdated
    ("Contact '" ++ (body.name.onto (some contact.name.val)).getD "" ++ "' updated") actor
  Session.refresh contactId

def deleteContact (clientId contactId : UUID) : Tx Unit := do
  let contact ← getContact clientId contactId
  Session.delete .contacts contact.id

/-! ### Specifications -/

section Specs

variable {env : Env} {db : Db} {clientId contactId actor : UUID}

theorem row_spec {body : ContactCreate} {c : Contact} (h : row env clientId body = .ok c) :
    c.id = env.uuid 0 ∧ c.clientId = clientId := by
  simp only [row, bind_eq_ok_iff, pure_eq_ok_iff] at h
  obtain ⟨name, -, role, -, email, -, phone, -, rfl⟩ := h
  exact ⟨rfl, rfl⟩

/-- The row `old` with the fields of `new` that the payload sets, and its time stamp. -/
def merge (payload : ContactUpdate) (new old : Contact) : Contact :=
  { old with
    updatedAt := new.updatedAt
    name := if payload.name.isSet then new.name else old.name
    role := if payload.role.isSet then new.role else old.role
    email := if payload.email.isSet then new.email else old.email
    phone := if payload.phone.isSet then new.phone else old.phone
    isPrimary := if payload.isPrimary.isSet then new.isPrimary else old.isPrimary }

/-- **An edit changes the fields that it sets, and no others.** -/
theorem eq_merge {now : Time} {payload : ContactUpdate} {k : UUID} {c c' : Contact}
    (h : Session.Flushed now (changes payload) db k c c') : c' = merge payload c' c := by
  have hmerge : merge payload c' c' = merge payload c' c := by
    refine h.preserves (f := merge payload c') ?_ fun _ _ ↦ rfl
    simp only [changes, Preserves.append, and_assoc]
    refine ⟨.patch ?_, .patch ?_, .patch ?_, .patch ?_, .patch ?_⟩ <;>
      intro hset _ _ <;> simp only [merge, hset, if_true] <;> rfl
  rw [← hmerge]
  simp only [merge, ite_self]

theorem ensures_getContact {Q : Contact → Db → Prop} :
    (getContact clientId contactId).Ensures db Q ↔
      ∀ c, db.contacts.find? contactId = some c → c.clientId = clientId → Q c db := by
  simp [getContact]

theorem ensures_createContact {body : ContactCreate} :
    (createContact env clientId body actor).Ensures db fun c db' ↦ ∃ a,
      row env clientId body = .ok c ∧ db.contacts.has c.id = false ∧
      ActivityLogService.Records db clientId .contactAdded ("Contact '" ++ body.name ++ "' added")
        a ∧
      db' = { db with
        contacts := db.contacts.insert c, activityLog := db.activityLog.insert a } := by
  simp only [createContact, getClient, Prog.ensures_bind, Prog.ensures_query, Prog.ensures_demand,
    Session.ensures_add]
  intro _ _ c hrow hnew _
  refine ActivityLogService.ensures_appendActivity fun a ha ↦ ?_
  rw [Session.ensures_refresh]
  intro c' hc'
  obtain rfl := Table.eq_of_find?_insert hnew (row_spec hrow).1 hc'
  exact ⟨a, hrow, hnew, ⟨ha.fresh, ha.clientId_eq, ha.kind_eq, ha.body_eq⟩, rfl⟩

theorem ensures_updateContact {body : ContactUpdate} :
    (updateContact env clientId contactId body actor).Ensures db fun c' db' ↦ ∃ c a,
      c.clientId = clientId ∧ Session.Flushed env.now (changes body) db contactId c c' ∧
      ActivityLogService.Records db clientId .contactUpdated
        ("Contact '" ++ (body.name.onto (some c.name.val)).getD "" ++ "' updated") a ∧
      db' = { db with
        contacts := db.contacts.alter contactId (Session.saved env.now c (changes body))
        activityLog := db.activityLog.insert a } := by
  simp only [updateContact, Prog.ensures_bind, ensures_getContact, Session.ensures_flush,
    table_contacts, setTable_contacts]
  intro c hc hclient hok
  refine ActivityLogService.ensures_appendActivity fun a ha ↦ ?_
  rw [Session.ensures_refresh]
  intro c' hc'
  obtain ⟨hflushed, hkey⟩ := Session.Flushed.of_find? hc hok hc'
  exact ⟨c, a, hclient, hflushed, ⟨ha.fresh, ha.clientId_eq, ha.kind_eq, ha.body_eq⟩,
    by rw [← hkey]⟩

theorem ensures_deleteContact :
    (deleteContact clientId contactId).Ensures db fun _ db' ↦ ∃ c,
      db.contacts.find? contactId = some c ∧ c.clientId = clientId ∧
      db' = { db with contacts := db.contacts.erase contactId } := by
  simp only [deleteContact, Prog.ensures_bind, ensures_getContact, Session.ensures_delete]
  intro c hc hclient
  have hkey : c.id = contactId := Table.key_of_find? hc
  exact ⟨c, hc, hclient, by rw [hkey]; rfl⟩

end Specs

end ZanovixCrm.ContactService
