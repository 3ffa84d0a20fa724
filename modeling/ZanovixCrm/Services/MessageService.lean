import ZanovixCrm.Services.ActivityLogService

/-!
# Message service

The thread of a client, oldest message first.

`since` is an instant, from the query string; that a `datetime` outside of the calendar of UTC
cannot be sent to the database is left out here, as nothing is written. Attachments are empty in
every message that the API creates.
-/

namespace ZanovixCrm.MessageService

/-- The rows of the list, before paging. -/
def selects (clientId : UUID) (since : Option Time) (m : Message) : Bool :=
  decide (m.clientId = clientId) && since.all fun t ↦ decide (t < m.createdAt)

def listMessages (clientId : UUID) (limit offset : ℤ) (since : Option Time) :
    Tx (List Message × ℕ) := do
  let page ← .query fun db ↦ Session.limitOffset limit offset
    (selectAsc db.messages (selects clientId since) Message.createdAt)
  let rows ← Session.column page
  let total ← .query fun db ↦ db.messages.rows.countP (selects clientId since)
  return (rows, total)

/-- The new row. -/
def row (env : Env) (body : MessageCreate) (clientId sender : UUID) : Except DbError Message := do
  let text : Text ← encode (some body.body)
  return {
    id := env.uuid 0, clientId, senderUserId := some sender, body := text, attachmentsJson := []
    createdAt := env.now }

def createMessage (env : Env) (body : MessageCreate) (clientId sender : UUID) : Tx Message := do
  Session.add (row env body clientId sender)
  ActivityLogService.appendActivity env (env.uuid 1) clientId .messageSent
    ("Message sent (len=" ++ toString body.body.length ++ ")") sender
  Session.refresh (env.uuid 0)

/-! ### Specifications -/

section Specs

variable {env : Env} {db : Db} {clientId sender : UUID} {body : MessageCreate}

theorem row_spec {m : Message} (h : row env body clientId sender = .ok m) :
    m.id = env.uuid 0 ∧ m.clientId = clientId := by
  simp only [row, bind_eq_ok_iff, pure_eq_ok_iff] at h
  obtain ⟨text, -, rfl⟩ := h
  exact ⟨rfl, rfl⟩

theorem ensures_createMessage :
    (createMessage env body clientId sender).Ensures db fun m db' ↦ ∃ a,
      row env body clientId sender = .ok m ∧ db.messages.has m.id = false ∧
      ActivityLogService.Records db clientId .messageSent
        ("Message sent (len=" ++ toString body.body.length ++ ")") a ∧
      db' = { db with
        messages := db.messages.insert m, activityLog := db.activityLog.insert a } := by
  simp only [createMessage, Prog.ensures_bind, Session.ensures_add]
  intro m hrow hnew _
  refine ActivityLogService.ensures_appendActivity fun a ha ↦ ?_
  rw [Session.ensures_refresh]
  intro m' hm'
  obtain rfl := Table.eq_of_find?_insert hnew (row_spec hrow).1 hm'
  exact ⟨a, hrow, hnew, ⟨ha.fresh, ha.clientId_eq, ha.kind_eq, ha.body_eq⟩, rfl⟩

end Specs

end ZanovixCrm.MessageService
