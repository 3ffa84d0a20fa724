import ZanovixCrm.Database.Attributes

/-!
# Activity log service

`appendActivity` is the only way in: every entry is written by another service, in the transaction
of the change that it records. Entries are never updated.

**Left out.** The check that a kind is one of the known ones cannot fail here, since a kind is a
value of its column; which kinds the models and the migrations admit is compared elsewhere.
-/

namespace ZanovixCrm.ActivityLogService

/-- The new entry. -/
def row (env : Env) (id clientId : UUID) (kind : ActivityKind) (body : String) (actor : UUID) :
    Except DbError ActivityLog := do
  let body : Text ← encode (some body)
  return { id, createdAt := env.now, clientId, kind, actorUserId := some actor, body }

/-- `append_activity`; the kinds of the white list are the values of `ActivityKind`. -/
def appendActivity (env : Env) (id clientId : UUID) (kind : ActivityKind) (body : String)
    (actor : UUID) : Tx Unit :=
  Session.add (row env id clientId kind body actor)

/-- The optional client filter. -/
def selects (clientId : Option UUID) (a : ActivityLog) : Bool := clientId.all (· = a.clientId)

def listActivity (limit offset : ℤ) (clientId : Option UUID) : Tx (List ActivityLog × ℕ) := do
  let total ← .query fun db ↦ db.activityLog.rows.countP (selects clientId)
  let page ← .query fun db ↦
    Session.limitOffset limit offset
      (selectDesc db.activityLog (selects clientId) ActivityLog.createdAt)
  let items ← Session.column page
  return (items, total)

/-! ### Specifications -/

/-- `a` is an entry that can be appended, and it records `kind` and `body` for the client. -/
structure Records (db : Db) (clientId : UUID) (kind : ActivityKind) (body : String)
    (a : ActivityLog) : Prop where
  fresh : db.activityLog.has a.id = false
  clientId_eq : a.clientId = clientId
  kind_eq : a.kind = kind
  body_eq : a.body.val = body

theorem row_spec {env : Env} {id clientId : UUID} {kind : ActivityKind} {body : String}
    {actor : UUID}
    {a : ActivityLog} (h : row env id clientId kind body actor = .ok a) :
    a.id = id ∧ a.clientId = clientId ∧ a.actorUserId = some actor := by
  simp only [row, bind_eq_ok_iff, pure_eq_ok_iff] at h
  obtain ⟨text, -, rfl⟩ := h
  exact ⟨rfl, rfl, rfl⟩

theorem Records.of_row {env : Env} {db : Db} {id clientId : UUID} {kind : ActivityKind}
    {body : String} {actor : UUID} {a : ActivityLog}
    (h : row env id clientId kind body actor = .ok a) (hfresh : db.activityLog.has a.id = false) :
    Records db clientId kind body a := by
  simp only [row, bind_eq_ok_iff, pure_eq_ok_iff] at h
  obtain ⟨text, htext, rfl⟩ := h
  have hstore : Varchar.store? none body = some text := orError_eq_ok_iff.1 htext
  exact ⟨hfresh, rfl, rfl, Varchar.val_of_store? (fun n hn ↦ by cases hn) hstore⟩

/-- **Every entry is appended, and nothing else is done.** -/
theorem ensures_appendActivity {env : Env} {db : Db} {id clientId : UUID} {kind : ActivityKind}
    {body : String} {actor : UUID} {Q : Unit → Db → Prop}
    (h : ∀ a, Records db clientId kind body a →
      Q () { db with activityLog := db.activityLog.insert a }) :
    (appendActivity env id clientId kind body actor).Ensures db Q := by
  rw [appendActivity, Session.ensures_add]
  exact fun a hrow hfresh _ ↦ h a (.of_row hrow hfresh)

end ZanovixCrm.ActivityLogService
