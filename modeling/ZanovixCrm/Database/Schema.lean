import ZanovixCrm.Database.Models
import ZanovixCrm.Library.Program
import ZanovixCrm.Services.Exceptions

/-!
# The schema

The ten tables, the writes that the code performs on them, and the constraints that relate rows:
primary keys, unique constraints and references.

**A write is refused, not repaired.** An insert needs a new primary key, an `UPDATE` by primary key
needs its row, and in both cases the resulting row may clash with no other row on a unique
constraint and must refer to rows that exist; an `UPDATE` that leaves the constrained columns alone
is not checked again. Rows are deleted only from the three tables that nothing refers to, so no
cascade ever runs.

**What is not here.** Value-level constraints are in the types of the columns, so no write can break
one; the place where a value is refused is the encoding of an attribute, before the write. Isolation
is not here either: a write is applied to one state, and what other sessions do in between is the
business of `Api.Sessions`. The clock enters through the rows that are written.
-/

namespace ZanovixCrm

/-- The database. -/
structure Db where
  users : Table User
  leads : Table Lead
  clients : Table Client
  contacts : Table Contact
  services : Table Service
  milestones : Table Milestone
  billingProfiles : Table BillingProfile
  tickets : Table Ticket
  messages : Table Message
  activityLog : Table ActivityLog

namespace Db

/-- The database without rows. -/
def empty : Db :=
  ⟨.empty, .empty, .empty, .empty, .empty, .empty, .empty, .empty, .empty, .empty⟩

@[ext] theorem ext {a b : Db} (h₁ : a.users = b.users) (h₂ : a.leads = b.leads)
    (h₃ : a.clients = b.clients) (h₄ : a.contacts = b.contacts) (h₅ : a.services = b.services)
    (h₆ : a.milestones = b.milestones) (h₇ : a.billingProfiles = b.billingProfiles)
    (h₈ : a.tickets = b.tickets) (h₉ : a.messages = b.messages)
    (h₁₀ : a.activityLog = b.activityLog) : a = b := by
  cases a; cases b; cases h₁; cases h₂; cases h₃; cases h₄; cases h₅; cases h₆; cases h₇; cases h₈
  cases h₉; cases h₁₀; rfl

end Db

/-- A table of the database, with its constraints. -/
class Relation (ρ : Type) [Keyed ρ UUID] where
  /-- The table. -/
  table : Db → Table ρ
  /-- Replace the table. -/
  setTable : Db → Table ρ → Db
  /-- The unique constraint, if any, on which the row clashes with another row. -/
  clash : Db → ρ → Option String
  /-- Every reference of the row is to an existing row. -/
  refers : Db → ρ → Bool
  /-- The columns under unique constraints and references are the same in both rows. -/
  sameKeys : ρ → ρ → Bool
  /-- Reading back the table that was put. -/
  table_setTable : ∀ db t, table (setTable db t) = t
  /-- Putting back the table that was read. -/
  setTable_table : ∀ db, setTable db (table db) = db
  /-- The last table put is the one that stays. -/
  setTable_setTable : ∀ db t t', setTable (setTable db t) t' = setTable db t'

/-- An optional reference is null or to an existing row. -/
def refersTo {ρ : Type} [Keyed ρ UUID] (t : Table ρ) (k : Option UUID) : Bool := k.all t.has

/-- Another row agrees with `r` on the columns `f`. -/
def clashes {ρ β : Type} [Keyed ρ UUID] [DecidableEq β] (t : Table ρ) (f : ρ → β) (r : ρ) : Bool :=
  t.rows.any fun x ↦ decide (key x ≠ key r ∧ f x = f r)

instance : Relation User where
  table := Db.users
  setTable db t := { db with users := t }
  clash db r := if clashes db.users User.email r then some "ix_users_email" else none
  refers db r := refersTo db.clients r.clientId
  sameKeys a b := decide (a.email = b.email ∧ a.clientId = b.clientId)
  table_setTable _ _ := rfl
  setTable_table _ := rfl
  setTable_setTable _ _ _ := rfl

instance : Relation Lead where
  table := Db.leads
  setTable db t := { db with leads := t }
  clash _ _ := none
  refers db r := refersTo db.users r.ownerId && refersTo db.clients r.convertedClientId
  sameKeys a b := decide (a.ownerId = b.ownerId ∧ a.convertedClientId = b.convertedClientId)
  table_setTable _ _ := rfl
  setTable_table _ := rfl
  setTable_setTable _ _ _ := rfl

instance : Relation Client where
  table := Db.clients
  setTable db t := { db with clients := t }
  clash _ _ := none
  refers db r := refersTo db.users r.ownerId
  sameKeys a b := decide (a.ownerId = b.ownerId)
  table_setTable _ _ := rfl
  setTable_table _ := rfl
  setTable_setTable _ _ _ := rfl

instance : Relation Contact where
  table := Db.contacts
  setTable db t := { db with contacts := t }
  clash _ _ := none
  refers db r := db.clients.has r.clientId
  sameKeys a b := decide (a.clientId = b.clientId)
  table_setTable _ _ := rfl
  setTable_table _ := rfl
  setTable_setTable _ _ _ := rfl

instance : Relation Service where
  table := Db.services
  setTable db t := { db with services := t }
  clash _ _ := none
  refers db r := db.clients.has r.clientId && refersTo db.users r.ownerId
  sameKeys a b := decide (a.clientId = b.clientId ∧ a.ownerId = b.ownerId)
  table_setTable _ _ := rfl
  setTable_table _ := rfl
  setTable_setTable _ _ _ := rfl

instance : Relation Milestone where
  table := Db.milestones
  setTable db t := { db with milestones := t }
  clash db r :=
    if clashes db.milestones (fun m ↦ (m.serviceId, m.n)) r then some "uq_milestone_service_n"
    else none
  refers db r := db.services.has r.serviceId
  sameKeys a b := decide (a.serviceId = b.serviceId ∧ a.n = b.n)
  table_setTable _ _ := rfl
  setTable_table _ := rfl
  setTable_setTable _ _ _ := rfl

instance : Relation BillingProfile where
  table := Db.billingProfiles
  setTable db t := { db with billingProfiles := t }
  clash db r :=
    if clashes db.billingProfiles (fun b ↦ (b.clientId, b.taxId)) r then
      some "uq_billing_profile_client_tax_id"
    else none
  refers db r := db.clients.has r.clientId
  sameKeys a b := decide (a.clientId = b.clientId ∧ a.taxId = b.taxId)
  table_setTable _ _ := rfl
  setTable_table _ := rfl
  setTable_setTable _ _ _ := rfl

instance : Relation Ticket where
  table := Db.tickets
  setTable db t := { db with tickets := t }
  clash _ _ := none
  refers db r := db.clients.has r.clientId && refersTo db.services r.serviceId &&
    refersTo db.users r.createdByUserId && refersTo db.users r.assignedToUserId
  sameKeys a b := decide (a.clientId = b.clientId ∧ a.serviceId = b.serviceId ∧
    a.createdByUserId = b.createdByUserId ∧ a.assignedToUserId = b.assignedToUserId)
  table_setTable _ _ := rfl
  setTable_table _ := rfl
  setTable_setTable _ _ _ := rfl

instance : Relation Message where
  table := Db.messages
  setTable db t := { db with messages := t }
  clash _ _ := none
  refers db r := db.clients.has r.clientId && refersTo db.users r.senderUserId
  sameKeys a b := decide (a.clientId = b.clientId ∧ a.senderUserId = b.senderUserId)
  table_setTable _ _ := rfl
  setTable_table _ := rfl
  setTable_setTable _ _ _ := rfl

instance : Relation ActivityLog where
  table := Db.activityLog
  setTable db t := { db with activityLog := t }
  clash _ _ := none
  refers db r := db.clients.has r.clientId && refersTo db.users r.actorUserId
  sameKeys a b := decide (a.clientId = b.clientId ∧ a.actorUserId = b.actorUserId)
  table_setTable _ _ := rfl
  setTable_table _ := rfl
  setTable_setTable _ _ _ := rfl

/-! ### Writes -/

/-- A write on one table. -/
inductive TableOp (ρ : Type) [Keyed ρ UUID] where
  /-- Insert a row. -/
  | insert (r : ρ)
  /-- `UPDATE … WHERE id = k`. -/
  | update (k : UUID) (a : Assign ρ)
  /-- The part of a bulk `UPDATE … WHERE p` that concerns the row `k`. The condition is evaluated
  on the row as it is when the statement gets to it. -/
  | updateIf (k : UUID) (p : ρ → Bool) (a : Assign ρ)

section Apply

variable {ρ : Type} [Keyed ρ UUID] [Relation ρ]

/-- The row may be stored. -/
def checkRow (db : Db) (r : ρ) : Except DbError Unit :=
  match Relation.clash db r with
  | some name => .error (.unique name)
  | none => if Relation.refers db r then .ok () else .error .foreignKey

/-- The row `old` may be replaced by `new`. -/
def checkChange (db : Db) (old new : ρ) : Except DbError Unit :=
  if Relation.sameKeys old new then .ok () else checkRow db new

/-- The name under which PostgreSQL reports a primary key. -/
def primaryKey : String := "pkey"

/-- Perform a write on one table. -/
def TableOp.perform (db : Db) : TableOp ρ → Except DbError Db
  | .insert r =>
    let t : Table ρ := Relation.table db
    if t.has (key r) then .error (.unique primaryKey)
    else (checkRow db r).map fun _ ↦ Relation.setTable db (t.insert r)
  | .update k a =>
    let t : Table ρ := Relation.table db
    match t.find? k with
    | none => .error .stale
    | some r => (checkChange db r (a.fn r)).map fun _ ↦ Relation.setTable db (t.alter k a)
  | .updateIf k p a =>
    let t : Table ρ := Relation.table db
    match t.find? k with
    | none => .ok db
    | some r =>
      if p r then (checkChange db r (a.fn r)).map fun _ ↦ Relation.setTable db (t.alter k a)
      else .ok db

/-- **What an insert does**: the key is new, the row is admitted, and it is appended. -/
theorem TableOp.perform_insert {db db' : Db} {r : ρ} :
    (TableOp.insert r).perform db = .ok db' ↔
      (Relation.table db : Table ρ).has (key r) = false ∧ checkRow db r = .ok () ∧
        db' = Relation.setTable db ((Relation.table db : Table ρ).insert r) := by
  rw [TableOp.perform]
  rcases hk : (Relation.table db : Table ρ).has (key r) with - | -
  · rcases ha : checkRow db r with e | u
    · simp [Except.map]
    · simp [Except.map, eq_comm]
  · simp

/-- **What an `UPDATE` by primary key does**: the row exists, its new version is admitted, and it
alone is altered. -/
theorem TableOp.perform_update {db db' : Db} {k : UUID} {a : Assign ρ} :
    (TableOp.update k a).perform db = .ok db' ↔
      ∃ r, (Relation.table db : Table ρ).find? k = some r ∧ checkChange db r (a.fn r) = .ok () ∧
        db' = Relation.setTable db ((Relation.table db : Table ρ).alter k a) := by
  rw [TableOp.perform]
  rcases hk : (Relation.table db : Table ρ).find? k with - | r
  · simp
  · rcases ha : checkChange db r (a.fn r) with e | u
    · simp [Except.map, ha]
    · simp [Except.map, ha, eq_comm]

/-- A write on one table leaves the others alone. -/
theorem TableOp.exists_setTable {db db' : Db} {op : TableOp ρ} (h : op.perform db = .ok db') :
    ∃ t : Table ρ, db' = Relation.setTable db t := by
  have hchange : ∀ (x : Except DbError Unit) (t : Table ρ),
      (x.map fun _ ↦ Relation.setTable db t) = .ok db' →
        ∃ t : Table ρ, db' = Relation.setTable db t := by
    intro x t hx
    rcases x with e | u
    · cases hx
    · cases hx
      exact ⟨t, rfl⟩
  have hsame : Except.ok db = (.ok db' : Except DbError Db) →
      ∃ t : Table ρ, db' = Relation.setTable db t := by
    intro hx
    cases hx
    exact ⟨Relation.table db, (Relation.setTable_table db).symm⟩
  cases op with
  | insert r => exact ⟨_, (TableOp.perform_insert.1 h).2.2⟩
  | update k a =>
    obtain ⟨_, _, _, hdb⟩ := TableOp.perform_update.1 h
    exact ⟨_, hdb⟩
  | updateIf k p a =>
    rw [TableOp.perform] at h
    rcases hf : (Relation.table db : Table ρ).find? k with - | r
    · simp only [hf] at h
      exact hsame h
    · simp only [hf] at h
      split at h
      · exact hchange _ _ h
      · exact hsame h

/-- What the part of a bulk `UPDATE` on one row does, if its assignment spares the constrained
columns. -/
theorem TableOp.perform_updateIf {db : Db} {k : UUID} {p : ρ → Bool} {a : Assign ρ}
    (ha : ∀ r, Relation.sameKeys r (a.fn r) = true) :
    (TableOp.updateIf k p a).perform db =
      .ok (Relation.setTable db
        ((Relation.table db : Table ρ).alterWhere (fun r ↦ decide (key r = k) && p r) a)) := by
  have hsame : ∀ {q : ρ → Bool}, (∀ r ∈ (Relation.table db : Table ρ), q r = false) →
      Relation.setTable db ((Relation.table db : Table ρ).alterWhere q a) = db := by
    intro q hq
    rw [Table.alterWhere_of_forall_not hq, Relation.setTable_table]
  rw [TableOp.perform]
  rcases hk : (Relation.table db : Table ρ).find? k with - | r
  · rw [Table.find?_eq_none_iff] at hk
    rw [hsame fun r hr ↦ by simp [hk r hr]]
  · obtain ⟨hr, hkey⟩ := Table.find?_eq_some_iff.1 hk
    rcases hp : p r with - | -
    · rw [hsame fun x hx ↦ ?_]
      · simp [hp]
      · by_cases hxk : key x = k
        · rw [Table.eq_of_key_eq hx hr (hxk.trans hkey.symm), hp, Bool.and_false]
        · simp [hxk]
    · simp only [hp, if_true, checkChange, ha, Except.map]
      rw [Table.alter, Table.alterWhere_congr fun x hx ↦ ?_]
      by_cases hxk : key x = k
      · rw [Table.eq_of_key_eq hx hr (hxk.trans hkey.symm), hp, Bool.and_true]
      · simp [hxk]

end Apply

/-- The tables from which rows are deleted. -/
inductive LeafTable where
  | contacts | milestones | billingProfiles
deriving DecidableEq

/-- A write. -/
inductive Write where
  | users (op : TableOp User)
  | leads (op : TableOp Lead)
  | clients (op : TableOp Client)
  | contacts (op : TableOp Contact)
  | services (op : TableOp Service)
  | milestones (op : TableOp Milestone)
  | billingProfiles (op : TableOp BillingProfile)
  | tickets (op : TableOp Ticket)
  | messages (op : TableOp Message)
  | activityLog (op : TableOp ActivityLog)
  /-- `DELETE … WHERE id = k`; it is not an error if the row is gone. -/
  | delete (t : LeafTable) (k : UUID)

/-- Delete a row of a leaf table. -/
def LeafTable.erase (db : Db) (k : UUID) : LeafTable → Db
  | .contacts => { db with contacts := db.contacts.erase k }
  | .milestones => { db with milestones := db.milestones.erase k }
  | .billingProfiles => { db with billingProfiles := db.billingProfiles.erase k }

/-- Perform a write. -/
def Write.perform (db : Db) : Write → Except DbError Db
  | .users op => op.perform db
  | .leads op => op.perform db
  | .clients op => op.perform db
  | .contacts op => op.perform db
  | .services op => op.perform db
  | .milestones op => op.perform db
  | .billingProfiles op => op.perform db
  | .tickets op => op.perform db
  | .messages op => op.perform db
  | .activityLog op => op.perform db
  | .delete t k => .ok (t.erase db k)

/-! ### The tables by name -/

section Tables

variable {db : Db}

@[simp] theorem table_users : (Relation.table db : Table User) = db.users := rfl
@[simp] theorem table_leads : (Relation.table db : Table Lead) = db.leads := rfl
@[simp] theorem table_clients : (Relation.table db : Table Client) = db.clients := rfl
@[simp] theorem table_contacts : (Relation.table db : Table Contact) = db.contacts := rfl
@[simp] theorem table_services : (Relation.table db : Table Service) = db.services := rfl
@[simp] theorem table_milestones : (Relation.table db : Table Milestone) = db.milestones := rfl
@[simp] theorem table_billingProfiles :
    (Relation.table db : Table BillingProfile) = db.billingProfiles := rfl
@[simp] theorem table_tickets : (Relation.table db : Table Ticket) = db.tickets := rfl
@[simp] theorem table_messages : (Relation.table db : Table Message) = db.messages := rfl
@[simp] theorem table_activityLog : (Relation.table db : Table ActivityLog) = db.activityLog := rfl

@[simp] theorem setTable_users {t : Table User} :
    Relation.setTable db t = { db with users := t } := rfl

@[simp] theorem setTable_leads {t : Table Lead} :
    Relation.setTable db t = { db with leads := t } := rfl

@[simp] theorem setTable_clients {t : Table Client} :
    Relation.setTable db t = { db with clients := t } := rfl

@[simp] theorem setTable_contacts {t : Table Contact} :
    Relation.setTable db t = { db with contacts := t } := rfl

@[simp] theorem setTable_services {t : Table Service} :
    Relation.setTable db t = { db with services := t } := rfl

@[simp] theorem setTable_milestones {t : Table Milestone} :
    Relation.setTable db t = { db with milestones := t } := rfl

@[simp] theorem setTable_billingProfiles {t : Table BillingProfile} :
    Relation.setTable db t = { db with billingProfiles := t } := rfl

@[simp] theorem setTable_tickets {t : Table Ticket} :
    Relation.setTable db t = { db with tickets := t } := rfl

@[simp] theorem setTable_messages {t : Table Message} :
    Relation.setTable db t = { db with messages := t } := rfl

@[simp] theorem setTable_activityLog {t : Table ActivityLog} :
    Relation.setTable db t = { db with activityLog := t } := rfl

end Tables

/-- The names of the tables, for locks. -/
inductive TableName where
  | users | leads | clients | contacts | services | milestones | billingProfiles | tickets
  | messages | activityLog
deriving DecidableEq

/-- What a write holds until its transaction ends: the row, and the values it has taken under a
unique constraint. -/
inductive Lock where
  | row (t : TableName) (k : UUID)
  | milestoneN (serviceId : UUID) (n : PgInt 32)
  | taxId (clientId : UUID) (taxId : Str 32)
  | email (email : Str 255)
deriving DecidableEq

/-- The locks of a write on one table, given those an inserted row takes besides its key. -/
def TableOp.locks {ρ : Type} [Keyed ρ UUID] (t : TableName) (unique : ρ → List Lock) :
    TableOp ρ → List Lock
  | .insert r => .row t (key r) :: unique r
  | .update k _ => [.row t k]
  | .updateIf k _ _ => [.row t k]

/-- The locks of a write. -/
def Write.locks : Write → List Lock
  | .users op => op.locks .users fun r ↦ [.email r.email]
  | .leads op => op.locks .leads fun _ ↦ []
  | .clients op => op.locks .clients fun _ ↦ []
  | .contacts op => op.locks .contacts fun _ ↦ []
  | .services op => op.locks .services fun _ ↦ []
  | .milestones op => op.locks .milestones fun r ↦ [.milestoneN r.serviceId r.n]
  | .billingProfiles op => op.locks .billingProfiles fun r ↦ [.taxId r.clientId r.taxId]
  | .tickets op => op.locks .tickets fun _ ↦ []
  | .messages op => op.locks .messages fun _ ↦ []
  | .activityLog op => op.locks .activityLog fun _ ↦ []
  | .delete .contacts k => [.row .contacts k]
  | .delete .milestones k => [.row .milestones k]
  | .delete .billingProfiles k => [.row .billingProfiles k]

instance : Store Db Write Fault Lock where
  apply w db := (w.perform db).mapError .db
  locks := Write.locks

/-- A table whose writes are known to the store. -/
class Stored (ρ : Type) [Keyed ρ UUID] extends Relation ρ where
  /-- The write. -/
  wrap : TableOp ρ → Write
  /-- It is performed on the table. -/
  perform_wrap : ∀ op db, (wrap op).perform db = op.perform db

instance : Stored User := ⟨.users, fun _ _ ↦ rfl⟩
instance : Stored Lead := ⟨.leads, fun _ _ ↦ rfl⟩
instance : Stored Client := ⟨.clients, fun _ _ ↦ rfl⟩
instance : Stored Contact := ⟨.contacts, fun _ _ ↦ rfl⟩
instance : Stored Service := ⟨.services, fun _ _ ↦ rfl⟩
instance : Stored Milestone := ⟨.milestones, fun _ _ ↦ rfl⟩
instance : Stored BillingProfile := ⟨.billingProfiles, fun _ _ ↦ rfl⟩
instance : Stored Ticket := ⟨.tickets, fun _ _ ↦ rfl⟩
instance : Stored Message := ⟨.messages, fun _ _ ↦ rfl⟩
instance : Stored ActivityLog := ⟨.activityLog, fun _ _ ↦ rfl⟩

theorem apply_eq_ok_iff {w : Write} {db db' : Db} :
    Store.apply w db = .ok db' ↔ w.perform db = .ok db' := by
  show (w.perform db).mapError Fault.db = .ok db' ↔ _
  rcases w.perform db with e | x <;> simp [Except.mapError]

section Stored

variable {ρ : Type} [Keyed ρ UUID] [Stored ρ]

theorem apply_insert {r : ρ} {db db' : Db} :
    Store.apply (Stored.wrap (.insert r)) db = .ok db' ↔
      (Relation.table db : Table ρ).has (key r) = false ∧ checkRow db r = .ok () ∧
        db' = Relation.setTable db ((Relation.table db : Table ρ).insert r) := by
  rw [apply_eq_ok_iff, Stored.perform_wrap, TableOp.perform_insert]

theorem apply_update {k : UUID} {a : Assign ρ} {db db' : Db} :
    Store.apply (Stored.wrap (.update k a)) db = .ok db' ↔
      ∃ r, (Relation.table db : Table ρ).find? k = some r ∧ checkChange db r (a.fn r) = .ok () ∧
        db' = Relation.setTable db ((Relation.table db : Table ρ).alter k a) := by
  rw [apply_eq_ok_iff, Stored.perform_wrap, TableOp.perform_update]

end Stored

theorem apply_delete {t : LeafTable} {k : UUID} {db db' : Db} :
    Store.apply (Write.delete t k) db = .ok db' ↔ db' = t.erase db k := by
  rw [apply_eq_ok_iff, Write.perform, Except.ok.injEq, eq_comm]

end ZanovixCrm
