import ZanovixCrm.Library.Ddl

/-!
# Declarations

The tables as the models declare them, and what `create_all` makes of a declaration: a column that
is a primary key, unique, indexed or a reference gets the constraint or the index that says so, next
to those in `__table_args__`. A column that is both unique and indexed gets one unique index.

What a declaration says beyond this (defaults, relationships, the sort order of an index) is no
condition on rows.
-/

namespace ZanovixCrm.Declarations

open Ddl

/-- A `mapped_column`. -/
structure MappedColumn where
  name : String
  type : ColumnType
  nullable : Bool := false
  primaryKey : Bool := false
  unique : Bool := false
  index : Bool := false
  /-- `ForeignKey(f"{table}.id", ondelete=…)`. -/
  references : Option (String × OnDelete) := none

/-- An element of `__table_args__`. -/
inductive TableArg where
  | checkConstraint (c : Condition String) (name : String)
  | uniqueConstraint (columns : List String) (name : String)
  | index (name : String) (columns : List String)

/-- A model. -/
structure Model where
  tableName : String
  tableArgs : List TableArg
  columns : List MappedColumn

/-! ### What is created -/

/-- The constraints of a column, apart from its type and `NOT NULL`. -/
def MappedColumn.constraints (c : MappedColumn) : List (ConstraintDef String) :=
  (if c.primaryKey then [⟨none, .primaryKey [c.name]⟩] else []) ++
    (if c.unique && !c.index then [⟨none, .unique [c.name]⟩] else []) ++
    c.references.toList.map fun r ↦ ⟨none, .foreignKey [c.name] r.1 ["id"] r.2⟩

/-- The index of a column. -/
def MappedColumn.indexes (table : String) (c : MappedColumn) : List (IndexDef String) :=
  if c.index then [⟨"ix_" ++ table ++ "_" ++ c.name, [c.name], c.unique⟩] else []

/-- The constraint of a table argument, if it is one. -/
def TableArg.constraint? : TableArg → Option (ConstraintDef String)
  | .checkConstraint c name => some ⟨some name, .check c⟩
  | .uniqueConstraint cs name => some ⟨some name, .unique cs⟩
  | .index _ _ => none

/-- The index of a table argument, if it is one. -/
def TableArg.index? : TableArg → Option (IndexDef String)
  | .index name cs => some ⟨name, cs, false⟩
  | _ => none

/-- The table of a model. -/
def Model.table (m : Model) : TableDef String where
  name := m.tableName
  columns := m.columns.map fun c ↦ ⟨c.name, c.type, c.nullable⟩
  constraints := m.columns.flatMap MappedColumn.constraints ++
    m.tableArgs.filterMap TableArg.constraint?
  indexes := m.columns.flatMap (MappedColumn.indexes m.tableName) ++
    m.tableArgs.filterMap TableArg.index?

/-! ### The models -/

/-- `id: uuid4`. -/
def idColumn : MappedColumn := { name := "id", type := .uuid, primaryKey := true }

def createdAt : MappedColumn := { name := "created_at", type := .timestamptz }

def updatedAt : MappedColumn := { name := "updated_at", type := .timestamptz }

/-- `client_id`, as most tables have it. -/
def clientId : MappedColumn :=
  { name := "client_id", type := .uuid, references := some ("clients", .cascade) }

/-- `owner_id`. -/
def ownerId : MappedColumn :=
  { name := "owner_id", type := .uuid, nullable := true, references := some ("users", .setNull) }

def user : Model where
  tableName := "users"
  tableArgs :=
    [.checkConstraint (.isIn "role" ["admin", "consultor", "comercial", "client_user"])
      "users_role_check",
    .index "ix_users_client_id" ["client_id"]]
  columns :=
    [idColumn,
    { name := "email", type := .varchar 255, unique := true, index := true },
    { name := "password_hash", type := .varchar 255 },
    { name := "role", type := .varchar 32 },
    { name := "display_name", type := .varchar 120, nullable := true },
    { name := "is_active", type := .boolean },
    { name := "client_id", type := .uuid, nullable := true
      references := some ("clients", .setNull) },
    createdAt, updatedAt]

def lead : Model where
  tableName := "leads"
  tableArgs :=
    [.checkConstraint (.isIn "vertical" ["clinicas_dentales", "general"]) "ck_lead_vertical",
    .checkConstraint (.isIn "channel" ["email_marketing", "cold_calling", "networking", "referral",
      "web_form", "other"]) "ck_lead_channel",
    .checkConstraint (.isIn "status" ["new", "contacted", "qualified", "disqualified", "converted"])
      "ck_lead_status",
    .index "ix_lead_email" ["email"], .index "ix_lead_status" ["status"],
    .index "ix_lead_vertical" ["vertical"], .index "ix_lead_owner_id" ["owner_id"],
    .index "ix_lead_created_at_desc" ["created_at"]]
  columns :=
    [idColumn, createdAt, updatedAt,
    { name := "name", type := .varchar 200 },
    { name := "email", type := .varchar 320 },
    { name := "phone", type := .varchar 50, nullable := true },
    { name := "company", type := .varchar 200, nullable := true },
    { name := "vertical", type := .varchar 64 },
    { name := "channel", type := .varchar 64 },
    { name := "status", type := .varchar 32 },
    { name := "source_url", type := .varchar 2048, nullable := true },
    { name := "notes", type := .text, nullable := true },
    ownerId,
    { name := "raw_payload", type := .jsonb },
    { name := "converted_client_id", type := .uuid, nullable := true
      references := some ("clients", .setNull) },
    { name := "role", type := .varchar 100, nullable := true }]

def client : Model where
  tableName := "clients"
  tableArgs :=
    [.checkConstraint (.isIn "stage" ["lead", "discovery_scheduled", "discovery_done",
      "proposal_sent", "active", "lost"]) "ck_client_stage",
    .index "ix_client_stage" ["stage"], .index "ix_client_owner_id" ["owner_id"],
    .index "ix_client_name" ["name"]]
  columns :=
    [idColumn, createdAt, updatedAt,
    { name := "name", type := .varchar 200 },
    { name := "sector", type := .varchar 100, nullable := true },
    { name := "size", type := .varchar 50, nullable := true },
    { name := "region", type := .varchar 100, nullable := true },
    ownerId,
    { name := "stage", type := .varchar 64 },
    { name := "entered_at", type := .timestamptz },
    { name := "mrr_cents", type := .bigint, nullable := true },
    { name := "lifetime_value_cents", type := .bigint, nullable := true }]

def contact : Model where
  tableName := "contacts"
  tableArgs := [.index "ix_contact_client_id" ["client_id"]]
  columns :=
    [idColumn, createdAt, updatedAt, clientId,
    { name := "name", type := .varchar 200 },
    { name := "role", type := .varchar 100, nullable := true },
    { name := "email", type := .varchar 320, nullable := true },
    { name := "phone", type := .varchar 50, nullable := true },
    { name := "is_primary", type := .boolean }]

def service : Model where
  tableName := "services"
  tableArgs :=
    [.checkConstraint (.isIn "type" ["assessment", "development", "formation"]) "ck_service_type",
    .checkConstraint (.isIn "state" ["scoping", "running", "review", "completed", "maintenance",
      "paused"]) "ck_service_state",
    .index "ix_service_client_id" ["client_id"], .index "ix_service_state" ["state"]]
  columns :=
    [idColumn, createdAt, updatedAt, clientId, ownerId,
    { name := "type", type := .varchar 64 },
    { name := "title", type := .varchar 200 },
    { name := "state", type := .varchar 64 },
    { name := "progress_pct", type := .integer, nullable := true },
    { name := "started_at", type := .timestamptz, nullable := true },
    { name := "ended_at", type := .timestamptz, nullable := true },
    { name := "setup_price_cents", type := .bigint, nullable := true },
    { name := "monthly_cents", type := .bigint, nullable := true },
    { name := "score_int", type := .integer, nullable := true },
    { name := "diagnostic_json", type := .jsonb, nullable := true }]

def milestone : Model where
  tableName := "milestones"
  tableArgs :=
    [.uniqueConstraint ["service_id", "n"] "uq_milestone_service_n",
    .index "ix_milestone_service_id" ["service_id"]]
  columns :=
    [idColumn,
    { name := "service_id", type := .uuid, references := some ("services", .cascade) },
    { name := "n", type := .integer },
    { name := "title", type := .varchar 300 },
    { name := "due_date", type := .date, nullable := true },
    { name := "completed_at", type := .timestamptz, nullable := true }]

def activityLog : Model where
  tableName := "activity_log"
  tableArgs :=
    [.checkConstraint (.isIn "kind" ["stage_change", "contact_added", "contact_updated",
      "service_started", "service_state_change", "milestone_completed", "lead_converted", "note"])
      "ck_activity_log_kind",
    .index "ix_activity_log_client_id_created_at" ["client_id", "created_at"]]
  columns :=
    [idColumn, createdAt, clientId,
    { name := "kind", type := .varchar 64 },
    { name := "actor_user_id", type := .uuid, nullable := true
      references := some ("users", .setNull) },
    { name := "body", type := .text }]

def ticket : Model where
  tableName := "tickets"
  tableArgs :=
    [.checkConstraint (.isIn "priority" ["high", "medium", "low"]) "ck_ticket_priority",
    .checkConstraint (.isIn "status" ["pending", "in_progress", "closed"]) "ck_ticket_status",
    .index "ix_tickets_client_id" ["client_id"], .index "ix_tickets_status" ["status"],
    .index "ix_tickets_priority" ["priority"],
    .index "ix_tickets_client_status" ["client_id", "status"]]
  columns :=
    [idColumn, clientId,
    { name := "service_id", type := .uuid, nullable := true
      references := some ("services", .setNull) },
    { name := "title", type := .varchar 200 },
    { name := "body", type := .text, nullable := true },
    { name := "priority", type := .varchar 32 },
    { name := "status", type := .varchar 32 },
    { name := "created_by_user_id", type := .uuid, nullable := true
      references := some ("users", .setNull) },
    { name := "assigned_to_user_id", type := .uuid, nullable := true
      references := some ("users", .setNull) },
    createdAt, updatedAt]

def message : Model where
  tableName := "messages"
  tableArgs :=
    [.index "ix_messages_client_id" ["client_id"],
    .index "ix_messages_client_id_created_at" ["client_id", "created_at"]]
  columns :=
    [idColumn, clientId,
    { name := "sender_user_id", type := .uuid, nullable := true
      references := some ("users", .setNull) },
    { name := "body", type := .text },
    { name := "attachments_json", type := .jsonb },
    createdAt]

def billingProfile : Model where
  tableName := "billing_profiles"
  tableArgs :=
    [.uniqueConstraint ["client_id", "tax_id"] "uq_billing_profile_client_tax_id",
    .checkConstraint (.isIn "tax_id_type" ["NIF", "CIF", "NIE", "VAT"])
      "ck_billing_profile_tax_id_type",
    .checkConstraint (.isIn "tax_regime" ["general", "recargo_equivalencia", "simplificado",
      "exento", "intracomunitario"]) "ck_billing_profile_tax_regime",
    .checkConstraint (.charLength "country" 2) "ck_billing_profile_country_iso2",
    .index "ix_billing_profile_client_id" ["client_id"]]
  columns :=
    [idColumn, createdAt, updatedAt, clientId,
    { name := "legal_name", type := .varchar 255 },
    { name := "tax_id", type := .varchar 32 },
    { name := "tax_id_type", type := .varchar 8 },
    { name := "tax_regime", type := .varchar 32 },
    { name := "address_line1", type := .varchar 255 },
    { name := "address_line2", type := .varchar 255, nullable := true },
    { name := "city", type := .varchar 120 },
    { name := "province", type := .varchar 120 },
    { name := "postal_code", type := .varchar 20 },
    { name := "country", type := .varchar 2 },
    { name := "billing_email", type := .varchar 255, nullable := true },
    { name := "is_default", type := .boolean }]

/-- The models of `Base.metadata`. -/
def models : List Model :=
  [user, lead, client, contact, service, milestone, activityLog, ticket, message, billingProfile]

/-- **The tables that `create_all` installs.** -/
def declared : Catalogue String := models.map Model.table

/-- The email of a user is unique by its index. -/
example : (Rule.unique ["email"]) ∈ user.table.rules := by decide +kernel

end ZanovixCrm.Declarations
