import ZanovixCrm.Library.Ddl

/-!
# Migrations

The migration scripts, each with its `upgrade` and its `downgrade`, and the catalogue in force at
each revision. Server defaults play no part: all columns that are added to a table are nullable.
-/

namespace ZanovixCrm.Migrations

open Ddl

/-- A revision. -/
inductive Revision where
  | initial
  | crmCoreDomain
  | clientPortalAuth
  | tickets
  | messages
  | diagnosticJson
  | activityKinds
  | leadRoleBillingProfiles
deriving DecidableEq

/-! ### Columns and constraints -/

/-- `sa.Column(name, type, nullable=False)`. -/
def required (name : String) (type : ColumnType) : ColumnDef String := ⟨name, type, false⟩

/-- `sa.Column(name, type, nullable=True)`. -/
def optional (name : String) (type : ColumnType) : ColumnDef String := ⟨name, type, true⟩

/-- `sa.CheckConstraint`. -/
def check (c : Condition String) (name : String) : ConstraintDef String := ⟨some name, .check c⟩

/-- `sa.ForeignKeyConstraint([column], [f"{table}.id"], ondelete=…)`. -/
def foreignKey (column table : String) (onDelete : OnDelete) : ConstraintDef String :=
  ⟨none, .foreignKey [column] table ["id"] onDelete⟩

/-- `sa.PrimaryKeyConstraint("id")`. -/
def primaryKey : ConstraintDef String := ⟨none, .primaryKey ["id"]⟩

/-- Prior kind values (as of 0002_crm_core_domain). -/
def priorKinds : List String :=
  ["stage_change", "contact_added", "contact_updated", "service_started", "service_state_change",
    "milestone_completed", "lead_converted", "note"]

/-- The kinds that slice 5 added. -/
def newKinds : List String := ["ticket_opened", "ticket_updated", "ticket_closed", "message_sent"]

/-- Extended kind values (slice 5 additions). -/
def extendedKinds : List String := priorKinds ++ newKinds

/-- The roles of the first users. -/
def priorRoles : List String := ["admin", "consultor", "comercial"]

/-- The roles with that of the client portal. -/
def extendedRoles : List String := priorRoles ++ ["client_user"]

/-! ### The scripts -/

namespace Revision

/-- `upgrade()`. -/
def upgrade : Revision → List (Op String)
  | .initial =>
    [.createTable "users"
      [required "id" .uuid, required "email" (.varchar 255),
        required "password_hash" (.varchar 255), required "role" (.varchar 32),
        optional "display_name" (.varchar 120), required "is_active" .boolean,
        required "created_at" .timestamptz, required "updated_at" .timestamptz]
      [check (.isIn "role" priorRoles) "users_role_check", primaryKey,
        ⟨none, .unique ["email"]⟩],
    .createIndex "ix_users_email" "users" ["email"] true,
    .createTable "leads"
      [required "id" .uuid, required "created_at" .timestamptz, required "updated_at" .timestamptz,
        required "name" (.varchar 200), required "email" (.varchar 320),
        optional "phone" (.varchar 50), optional "company" (.varchar 200),
        required "vertical" (.varchar 64), required "channel" (.varchar 64),
        required "status" (.varchar 32), optional "source_url" (.varchar 2048),
        optional "notes" .text, optional "owner_id" .uuid, required "raw_payload" .jsonb]
      [check (.isIn "vertical" ["clinicas_dentales", "general"]) "ck_lead_vertical",
        check (.isIn "channel" ["email_marketing", "cold_calling", "networking", "referral",
          "web_form", "other"]) "ck_lead_channel",
        check (.isIn "status" ["new", "contacted", "qualified", "disqualified", "converted"])
          "ck_lead_status",
        foreignKey "owner_id" "users" .setNull, primaryKey],
    .createIndex "ix_lead_email" "leads" ["email"] false,
    .createIndex "ix_lead_status" "leads" ["status"] false,
    .createIndex "ix_lead_vertical" "leads" ["vertical"] false,
    .createIndex "ix_lead_owner_id" "leads" ["owner_id"] false,
    .createIndex "ix_lead_created_at_desc" "leads" ["created_at"] false]
  | .crmCoreDomain =>
    [.createTable "clients"
      [required "id" .uuid, required "created_at" .timestamptz, required "updated_at" .timestamptz,
        required "name" (.varchar 200), optional "sector" (.varchar 100),
        optional "size" (.varchar 50), optional "region" (.varchar 100), optional "owner_id" .uuid,
        required "stage" (.varchar 64), required "entered_at" .timestamptz,
        optional "mrr_cents" .bigint, optional "lifetime_value_cents" .bigint]
      [check (.isIn "stage" ["lead", "discovery_scheduled", "discovery_done", "proposal_sent",
          "active", "lost"]) "ck_client_stage",
        foreignKey "owner_id" "users" .setNull, primaryKey],
    .createIndex "ix_client_stage" "clients" ["stage"] false,
    .createIndex "ix_client_owner_id" "clients" ["owner_id"] false,
    .createIndex "ix_client_name" "clients" ["name"] false,
    .createTable "contacts"
      [required "id" .uuid, required "created_at" .timestamptz, required "updated_at" .timestamptz,
        required "client_id" .uuid, required "name" (.varchar 200), optional "role" (.varchar 100),
        optional "email" (.varchar 320), optional "phone" (.varchar 50),
        required "is_primary" .boolean]
      [foreignKey "client_id" "clients" .cascade, primaryKey],
    .createIndex "ix_contact_client_id" "contacts" ["client_id"] false,
    .createTable "services"
      [required "id" .uuid, required "created_at" .timestamptz, required "updated_at" .timestamptz,
        required "client_id" .uuid, optional "owner_id" .uuid, required "type" (.varchar 64),
        required "title" (.varchar 200), required "state" (.varchar 64),
        optional "progress_pct" .integer, optional "started_at" .timestamptz,
        optional "ended_at" .timestamptz, optional "setup_price_cents" .bigint,
        optional "monthly_cents" .bigint, optional "score_int" .integer]
      [check (.isIn "type" ["assessment", "development", "formation"]) "ck_service_type",
        check (.isIn "state" ["scoping", "running", "review", "completed", "maintenance", "paused"])
          "ck_service_state",
        foreignKey "client_id" "clients" .cascade, foreignKey "owner_id" "users" .setNull,
        primaryKey],
    .createIndex "ix_service_client_id" "services" ["client_id"] false,
    .createIndex "ix_service_state" "services" ["state"] false,
    .createTable "milestones"
      [required "id" .uuid, required "service_id" .uuid, required "n" .integer,
        required "title" (.varchar 300), optional "due_date" .date,
        optional "completed_at" .timestamptz]
      [foreignKey "service_id" "services" .cascade, primaryKey,
        ⟨some "uq_milestone_service_n", .unique ["service_id", "n"]⟩],
    .createIndex "ix_milestone_service_id" "milestones" ["service_id"] false,
    .createTable "activity_log"
      [required "id" .uuid, required "created_at" .timestamptz, required "client_id" .uuid,
        required "kind" (.varchar 64), optional "actor_user_id" .uuid, required "body" .text]
      [check (.isIn "kind" priorKinds) "ck_activity_log_kind",
        foreignKey "client_id" "clients" .cascade, foreignKey "actor_user_id" "users" .setNull,
        primaryKey],
    .createIndex "ix_activity_log_client_id_created_at" "activity_log" ["client_id", "created_at"]
      false,
    .addColumn "leads" (optional "converted_client_id" .uuid),
    .addConstraint "fk_lead_converted_client_id" "leads"
      (.foreignKey ["converted_client_id"] "clients" ["id"] .setNull)]
  | .clientPortalAuth =>
    [.dropConstraint "users_role_check" "users",
    .addConstraint "users_role_check" "users" (.check (.isIn "role" extendedRoles)),
    .addColumn "users" (optional "client_id" .uuid),
    .addConstraint "fk_users_client_id" "users"
      (.foreignKey ["client_id"] "clients" ["id"] .setNull),
    .createIndex "ix_users_client_id" "users" ["client_id"] false]
  | .tickets =>
    [.createTable "tickets"
      [required "id" .uuid, required "client_id" .uuid, optional "service_id" .uuid,
        required "title" (.varchar 200), optional "body" .text, required "priority" (.varchar 32),
        required "status" (.varchar 32), optional "created_by_user_id" .uuid,
        optional "assigned_to_user_id" .uuid, required "created_at" .timestamptz,
        required "updated_at" .timestamptz]
      [check (.isIn "priority" ["high", "medium", "low"]) "ck_ticket_priority",
        check (.isIn "status" ["pending", "in_progress", "closed"]) "ck_ticket_status",
        foreignKey "client_id" "clients" .cascade, foreignKey "service_id" "services" .setNull,
        foreignKey "created_by_user_id" "users" .setNull,
        foreignKey "assigned_to_user_id" "users" .setNull, primaryKey],
    .createIndex "ix_tickets_client_id" "tickets" ["client_id"] false,
    .createIndex "ix_tickets_status" "tickets" ["status"] false,
    .createIndex "ix_tickets_priority" "tickets" ["priority"] false,
    .createIndex "ix_tickets_created_at" "tickets" ["created_at"] false,
    .createIndex "ix_tickets_client_status" "tickets" ["client_id", "status"] false]
  | .messages =>
    [.createTable "messages"
      [required "id" .uuid, required "client_id" .uuid, optional "sender_user_id" .uuid,
        required "body" .text, required "attachments_json" .jsonb,
        required "created_at" .timestamptz]
      [foreignKey "client_id" "clients" .cascade, foreignKey "sender_user_id" "users" .setNull,
        primaryKey],
    .createIndex "ix_messages_client_id" "messages" ["client_id"] false,
    .createIndex "ix_messages_client_id_created_at" "messages" ["client_id", "created_at"] false]
  | .diagnosticJson => [.addColumn "services" (optional "diagnostic_json" .jsonb)]
  | .activityKinds =>
    [.dropConstraint "ck_activity_log_kind" "activity_log",
    .addConstraint "ck_activity_log_kind" "activity_log" (.check (.isIn "kind" extendedKinds))]
  | .leadRoleBillingProfiles =>
    [.addColumn "leads" (optional "role" (.varchar 100)),
    .createTable "billing_profiles"
      [required "id" .uuid, required "created_at" .timestamptz, required "updated_at" .timestamptz,
        required "client_id" .uuid, required "legal_name" (.varchar 255),
        required "tax_id" (.varchar 32), required "tax_id_type" (.varchar 8),
        required "tax_regime" (.varchar 32), required "address_line1" (.varchar 255),
        optional "address_line2" (.varchar 255), required "city" (.varchar 120),
        required "province" (.varchar 120), required "postal_code" (.varchar 20),
        required "country" (.varchar 2), optional "billing_email" (.varchar 255),
        required "is_default" .boolean]
      [primaryKey, foreignKey "client_id" "clients" .cascade,
        ⟨some "uq_billing_profile_client_tax_id", .unique ["client_id", "tax_id"]⟩,
        check (.isIn "tax_id_type" ["NIF", "CIF", "NIE", "VAT"]) "ck_billing_profile_tax_id_type",
        check (.isIn "tax_regime" ["general", "recargo_equivalencia", "simplificado", "exento",
          "intracomunitario"]) "ck_billing_profile_tax_regime",
        check (.charLength "country" 2) "ck_billing_profile_country_iso2"],
    .createIndex "ix_billing_profile_client_id" "billing_profiles" ["client_id"] false]

/-- `downgrade()`. -/
def downgrade : Revision → List (Op String)
  | .initial =>
    [.dropIndex "ix_lead_created_at_desc" "leads", .dropIndex "ix_lead_owner_id" "leads",
    .dropIndex "ix_lead_vertical" "leads", .dropIndex "ix_lead_status" "leads",
    .dropIndex "ix_lead_email" "leads", .dropTable "leads",
    .dropIndex "ix_users_email" "users", .dropTable "users"]
  | .crmCoreDomain =>
    [.dropConstraint "fk_lead_converted_client_id" "leads",
    .dropColumn "leads" "converted_client_id",
    .dropIndex "ix_activity_log_client_id_created_at" "activity_log", .dropTable "activity_log",
    .dropIndex "ix_milestone_service_id" "milestones", .dropTable "milestones",
    .dropIndex "ix_service_state" "services", .dropIndex "ix_service_client_id" "services",
    .dropTable "services",
    .dropIndex "ix_contact_client_id" "contacts", .dropTable "contacts",
    .dropIndex "ix_client_name" "clients", .dropIndex "ix_client_owner_id" "clients",
    .dropIndex "ix_client_stage" "clients", .dropTable "clients"]
  | .clientPortalAuth =>
    [.dropIndex "ix_users_client_id" "users", .dropConstraint "fk_users_client_id" "users",
    .dropColumn "users" "client_id", .dropConstraint "users_role_check" "users",
    .addConstraint "users_role_check" "users" (.check (.isIn "role" priorRoles))]
  | .tickets =>
    [.dropIndex "ix_tickets_client_status" "tickets", .dropIndex "ix_tickets_created_at" "tickets",
    .dropIndex "ix_tickets_priority" "tickets", .dropIndex "ix_tickets_status" "tickets",
    .dropIndex "ix_tickets_client_id" "tickets", .dropTable "tickets"]
  | .messages =>
    [.dropIndex "ix_messages_client_id_created_at" "messages",
    .dropIndex "ix_messages_client_id" "messages", .dropTable "messages"]
  | .diagnosticJson => [.dropColumn "services" "diagnostic_json"]
  | .activityKinds =>
    [.dropConstraint "ck_activity_log_kind" "activity_log",
    .addConstraint "ck_activity_log_kind" "activity_log" (.check (.isIn "kind" priorKinds))]
  | .leadRoleBillingProfiles =>
    [.dropIndex "ix_billing_profile_client_id" "billing_profiles", .dropTable "billing_profiles",
    .dropColumn "leads" "role"]

/-! ### The catalogues -/

/-- `down_revision`. -/
def down : Revision → Option Revision
  | .initial => none
  | .crmCoreDomain => some .initial
  | .clientPortalAuth => some .crmCoreDomain
  | .tickets => some .clientPortalAuth
  | .messages => some .tickets
  | .diagnosticJson => some .messages
  | .activityKinds => some .diagnosticJson
  | .leadRoleBillingProfiles => some .activityKinds

/-- All revisions, from the first to the head. -/
def all : List Revision :=
  [.initial, .crmCoreDomain, .clientPortalAuth, .tickets, .messages, .diagnosticJson,
    .activityKinds, .leadRoleBillingProfiles]

/-- The revisions before this one. -/
def before (r : Revision) : List Revision := all.takeWhile fun x ↦ decide (x ≠ r)

/-- Each revision is down of the next one. -/
example (r : Revision) : (before r).getLast? = r.down := by cases r <;> rfl

/-- The catalogue before the upgrade to this revision. -/
def schemaBefore (r : Revision) : Catalogue String := alterAll (r.before.flatMap upgrade) []

/-- **The catalogue in force at this revision.** -/
def schema (r : Revision) : Catalogue String := alterAll r.upgrade r.schemaBefore

end Revision

/-- **The tables after every upgrade, in order.** -/
def migrated : Catalogue String := alterAll (Revision.all.flatMap Revision.upgrade) []

/-- The catalogue permits every upgrade, and an empty database accepts it. -/
theorem run_upgrades : ∃ d, run (Revision.all.flatMap Revision.upgrade) ⟨[], fun _ ↦ []⟩ =
    some ⟨migrated, d⟩ := by
  refine ⟨_, run_eq_some_iff.2 ⟨?_, ?_, rfl⟩⟩
  · decide +kernel
  · decide +kernel

end ZanovixCrm.Migrations
