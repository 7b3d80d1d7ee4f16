import NotifyHub.Lib.Ddl

/-! # Migrations 000001 and 000002

The scripts as lists of statements, with the names that Postgres gives to constraints
without one, and without the defaults of columns. Version 2 is what
`000002_add_tenants.up.sql` makes of version 1.

The down script drops `tenant_id`, and with the column goes the constraint that had
replaced `UNIQUE(user_id, channel)`. Nothing puts the old one back.
-/

namespace NotifyHub.Migrations

open Ddl Rows

def required (name : String) (type : ColumnType) : Column := ⟨name, type, true⟩

def nullable (name : String) (type : ColumnType) : Column := ⟨name, type, false⟩

def idColumn : Column := required "id" .uuid

def stamp (name : String) : Column := required name .timestamptz

def active : Column := required "is_active" .boolean

def pkey (table : String) : Constraint := ⟨table ++ "_pkey", .primaryKey ["id"]⟩

/-- UNIQUE on one column. -/
def key (table column : String) : Constraint :=
  ⟨table ++ "_" ++ column ++ "_key", .unique [column]⟩

def fkey (table column target : String) : Constraint :=
  ⟨table ++ "_" ++ column ++ "_fkey", .references column target⟩

def index (name : String) (columns : List String) : Index := ⟨name, columns⟩

/-- `UNIQUE(user_id, channel)`. -/
def preferencesKey : Constraint :=
  ⟨"preferences_user_id_channel_key", .unique ["user_id", "channel"]⟩

def apiClients : TableSchema :=
  { name := "api_clients"
    columns :=
      [idColumn, required "name" (.varchar 255), required "api_key_hash" (.varchar 255), active,
        stamp "created_at", stamp "updated_at"]
    constraints := [pkey "api_clients", key "api_clients" "api_key_hash"]
    indexes := [] }

def templates : TableSchema :=
  { name := "templates"
    columns :=
      [idColumn, required "name" (.varchar 255), required "channel" (.varchar 50),
        nullable "subject_template" .text, required "body_template" .text,
        nullable "metadata" .jsonb, required "version" .int, active,
        stamp "created_at", stamp "updated_at"]
    constraints := [pkey "templates", key "templates" "name"]
    indexes := [] }

def preferences : TableSchema :=
  { name := "preferences"
    columns :=
      [idColumn, required "user_id" (.varchar 255), required "channel" (.varchar 50),
        required "enabled" .boolean, nullable "quiet_hours_start" .time,
        nullable "quiet_hours_end" .time, nullable "frequency_cap" .int,
        nullable "frequency_window_minutes" .int,
        nullable "timezone" (.varchar 100), stamp "created_at", stamp "updated_at"]
    constraints := [pkey "preferences", preferencesKey]
    indexes := [] }

def notifications : TableSchema :=
  { name := "notifications"
    columns :=
      [idColumn, nullable "idempotency_key" (.varchar 255), required "type" (.varchar 100),
        required "channel" (.varchar 50), required "recipient_id" (.varchar 255),
        nullable "recipient_address" (.varchar 500), nullable "template_id" .uuid,
        required "payload" .jsonb, required "priority" .int,
        required "status" (.varchar 50), nullable "scheduled_at" .timestamptz,
        stamp "created_at", stamp "updated_at"]
    constraints :=
      [pkey "notifications", key "notifications" "idempotency_key",
        fkey "notifications" "template_id" "templates"]
    indexes := [] }

def deliveryLogs : TableSchema :=
  { name := "delivery_logs"
    columns :=
      [idColumn, required "notification_id" .uuid, required "channel" (.varchar 50),
        required "provider" (.varchar 100), required "status" (.varchar 50),
        nullable "provider_message_id" (.varchar 500), nullable "error_message" .text,
        nullable "error_code" (.varchar 100), required "retry_count" .int,
        stamp "attempted_at", nullable "delivered_at" .timestamptz]
    constraints :=
      [pkey "delivery_logs", fkey "delivery_logs" "notification_id" "notifications"]
    indexes := [] }

def tenants : TableSchema :=
  { name := "tenants"
    columns :=
      [idColumn, required "name" (.varchar 255), active, stamp "created_at", stamp "updated_at"]
    constraints := [pkey "tenants", key "tenants" "name"]
    indexes := [] }

/-- `000001_init.up.sql`. -/
def initUp : List Statement :=
  [.createTable apiClients,
    .createTable templates,
    .createIndex "templates" (index "idx_templates_channel" ["channel"]),
    .createIndex "templates" (index "idx_templates_name" ["name"]),
    .createTable preferences,
    .createIndex "preferences" (index "idx_preferences_user" ["user_id"]),
    .createTable notifications,
    .createIndex "notifications" (index "idx_notifications_status" ["status"]),
    .createIndex "notifications" (index "idx_notifications_recipient" ["recipient_id"]),
    .createIndex "notifications" (index "idx_notifications_scheduled" ["scheduled_at", "status"]),
    .createIndex "notifications" (index "idx_notifications_idempotency" ["idempotency_key"]),
    .createIndex "notifications" (index "idx_notifications_created" ["created_at"]),
    .createTable deliveryLogs,
    .createIndex "delivery_logs" (index "idx_delivery_notification" ["notification_id"]),
    .createIndex "delivery_logs" (index "idx_delivery_status" ["status"]),
    .createIndex "delivery_logs" (index "idx_delivery_attempted" ["attempted_at"])]

/-- `000002_add_tenants.up.sql`. -/
def addTenantsUp : List Statement :=
  [.createTable tenants,
    .addColumn "api_clients" "tenant_id" .uuid (some "tenants"),
    .createIndex "api_clients" (index "idx_api_clients_tenant" ["tenant_id"]),
    .addColumn "templates" "tenant_id" .uuid (some "tenants"),
    .createIndex "templates" (index "idx_templates_tenant" ["tenant_id"]),
    .addColumn "preferences" "tenant_id" .uuid (some "tenants"),
    .dropConstraint "preferences" "preferences_user_id_channel_key",
    .addUnique "preferences" "preferences_tenant_user_channel_key"
      ["tenant_id", "user_id", "channel"],
    .createIndex "preferences" (index "idx_preferences_tenant" ["tenant_id"]),
    .addColumn "notifications" "tenant_id" .uuid (some "tenants"),
    .createIndex "notifications" (index "idx_notifications_tenant" ["tenant_id"])]

/-- `000002_add_tenants.down.sql`. -/
def addTenantsDown : List Statement :=
  [.dropIndex "idx_notifications_tenant",
    .dropColumn "notifications" "tenant_id",
    .dropIndex "idx_preferences_tenant",
    .dropColumn "preferences" "tenant_id",
    .dropIndex "idx_templates_tenant",
    .dropColumn "templates" "tenant_id",
    .dropIndex "idx_api_clients_tenant",
    .dropColumn "api_clients" "tenant_id",
    .dropTable "tenants"]

@[irreducible] def version1 : Schema := (alter [] initUp).getD []

@[irreducible] def version2 : Schema := (alter version1 addTenantsUp).getD []

/-- Version 1 without `UNIQUE(user_id, channel)`. -/
@[irreducible] def rolledBack : Schema := version1.modify "preferences" (.dropConstraint preferencesKey.name)

/-- The statements run through, and down does not lead back to version 1. -/
theorem alter_versions :
    alter [] initUp = some version1 ∧ alter version1 addTenantsUp = some version2 ∧
      alter version2 addTenantsDown = some rolledBack := by
  decide +kernel

/-! ## The way back -/

/-- The constraints of a schema, by table and whatever their names. -/
def imposed (s : Schema) : List (String × Rule) :=
  s.flatMap fun t => t.constraints.map fun k => (t.name, k.rule)

section Rollback

variable {β : Type} {typed : ColumnType → β → Prop}

variable (typed) in
/-- The constraints are those of version 1, and the rows satisfy that version. -/
def Restored (db : Db β) : Prop :=
  (∀ entry, entry ∈ imposed db.schema ↔ entry ∈ imposed version1) ∧
    Db.Holds typed ⟨version1, db.rows⟩

theorem unchecked_addTenantsDown :
    ∀ statement ∈ addTenantsDown, ∀ rows : Contents β, statement.Checks rows := by
  simp [addTenantsDown, Statement.Checks]

/-- One constraint is gone, which is the one that `addUnique` would add. -/
theorem imposed_rolledBack :
    imposed rolledBack = (imposed version1).filter (· ≠ ("preferences", preferencesKey.rule)) ∧
      (∃ t ∈ version1, t.name = "preferences" ∧ preferencesKey ∈ t.constraints) ∧
      Statement.alter rolledBack
        (.addUnique "preferences" preferencesKey.name ["user_id", "channel"]) = some version1 := by
  decide +kernel

theorem mem_imposed_version1 : ("preferences", preferencesKey.rule) ∈ imposed version1 := by
  obtain ⟨t, member, named, constrained⟩ := imposed_rolledBack.2.1
  exact List.mem_flatMap.mpr ⟨t, member, List.mem_map.mpr ⟨preferencesKey, constrained, by rw [named]⟩⟩

theorem notMem_imposed_rolledBack : ("preferences", preferencesKey.rule) ∉ imposed rolledBack := by
  simp [imposed_rolledBack.1]

theorem not_restored {db : Db β} (down : db.schema = rolledBack) : ¬Restored typed db := by
  intro restored
  have there := (restored.1 _).mpr mem_imposed_version1
  rw [down] at there
  exact notMem_imposed_rolledBack there

/-- The rows of `preferences` keep their users and channels. -/
theorem rows_rolledBack (rows : Contents β) :
    addTenantsDown.foldl Statement.rewrite rows "preferences" =
      (rows "preferences").map (eraseCell "tenant_id") := by
  simp [addTenantsDown, Statement.rewrite, dropCells]

variable [DecidableEq β]

/-- What is missing is a statement that adds the constraint again, and that statement
    succeeds exactly on rows that allow it. -/
theorem holds_version1_iff {rows : Contents β} (holds : Db.Holds typed ⟨rolledBack, rows⟩) :
    Db.Holds typed ⟨version1, rows⟩ ↔
      UniqueOn (cells ["user_id", "channel"]) (rows "preferences") := by
  constructor
  · intro whole
    obtain ⟨t, member, named, constrained⟩ := imposed_rolledBack.2.1
    have rule := (whole.tables t member).rules preferencesKey constrained
    rw [named] at rule
    exact rule
  · intro unique
    have added : exec ⟨rolledBack, rows⟩
        (.addUnique "preferences" preferencesKey.name ["user_id", "channel"]) =
          some ⟨version1, rows⟩ := by
      have checks : (Statement.addUnique "preferences" preferencesKey.name
          ["user_id", "channel"]).Checks rows := unique
      rw [exec, if_pos checks, imposed_rolledBack.2.2]
      rfl
    exact exec_holds holds added

/-- Down runs through on every version-2 database and never leads back to version 1: the
    uniqueness of preferences is no constraint any more. The rows still satisfy it where no
    two preferences share user and channel. -/
theorem rollback_never_restores (typed : ColumnType → β → Prop) (db : Db β)
    (version : db.schema = version2) (holds : db.Holds typed) :
    ∃ after, run db addTenantsDown = some after ∧ after.Holds typed ∧ ¬Restored typed after ∧
      ("preferences", Rule.unique ["user_id", "channel"]) ∉ imposed after.schema ∧
      (∀ entry ∈ imposed version1, entry ≠ ("preferences", Rule.unique ["user_id", "channel"]) →
        entry ∈ imposed after.schema) ∧
      (Db.Holds typed ⟨version1, after.rows⟩ ↔
        UniqueOn (cells ["user_id", "channel"]) (db.rows "preferences")) := by
  obtain ⟨schema, rows⟩ := db
  simp only at version
  subst version
  have done := run_of_alter unchecked_addTenantsDown alter_versions.2.2 rows
  have after : Db.Holds typed ⟨rolledBack, addTenantsDown.foldl Statement.rewrite rows⟩ :=
    run_holds holds done
  refine ⟨_, done, after, not_restored rfl, notMem_imposed_rolledBack, ?_, ?_⟩
  · intro entry listed other
    rw [imposed_rolledBack.1]
    exact List.mem_filter.mpr ⟨listed, decide_eq_true other⟩
  · rw [holds_version1_iff after, rows_rolledBack]
    exact uniqueOn_eraseCell (by decide)

end Rollback

/-- Two tenants with a preference of the same user on the same channel. -/
def twoTenants : Db String :=
  { schema := version2
    rows := fun table =>
      if table = "tenants" then
        [[("id", "t1"), ("name", "acme"), ("is_active", "true"), ("created_at", "0"),
            ("updated_at", "0")],
          [("id", "t2"), ("name", "globex"), ("is_active", "true"), ("created_at", "0"),
            ("updated_at", "0")]]
      else if table = "preferences" then
        [[("id", "p1"), ("user_id", "u1"), ("channel", "email"), ("enabled", "true"),
            ("created_at", "0"), ("updated_at", "0"), ("tenant_id", "t1")],
          [("id", "p2"), ("user_id", "u1"), ("channel", "email"), ("enabled", "false"),
            ("created_at", "0"), ("updated_at", "0"), ("tenant_id", "t2")]]
      else [] }

theorem twoTenants_holds : twoTenants.Holds fun _ _ => True := by
  have names : version2.names = ["api_clients", "templates", "preferences", "notifications",
      "delivery_logs", "tenants"] := by decide +kernel
  constructor
  · intro table unlisted
    have other : table ∉ version2.names := unlisted
    rw [names] at other
    simp only [List.mem_cons, not_or] at other
    simp only [twoTenants, if_neg other.2.2.2.2.2.1, if_neg other.2.2.1]
  · have each : ∀ t ∈ version2, t.Holds (fun _ _ => True) twoTenants.rows := by decide +kernel
    exact each

/-- After down neither is the constraint there nor could it be added. -/
theorem twoTenants_not_restored :
    twoTenants.Holds (fun _ _ => True) ∧
    ∃ after, run twoTenants addTenantsDown = some after ∧ ¬Restored (fun _ _ => True) after ∧
      ¬UniqueOn (cells ["user_id", "channel"]) (after.rows "preferences") := by
  have done := run_of_alter unchecked_addTenantsDown alter_versions.2.2 twoTenants.rows
  refine ⟨twoTenants_holds, _, done, ?_, ?_⟩
  · exact not_restored rfl
  · have shared : ¬(((addTenantsDown.foldl Statement.rewrite twoTenants.rows) "preferences").filterMap
        (cells ["user_id", "channel"])).Nodup := by decide +kernel
    exact shared

/-- A database without any rows fares no better. -/
theorem emptyDatabase_not_restored :
    ∃ after, run (⟨version2, fun _ => []⟩ : Db String) addTenantsDown = some after ∧
      ¬Restored (fun _ _ => True) after := by
  have holds : Db.Holds (fun _ _ => True) (⟨version2, fun _ => []⟩ : Db String) :=
    ⟨fun _ _ => rfl, by decide +kernel⟩
  obtain ⟨after, done, _, lost, _⟩ := rollback_never_restores (fun _ _ => True) _ rfl holds
  exact ⟨after, done, lost⟩

end NotifyHub.Migrations
