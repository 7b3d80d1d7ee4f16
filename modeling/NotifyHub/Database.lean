import NotifyHub.Domain
import NotifyHub.Lib.Rows

/-! # The relational schema

Tables `tenants`, `templates` and `notifications` after migrations 000001 and
000002, with their primary keys, UNIQUE and REFERENCES constraints as fields of
`Database`: a content that breaks one cannot be built. The constraint fields
carry the names Postgres gives the constraints.

`name` and `idempotency_key` became UNIQUE before `tenant_id` existed, and
migration 000002 leaves both constraints as they were, across all tenants.
-/

namespace NotifyHub

open Rows

/-- A row of `templates`; `tenant_id` and `metadata` are nullable. -/
structure TemplateRow where
  id : UUID
  tenantID : Option UUID
  name : String
  channel : Channel
  subjectTemplate : Option String
  bodyTemplate : String
  metadata : Option JSONMap
  version : Int
  isActive : Bool
  createdAt : Time
  updatedAt : Time
  deriving Repr, DecidableEq

/-- A row of `notifications`; `tenant_id`, `recipient_address`, `idempotency_key`,
    `template_id` and `scheduled_at` are nullable. -/
structure NotificationRow where
  id : UUID
  tenantID : Option UUID
  idempotencyKey : Option String
  type : String
  channel : Channel
  recipientID : String
  recipientAddress : Option String
  templateID : Option UUID
  payload : JSONMap
  priority : Int
  status : NotificationStatus
  scheduledAt : Option Time
  createdAt : Time
  updatedAt : Time
  deriving Repr, DecidableEq

/-- A content of the three tables that satisfies the schema. Of `tenants` only the
    primary key is referenced. -/
structure Database where
  tenants : List UUID
  templates : List TemplateRow
  notifications : List NotificationRow
  templates_pkey : UniqueOn (fun t : TemplateRow => some t.id) templates
  templates_name_key : UniqueOn (fun t : TemplateRow => some t.name) templates
  templates_tenant_id_fkey : ∀ t ∈ templates, ∀ x ∈ t.tenantID, x ∈ tenants
  notifications_pkey : UniqueOn (fun n : NotificationRow => some n.id) notifications
  notifications_idempotency_key_key :
    UniqueOn (fun n : NotificationRow => n.idempotencyKey) notifications
  notifications_tenant_id_fkey : ∀ n ∈ notifications, ∀ x ∈ n.tenantID, x ∈ tenants
  notifications_template_id_fkey :
    ∀ n ∈ notifications, ∀ x ∈ n.templateID, ∃ t ∈ templates, t.id = x

/-- What a statement reports beside a row. The reason of a rejected statement is
    for the log only. -/
inductive SqlError where
  | noRows
  | rejected (reason : String)
  | connection
  deriving Repr, DecidableEq

/-- Whether the driver reaches the database during one call. -/
inductive Conn where
  | up
  | down
  deriving Repr, DecidableEq

/-- A statement that does not reach the database has no effect. -/
def Conn.exec {α : Type} (conn : Conn) (result : Except SqlError α) : Except SqlError α :=
  match conn with
  | .up => result
  | .down => .error .connection

/-- Storing text into `VARCHAR(limit)`: over-length text is refused unless the
    excess is spaces only, which Postgres cuts off. -/
def varchar (limit : Nat) (s : String) : Option String :=
  if s.length ≤ limit then some s
  else if (s.toList.drop limit).all (· == ' ') then some (String.ofList (s.toList.take limit))
  else none

/-- Coerce a nullable value to a `VARCHAR(limit)` column. -/
def varcharOpt (limit : Nat) : Option String → Option (Option String)
  | none => some none
  | some s => (varchar limit s).map some

theorem length_of_varchar {limit : Nat} {s stored : String} (fits : varchar limit s = some stored) :
    stored.length ≤ limit := by
  unfold varchar at fits
  split at fits
  · obtain rfl := Option.some.inj fits
    assumption
  · split at fits
    · obtain rfl := Option.some.inj fits
      simp
    · simp at fits

/-- What a column holds fits the column. -/
theorem varchar_stored {limit : Nat} {s stored : String} (fits : varchar limit s = some stored) :
    varchar limit stored = some stored :=
  if_pos (length_of_varchar fits)

theorem varchar_eq_self_iff {limit : Nat} {s stored : String} (fits : varchar limit s = some stored) :
    stored = s ↔ s.length ≤ limit := by
  constructor
  · rintro rfl
    exact length_of_varchar fits
  · intro short
    rw [varchar, if_pos short] at fits
    exact (Option.some.inj fits).symm

/-- `int32(x)` on a Go `int`. -/
def int32 (x : Int) : Int := x.bmod (2 ^ 32)

theorem int32_eq_self_iff {a : Int} (positive : 1 ≤ a) : int32 a = a ↔ a < 2 ^ 31 := by
  simp only [int32, Int.bmod_def]
  omega

/-- 64-bit wrap-around of Go `int` arithmetic. -/
def int64 (x : Int) : Int := x.bmod (2 ^ 64)

/-- `LIMIT limit OFFSET offset`; Postgres refuses negative values. -/
def page {α : Type} (limit offset : Int) (rows : List α) : Except SqlError (List α) :=
  if limit < 0 then .error (.rejected "LIMIT must not be negative")
  else if offset < 0 then .error (.rejected "OFFSET must not be negative")
  else .ok ((rows.drop offset.toNat).take limit.toNat)

namespace Database

/-- The constraint checks of an INSERT into `notifications`. -/
def AcceptsNotification (db : Database) (row : NotificationRow) : Prop :=
  row.id ∉ db.notifications.map (·.id) ∧
  (∀ k ∈ row.idempotencyKey, k ∉ db.notifications.filterMap (·.idempotencyKey)) ∧
  (∀ x ∈ row.tenantID, x ∈ db.tenants) ∧
  (∀ x ∈ row.templateID, x ∈ db.templates.map (·.id))

instance (db : Database) (row : NotificationRow) : Decidable (db.AcceptsNotification row) :=
  inferInstanceAs (Decidable (_ ∧ _ ∧ _ ∧ _))

def addNotification (db : Database) (row : NotificationRow)
    (accepted : db.AcceptsNotification row) : Database :=
  { db with
    notifications := db.notifications ++ [row]
    notifications_pkey := db.notifications_pkey.insert (by
      intro k same
      obtain rfl := Option.some.inj same
      rw [Rows.filterMap_some_eq]
      exact accepted.1)
    notifications_idempotency_key_key :=
      db.notifications_idempotency_key_key.insert fun k same => accepted.2.1 k same
    notifications_tenant_id_fkey := by
      intro n member
      rcases List.mem_append.mp member with old | new
      · exact db.notifications_tenant_id_fkey n old
      · obtain rfl := List.mem_singleton.mp new
        exact accepted.2.2.1
    notifications_template_id_fkey := by
      intro n member x ref
      rcases List.mem_append.mp member with old | new
      · exact db.notifications_template_id_fkey n old x ref
      · obtain rfl := List.mem_singleton.mp new
        exact List.mem_map.mp (accepted.2.2.2 x ref) }

/-- Tenants that own nothing yet. -/
def ofTenants (tenants : List UUID) : Database :=
  { tenants := tenants
    templates := []
    notifications := []
    templates_pkey := UniqueOn.empty
    templates_name_key := UniqueOn.empty
    templates_tenant_id_fkey := by simp
    notifications_pkey := UniqueOn.empty
    notifications_idempotency_key_key := UniqueOn.empty
    notifications_tenant_id_fkey := by simp
    notifications_template_id_fkey := by simp }

/-- The same tenants and templates, and no notification. -/
def withoutNotifications (db : Database) : Database :=
  { db with
    notifications := []
    notifications_pkey := UniqueOn.empty
    notifications_idempotency_key_key := UniqueOn.empty
    notifications_tenant_id_fkey := by simp
    notifications_template_id_fkey := by simp }

/-- `SET status = ..., updated_at = NOW()`. -/
def stamp (status : NotificationStatus) (now : Time) (row : NotificationRow) : NotificationRow :=
  { row with status := status, updatedAt := now }

/-- `UPDATE notifications SET status = ..., updated_at = NOW() WHERE cond`, the only
    update the program makes to this table. -/
def stampWhere (db : Database) (cond : NotificationRow → Bool) (status : NotificationStatus)
    (now : Time) : Database :=
  { db with
    notifications := updateWhere cond (stamp status now) db.notifications
    notifications_pkey := db.notifications_pkey.updateWhere fun _ => rfl
    notifications_idempotency_key_key :=
      db.notifications_idempotency_key_key.updateWhere fun _ => rfl
    notifications_tenant_id_fkey := by
      intro n member
      obtain ⟨old, oldMem, rfl⟩ := mem_updateWhere.mp member
      have kept : (if cond old then stamp status now old else old).tenantID = old.tenantID := by
        split <;> rfl
      rw [kept]
      exact db.notifications_tenant_id_fkey old oldMem
    notifications_template_id_fkey := by
      intro n member
      obtain ⟨old, oldMem, rfl⟩ := mem_updateWhere.mp member
      have kept : (if cond old then stamp status now old else old).templateID = old.templateID := by
        split <;> rfl
      rw [kept]
      exact db.notifications_template_id_fkey old oldMem }

/-- The constraint checks of an INSERT into `templates`. -/
def AcceptsTemplate (db : Database) (row : TemplateRow) : Prop :=
  row.id ∉ db.templates.map (·.id) ∧
  row.name ∉ db.templates.map (·.name) ∧
  (∀ x ∈ row.tenantID, x ∈ db.tenants)

instance (db : Database) (row : TemplateRow) : Decidable (db.AcceptsTemplate row) :=
  inferInstanceAs (Decidable (_ ∧ _ ∧ _))

def addTemplate (db : Database) (row : TemplateRow) (accepted : db.AcceptsTemplate row) :
    Database :=
  { db with
    templates := db.templates ++ [row]
    templates_pkey := db.templates_pkey.insert (by
      intro k same
      obtain rfl := Option.some.inj same
      rw [Rows.filterMap_some_eq]
      exact accepted.1)
    templates_name_key := db.templates_name_key.insert (by
      intro k same
      obtain rfl := Option.some.inj same
      rw [Rows.filterMap_some_eq]
      exact accepted.2.1)
    templates_tenant_id_fkey := by
      intro t member
      rcases List.mem_append.mp member with old | new
      · exact db.templates_tenant_id_fkey t old
      · obtain rfl := List.mem_singleton.mp new
        exact accepted.2.2
    notifications_template_id_fkey := by
      intro n member x ref
      obtain ⟨t, found, same⟩ := db.notifications_template_id_fkey n member x ref
      exact ⟨t, List.mem_append_left _ found, same⟩ }

/-- A SET clause on `templates` that leaves the constrained columns alone. -/
structure TemplateUpdate where
  set : TemplateRow → TemplateRow
  id : ∀ t, (set t).id = t.id
  name : ∀ t, (set t).name = t.name
  tenantID : ∀ t, (set t).tenantID = t.tenantID

/-- `UPDATE templates SET ... WHERE cond`. -/
def setTemplates (db : Database) (cond : TemplateRow → Bool) (update : TemplateUpdate) : Database :=
  { db with
    templates := updateWhere cond update.set db.templates
    templates_pkey := db.templates_pkey.updateWhere fun t => congrArg some (update.id t)
    templates_name_key := db.templates_name_key.updateWhere fun t => congrArg some (update.name t)
    templates_tenant_id_fkey := by
      intro t member
      obtain ⟨old, oldMem, rfl⟩ := mem_updateWhere.mp member
      have kept : (if cond old then update.set old else old).tenantID = old.tenantID := by
        split
        · exact update.tenantID old
        · rfl
      rw [kept]
      exact db.templates_tenant_id_fkey old oldMem
    notifications_template_id_fkey := by
      intro n member x ref
      have found := List.mem_map.mpr (db.notifications_template_id_fkey n member x ref)
      have kept : (updateWhere cond update.set db.templates).map (·.id) =
          db.templates.map (·.id) := map_updateWhere update.id
      rw [← kept] at found
      exact List.mem_map.mp found }

/-- Primary keys identify rows. -/
theorem notification_ext {db : Database} {left right : NotificationRow}
    (leftMem : left ∈ db.notifications) (rightMem : right ∈ db.notifications)
    (same : left.id = right.id) : left = right :=
  db.notifications_pkey.eq_of_mem leftMem rightMem rfl (congrArg some same.symm)

theorem find_notification {db : Database} {row : NotificationRow}
    (stored : row ∈ db.notifications) :
    db.notifications.find? (fun r => r.id == row.id) = some row := by
  cases found : db.notifications.find? fun r => r.id == row.id with
  | none => simpa using List.find?_eq_none.mp found row stored
  | some other =>
      have same : other.id = row.id := by simpa using List.find?_some found
      rw [notification_ext (List.mem_of_find?_eq_some found) stored same]

/-- Rows an update leaves pending are rows it did not touch. -/
theorem untouched_of_pending {db : Database} {cond : NotificationRow → Bool}
    {status : NotificationStatus} {time : Time} {row : NotificationRow}
    (moves : status ≠ .pending) (pending : row.status = .pending)
    (stored : row ∈ (db.stampWhere cond status time).notifications) :
    row ∈ db.notifications ∧ cond row = false := by
  obtain ⟨old, oldMem, rfl⟩ := mem_updateWhere.mp stored
  by_cases hit : cond old = true
  · simp only [hit, if_true] at pending
    exact absurd pending moves
  · simp only [hit, Bool.false_eq_true, if_false]
    exact ⟨oldMem, trivial⟩

/-! ## Ownership -/

def ownNotification (tenantID : UUID) (n : NotificationRow) : Bool := n.tenantID == some tenantID

def ownTemplate (tenantID : UUID) (t : TemplateRow) : Bool := t.tenantID == some tenantID

end Database

end NotifyHub
