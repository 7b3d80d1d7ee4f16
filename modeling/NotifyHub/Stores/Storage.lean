import NotifyHub.Database
import NotifyHub.Lib.Table

/-! # The tables beside the core

`preferences`, `inapp_messages`, `device_tokens`, `dead_letter_messages`,
`webhook_endpoints` and `webhook_deliveries` after all migrations, over the core
tables they reference. All of them but the last have a `tenant_id`; a delivery
belongs to the tenant of its endpoint.
-/

namespace NotifyHub

open Rows

/-! ## Times of day -/

/-- A TIME column as the program uses it, in minutes. -/
abbrev TimeOfDay := Fin 1440

def clock (hour minute : Nat) : Option TimeOfDay :=
  if inside : hour < 24 ∧ minute < 60 then some ⟨hour * 60 + minute, by omega⟩ else none

def digitValue (c : Char) : Option Nat := (List.range 10).find? fun d => Nat.digitChar d == c

/-- `time.Parse("15:04", s)`, which also takes an hour of one digit. -/
def parseTimeOfDay (s : String) : Option TimeOfDay :=
  match s.toList with
  | [h, ':', m₁, m₀] => do
      clock (← digitValue h) ((← digitValue m₁) * 10 + (← digitValue m₀))
  | [h₁, h₀, ':', m₁, m₀] => do
      clock ((← digitValue h₁) * 10 + (← digitValue h₀))
        ((← digitValue m₁) * 10 + (← digitValue m₀))
  | _ => none

/-- `t.Format("15:04")`. -/
def formatTimeOfDay (t : TimeOfDay) : String :=
  String.ofList
    [Nat.digitChar (t.val / 60 / 10), Nat.digitChar (t.val / 60 % 10), ':',
      Nat.digitChar (t.val % 60 / 10), Nat.digitChar (t.val % 60 % 10)]

theorem digitValue_digitChar : ∀ d < 10, digitValue (Nat.digitChar d) = some d := by
  decide

theorem parse_format (t : TimeOfDay) : parseTimeOfDay (formatTimeOfDay t) = some t := by
  have bound := t.isLt
  have h₁ := digitValue_digitChar (t.val / 60 / 10) (by omega)
  have h₀ := digitValue_digitChar (t.val / 60 % 10) (by omega)
  have m₁ := digitValue_digitChar (t.val % 60 / 10) (by omega)
  have m₀ := digitValue_digitChar (t.val % 60 % 10) (by omega)
  have hour : t.val / 60 / 10 * 10 + t.val / 60 % 10 = t.val / 60 := by omega
  have minute : t.val % 60 / 10 * 10 + t.val % 60 % 10 = t.val % 60 := by omega
  have inside : t.val / 60 < 24 ∧ t.val % 60 < 60 := by omega
  have whole : t.val / 60 * 60 + t.val % 60 = t.val := by omega
  simp only [parseTimeOfDay, formatTimeOfDay, String.toList_ofList, h₁, h₀, m₁, m₀, hour, minute,
    clock, dif_pos inside, whole, Option.bind_eq_bind, Option.bind_some]

/-! ## Rows -/

structure PreferenceRow where
  id : UUID
  tenantID : Option UUID
  userID : String
  channel : Channel
  enabled : Bool
  quietHoursStart : Option TimeOfDay
  quietHoursEnd : Option TimeOfDay
  frequencyCap : Option Int
  frequencyWindowMinutes : Option Int
  timezone : Option String
  createdAt : Time
  updatedAt : Time
  deriving Repr, DecidableEq

structure InAppRow where
  id : UUID
  tenantID : UUID
  notificationID : Option UUID
  recipientID : String
  title : String
  body : String
  payload : JSONMap
  readAt : Option Time
  createdAt : Time
  deriving Repr, DecidableEq

structure DeviceTokenRow where
  id : UUID
  tenantID : UUID
  userID : String
  token : String
  platform : String
  isActive : Bool
  createdAt : Time
  updatedAt : Time
  deriving Repr, DecidableEq

/-- `notification_id` references nothing. The payload is kept as its JSON text. -/
structure DeadLetterRow where
  id : UUID
  tenantID : UUID
  notificationID : UUID
  channel : Channel
  originalTopic : String
  payload : String
  failureReason : String
  errorMessage : String
  attempts : Int
  replayedAt : Option Time
  createdAt : Time
  deriving Repr, DecidableEq

/-- `events` is a JSON array of strings, or JSON null. -/
structure WebhookEndpointRow where
  id : UUID
  tenantID : UUID
  url : String
  secret : String
  events : Option (List String)
  isActive : Bool
  createdAt : Time
  updatedAt : Time
  deriving Repr, DecidableEq

structure WebhookDeliveryRow where
  id : UUID
  endpointID : UUID
  notificationID : Option UUID
  event : String
  payload : JSONMap
  status : String
  attempt : Int
  nextRetryAt : Option Time
  lastError : Option String
  responseStatus : Option Int
  createdAt : Time
  updatedAt : Time
  deriving Repr, DecidableEq

/-! ## Constraints -/

/-- `REFERENCES notifications(id)`, of whatever tenant. -/
def Database.hasNotification (db : Database) (id : UUID) : Bool :=
  db.notifications.any (·.id == id)

/-- `UNIQUE (tenant_id, user_id, channel)`. -/
def PreferenceRow.key (row : PreferenceRow) : Option (UUID × String × String) :=
  row.tenantID.map fun tenantID => (tenantID, row.userID, row.channel.text)

def PreferenceRow.Valid (db : Database) (row : PreferenceRow) : Prop :=
  ∀ x ∈ row.tenantID, x ∈ db.tenants

def InAppRow.Valid (db : Database) (row : InAppRow) : Prop :=
  row.tenantID ∈ db.tenants ∧ ∀ x ∈ row.notificationID, db.hasNotification x = true

/-- `UNIQUE (tenant_id, token)`. -/
def DeviceTokenRow.key (row : DeviceTokenRow) : Option (UUID × String) :=
  some (row.tenantID, row.token)

/-- `CHECK (platform IN ('ios', 'android', 'web'))`. -/
def knownPlatform (platform : String) : Bool := ["ios", "android", "web"].contains platform

def DeviceTokenRow.Valid (db : Database) (row : DeviceTokenRow) : Prop :=
  row.tenantID ∈ db.tenants ∧ knownPlatform row.platform = true

def DeadLetterRow.Valid (db : Database) (row : DeadLetterRow) : Prop :=
  row.tenantID ∈ db.tenants

def WebhookEndpointRow.Valid (db : Database) (row : WebhookEndpointRow) : Prop :=
  row.tenantID ∈ db.tenants

def WebhookDeliveryRow.Valid (db : Database) (endpoints : List WebhookEndpointRow)
    (row : WebhookDeliveryRow) : Prop :=
  row.endpointID ∈ endpoints.map (·.id) ∧ ∀ x ∈ row.notificationID, db.hasNotification x = true

instance (db : Database) : DecidablePred (PreferenceRow.Valid db) :=
  fun _ => inferInstanceAs (Decidable (∀ _ ∈ _, _))

instance (db : Database) : DecidablePred (InAppRow.Valid db) :=
  fun _ => inferInstanceAs (Decidable (_ ∧ _))

instance (db : Database) : DecidablePred (DeviceTokenRow.Valid db) :=
  fun _ => inferInstanceAs (Decidable (_ ∧ _))

instance (db : Database) : DecidablePred (DeadLetterRow.Valid db) :=
  fun _ => inferInstanceAs (Decidable (_ ∈ _))

instance (db : Database) : DecidablePred (WebhookEndpointRow.Valid db) :=
  fun _ => inferInstanceAs (Decidable (_ ∈ _))

/-- A table without a UNIQUE constraint. -/
def noKey {ρ : Type} (_ : ρ) : Option Unit := none

structure Storage where
  core : Database
  preferences : Table PreferenceRow.id PreferenceRow.key (PreferenceRow.Valid core)
  inapp : Table InAppRow.id noKey (InAppRow.Valid core)
  deviceTokens : Table DeviceTokenRow.id DeviceTokenRow.key (DeviceTokenRow.Valid core)
  deadLetters : Table DeadLetterRow.id noKey (DeadLetterRow.Valid core)
  endpoints : Table WebhookEndpointRow.id noKey (WebhookEndpointRow.Valid core)
  deliveries : Table WebhookDeliveryRow.id noKey (WebhookDeliveryRow.Valid core endpoints.rows)

/-- The core tables, and nothing in the others. -/
def Storage.ofCore (core : Database) : Storage :=
  { core := core
    preferences := .empty
    inapp := .empty
    deviceTokens := .empty
    deadLetters := .empty
    endpoints := .empty
    deliveries := .empty }

/-! ## Statements -/

section

variable {ρ κ : Type} [DecidableEq κ] {id : ρ → UUID} {key : ρ → Option κ} {Valid : ρ → Prop}
  [DecidablePred Valid]

/-- `INSERT ... RETURNING *`. -/
def insertRow (t : Table id key Valid) (row : ρ) : Except SqlError (ρ × Table id key Valid) :=
  if accepted : t.Accepts row then .ok (row, t.insert row accepted)
  else .error (.rejected "constraint violation")

/-- `INSERT ... ON CONFLICT (key) DO UPDATE ... RETURNING *`. -/
def upsertRow (t : Table id key Valid) (row : ρ) (change : Table.Change id key Valid) :
    Except SqlError (ρ × Table id key Valid) :=
  match t.rows.find? (key · == key row) with
  | some old => .ok (change.set old, t.update (key · == key row) change)
  | none => insertRow t row

/-- An upsert leaves one row under the key, the new one or the old one changed, and the rows under
    other keys. -/
theorem upsertRow_ok {t t' : Table id key Valid} {row stored : ρ} {change : Table.Change id key Valid}
    (done : upsertRow t row change = .ok (stored, t')) :
    stored ∈ t'.rows ∧ key stored = key row ∧
      (stored = row ∨ ∃ old ∈ t.rows, stored = change.set old) ∧
      ∀ cond : ρ → Bool, (∀ other, cond other = true → key other ≠ key row) →
        t'.rows.filter cond = t.rows.filter cond := by
  unfold upsertRow at done
  split at done
  · rename_i old found
    simp only [Except.ok.injEq, Prod.mk.injEq] at done
    obtain ⟨rfl, rfl⟩ := done
    have same : key old = key row := by simpa using List.find?_some found
    have listed := List.mem_of_find?_eq_some found
    refine ⟨?_, (change.key old).trans same, .inr ⟨old, listed, rfl⟩, ?_⟩
    · exact mem_updateWhere.mpr ⟨old, listed, by simp [same]⟩
    · intro cond apart
      have rest : (updateWhere (key · == key row) change.set t.rows).filter
          (fun other => !(key other == key row)) = t.rows.filter fun other => !(key other == key row) :=
        others_updateWhere (fun _ same => same) fun other => by rw [change.key]
      exact filter_congr rest fun other chosen => by simpa using apart other chosen
  · unfold insertRow at done
    split at done
    · simp only [Except.ok.injEq, Prod.mk.injEq] at done
      obtain ⟨rfl, rfl⟩ := done
      refine ⟨by simp [Table.insert], rfl, .inl rfl, ?_⟩
      intro cond apart
      have new : cond row = false := Bool.eq_false_iff.mpr fun chosen => apart row chosen rfl
      simp [Table.insert, new]
    · cases done

/-! ### The same on the rows alone

A write answers with a row or an error; `after` is what it leaves of the rows. -/

/-- `op` is the statement's answer and the rows it leaves. -/
def Leaves (result : Except SqlError (ρ × Table id key Valid)) (before : List ρ)
    (op : Except SqlError ρ × List ρ) : Prop :=
  match result with
  | .error e => op = (.error e, before)
  | .ok (row, t) => op = (.ok row, t.rows)

def insertRows (row : ρ) (accepted : Bool) (rows : List ρ) : Except SqlError ρ × List ρ :=
  if accepted then (.ok row, rows ++ [row]) else (.error (.rejected "constraint violation"), rows)

/-- With the row in conflict, if there is one. -/
def resolveRows (key : ρ → Option κ) (row : ρ) (set : ρ → ρ) (valid : Bool) :
    Option ρ → List ρ → Except SqlError ρ × List ρ
  | some old, rows => (.ok (set old), updateWhere (key · == key row) set rows)
  | none, rows => insertRows row valid rows

def upsertRows (key : ρ → Option κ) (row : ρ) (set : ρ → ρ) (valid : Bool) (rows : List ρ) :
    Except SqlError ρ × List ρ :=
  resolveRows key row set valid (rows.find? (key · == key row)) rows

variable {t : Table id key Valid} {row : ρ} {change : Table.Change id key Valid} {mine : ρ → Bool}

theorem insertRow_leaves :
    Leaves (insertRow t row) t.rows (insertRows row (decide (t.Accepts row)) t.rows) := by
  by_cases accepted : t.Accepts row
  · simp [insertRow, insertRows, accepted, Leaves, Table.insert]
  · simp [insertRow, insertRows, accepted, Leaves]

/-- Where no row has the key, and the id is new, the conditions on the row decide. -/
theorem upsertRow_leaves (fresh : id row ∉ t.rows.map id) :
    Leaves (upsertRow t row change) t.rows
      (upsertRows key row change.set (decide (Valid row)) t.rows) := by
  cases found : t.rows.find? (key · == key row) with
  | some old => simp [upsertRow, upsertRows, resolveRows, found, Leaves, Table.update]
  | none =>
      have absent : ∀ k ∈ key row, k ∉ t.rows.filterMap key := by
        intro k same present
        obtain ⟨other, stored, clash⟩ := List.mem_filterMap.mp present
        have missed := List.find?_eq_none.mp found other stored
        exact missed (by simp [clash, Option.mem_def.mp same])
      have decides : t.Accepts row ↔ Valid row :=
        ⟨fun accepted => accepted.2.2, fun valid => ⟨fresh, absent, valid⟩⟩
      have inserted : Leaves (insertRow t row) t.rows
          (insertRows row (decide (Valid row)) t.rows) := by
        simpa only [decides] using (insertRow_leaves : Leaves (insertRow t row) t.rows _)
      simpa only [upsertRow, upsertRows, resolveRows, found] using inserted

omit [DecidableEq κ] in
theorem insertRows_private {accepted : Bool} (own : mine row = true) :
    Private mine (insertRows row accepted) := by
  cases accepted with
  | true => exact Private.insert own _
  | false => exact Private.read (f := fun _ => _) (fun _ _ _ => rfl)

theorem upsertRows_private {set : ρ → ρ} {valid : Bool} (own : mine row = true)
    (owned : ∀ other, key other = key row → mine other = true)
    (keeps : ∀ other, mine (set other) = mine other) :
    Private mine (upsertRows key row set valid) := by
  have conflicts : ∀ other, (key other == key row) = true → mine other = true :=
    fun other same => owned other (by simpa using same)
  have each : ∀ found, Private mine (resolveRows key row set valid found) := by
    intro found
    cases found with
    | some old => exact Private.update conflicts keeps _
    | none => exact insertRows_private own
  have chosen : Private mine fun rows => resolveRows key row set valid
      (rows.find? (key · == key row)) rows := Private.choose (Local.find? conflicts) each
  exact chosen

end

/-- The text of an error that the driver returns. -/
def SqlError.err : SqlError → Err
  | .noRows => .plain "sql: no rows in result set"
  | .rejected reason => .plain reason
  | .connection => .plain "driver: bad connection"

/-- `fmt.Errorf(context + ": %w", err)` on what a call returns. -/
def wrapError {α : Type} (context : String) : Except SqlError α → Except Err α
  | .error e => .error (.wrap context e.err)
  | .ok a => .ok a

end NotifyHub
