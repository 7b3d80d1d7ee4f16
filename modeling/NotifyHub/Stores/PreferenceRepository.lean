import Mathlib.Data.List.Sort
import Mathlib.Data.String.Basic
import NotifyHub.Stores.Storage

/-! # `postgresPreferenceRepo`

The statements of `queries/preference.sql` and the operations over them.
-/

namespace NotifyHub

open Rows

structure Preference where
  id : UUID
  userID : String
  channel : Channel
  enabled : Bool
  quietHoursStart : Option String
  quietHoursEnd : Option String
  frequencyCap : Option Int
  frequencyWindowMinutes : Int
  timezone : String
  createdAt : Time
  updatedAt : Time
  deriving Repr, DecidableEq

structure UpsertPreferenceRequest where
  enabled : Bool
  quietHoursStart : Option String
  quietHoursEnd : Option String
  frequencyCap : Option Int
  frequencyWindowMinutes : Option Int
  timezone : Option String
  deriving Repr, DecidableEq

/-! ## Statements -/

/-- `WHERE tenant_id = $1 AND user_id = $2 AND channel = $3`. -/
def preferenceAt (tenantID : UUID) (userID : String) (channel : Channel) (p : PreferenceRow) :
    Bool :=
  p.tenantID == some tenantID && p.userID == userID && p.channel.text == channel.text

def getPreference (rows : List PreferenceRow) (tenantID : UUID) (userID : String)
    (channel : Channel) : Except SqlError PreferenceRow :=
  match rows.find? (preferenceAt tenantID userID channel) with
  | none => .error .noRows
  | some row => .ok row

/-- `WHERE tenant_id = $1 AND user_id = $2`. -/
def preferenceOf (tenantID : UUID) (userID : String) (p : PreferenceRow) : Bool :=
  p.tenantID == some tenantID && p.userID == userID

/-- `ORDER BY channel ASC`. -/
def listPreferencesByUser (rows : List PreferenceRow) (tenantID : UUID) (userID : String) :
    List PreferenceRow :=
  (rows.filter (preferenceOf tenantID userID)).insertionSort fun a b =>
    a.channel.text ≤ b.channel.text

structure UpsertPreferenceParams where
  tenantID : UUID
  userID : String
  channel : Channel
  enabled : Bool
  quietHoursStart : Option TimeOfDay
  quietHoursEnd : Option TimeOfDay
  frequencyCap : Option Int
  frequencyWindowMinutes : Option Int
  timezone : Option String

/-- The row proposed for insertion, which the DO UPDATE clause calls EXCLUDED. -/
def UpsertPreferenceParams.row (p : UpsertPreferenceParams) (id : UUID) (now : Time) :
    Option PreferenceRow := do
  let userID ← varchar 255 p.userID
  let channel ← varchar 50 p.channel.text
  let timezone ← varcharOpt 100 p.timezone
  return {
    id := id
    tenantID := some p.tenantID
    userID := userID
    channel := .ofText channel
    enabled := p.enabled
    quietHoursStart := p.quietHoursStart
    quietHoursEnd := p.quietHoursEnd
    frequencyCap := p.frequencyCap
    frequencyWindowMinutes := p.frequencyWindowMinutes
    timezone := timezone
    createdAt := now
    updatedAt := now }

/-- The DO UPDATE clause. -/
def replacePreference (db : Database) (excluded : PreferenceRow) (now : Time) :
    Table.Change PreferenceRow.id PreferenceRow.key (PreferenceRow.Valid db) :=
  { set := fun p =>
      { p with
        enabled := excluded.enabled
        quietHoursStart := excluded.quietHoursStart
        quietHoursEnd := excluded.quietHoursEnd
        frequencyCap := excluded.frequencyCap
        frequencyWindowMinutes := excluded.frequencyWindowMinutes
        timezone := excluded.timezone
        updatedAt := now }
    id := fun _ => rfl
    key := fun _ => rfl
    valid := fun _ valid => valid }

def upsertPreference (s : Storage) (p : UpsertPreferenceParams) (id : UUID) (now : Time) :
    Except SqlError (PreferenceRow × Storage) :=
  match p.row id now with
  | none => .error (.rejected "value too long for type character varying")
  | some row =>
      match upsertRow s.preferences row (replacePreference s.core row now) with
      | .error e => .error e
      | .ok (stored, preferences) => .ok (stored, { s with preferences := preferences })

def deletePreference (s : Storage) (tenantID : UUID) (userID : String) (channel : Channel) :
    Storage :=
  { s with preferences := s.preferences.remove (preferenceAt tenantID userID channel) }

def dbPreferenceToDomain (p : PreferenceRow) : Preference :=
  { id := p.id
    userID := p.userID
    channel := p.channel
    enabled := p.enabled
    quietHoursStart := p.quietHoursStart.map formatTimeOfDay
    quietHoursEnd := p.quietHoursEnd.map formatTimeOfDay
    frequencyCap := p.frequencyCap
    frequencyWindowMinutes := p.frequencyWindowMinutes.getD 0
    timezone := p.timezone.getD "UTC"
    createdAt := p.createdAt
    updatedAt := p.updatedAt }

/-! ## Repository operations -/

namespace PreferenceRepository

def get (conn : Conn) (s : Storage) (tenantID : UUID) (userID : String) (channel : Channel) :
    Except AppError Preference :=
  match conn.exec (getPreference s.preferences.rows tenantID userID channel) with
  | .error .noRows => .error (newNotFoundError "preference not found")
  | .error _ => .error (newInternalError "failed to get preference")
  | .ok row => .ok (dbPreferenceToDomain row)

def listByUser (conn : Conn) (s : Storage) (tenantID : UUID) (userID : String) :
    Except AppError (List Preference) :=
  match conn.exec (.ok (listPreferencesByUser s.preferences.rows tenantID userID)) with
  | .error _ => .error (newInternalError "failed to list preferences")
  | .ok rows => .ok (rows.map dbPreferenceToDomain)

/-- A time that does not parse is stored as NULL; the integers wrap to 32 bits. -/
def upsertParams (tenantID : UUID) (userID : String) (channel : Channel)
    (req : UpsertPreferenceRequest) : UpsertPreferenceParams :=
  { tenantID := tenantID
    userID := userID
    channel := channel
    enabled := req.enabled
    quietHoursStart := req.quietHoursStart.bind parseTimeOfDay
    quietHoursEnd := req.quietHoursEnd.bind parseTimeOfDay
    frequencyCap := req.frequencyCap.map int32
    frequencyWindowMinutes := req.frequencyWindowMinutes.map int32
    timezone := req.timezone }

def upsert (conn : Conn) (s : Storage) (tenantID : UUID) (userID : String) (channel : Channel)
    (req : UpsertPreferenceRequest) (id : UUID) (now : Time) :
    Except AppError (Preference × Storage) :=
  match conn.exec (upsertPreference s (upsertParams tenantID userID channel req) id now) with
  | .error _ => .error (newInternalError "failed to upsert preference")
  | .ok (row, s') => .ok (dbPreferenceToDomain row, s')

def delete (conn : Conn) (s : Storage) (tenantID : UUID) (userID : String) (channel : Channel) :
    Except AppError Storage :=
  match conn.exec (.ok (deletePreference s tenantID userID channel)) with
  | .error _ => .error (newInternalError "failed to delete preference")
  | .ok s' => .ok s'

end PreferenceRepository

end NotifyHub
