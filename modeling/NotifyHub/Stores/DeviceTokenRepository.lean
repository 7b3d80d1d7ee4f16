import Mathlib.Data.List.Sort
import NotifyHub.Stores.Storage

/-! # `postgresDeviceTokenRepo`

The statements of `queries/device_token.sql` and the operations over them. Errors of
the driver are returned as they are.
-/

namespace NotifyHub

open Rows

structure DeviceToken where
  id : UUID
  tenantID : UUID
  userID : String
  token : String
  platform : String
  isActive : Bool
  createdAt : Time
  updatedAt : Time
  deriving Repr, DecidableEq

structure RegisterDeviceTokenRequest where
  userID : String
  token : String
  platform : String
  deriving Repr, DecidableEq

/-! ## Statements -/

/-- The row proposed for insertion. -/
def deviceTokenRow (tenantID : UUID) (req : RegisterDeviceTokenRequest) (id : UUID) (now : Time) :
    Option DeviceTokenRow := do
  let userID ← varchar 255 req.userID
  let platform ← varchar 20 req.platform
  return {
    id := id
    tenantID := tenantID
    userID := userID
    token := req.token
    platform := platform
    isActive := true
    createdAt := now
    updatedAt := now }

/-- The DO UPDATE clause, for a platform that passes the CHECK. -/
def reassignToken (db : Database) (excluded : DeviceTokenRow) (now : Time)
    (known : knownPlatform excluded.platform = true) :
    Table.Change DeviceTokenRow.id DeviceTokenRow.key (DeviceTokenRow.Valid db) :=
  { set := fun t =>
      { t with
        userID := excluded.userID
        platform := excluded.platform
        isActive := true
        updatedAt := now }
    id := fun _ => rfl
    key := fun _ => rfl
    valid := fun _ valid => ⟨valid.1, known⟩ }

/-- The CHECK is made on the proposed row, before the search for a conflict. -/
def upsertDeviceToken (s : Storage) (tenantID : UUID) (req : RegisterDeviceTokenRequest)
    (id : UUID) (now : Time) : Except SqlError (DeviceTokenRow × Storage) :=
  match deviceTokenRow tenantID req id now with
  | none => .error (.rejected "value too long for type character varying")
  | some row =>
      if known : knownPlatform row.platform = true then
        match upsertRow s.deviceTokens row (reassignToken s.core row now known) with
        | .error e => .error e
        | .ok (stored, deviceTokens) => .ok (stored, { s with deviceTokens := deviceTokens })
      else .error (.rejected "constraint violation")

/-- `WHERE tenant_id = $1 AND token = $2`. -/
def tokenAt (tenantID : UUID) (token : String) (t : DeviceTokenRow) : Bool :=
  t.tenantID == tenantID && t.token == token

/-- `SET is_active = false, updated_at = NOW()`. -/
def retireToken (db : Database) (now : Time) :
    Table.Change DeviceTokenRow.id DeviceTokenRow.key (DeviceTokenRow.Valid db) :=
  { set := fun t => { t with isActive := false, updatedAt := now }
    id := fun _ => rfl
    key := fun _ => rfl
    valid := fun _ valid => valid }

def deactivateDeviceToken (s : Storage) (tenantID : UUID) (token : String) (now : Time) : Storage :=
  { s with
    deviceTokens := s.deviceTokens.update (tokenAt tenantID token) (retireToken s.core now) }

/-- `WHERE tenant_id = $1 AND user_id = $2 AND is_active = true`. -/
def activeTokenOf (tenantID : UUID) (userID : String) (t : DeviceTokenRow) : Bool :=
  t.tenantID == tenantID && t.userID == userID && t.isActive

/-- `ORDER BY created_at DESC`. -/
def listActiveDeviceTokensByUser (rows : List DeviceTokenRow) (tenantID : UUID) (userID : String) :
    List DeviceTokenRow :=
  (rows.filter (activeTokenOf tenantID userID)).insertionSort fun a b => b.createdAt ≤ a.createdAt

def toDeviceToken (t : DeviceTokenRow) : DeviceToken :=
  { id := t.id
    tenantID := t.tenantID
    userID := t.userID
    token := t.token
    platform := t.platform
    isActive := t.isActive
    createdAt := t.createdAt
    updatedAt := t.updatedAt }

/-! ## Repository operations -/

namespace DeviceTokenRepository

def upsert (conn : Conn) (s : Storage) (tenantID : UUID) (req : RegisterDeviceTokenRequest)
    (id : UUID) (now : Time) : Except Err (DeviceToken × Storage) :=
  match conn.exec (upsertDeviceToken s tenantID req id now) with
  | .error e => .error e.err
  | .ok (row, s') => .ok (toDeviceToken row, s')

/-- An UPDATE without RETURNING never reports that it found no row: the branch for it
    in the source is not reached. -/
def deactivate (conn : Conn) (s : Storage) (tenantID : UUID) (token : String) (now : Time) :
    Except Err Storage :=
  match conn.exec (.ok (deactivateDeviceToken s tenantID token now)) with
  | .error .noRows => .error (.app (newNotFoundError "device token not found"))
  | .error e => .error e.err
  | .ok s' => .ok s'

def listActiveByUser (conn : Conn) (s : Storage) (tenantID : UUID) (userID : String) :
    Except Err (List DeviceToken) :=
  match conn.exec (.ok (listActiveDeviceTokensByUser s.deviceTokens.rows tenantID userID)) with
  | .error e => .error e.err
  | .ok rows => .ok (rows.map toDeviceToken)

end DeviceTokenRepository

end NotifyHub
