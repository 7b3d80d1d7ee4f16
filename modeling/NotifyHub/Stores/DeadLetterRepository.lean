import Mathlib.Data.List.Sort
import NotifyHub.Lib.JsonObjects
import NotifyHub.Stores.Storage

/-! # `postgresDeadLetterRepo`

The statements of `queries/dead_letter.sql` and the operations over them.
-/

namespace NotifyHub

open Rows

structure DeadLetterMessage where
  id : UUID
  tenantID : UUID
  notificationID : UUID
  channel : Channel
  originalTopic : String
  payload : String
  failureReason : String
  errorMessage : String
  attempts : Int
  replayedAt : Option Time
  createdAt : Time
  deriving Repr, DecidableEq

/-- The empty channel stands for all of them. -/
structure DeadLetterListParams where
  tenantID : UUID
  channel : String
  unreplayed : Option Bool
  limit : Int
  offset : Int
  deriving Repr, DecidableEq

/-! ## Statements -/

/-- The row that an insert adds; `attempts` wraps to 32 bits. -/
def deadLetterRow (msg : DeadLetterMessage) (id : UUID) (now : Time) : DeadLetterRow :=
  { id := id
    tenantID := msg.tenantID
    notificationID := msg.notificationID
    channel := msg.channel
    originalTopic := msg.originalTopic
    payload := msg.payload
    failureReason := msg.failureReason
    errorMessage := msg.errorMessage
    attempts := int32 msg.attempts
    replayedAt := none
    createdAt := now }

/-- The payload is JSONB, and the row has it as Postgres gives it back. -/
def createDeadLetter (s : Storage) (msg : DeadLetterMessage) (id : UUID) (now : Time) :
    Except SqlError (DeadLetterRow × Storage) :=
  match Json.jsonbText msg.payload with
  | none => .error (.rejected "invalid input syntax for type json")
  | some payload =>
      match insertRow s.deadLetters (deadLetterRow { msg with payload := payload } id now) with
      | .error e => .error e
      | .ok (row, deadLetters) => .ok (row, { s with deadLetters := deadLetters })

/-- `WHERE id = $1 AND tenant_id = $2`. -/
def deadLetterAt (id tenantID : UUID) (m : DeadLetterRow) : Bool :=
  m.id == id && m.tenantID == tenantID

def getDeadLetterByID (rows : List DeadLetterRow) (id tenantID : UUID) :
    Except SqlError DeadLetterRow :=
  match rows.find? (deadLetterAt id tenantID) with
  | none => .error .noRows
  | some row => .ok row

def listedDeadLetter (tenantID : UUID) (channel : String) (unreplayedOnly : Bool)
    (m : DeadLetterRow) : Bool :=
  m.tenantID == tenantID && (channel == "" || m.channel.text == channel) &&
    (!unreplayedOnly || m.replayedAt.isNone)

/-- `ORDER BY created_at DESC`. -/
def listDeadLetters (rows : List DeadLetterRow) (tenantID : UUID) (channel : String)
    (unreplayedOnly : Bool) (limit offset : Int) : Except SqlError (List DeadLetterRow) :=
  page limit offset
    ((rows.filter (listedDeadLetter tenantID channel unreplayedOnly)).insertionSort
      fun a b => b.createdAt ≤ a.createdAt)

/-- `SET replayed_at = now()`. -/
def stampReplayed (db : Database) (now : Time) :
    Table.Change DeadLetterRow.id noKey (DeadLetterRow.Valid db) :=
  { set := fun m => { m with replayedAt := some now }
    id := fun _ => rfl
    key := fun _ => rfl
    valid := fun _ valid => valid }

def markDeadLetterReplayed (s : Storage) (id tenantID : UUID) (now : Time) : Storage :=
  { s with
    deadLetters := s.deadLetters.update (deadLetterAt id tenantID) (stampReplayed s.core now) }

def deleteDeadLetter (s : Storage) (id tenantID : UUID) : Storage :=
  { s with deadLetters := s.deadLetters.remove (deadLetterAt id tenantID) }

/-- `WHERE tenant_id = $1 AND replayed_at IS NULL`. -/
def openDeadLetter (tenantID : UUID) (m : DeadLetterRow) : Bool :=
  m.tenantID == tenantID && m.replayedAt.isNone

/-- `GROUP BY channel`: each channel once, with the number of its rows. -/
def countDeadLettersByChannel (rows : List DeadLetterRow) (tenantID : UUID) :
    List (String × Nat) :=
  let channels := (rows.filter (openDeadLetter tenantID)).map (·.channel.text)
  channels.dedup.map fun channel => (channel, channels.count channel)

def fromDBDeadLetter (m : DeadLetterRow) : DeadLetterMessage :=
  { id := m.id
    tenantID := m.tenantID
    notificationID := m.notificationID
    channel := m.channel
    originalTopic := m.originalTopic
    payload := m.payload
    failureReason := m.failureReason
    errorMessage := m.errorMessage
    attempts := m.attempts
    replayedAt := m.replayedAt
    createdAt := m.createdAt }

/-! ## Repository operations -/

namespace DeadLetterRepository

def create (conn : Conn) (s : Storage) (msg : DeadLetterMessage) (id : UUID) (now : Time) :
    Except Err (DeadLetterMessage × Storage) :=
  match wrapError "create dead letter" (conn.exec (createDeadLetter s msg id now)) with
  | .error e => .error e
  | .ok (row, s') => .ok (fromDBDeadLetter row, s')

def getByID (conn : Conn) (s : Storage) (tenantID id : UUID) : Except Err DeadLetterMessage :=
  match wrapError "get dead letter"
      (conn.exec (getDeadLetterByID s.deadLetters.rows id tenantID)) with
  | .error e => .error e
  | .ok row => .ok (fromDBDeadLetter row)

/-- `Unreplayed = false` lists everything, like nil. -/
def list (conn : Conn) (s : Storage) (params : DeadLetterListParams) :
    Except Err (List DeadLetterMessage) := do
  let limit := if params.limit ≤ 0 then 50 else params.limit
  let rows ← wrapError "list dead letters"
    (conn.exec (listDeadLetters s.deadLetters.rows params.tenantID params.channel
      (params.unreplayed.getD false) (int32 limit) (int32 params.offset)))
  return rows.map fromDBDeadLetter

def markReplayed (conn : Conn) (s : Storage) (tenantID id : UUID) (now : Time) :
    Except Err Storage :=
  wrapError "mark dead letter replayed" (conn.exec (.ok (markDeadLetterReplayed s id tenantID now)))

def delete (conn : Conn) (s : Storage) (tenantID id : UUID) : Except Err Storage :=
  wrapError "delete dead letter" (conn.exec (.ok (deleteDeadLetter s id tenantID)))

def countByChannel (conn : Conn) (s : Storage) (tenantID : UUID) :
    Except Err (List (String × Nat)) :=
  wrapError "count dead letters by channel"
    (conn.exec (.ok (countDeadLettersByChannel s.deadLetters.rows tenantID)))

end DeadLetterRepository

end NotifyHub
