import Mathlib.Data.List.Sort
import NotifyHub.Stores.Storage

/-! # `postgresInAppRepo`

The statements of `queries/inapp.sql` and the operations over them.
-/

namespace NotifyHub

open Rows

structure InAppMessage where
  id : UUID
  tenantID : UUID
  notificationID : Option UUID
  recipientID : String
  title : String
  body : String
  payload : Option JSONMap
  readAt : Option Time
  createdAt : Time
  deriving Repr, DecidableEq

/-- With `afterID` set, `offset` is not looked at. -/
structure InboxQuery where
  tenantID : UUID
  recipientID : String
  unreadOnly : Bool
  limit : Int
  offset : Int
  afterID : Option UUID
  deriving Repr, DecidableEq

/-! ## Statements -/

structure InsertInAppMessageParams where
  tenantID : UUID
  notificationID : Option UUID
  recipientID : String
  title : String
  body : String
  payload : JSONMap

def InsertInAppMessageParams.row (p : InsertInAppMessageParams) (id : UUID) (now : Time) :
    InAppRow :=
  { id := id
    tenantID := p.tenantID
    notificationID := p.notificationID
    recipientID := p.recipientID
    title := p.title
    body := p.body
    payload := p.payload
    readAt := none
    createdAt := now }

def insertInAppMessage (s : Storage) (p : InsertInAppMessageParams) (id : UUID) (now : Time) :
    Except SqlError (InAppRow × Storage) :=
  match insertRow s.inapp (p.row id now) with
  | .error e => .error e
  | .ok (row, inapp) => .ok (row, { s with inapp := inapp })

/-- `WHERE id = $1 AND tenant_id = $2`. -/
def inappAt (id tenantID : UUID) (m : InAppRow) : Bool := m.id == id && m.tenantID == tenantID

def getInAppMessage (rows : List InAppRow) (id tenantID : UUID) : Except SqlError InAppRow :=
  match rows.find? (inappAt id tenantID) with
  | none => .error .noRows
  | some row => .ok row

/-- `WHERE tenant_id = $1 AND recipient_id = $2`. -/
def inInbox (tenantID : UUID) (recipientID : String) (m : InAppRow) : Bool :=
  m.tenantID == tenantID && m.recipientID == recipientID

/-- `... AND (NOT unread_only OR read_at IS NULL)`. -/
def listedInInbox (tenantID : UUID) (recipientID : String) (unreadOnly : Bool) (m : InAppRow) :
    Bool :=
  inInbox tenantID recipientID m && (!unreadOnly || m.readAt.isNone)

/-- `ORDER BY created_at DESC`; rows of one instant stay in table order. -/
def listInbox (rows : List InAppRow) (tenantID : UUID) (recipientID : String) (unreadOnly : Bool)
    (limit offset : Int) : Except SqlError (List InAppRow) :=
  page limit offset
    ((rows.filter (listedInInbox tenantID recipientID unreadOnly)).insertionSort
      fun a b => b.createdAt ≤ a.createdAt)

def countUnread (rows : List InAppRow) (tenantID : UUID) (recipientID : String) : Nat :=
  (rows.filter fun m => inInbox tenantID recipientID m && m.readAt.isNone).length

/-- The order of `(created_at, id)`; ids compare as the 128-bit numbers they are. -/
def Earlier (a b : InAppRow) : Prop :=
  a.createdAt < b.createdAt ∨ a.createdAt = b.createdAt ∧ BitVec.toNat a.id < BitVec.toNat b.id

instance : DecidableRel Earlier := fun _ _ => inferInstanceAs (Decidable (_ ∨ _ ∧ _))

/-- `... AND (created_at < $4 OR (created_at = $4 AND id < $5))
    ORDER BY created_at DESC, id DESC LIMIT $6`. -/
def listInboxAfterCursor (rows : List InAppRow) (tenantID : UUID) (recipientID : String)
    (unreadOnly : Bool) (cursor : InAppRow) (limit : Int) : Except SqlError (List InAppRow) :=
  page limit 0
    ((rows.filter fun m =>
        listedInInbox tenantID recipientID unreadOnly m && decide (Earlier m cursor)).insertionSort
      fun a b => ¬ Earlier a b)

/-- The messages of the inbox above the cursor, `ORDER BY created_at ASC, id ASC`. -/
def newerThan (rows : List InAppRow) (tenantID : UUID) (recipientID : String) (cursor : InAppRow) :
    List InAppRow :=
  (rows.filter fun m => inInbox tenantID recipientID m && decide (Earlier cursor m)).insertionSort
    fun a b => ¬ Earlier b a

/-- `LIMIT 200`. -/
def listInboxSince (rows : List InAppRow) (tenantID : UUID) (recipientID : String)
    (cursor : InAppRow) : List InAppRow :=
  (newerThan rows tenantID recipientID cursor).take 200

/-- `SET read_at = now()`. -/
def stampRead (db : Database) (now : Time) :
    Table.Change InAppRow.id noKey (InAppRow.Valid db) :=
  { set := fun m => { m with readAt := some now }
    id := fun _ => rfl
    key := fun _ => rfl
    valid := fun _ valid => valid }

def markInAppMessageRead (s : Storage) (id tenantID : UUID) (recipientID : String) (now : Time) :
    Storage :=
  { s with
    inapp := s.inapp.update
      (fun m => m.id == id && inInbox tenantID recipientID m && m.readAt.isNone)
      (stampRead s.core now) }

def markAllInAppMessagesRead (s : Storage) (tenantID : UUID) (recipientID : String) (now : Time) :
    Storage :=
  { s with
    inapp := s.inapp.update (fun m => inInbox tenantID recipientID m && m.readAt.isNone)
      (stampRead s.core now) }

def fromDBInApp (m : InAppRow) : InAppMessage :=
  { id := m.id
    tenantID := m.tenantID
    notificationID := m.notificationID
    recipientID := m.recipientID
    title := m.title
    body := m.body
    payload := some m.payload
    readAt := m.readAt
    createdAt := m.createdAt }

/-! ## Repository operations -/

namespace InAppRepository

def insertParams (msg : InAppMessage) : InsertInAppMessageParams :=
  { tenantID := msg.tenantID
    notificationID := msg.notificationID
    recipientID := msg.recipientID
    title := msg.title
    body := msg.body
    payload := msg.payload.getD [] }

def insert (conn : Conn) (s : Storage) (msg : InAppMessage) (id : UUID) (now : Time) :
    Except Err (InAppMessage × Storage) :=
  match wrapError "insert inapp message"
      (conn.exec (insertInAppMessage s (insertParams msg) id now)) with
  | .error e => .error e
  | .ok (row, s') => .ok (fromDBInApp row, s')

def getByID (conn : Conn) (s : Storage) (tenantID id : UUID) : Except Err InAppMessage :=
  match wrapError "get inapp message" (conn.exec (getInAppMessage s.inapp.rows id tenantID)) with
  | .error e => .error e
  | .ok row => .ok (fromDBInApp row)

/-- With a cursor, two statements, hence two connections. -/
def list (conn cursorConn : Conn) (s : Storage) (q : InboxQuery) :
    Except Err (List InAppMessage) :=
  let limit := if q.limit ≤ 0 then 50 else q.limit
  match q.afterID with
  | some afterID => do
      let cursor ← wrapError "list inbox cursor lookup"
        (cursorConn.exec (getInAppMessage s.inapp.rows afterID q.tenantID))
      let rows ← wrapError "list inbox after cursor"
        (conn.exec (listInboxAfterCursor s.inapp.rows q.tenantID q.recipientID q.unreadOnly cursor
          (int32 limit)))
      return rows.map fromDBInApp
  | none => do
      let rows ← wrapError "list inbox"
        (conn.exec (listInbox s.inapp.rows q.tenantID q.recipientID q.unreadOnly (int32 limit)
          (int32 q.offset)))
      return rows.map fromDBInApp

def listSince (conn cursorConn : Conn) (s : Storage) (tenantID : UUID) (recipientID : String)
    (sinceID : UUID) : Except Err (List InAppMessage) := do
  let cursor ← wrapError "list inbox since cursor lookup"
    (cursorConn.exec (getInAppMessage s.inapp.rows sinceID tenantID))
  let rows ← wrapError "list inbox since"
    (conn.exec (.ok (listInboxSince s.inapp.rows tenantID recipientID cursor)))
  return rows.map fromDBInApp

def countUnread (conn : Conn) (s : Storage) (tenantID : UUID) (recipientID : String) :
    Except Err Nat :=
  wrapError "count unread" (conn.exec (.ok (NotifyHub.countUnread s.inapp.rows tenantID recipientID)))

def markRead (conn : Conn) (s : Storage) (tenantID id : UUID) (recipientID : String) (now : Time) :
    Except Err Storage :=
  wrapError "mark inapp read" (conn.exec (.ok (markInAppMessageRead s id tenantID recipientID now)))

def markAllRead (conn : Conn) (s : Storage) (tenantID : UUID) (recipientID : String) (now : Time) :
    Except Err Storage :=
  wrapError "mark all inapp read"
    (conn.exec (.ok (markAllInAppMessagesRead s tenantID recipientID now)))

theorem insert_stored {conn : Conn} {s s' : Storage} {msg saved : InAppMessage} {id : UUID}
    {now : Time} (done : insert conn s msg id now = .ok (saved, s')) :
    saved = fromDBInApp ((insertParams msg).row id now) ∧ id ∉ s.inapp.rows.map (·.id) ∧
      s'.inapp.rows = s.inapp.rows ++ [(insertParams msg).row id now] := by
  cases conn with
  | down => cases done
  | up =>
      by_cases accepted : s.inapp.Accepts ((insertParams msg).row id now)
      · simp only [insert, Conn.exec, insertInAppMessage, insertRow, accepted, dite_true, wrapError,
          Except.ok.injEq, Prod.mk.injEq] at done
        obtain ⟨rfl, rfl⟩ := done
        exact ⟨rfl, accepted.1, rfl⟩
      · simp [insert, Conn.exec, insertInAppMessage, insertRow, accepted, wrapError] at done

/-- A successful insert adds one row with a new id. -/
theorem insert_ok {conn : Conn} {s s' : Storage} {msg saved : InAppMessage} {id : UUID} {now : Time}
    (done : insert conn s msg id now = .ok (saved, s')) :
    ∃ row : InAppRow, saved = fromDBInApp row ∧ row.tenantID = msg.tenantID ∧
      row.recipientID = msg.recipientID ∧ row.id ∉ s.inapp.rows.map (·.id) ∧
      s'.inapp.rows = s.inapp.rows ++ [row] := by
  obtain ⟨same, fresh, grown⟩ := insert_stored done
  exact ⟨_, same, rfl, rfl, fresh, grown⟩

theorem length_listSince_le {conn cursorConn : Conn} {s : Storage} {tenantID sinceID : UUID}
    {recipientID : String} {messages : List InAppMessage}
    (listed : listSince conn cursorConn s tenantID recipientID sinceID = .ok messages) :
    messages.length ≤ 200 := by
  unfold listSince at listed
  cases found : wrapError "list inbox since cursor lookup"
      (cursorConn.exec (getInAppMessage s.inapp.rows sinceID tenantID)) with
  | error e =>
      rw [found] at listed
      cases listed
  | ok cursor =>
      rw [found] at listed
      cases conn with
      | down => cases listed
      | up =>
          have answer : (listInboxSince s.inapp.rows tenantID recipientID cursor).map fromDBInApp =
              messages := Except.ok.inj listed
          rw [← answer]
          simp [listInboxSince]

end InAppRepository

end NotifyHub
