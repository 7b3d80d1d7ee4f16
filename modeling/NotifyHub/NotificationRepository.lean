import Mathlib.Data.List.Sort
import NotifyHub.Database

/-! # `postgresNotificationRepo`

The statements of `queries/notification.sql` over a `Database`, and the
repository operations that run them and translate driver errors. `conn` says
whether the statement of the call reaches the database, `now` is what `NOW()`
returns there and `id` what `uuid_generate_v4()` returns.
-/

namespace NotifyHub

open Database

structure InsertNotificationParams where
  tenantID : Option UUID
  idempotencyKey : Option String
  type : String
  channel : Channel
  recipientID : String
  recipientAddress : Option String
  templateID : Option UUID
  payload : JSONMap
  priority : Int
  status : NotificationStatus
  scheduledAt : Option Time

/-- The row an INSERT would add, unless a value does not fit its column. -/
def InsertNotificationParams.row (p : InsertNotificationParams) (id : UUID) (now : Time) :
    Option NotificationRow := do
  let idempotencyKey ← varcharOpt 255 p.idempotencyKey
  let type ← varchar 100 p.type
  let recipientID ← varchar 255 p.recipientID
  let recipientAddress ← varcharOpt 500 p.recipientAddress
  return {
    id := id
    tenantID := p.tenantID
    idempotencyKey := idempotencyKey
    type := type
    channel := p.channel
    recipientID := recipientID
    recipientAddress := recipientAddress
    templateID := p.templateID
    payload := p.payload
    priority := p.priority
    status := p.status
    scheduledAt := p.scheduledAt
    createdAt := now
    updatedAt := now }

def insertNotification (db : Database) (p : InsertNotificationParams) (id : UUID) (now : Time) :
    Except SqlError (NotificationRow × Database) :=
  match p.row id now with
  | none => .error (.rejected "value too long for type character varying")
  | some row =>
      if accepted : db.AcceptsNotification row then .ok (row, db.addNotification row accepted)
      else .error (.rejected "constraint violation")

def getNotificationByID (db : Database) (id : UUID) (tenantID : UUID) :
    Except SqlError NotificationRow :=
  match db.notifications.find? fun n => n.id == id && n.tenantID == some tenantID with
  | none => .error .noRows
  | some row => .ok row

def getNotificationByIdempotencyKey (db : Database) (key : String) (tenantID : UUID) :
    Except SqlError NotificationRow :=
  match db.notifications.find? fun n =>
      n.idempotencyKey == some key && n.tenantID == some tenantID with
  | none => .error .noRows
  | some row => .ok row

/-- The WHERE clause shared by the list and the count query. -/
def matchesFilter (tenantID : UUID) (recipientID channel status : String)
    (n : NotificationRow) : Bool :=
  n.tenantID == some tenantID &&
  (recipientID == "" || n.recipientID == recipientID) &&
  (channel == "" || n.channel.text == channel) &&
  (status == "" || n.status.text == status)

/-- `ORDER BY created_at DESC`; rows of one instant stay in table order. -/
def listNotifications (db : Database) (tenantID : UUID) (recipientID channel status : String)
    (limit offset : Int) : Except SqlError (List NotificationRow) :=
  page limit offset
    ((db.notifications.filter (matchesFilter tenantID recipientID channel status)).insertionSort
      fun a b => b.createdAt ≤ a.createdAt)

def countNotifications (db : Database) (tenantID : UUID) (recipientID channel status : String) :
    Nat :=
  (db.notifications.filter (matchesFilter tenantID recipientID channel status)).length

def updateNotificationStatus (db : Database) (id : UUID) (status : NotificationStatus)
    (now : Time) : Except SqlError (NotificationRow × Database) :=
  match db.notifications.find? fun n => n.id == id with
  | none => .error .noRows
  | some row => .ok (stamp status now row, db.stampWhere (fun n => n.id == id) status now)

/-- `WHERE id = $1 AND tenant_id = $2 AND status IN ('pending', 'queued')`. -/
def cancellable (id tenantID : UUID) (n : NotificationRow) : Bool :=
  n.id == id && n.tenantID == some tenantID && (n.status == .pending || n.status == .queued)

def cancelNotification (db : Database) (id tenantID : UUID) (now : Time) :
    Except SqlError (NotificationRow × Database) :=
  match db.notifications.find? (cancellable id tenantID) with
  | none => .error .noRows
  | some row => .ok (stamp .dropped now row, db.stampWhere (cancellable id tenantID) .dropped now)

/-- `status = 'pending' AND scheduled_at IS NOT NULL AND scheduled_at <= NOW()`. -/
def due (now : Time) (n : NotificationRow) : Bool :=
  n.status == .pending &&
  match n.scheduledAt with
  | none => false
  | some t => decide (t ≤ now)

/-- `ORDER BY priority ASC, scheduled_at ASC`. -/
def DueBefore (a b : NotificationRow) : Prop :=
  a.priority < b.priority ∨
  (a.priority = b.priority ∧ a.scheduledAt.getD 0 ≤ b.scheduledAt.getD 0)

instance : DecidableRel DueBefore :=
  fun _ _ => inferInstanceAs (Decidable (_ ∨ _ ∧ _))

def listDueScheduledNotifications (db : Database) (limit : Int) (now : Time) :
    Except SqlError (List NotificationRow) :=
  page limit 0 ((db.notifications.filter (due now)).insertionSort DueBefore)

def dbNotificationToDomain (n : NotificationRow) : Notification :=
  { id := n.id
    tenantID := n.tenantID.getD UUID.zero
    idempotencyKey := n.idempotencyKey
    type := n.type
    channel := n.channel
    recipientID := n.recipientID
    recipientAddress := n.recipientAddress.getD ""
    templateID := n.templateID
    payload := n.payload
    priority := n.priority
    status := n.status
    scheduledAt := n.scheduledAt
    createdAt := n.createdAt
    updatedAt := n.updatedAt }

/-! ## Repository operations -/

namespace NotificationRepository

def insertParams (tenantID : UUID) (req : SendRequest) : InsertNotificationParams :=
  let priority := if req.priority = 0 then priorityNormal else req.priority
  { tenantID := some tenantID
    idempotencyKey := req.idempotencyKey
    type := req.type
    channel := req.channel
    recipientID := req.recipientID
    recipientAddress := some req.recipientAddress
    templateID := req.templateID
    payload := req.payload.getD []
    priority := int32 priority
    status := .pending
    scheduledAt := req.scheduledAt }

def create (conn : Conn) (db : Database) (tenantID : UUID) (req : SendRequest) (id : UUID)
    (now : Time) : Except AppError (Notification × Database) :=
  match conn.exec (insertNotification db (insertParams tenantID req) id now) with
  | .error _ => .error (newInternalError "failed to insert notification")
  | .ok (row, db') => .ok (dbNotificationToDomain row, db')

def getByID (conn : Conn) (db : Database) (tenantID id : UUID) : Except AppError Notification :=
  match conn.exec (getNotificationByID db id tenantID) with
  | .error .noRows => .error (newNotFoundError "notification not found")
  | .error _ => .error (newInternalError "failed to get notification")
  | .ok row => .ok (dbNotificationToDomain row)

/-- No row is no error here: the caller may go on and insert. -/
def getByIdempotencyKey (conn : Conn) (db : Database) (tenantID : UUID) (key : String) :
    Except AppError (Option Notification) :=
  match conn.exec (getNotificationByIdempotencyKey db key tenantID) with
  | .error .noRows => .ok none
  | .error _ => .error (newInternalError "idempotency check failed")
  | .ok row => .ok (some (dbNotificationToDomain row))

/-- Two statements, hence two connections. -/
def list (conn countConn : Conn) (db : Database) (tenantID : UUID)
    (filter : ListNotificationsFilter) : Except AppError (List Notification × Nat) :=
  let pageNo := if filter.page < 1 then 1 else filter.page
  let perPage := if filter.perPage < 1 then 20 else filter.perPage
  match conn.exec (listNotifications db tenantID filter.recipientID filter.channel filter.status
      (int32 perPage) (int32 (int64 ((pageNo - 1) * perPage)))) with
  | .error _ => .error (newInternalError "failed to list notifications")
  | .ok rows =>
      match countConn.exec (.ok (countNotifications db tenantID filter.recipientID filter.channel
          filter.status)) with
      | .error _ => .error (newInternalError "failed to count notifications")
      | .ok total => .ok (rows.map dbNotificationToDomain, total)

def cancel (conn : Conn) (db : Database) (tenantID id : UUID) (now : Time) :
    Except AppError (Notification × Database) :=
  match conn.exec (cancelNotification db id tenantID now) with
  | .error .noRows => .error (newNotFoundError "notification not found or not cancellable")
  | .error _ => .error (newInternalError "failed to cancel notification")
  | .ok (row, db') => .ok (dbNotificationToDomain row, db')

/-- Unlike the other operations this one is not scoped to a tenant. -/
def updateStatus (conn : Conn) (db : Database) (id : UUID) (status : NotificationStatus)
    (now : Time) : Except AppError (Notification × Database) :=
  match conn.exec (updateNotificationStatus db id status now) with
  | .error .noRows => .error (newNotFoundError "notification not found")
  | .error _ => .error (newInternalError "failed to update notification status")
  | .ok (row, db') => .ok (dbNotificationToDomain row, db')

def listDueScheduled (conn : Conn) (db : Database) (limit : Int) (now : Time) :
    Except AppError (List Notification) :=
  match conn.exec (listDueScheduledNotifications db (int32 limit) now) with
  | .error _ => .error (newInternalError "failed to list due scheduled notifications")
  | .ok rows => .ok (rows.map dbNotificationToDomain)

/-! ## What the operations do

One lemma for each operation, in terms of `addNotification` and `stampWhere`. -/

variable {conn : Conn} {db db' : Database} {tenantID id : UUID} {n : Notification} {now : Time}

/-- A successful insert adds one accepted row. -/
theorem create_ok {req : SendRequest}
    (created : create conn db tenantID req id now = .ok (n, db')) :
    conn = .up ∧ ∃ row, (insertParams tenantID req).row id now = some row ∧
      n = dbNotificationToDomain row ∧
      ∃ accepted : db.AcceptsNotification row, db' = db.addNotification row accepted := by
  cases conn with
  | down => simp [create, Conn.exec] at created
  | up =>
      simp only [create, Conn.exec, insertNotification] at created
      cases fits : (insertParams tenantID req).row id now with
      | none => simp [fits] at created
      | some row =>
          by_cases accepted : db.AcceptsNotification row
          · simp only [fits, dif_pos accepted, Except.ok.injEq, Prod.mk.injEq] at created
            exact ⟨rfl, row, rfl, created.1.symm, accepted, created.2.symm⟩
          · simp [fits, dif_neg accepted] at created

/-- A new row is pending, belongs to the caller and keeps what the request says. -/
theorem row_of_insertParams {req : SendRequest} {row : NotificationRow}
    (fits : (insertParams tenantID req).row id now = some row) :
    row.id = id ∧ row.tenantID = some tenantID ∧ row.status = .pending ∧
      row.channel = req.channel ∧ row.scheduledAt = req.scheduledAt ∧
      row.templateID = req.templateID ∧
      varcharOpt 255 req.idempotencyKey = some row.idempotencyKey := by
  simp only [InsertNotificationParams.row, insertParams, Option.bind_eq_bind,
    Option.bind_eq_some_iff] at fits
  obtain ⟨key, stored, _, _, _, _, _, _, made⟩ := fits
  obtain rfl := Option.some.inj made
  exact ⟨rfl, rfl, rfl, rfl, rfl, rfl, stored⟩

theorem updateStatus_ok {status : NotificationStatus}
    (updated : updateStatus conn db id status now = .ok (n, db')) :
    ∃ row ∈ db.notifications, row.id = id ∧
      n = dbNotificationToDomain (stamp status now row) ∧
      db' = db.stampWhere (fun r => r.id == id) status now := by
  cases conn with
  | down => simp [updateStatus, Conn.exec] at updated
  | up =>
      simp only [updateStatus, Conn.exec, updateNotificationStatus] at updated
      cases found : db.notifications.find? fun r => r.id == id with
      | none => simp [found] at updated
      | some row =>
          simp only [found, Except.ok.injEq, Prod.mk.injEq] at updated
          refine ⟨row, List.mem_of_find?_eq_some found, ?_, updated.1.symm, updated.2.symm⟩
          simpa using List.find?_some found

theorem up_of_updateStatus {status : NotificationStatus}
    (updated : updateStatus conn db id status now = .ok (n, db')) : conn = .up := by
  cases conn with
  | up => rfl
  | down => simp [updateStatus, Conn.exec] at updated

/-- With the database reachable, an update of a stored row succeeds. -/
theorem updateStatus_of_mem {row : NotificationRow} {status : NotificationStatus}
    (stored : row ∈ db.notifications) :
    updateStatus .up db row.id status now =
      .ok (dbNotificationToDomain (stamp status now row),
        db.stampWhere (fun r => r.id == row.id) status now) := by
  simp only [updateStatus, Conn.exec, updateNotificationStatus, find_notification stored]

theorem id_of_cancellable {row : NotificationRow} (hit : cancellable id tenantID row = true) :
    row.id = id := by
  simp only [cancellable, Bool.and_eq_true, beq_iff_eq] at hit
  exact hit.1.1

theorem cancel_ok (cancelled : cancel conn db tenantID id now = .ok (n, db')) :
    ∃ row ∈ db.notifications, cancellable id tenantID row = true ∧
      n = dbNotificationToDomain (stamp .dropped now row) ∧
      db' = db.stampWhere (cancellable id tenantID) .dropped now := by
  cases conn with
  | down => simp [cancel, Conn.exec] at cancelled
  | up =>
      simp only [cancel, Conn.exec, cancelNotification] at cancelled
      cases found : db.notifications.find? (cancellable id tenantID) with
      | none => simp [found] at cancelled
      | some row =>
          simp only [found, Except.ok.injEq, Prod.mk.injEq] at cancelled
          exact ⟨row, List.mem_of_find?_eq_some found, List.find?_some found,
            cancelled.1.symm, cancelled.2.symm⟩

theorem getByID_ok (fetched : getByID conn db tenantID id = .ok n) :
    ∃ row ∈ db.notifications, row.id = id ∧ row.tenantID = some tenantID ∧
      n = dbNotificationToDomain row := by
  cases conn with
  | down => simp [getByID, Conn.exec] at fetched
  | up =>
      simp only [getByID, Conn.exec, getNotificationByID] at fetched
      cases found : db.notifications.find? fun r => r.id == id && r.tenantID == some tenantID with
      | none => simp [found] at fetched
      | some row =>
          simp only [found, Except.ok.injEq] at fetched
          have hit := List.find?_some found
          simp only [Bool.and_eq_true, beq_iff_eq] at hit
          exact ⟨row, List.mem_of_find?_eq_some found, hit.1, hit.2, fetched.symm⟩

theorem getByID_of_mem {row : NotificationRow} (stored : row ∈ db.notifications)
    (owner : row.tenantID = some tenantID) :
    getByID .up db tenantID row.id = .ok (dbNotificationToDomain row) := by
  cases found : db.notifications.find? fun r =>
      r.id == row.id && r.tenantID == some tenantID with
  | none => simpa [owner] using List.find?_eq_none.mp found row stored
  | some other =>
      have hit := List.find?_some found
      simp only [Bool.and_eq_true, beq_iff_eq] at hit
      obtain rfl := notification_ext (List.mem_of_find?_eq_some found) stored hit.1
      simp only [getByID, Conn.exec, getNotificationByID, found]

theorem getByIdempotencyKey_some {key : String}
    (fetched : getByIdempotencyKey conn db tenantID key = .ok (some n)) :
    ∃ row ∈ db.notifications, row.idempotencyKey = some key ∧ row.tenantID = some tenantID ∧
      n = dbNotificationToDomain row := by
  cases conn with
  | down => simp [getByIdempotencyKey, Conn.exec] at fetched
  | up =>
      simp only [getByIdempotencyKey, Conn.exec, getNotificationByIdempotencyKey] at fetched
      cases found : db.notifications.find? fun r =>
          r.idempotencyKey == some key && r.tenantID == some tenantID with
      | none => simp [found] at fetched
      | some row =>
          simp only [found, Except.ok.injEq, Option.some.injEq] at fetched
          have hit := List.find?_some found
          simp only [Bool.and_eq_true, beq_iff_eq] at hit
          exact ⟨row, List.mem_of_find?_eq_some found, hit.1, hit.2, fetched.symm⟩

theorem ids_nodup (db : Database) : (db.notifications.map (·.id)).Nodup :=
  Rows.uniqueOn_some.mp db.notifications_pkey

/-- A tick sees stored rows that are due, each once. -/
theorem listDueScheduled_ok {limit : Int} {ns : List Notification}
    (listed : listDueScheduled conn db limit now = .ok ns) :
    ∃ rows : List NotificationRow, ns = rows.map dbNotificationToDomain ∧
      (∀ row ∈ rows, row ∈ db.notifications ∧ due now row = true) ∧
      (rows.map (·.id)).Nodup := by
  cases conn with
  | down => simp [listDueScheduled, Conn.exec] at listed
  | up =>
      simp only [listDueScheduled, Conn.exec, listDueScheduledNotifications, page] at listed
      set sorted := (db.notifications.filter (due now)).insertionSort DueBefore with sortedDef
      have perm : sorted.Perm (db.notifications.filter (due now)) := List.perm_insertionSort _ _
      split at listed
      · simp at listed
      · rename_i rows paged
        split at paged
        · simp at paged
        · simp only [lt_self_iff_false, if_false, Except.ok.injEq] at paged
          have sub : rows.Sublist sorted := by
            rw [← paged]
            exact (List.take_sublist _ _).trans (List.drop_sublist _ _)
          refine ⟨rows, (Except.ok.inj listed).symm, ?_, ?_⟩
          · intro row member
            exact List.mem_filter.mp (perm.mem_iff.mp (sub.subset member))
          · have nodup : (sorted.map (·.id)).Nodup :=
              (perm.map _).nodup_iff.mpr
                ((ids_nodup db).sublist (List.filter_sublist.map _))
            exact nodup.sublist (sub.map _)

end NotificationRepository

end NotifyHub
