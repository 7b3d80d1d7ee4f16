import NotifyHub.Isolation.Send

/-! # Notifications of one tenant, seen from another

Every statement of the notification operations but one is filtered by `tenant_id`
or by an id just created. The insert is the exception: the UNIQUE constraint on
`idempotency_key` and the reference to `templates` look at all tenants' rows. What
a tenant observes of the others is exactly whether these two let an insert pass.
-/

namespace NotifyHub.Isolation.Notifications

open Database NotificationRepository
open NotificationService hiding getByID list cancel
open Observer (Isolated)

/-! ## The operations -/

inductive Op where
  | send (env : SendEnv) (req : SendRequest)
  | sendBulk (envs : Nat → SendEnv) (req : BulkSendRequest)
  | getByID (conn : Conn) (id : UUID)
  | list (conn countConn : Conn) (filter : ListNotificationsFilter)
  | cancel (conn : Conn) (id : UUID) (now : Time)

inductive Outcome where
  | sent (result : Except Err Notification)
  | sentBulk (results : List Notification × List Err)
  | got (result : Except AppError Notification)
  | listed (result : Except AppError (List Notification × Nat))
  | cancelled (result : Except AppError Notification)
  deriving DecidableEq

def Op.exec (maxRetries : Int) (tenantID : UUID) : Op → World → Outcome × World
  | .send env req, w =>
      let (result, after) := NotificationService.send maxRetries env tenantID req w
      (.sent result, after)
  | .sendBulk envs req, w =>
      let (results, after) := NotificationService.sendBulk maxRetries envs tenantID req w
      (.sentBulk results, after)
  | .getByID conn id, w => (.got (NotificationService.getByID conn w.db tenantID id), w)
  | .list conn countConn filter, w =>
      (.listed (NotificationService.list conn countConn w.db tenantID filter), w)
  | .cancel conn id now, w =>
      match NotificationService.cancel conn w.db tenantID id now with
      | .error e => (.cancelled (.error e), w)
      | .ok (n, db) => (.cancelled (.ok n), { w with db := db })

/-- The ids the operation's inserts get are new. -/
def Op.Fresh (db : Database) : Op → Prop
  | .send env _ => env.id ∉ db.notifications.map (·.id)
  | .sendBulk envs req => FreshIDs envs 0 (req.recipients.getD []).length db
  | .getByID .. | .list .. | .cancel .. => True

instance (db : Database) : (op : Op) → Decidable (op.Fresh db)
  | .send env _ => inferInstanceAs (Decidable (env.id ∉ db.notifications.map (·.id)))
  | .sendBulk envs req =>
      inferInstanceAs (Decidable (FreshIDs envs 0 (req.recipients.getD []).length db))
  | .getByID .. | .list .. | .cancel .. => .isTrue trivial

/-- The inserts that validation and the tenant's own rows allow. -/
def Op.inserts (tenantID : UUID) (db : Database) : Op → List NotificationRow
  | .send env req => (attempt tenantID env req db).inserts
  | .sendBulk envs req =>
      match validateSendBulk req with
      | .error _ => []
      | .ok () => insertsEach tenantID envs req 0 (req.recipients.getD []) db
  | .getByID .. | .list .. | .cancel .. => []

/-! ## Reads and cancellation -/

section Reads

variable {maxRetries : Int} {tenantID : UUID} {w₁ w₂ : World}

theorem getByID_isolated (agree : view tenantID w₁ = view tenantID w₂) (conn : Conn) (id : UUID) :
    Isolated (view tenantID) (rest tenantID) ((Op.getByID conn id).exec maxRetries tenantID)
      w₁ w₂ := by
  have owned : ∀ row : NotificationRow, (row.id == id && row.tenantID == some tenantID) = true →
      ownNotification tenantID row = true := by
    intro row hit
    exact ((Bool.and_eq_true _ _).mp hit).2
  have lookup : getNotificationByID w₁.db id tenantID = getNotificationByID w₂.db id tenantID := by
    unfold getNotificationByID
    rw [Rows.find?_congr (notifications_agree agree) owned]
  refine ⟨?_, agree, rfl, rfl⟩
  simp only [Op.exec, NotificationService.getByID, NotificationRepository.getByID, lookup]

theorem list_isolated (agree : view tenantID w₁ = view tenantID w₂) (conn countConn : Conn)
    (filter : ListNotificationsFilter) :
    Isolated (view tenantID) (rest tenantID)
      ((Op.list conn countConn filter).exec maxRetries tenantID) w₁ w₂ := by
  have owned : ∀ row,
      matchesFilter tenantID filter.recipientID filter.channel filter.status row = true →
        ownNotification tenantID row = true := by
    intro row hit
    simp only [matchesFilter, Bool.and_eq_true] at hit
    exact hit.1.1.1
  have selected :
      w₁.db.notifications.filter
          (matchesFilter tenantID filter.recipientID filter.channel filter.status) =
        w₂.db.notifications.filter
          (matchesFilter tenantID filter.recipientID filter.channel filter.status) :=
    Rows.filter_congr (notifications_agree agree) owned
  refine ⟨?_, agree, rfl, rfl⟩
  simp only [Op.exec, NotificationService.list, NotificationRepository.list, listNotifications,
    countNotifications, selected]

theorem own_of_cancellable {id : UUID} (row : NotificationRow)
    (hit : cancellable id tenantID row = true) : ownNotification tenantID row = true := by
  simp only [cancellable, Bool.and_eq_true] at hit
  exact hit.1.2

theorem own_stamp (now : Time) (row : NotificationRow) :
    ownNotification tenantID (stamp .dropped now row) = ownNotification tenantID row := rfl

/-- The world after a Cancel that found its row. -/
def dropped (id tenantID : UUID) (now : Time) (w : World) : World :=
  { w with db := w.db.stampWhere (cancellable id tenantID) .dropped now }

theorem view_dropped (id : UUID) (now : Time) (w : World) :
    view tenantID (dropped id tenantID now w) =
      { view tenantID w with
        notifications := Rows.updateWhere (cancellable id tenantID) (stamp .dropped now)
          (view tenantID w).notifications } :=
  congrArg (fun rows => { view tenantID w with notifications := rows })
    (Rows.mine_updateWhere (own_stamp now))

theorem rest_dropped (id : UUID) (now : Time) (w : World) :
    rest tenantID (dropped id tenantID now w) = rest tenantID w :=
  congrArg (fun rows => { rest tenantID w with notifications := rows })
    (Rows.others_updateWhere own_of_cancellable (own_stamp now))

theorem exec_cancel (id : UUID) (now : Time) (w : World) :
    (Op.cancel .up id now).exec maxRetries tenantID w =
      match w.db.notifications.find? (cancellable id tenantID) with
      | none => (.cancelled (.error (newNotFoundError "notification not found or not cancellable")), w)
      | some row =>
          (.cancelled (.ok (dbNotificationToDomain (stamp .dropped now row))),
            dropped id tenantID now w) := by
  simp only [Op.exec, NotificationService.cancel, NotificationRepository.cancel, Conn.exec,
    cancelNotification]
  cases w.db.notifications.find? (cancellable id tenantID) <;> rfl

theorem cancel_isolated (agree : view tenantID w₁ = view tenantID w₂) (conn : Conn) (id : UUID)
    (now : Time) :
    Isolated (view tenantID) (rest tenantID) ((Op.cancel conn id now).exec maxRetries tenantID)
      w₁ w₂ := by
  cases conn with
  | down => exact ⟨rfl, agree, rfl, rfl⟩
  | up =>
      have found : w₁.db.notifications.find? (cancellable id tenantID) =
          w₂.db.notifications.find? (cancellable id tenantID) :=
        Rows.find?_congr (notifications_agree agree) own_of_cancellable
      cases hit : w₂.db.notifications.find? (cancellable id tenantID) with
      | none => constructor <;> simp only [exec_cancel, found, hit, agree]
      | some row =>
          constructor <;> simp only [exec_cancel, found, hit, view_dropped, rest_dropped, agree]

theorem rowCount_cancel (conn : Conn) (id : UUID) (now : Time) (w : World) :
    rowCount tenantID ((Op.cancel conn id now).exec maxRetries tenantID w).2 =
      rowCount tenantID w := by
  cases conn with
  | down => rfl
  | up =>
      rw [exec_cancel]
      cases w.db.notifications.find? (cancellable id tenantID) with
      | none => rfl
      | some row => simp only [rowCount, view_dropped, Rows.updateWhere, List.length_map]

end Reads

/-! ## All operations -/

section Operations

variable {maxRetries : Int} {tenantID : UUID} {op : Op} {w w₁ w₂ : World}

theorem sendBulk_valid {envs : Nat → SendEnv} {req : BulkSendRequest}
    (valid : validateSendBulk req = .ok ()) :
    (Op.sendBulk envs req).exec maxRetries tenantID = fun w =>
      let results := sendEach maxRetries envs tenantID req 0 (req.recipients.getD []) w
      (.sentBulk results.1, results.2) := by
  funext w
  simp only [Op.exec, NotificationService.sendBulk, valid]

theorem isolated_of_agree (agree : view tenantID w₁ = view tenantID w₂) (fresh₁ : op.Fresh w₁.db)
    (fresh₂ : op.Fresh w₂.db)
    (blocks : ∀ row ∈ op.inserts tenantID w₁.db,
      foreignBlocks tenantID w₁.db row = foreignBlocks tenantID w₂.db row) :
    Isolated (view tenantID) (rest tenantID) (op.exec maxRetries tenantID) w₁ w₂ := by
  cases op with
  | send env req =>
      have sent : Isolated (view tenantID) (rest tenantID) (send maxRetries env tenantID req)
          w₁ w₂ := by
        apply send_isolated agree fresh₁ fresh₂
        intro row reached
        apply blocks row
        simp [Op.inserts, reached, Attempt.inserts]
      exact sent.map Outcome.sent
  | sendBulk envs req =>
      cases valid : validateSendBulk req with
      | error e =>
          constructor <;> simp only [Op.exec, NotificationService.sendBulk, valid, agree]
      | ok _ =>
          simp only [Op.inserts, valid] at blocks
          rw [sendBulk_valid valid]
          exact (sendEach_isolated agree fresh₁ fresh₂ blocks).map Outcome.sentBulk
  | getByID conn id => exact getByID_isolated agree conn id
  | list conn countConn filter => exact list_isolated agree conn countConn filter
  | cancel conn id now => exact cancel_isolated agree conn id now

/-- An operation adds as many own rows as inserts pass. -/
theorem rowCount_exec (fresh : op.Fresh w.db) :
    rowCount tenantID (op.exec maxRetries tenantID w).2 = rowCount tenantID w +
      (passing tenantID w.db (op.inserts tenantID w.db)).length := by
  cases op with
  | send env req => exact rowCount_send fresh
  | sendBulk envs req =>
      cases valid : validateSendBulk req with
      | error e => simp [Op.exec, Op.inserts, NotificationService.sendBulk, valid, passing]
      | ok _ =>
          rw [sendBulk_valid valid]
          simp only [Op.inserts, valid]
          exact rowCount_sendEach fresh
  | getByID conn id => rfl
  | list conn countConn filter => rfl
  | cancel conn id now => exact rowCount_cancel conn id now w

theorem inserts_congr (agree : view tenantID w₁ = view tenantID w₂) :
    op.inserts tenantID w₁.db = op.inserts tenantID w₂.db := by
  cases op with
  | send env req => simp only [Op.inserts, attempt_congr agree]
  | sendBulk envs req =>
      have each : ∀ k recipients, insertsEach tenantID envs req k recipients w₁.db =
          insertsEach tenantID envs req k recipients w₂.db := by
        intro k recipients
        induction recipients generalizing k with
        | nil => rfl
        | cons r others ih => simp only [insertsEach, attempt_congr agree, ih]
      simp only [Op.inserts, each]
  | getByID conn id => rfl
  | list conn countConn filter => rfl
  | cancel conn id now => rfl

/-- The inserts of one operation have one key and one template. -/
theorem inserts_alike {left right : NotificationRow} (leftMem : left ∈ op.inserts tenantID w.db)
    (rightMem : right ∈ op.inserts tenantID w.db) :
    left.idempotencyKey = right.idempotencyKey ∧ left.templateID = right.templateID := by
  cases op with
  | send env req =>
      simp only [Op.inserts] at leftMem rightMem
      cases reached : attempt tenantID env req w.db with
      | done result => simp [reached, Attempt.inserts] at leftMem
      | insert row =>
          simp only [reached, Attempt.inserts, List.mem_singleton] at leftMem rightMem
          rw [leftMem, rightMem]
          exact ⟨rfl, rfl⟩
  | sendBulk envs req =>
      cases valid : validateSendBulk req with
      | error e => simp [Op.inserts, valid] at leftMem
      | ok _ =>
          simp only [Op.inserts, valid] at leftMem rightMem
          have leftRow := insertsEach_single leftMem
          have rightRow := insertsEach_single rightMem
          exact ⟨leftRow.1.trans rightRow.1.symm, leftRow.2.trans rightRow.2.symm⟩
  | getByID conn id => simp [Op.inserts] at leftMem
  | list conn countConn filter => simp [Op.inserts] at leftMem
  | cancel conn id now => simp [Op.inserts] at leftMem

theorem verdict_alike (db : Database) {left right : NotificationRow}
    (leftMem : left ∈ op.inserts tenantID w.db) (rightMem : right ∈ op.inserts tenantID w.db) :
    foreignBlocks tenantID db left = foreignBlocks tenantID db right := by
  obtain ⟨key, template⟩ := inserts_alike leftMem rightMem
  simp only [foreignBlocks, key, template]

/-- From two states a tenant cannot tell apart its operation gives the same outcome,
    leaves it the same rows and touches nobody else's, if and only if other tenants'
    rows block the same inserts in both. -/
theorem tenant_isolated_iff_same_blocks (maxRetries : Int) (tenantID : UUID) (op : Op)
    (w₁ w₂ : World) (agree : view tenantID w₁ = view tenantID w₂) (fresh₁ : op.Fresh w₁.db)
    (fresh₂ : op.Fresh w₂.db) :
    Isolated (view tenantID) (rest tenantID) (op.exec maxRetries tenantID) w₁ w₂ ↔
      ∀ row ∈ op.inserts tenantID w₁.db,
        foreignBlocks tenantID w₁.db row = foreignBlocks tenantID w₂.db row := by
  refine ⟨?_, isolated_of_agree agree fresh₁ fresh₂⟩
  intro isolated
  have before : rowCount tenantID w₁ = rowCount tenantID w₂ :=
    congrArg (fun v : View => v.notifications.length) agree
  have after : rowCount tenantID (op.exec maxRetries tenantID w₁).2 =
      rowCount tenantID (op.exec maxRetries tenantID w₂).2 :=
    congrArg (fun v : View => v.notifications.length) isolated.view
  rw [rowCount_exec fresh₁, rowCount_exec fresh₂, before, ← inserts_congr agree] at after
  have passed := Nat.add_left_cancel after
  intro row member
  have opposite := Rows.agree_of_length_filter
    (fun x leftMem y rightMem => congrArg not (verdict_alike w₁.db leftMem rightMem))
    (fun x leftMem y rightMem => congrArg not (verdict_alike w₂.db leftMem rightMem))
    passed row member
  simpa using opposite

end Operations

/-! ## Two tenants with one key -/

def shop : UUID := 1

def rival : UUID := 2

def env (id : UUID) : SendEnv :=
  { lookupConn := .up
    createConn := .up
    id := id
    createdAt := 10
    now := 10
    enqueuedAt := 10
    publishError := none
    updateConn := .up
    updatedAt := 10 }

def order (key : String) : SendRequest :=
  { type := "order"
    channel := .email
    recipientID := "u1"
    recipientAddress := "u1@example.com"
    templateID := none
    payload := none
    priority := 5
    idempotencyKey := some key
    scheduledAt := none }

def quiet : World := ⟨.ofTenants [shop, rival], []⟩

/-- The rival has sent its order 7. -/
def busy : World := (send 3 (env 70) rival (order "order-7") quiet).2

theorem other_key_isolated :
    view shop quiet = view shop busy ∧
      Isolated (view shop) (rest shop) ((Op.send (env 80) (order "order-8")).exec 3 shop)
        quiet busy :=
  ⟨by decide +kernel,
    (tenant_isolated_iff_same_blocks 3 shop (.send (env 80) (order "order-8")) quiet busy
      (by decide +kernel) (by decide +kernel) (by decide +kernel)).mpr (by decide +kernel)⟩

/-- The shop's own order 7 is accepted, or refused because of the rival's. -/
theorem same_key_observed :
    view shop quiet = view shop busy ∧
      (Op.send (env 80) (order "order-7")).Fresh quiet.db ∧
      (Op.send (env 80) (order "order-7")).Fresh busy.db ∧
      ((Op.send (env 80) (order "order-7")).exec 3 shop busy).1 = .sent insertFailed ∧
      ¬ Isolated (view shop) (rest shop) ((Op.send (env 80) (order "order-7")).exec 3 shop)
        quiet busy := by
  decide +kernel

end NotifyHub.Isolation.Notifications
