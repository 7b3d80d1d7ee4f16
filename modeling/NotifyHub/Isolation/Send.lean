import NotifyHub.Lib.Observer
import NotifyHub.NotificationService

/-! # Send from one tenant's side

What a tenant sees of the database, and how its sends depend on the rest. A Send is
cut in two: `attempt` is what the tenant's own rows decide, up to the insert;
`finish` is what follows an insert that passed. In between stand the constraints,
and `foreignBlocks` is the part of them that other tenants' rows decide.
-/

namespace NotifyHub.Isolation.Notifications

open Database NotificationRepository
open NotificationService hiding getByID list cancel
open Observer (Isolated)

/-! ## What belongs to a tenant -/

def ownPublication (tenantID : UUID) (p : Publication Message) : Bool :=
  p.value.tenantID == tenantID

/-- The tenant's rows, its registration and what was published for it. -/
structure View where
  notifications : List NotificationRow
  templates : List TemplateRow
  registered : Bool
  published : List (Publication Message)
  deriving DecidableEq

def view (tenantID : UUID) (w : World) : View :=
  { notifications := w.db.notifications.filter (ownNotification tenantID)
    templates := w.db.templates.filter (ownTemplate tenantID)
    registered := decide (tenantID ∈ w.db.tenants)
    published := w.published.filter (ownPublication tenantID) }

/-- Everyone else's rows and messages. -/
structure Rest where
  notifications : List NotificationRow
  templates : List TemplateRow
  tenants : List UUID
  published : List (Publication Message)
  deriving DecidableEq

def rest (tenantID : UUID) (w : World) : Rest :=
  { notifications := w.db.notifications.filter (!ownNotification tenantID ·)
    templates := w.db.templates.filter (!ownTemplate tenantID ·)
    tenants := w.db.tenants
    published := w.published.filter (!ownPublication tenantID ·) }

/-! ## What the tenant's own rows decide about a Send -/

inductive Attempt where
  | done (result : Except Err Notification)
  | insert (row : NotificationRow)

/-- Answer of a refused insert. -/
def insertFailed : Except Err Notification :=
  .error (.app (newInternalError "failed to insert notification"))

/-- The tenant is registered and holds no row with the key. -/
def ownAllows (tenantID : UUID) (db : Database) (row : NotificationRow) : Bool :=
  decide (tenantID ∈ db.tenants) &&
  row.idempotencyKey.all fun k =>
    !(db.notifications.filter (ownNotification tenantID)).any (·.idempotencyKey == some k)

/-- How far a Send gets on the tenant's own rows: an answer, or an insert that they
    allow. -/
def attempt (tenantID : UUID) (env : SendEnv) (req : SendRequest) (db : Database) : Attempt :=
  match validateSend req with
  | .error e => .done (.error (.app e))
  | .ok () =>
      match findExisting env.lookupConn db tenantID req with
      | .error e => .done (.error (.app e))
      | .ok (some existing) => .done (.ok existing)
      | .ok none =>
          match env.createConn, (insertParams tenantID req).row env.id env.createdAt with
          | .up, some row => if ownAllows tenantID db row then .insert row else .done insertFailed
          | _, _ => .done insertFailed

/-- Rows of other tenants make the insert fail: one of them holds the key, or nobody
    has the template. -/
def foreignBlocks (tenantID : UUID) (db : Database) (row : NotificationRow) : Bool :=
  (row.idempotencyKey.any fun k =>
    (db.notifications.filter (!ownNotification tenantID ·)).any (·.idempotencyKey == some k)) ||
  row.templateID.any fun x => !db.templates.any (·.id == x)

/-- What happens after an insert, with the row as it ends up. -/
def finish (maxRetries : Int) (env : SendEnv) (tenantID : UUID) (req : SendRequest)
    (row : NotificationRow) :
    Except Err Notification × List (Publication Message) × NotificationRow :=
  let n := dbNotificationToDomain row
  if scheduledAfter req env.now then (.ok n, [], row)
  else
    match env.publishError with
    | some text => (.error (.wrap "enqueue notification" (.plain text)), [], row)
    | none =>
        let message := NotificationService.enqueue maxRetries tenantID n env.enqueuedAt
        let queued := stamp .queued env.updatedAt row
        match env.updateConn with
        | .up => (.ok (dbNotificationToDomain queued), [message], queued)
        | .down =>
            (.error (.app (newInternalError "failed to update notification status")), [message], row)

section Send

variable {maxRetries : Int} {env : SendEnv} {tenantID : UUID} {req : SendRequest} {w : World}
  {row : NotificationRow}

/-- Given what the own rows allow, the insert passes unless foreign rows block it. -/
theorem accepts_iff (fits : (insertParams tenantID req).row env.id env.createdAt = some row)
    (fresh : env.id ∉ w.db.notifications.map (·.id)) (own : ownAllows tenantID w.db row = true) :
    w.db.AcceptsNotification row ↔ foreignBlocks tenantID w.db row = false := by
  obtain ⟨id, owner, _⟩ := row_of_insertParams fits
  simp only [ownAllows, Bool.and_eq_true, decide_eq_true_eq] at own
  obtain ⟨registered, free⟩ := own
  have keys : (∀ k ∈ row.idempotencyKey, k ∉ w.db.notifications.filterMap (·.idempotencyKey)) ↔
      (row.idempotencyKey.any fun k => (w.db.notifications.filter
        (!ownNotification tenantID ·)).any (·.idempotencyKey == some k)) = false := by
    cases given : row.idempotencyKey with
    | none => simp
    | some k =>
        simp only [given, Option.all_some, Bool.not_eq_true', List.any_eq_false, List.mem_filter,
          and_imp, beq_iff_eq] at free
        simp only [Option.mem_def, Option.some.injEq, forall_eq', List.mem_filterMap, not_exists,
          not_and, Option.any_some, List.any_eq_false, List.mem_filter, Bool.not_eq_true', beq_iff_eq,
          and_imp]
        constructor
        · exact fun all other member _ => all other member
        · intro foreign other member
          cases mine : ownNotification tenantID other with
          | true => exact free other member mine
          | false => exact foreign other member mine
  have template : (∀ x ∈ row.templateID, x ∈ w.db.templates.map (·.id)) ↔
      (row.templateID.any fun x => !w.db.templates.any (·.id == x)) = false := by
    cases row.templateID with
    | none => simp
    | some x => simp
  unfold AcceptsNotification foreignBlocks
  rw [Bool.or_eq_false_iff, ← keys, ← template, id, owner]
  constructor
  · exact fun accepted => ⟨accepted.2.1, accepted.2.2.2⟩
  · intro open_
    exact ⟨fresh, open_.1, by simpa using registered, open_.2⟩

theorem attempt_insert (reached : attempt tenantID env req w.db = .insert row) :
    validateSend req = .ok () ∧ findExisting env.lookupConn w.db tenantID req = .ok none ∧
      env.createConn = .up ∧ (insertParams tenantID req).row env.id env.createdAt = some row ∧
      ownAllows tenantID w.db row = true := by
  unfold attempt at reached
  split at reached
  · simp at reached
  · split at reached
    · simp at reached
    · simp at reached
    · split at reached
      · split at reached
        · obtain rfl := Attempt.insert.inj reached
          exact ⟨by assumption, by assumption, by assumption, by assumption, by assumption⟩
        · simp at reached
      · simp at reached

/-- An insert that the own rows do not allow is refused. -/
theorem not_accepts_of_own (fits : (insertParams tenantID req).row env.id env.createdAt = some row)
    (refused : ownAllows tenantID w.db row = false) : ¬ w.db.AcceptsNotification row := by
  obtain ⟨_, owner, _⟩ := row_of_insertParams fits
  rintro ⟨_, keys, tenants, _⟩
  have registered : tenantID ∈ w.db.tenants := tenants tenantID owner
  simp only [ownAllows, registered, decide_true, Bool.true_and] at refused
  cases given : row.idempotencyKey with
  | none => simp [given] at refused
  | some k =>
      simp only [given, Option.all_some, Bool.not_eq_false', List.any_eq_true, List.mem_filter,
        beq_iff_eq] at refused
      obtain ⟨other, ⟨member, _⟩, same⟩ := refused
      exact keys k given (List.mem_filterMap.mpr ⟨other, member, same⟩)

theorem send_of_done {result : Except Err Notification}
    (reached : attempt tenantID env req w.db = .done result) :
    send maxRetries env tenantID req w = (result, w) := by
  unfold attempt at reached
  unfold send
  cases valid : validateSend req with
  | error e =>
      simp only [valid, Attempt.done.injEq] at reached
      simp only [reached]
  | ok _ =>
      simp only [valid] at reached ⊢
      cases found : findExisting env.lookupConn w.db tenantID req with
      | error e =>
          simp only [found, Attempt.done.injEq] at reached
          simp only [reached]
      | ok existing =>
          cases existing with
          | some n =>
              simp only [found, Attempt.done.injEq] at reached
              simp only [reached]
          | none =>
              simp only [found] at reached
              cases conn : env.createConn with
              | down =>
                  simp only [conn, Attempt.done.injEq] at reached
                  simp [create, Conn.exec, ← reached, insertFailed]
              | up =>
                  cases fits : (insertParams tenantID req).row env.id env.createdAt with
                  | none =>
                      simp only [conn, fits, Attempt.done.injEq] at reached
                      simp [create, Conn.exec, insertNotification, fits, ← reached, insertFailed]
                  | some row =>
                      cases own : ownAllows tenantID w.db row with
                      | true => simp [conn, fits, own] at reached
                      | false =>
                          simp only [conn, fits, own, Bool.false_eq_true, if_false,
                            Attempt.done.injEq] at reached
                          simp [create, Conn.exec, insertNotification, fits,
                            not_accepts_of_own fits own, ← reached, insertFailed]

theorem send_of_blocked (fresh : env.id ∉ w.db.notifications.map (·.id))
    (reached : attempt tenantID env req w.db = .insert row)
    (blocked : foreignBlocks tenantID w.db row = true) :
    send maxRetries env tenantID req w = (insertFailed, w) := by
  obtain ⟨valid, found, conn, fits, own⟩ := attempt_insert reached
  have refused : ¬ w.db.AcceptsNotification row := by
    rw [accepts_iff fits fresh own, blocked]
    decide
  simp [send, valid, found, create, conn, Conn.exec, insertNotification, fits, refused,
    insertFailed]

/-- A status update by the id just inserted touches the new row only. -/
theorem stampWhere_new {db : Database} (accepted : db.AcceptsNotification row)
    (status : NotificationStatus) (time : Time) :
    ((db.addNotification row accepted).stampWhere (fun r => r.id == row.id) status
      time).notifications = db.notifications ++ [stamp status time row] := by
  have old : Rows.updateWhere (fun r => r.id == row.id) (stamp status time) db.notifications =
      db.notifications := by
    unfold Rows.updateWhere
    conv_rhs => rw [← List.map_id db.notifications]
    apply List.map_congr_left
    intro other member
    have differs : (other.id == row.id) = false := by
      rw [beq_eq_false_iff_ne]
      exact fun same => accepted.1 (List.mem_map.mpr ⟨other, member, same⟩)
    simp [differs]
  have split : (db.addNotification row accepted).notifications = db.notifications ++ [row] := rfl
  have stamped : ((db.addNotification row accepted).stampWhere (fun r => r.id == row.id) status
      time).notifications = Rows.updateWhere (fun r => r.id == row.id) (stamp status time)
        (db.notifications ++ [row]) := rfl
  rw [stamped, Rows.updateWhere, List.map_append, ← Rows.updateWhere, old]
  simp

theorem send_of_free (fresh : env.id ∉ w.db.notifications.map (·.id))
    (reached : attempt tenantID env req w.db = .insert row)
    (free : foreignBlocks tenantID w.db row = false) :
    ∃ db, send maxRetries env tenantID req w =
        ((finish maxRetries env tenantID req row).1,
          ⟨db, w.published ++ (finish maxRetries env tenantID req row).2.1⟩) ∧
      db.notifications = w.db.notifications ++ [(finish maxRetries env tenantID req row).2.2] ∧
      db.templates = w.db.templates ∧ db.tenants = w.db.tenants := by
  obtain ⟨valid, found, conn, fits, own⟩ := attempt_insert reached
  have accepted : w.db.AcceptsNotification row := (accepts_iff fits fresh own).mpr free
  have created : create env.createConn w.db tenantID req env.id env.createdAt =
      .ok (dbNotificationToDomain row, w.db.addNotification row accepted) := by
    simp [create, conn, Conn.exec, insertNotification, fits, accepted]
  simp only [send, valid, found, created, finish, sendNow]
  cases scheduledAfter req env.now with
  | true => exact ⟨w.db.addNotification row accepted, by simp, rfl, rfl, rfl⟩
  | false =>
      simp only [Bool.false_eq_true, if_false]
      cases env.publishError with
      | some text => exact ⟨w.db.addNotification row accepted, by simp, rfl, rfl, rfl⟩
      | none =>
          cases env.updateConn with
          | down =>
              refine ⟨w.db.addNotification row accepted, ?_, rfl, rfl, rfl⟩
              simp [updateStatus, Conn.exec]
          | up =>
              have stored : row ∈ (w.db.addNotification row accepted).notifications :=
                List.mem_append_right _ (List.mem_singleton_self _)
              have updated : updateStatus .up (w.db.addNotification row accepted) row.id .queued
                  env.updatedAt = _ := updateStatus_of_mem stored
              refine ⟨(w.db.addNotification row accepted).stampWhere (fun r => r.id == row.id)
                .queued env.updatedAt, ?_, stampWhere_new accepted _ _, rfl, rfl⟩
              have subject : (dbNotificationToDomain row).id = row.id := rfl
              simp [subject, updated]

/-- The row an insert ends up with is the tenant's own, under the new id, and so is
    what Send publishes. -/
theorem finish_own (reached : attempt tenantID env req w.db = .insert row) :
    ownNotification tenantID (finish maxRetries env tenantID req row).2.2 = true ∧
      (finish maxRetries env tenantID req row).2.2.id = env.id ∧
      ∀ p ∈ (finish maxRetries env tenantID req row).2.1, ownPublication tenantID p = true := by
  obtain ⟨_, _, _, fits, _⟩ := attempt_insert reached
  obtain ⟨id, owner, _⟩ := row_of_insertParams fits
  unfold finish
  cases scheduledAfter req env.now with
  | true => simp [ownNotification, owner, id]
  | false =>
      cases env.publishError with
      | some text => simp [ownNotification, owner, id]
      | none =>
          cases env.updateConn with
          | up => simp [ownNotification, ownPublication, owner, id, stamp, NotificationService.enqueue]
          | down => simp [ownNotification, ownPublication, owner, id, NotificationService.enqueue]

/-- What a Send of the tenant leaves alone, and what it adds. -/
structure Extends (tenantID : UUID) (id : UUID) (w after : World) : Prop where
  rows : ∃ rows, after.db.notifications = w.db.notifications ++ rows ∧
    ∀ row ∈ rows, ownNotification tenantID row = true ∧ row.id = id
  published : ∃ messages, after.published = w.published ++ messages ∧
    ∀ p ∈ messages, ownPublication tenantID p = true
  templates : after.db.templates = w.db.templates
  tenants : after.db.tenants = w.db.tenants

theorem Extends.refl (tenantID id : UUID) (w : World) : Extends tenantID id w w :=
  ⟨⟨[], by simp, by simp⟩, ⟨[], by simp, by simp⟩, rfl, rfl⟩

theorem send_extends (maxRetries : Int) (tenantID : UUID) (req : SendRequest)
    (fresh : env.id ∉ w.db.notifications.map (·.id)) :
    Extends tenantID env.id w (send maxRetries env tenantID req w).2 := by
  cases reached : attempt tenantID env req w.db with
  | done result =>
      rw [send_of_done reached]
      exact .refl _ _ _
  | insert row =>
      cases blocks : foreignBlocks tenantID w.db row with
      | true =>
          rw [send_of_blocked fresh reached blocks]
          exact .refl _ _ _
      | false =>
          obtain ⟨db, sent, notifications, templates, tenants⟩ := send_of_free fresh reached blocks
          obtain ⟨own, id, messages⟩ := finish_own reached
          rw [sent]
          exact ⟨⟨_, notifications, by simpa using ⟨own, id⟩⟩, ⟨_, rfl, messages⟩, templates, tenants⟩

theorem Extends.rest {id : UUID} {after : World} (more : Extends tenantID id w after) :
    rest tenantID after = rest tenantID w := by
  obtain ⟨⟨rows, notifications, own⟩, ⟨messages, published, ours⟩, templates, tenants⟩ := more
  simp only [Notifications.rest, templates, tenants, notifications, published,
    Rows.others_append (fun row member => (own row member).1), Rows.others_append ours]

theorem Extends.foreignBlocks {id : UUID} {after : World} (more : Extends tenantID id w after)
    (row : NotificationRow) :
    foreignBlocks tenantID after.db row = Notifications.foreignBlocks tenantID w.db row := by
  have foreign : after.db.notifications.filter (!ownNotification tenantID ·) =
      w.db.notifications.filter (!ownNotification tenantID ·) :=
    congrArg Rest.notifications more.rest
  simp only [Notifications.foreignBlocks, foreign, more.templates]

end Send

/-! ## Two states that look the same to the tenant -/

section Agree

variable {maxRetries : Int} {env : SendEnv} {tenantID : UUID} {req : SendRequest} {w₁ w₂ : World}

theorem notifications_agree (agree : view tenantID w₁ = view tenantID w₂) :
    w₁.db.notifications.filter (ownNotification tenantID) =
      w₂.db.notifications.filter (ownNotification tenantID) :=
  congrArg View.notifications agree

theorem findExisting_congr {conn : Conn} (agree : view tenantID w₁ = view tenantID w₂) :
    findExisting conn w₁.db tenantID req = findExisting conn w₂.db tenantID req := by
  have lookup : ∀ key, getNotificationByIdempotencyKey w₁.db key tenantID =
      getNotificationByIdempotencyKey w₂.db key tenantID := by
    intro key
    have owned : ∀ row : NotificationRow,
        (row.idempotencyKey == some key && row.tenantID == some tenantID) = true →
          ownNotification tenantID row = true := by
      intro row hit
      exact ((Bool.and_eq_true _ _).mp hit).2
    unfold getNotificationByIdempotencyKey
    rw [Rows.find?_congr (notifications_agree agree) owned]
  simp only [findExisting, getByIdempotencyKey, lookup]

theorem attempt_congr (agree : view tenantID w₁ = view tenantID w₂) :
    attempt tenantID env req w₁.db = attempt tenantID env req w₂.db := by
  have allows : ownAllows tenantID w₁.db = ownAllows tenantID w₂.db := by
    have registered : decide (tenantID ∈ w₁.db.tenants) = decide (tenantID ∈ w₂.db.tenants) :=
      congrArg View.registered agree
    funext row
    unfold ownAllows
    rw [notifications_agree agree, registered]
  unfold attempt
  rw [findExisting_congr agree, allows]

theorem view_added {w : World} {db : Database} {row : NotificationRow}
    {messages : List (Publication Message)} (own : ownNotification tenantID row = true)
    (ours : ∀ p ∈ messages, ownPublication tenantID p = true)
    (notifications : db.notifications = w.db.notifications ++ [row])
    (templates : db.templates = w.db.templates) (tenants : db.tenants = w.db.tenants) :
    view tenantID ⟨db, w.published ++ messages⟩ =
      { view tenantID w with
        notifications := (view tenantID w).notifications ++ [row]
        published := (view tenantID w).published ++ messages } := by
  have single : ∀ x ∈ [row], ownNotification tenantID x = true := by simpa using own
  simp only [view, notifications, templates, tenants, Rows.mine_append single, Rows.mine_append ours]

/-- A Send whose insert, if it gets there, passes in both states or in none. -/
theorem send_isolated (agree : view tenantID w₁ = view tenantID w₂)
    (fresh₁ : env.id ∉ w₁.db.notifications.map (·.id))
    (fresh₂ : env.id ∉ w₂.db.notifications.map (·.id))
    (blocks : ∀ row, attempt tenantID env req w₁.db = .insert row →
      foreignBlocks tenantID w₁.db row = foreignBlocks tenantID w₂.db row) :
    Isolated (view tenantID) (rest tenantID) (send maxRetries env tenantID req) w₁ w₂ := by
  have left := (send_extends maxRetries tenantID req fresh₁).rest
  have right := (send_extends maxRetries tenantID req fresh₂).rest
  suffices same : (send maxRetries env tenantID req w₁).1 = (send maxRetries env tenantID req w₂).1 ∧
      view tenantID (send maxRetries env tenantID req w₁).2 =
        view tenantID (send maxRetries env tenantID req w₂).2 from
    ⟨same.1, same.2, left, right⟩
  cases reached : attempt tenantID env req w₁.db with
  | done result =>
      rw [send_of_done reached, send_of_done (attempt_congr agree ▸ reached)]
      exact ⟨rfl, agree⟩
  | insert row =>
      have reached' := attempt_congr agree ▸ reached
      have verdict := blocks row reached
      cases blocked : foreignBlocks tenantID w₁.db row with
      | true =>
          rw [send_of_blocked fresh₁ reached blocked,
            send_of_blocked fresh₂ reached' (verdict ▸ blocked)]
          exact ⟨rfl, agree⟩
      | false =>
          obtain ⟨db₁, sent₁, rows₁, templates₁, tenants₁⟩ := send_of_free fresh₁ reached blocked
          obtain ⟨db₂, sent₂, rows₂, templates₂, tenants₂⟩ :=
            send_of_free fresh₂ reached' (verdict ▸ blocked)
          obtain ⟨own, _, ours⟩ := finish_own reached
          rw [sent₁, sent₂, view_added own ours rows₁ templates₁ tenants₁,
            view_added own ours rows₂ templates₂ tenants₂, agree]
          exact ⟨rfl, rfl⟩

end Agree

/-! ## Inserts a Send is allowed, and how many pass -/

/-- The insert of an attempt, if it gets that far. -/
def Attempt.inserts : Attempt → List NotificationRow
  | .done _ => []
  | .insert row => [row]

/-- The inserts among `rows` that other tenants' rows let pass. -/
def passing (tenantID : UUID) (db : Database) (rows : List NotificationRow) :
    List NotificationRow :=
  rows.filter (!foreignBlocks tenantID db ·)

def rowCount (tenantID : UUID) (w : World) : Nat := (view tenantID w).notifications.length

section Count

variable {maxRetries : Int} {env : SendEnv} {tenantID : UUID} {req : SendRequest} {w : World}

theorem rowCount_send (fresh : env.id ∉ w.db.notifications.map (·.id)) :
    rowCount tenantID (send maxRetries env tenantID req w).2 = rowCount tenantID w +
      (passing tenantID w.db (attempt tenantID env req w.db).inserts).length := by
  cases reached : attempt tenantID env req w.db with
  | done result =>
      rw [send_of_done reached]
      simp [passing, Attempt.inserts]
  | insert row =>
      cases blocks : foreignBlocks tenantID w.db row with
      | true =>
          rw [send_of_blocked fresh reached blocks]
          simp [passing, Attempt.inserts, blocks]
      | false =>
          obtain ⟨db, sent, notifications, templates, tenants⟩ := send_of_free fresh reached blocks
          obtain ⟨own, _, ours⟩ := finish_own reached
          rw [sent, rowCount, view_added own ours notifications templates tenants]
          simp [passing, Attempt.inserts, blocks, rowCount]

end Count

/-! ## Bulk sends

A bulk request is a sequence of keyless sends with one template, so a row added by one
of them changes nothing for the next. -/

/-- Ids of the sends `k`, ..., `k + count - 1`: new, and different from each other. -/
def FreshIDs (envs : Nat → SendEnv) (k count : Nat) (db : Database) : Prop :=
  (∀ j < count, (envs (k + j)).id ∉ db.notifications.map (·.id)) ∧
  ∀ j < count, ∀ i < j, (envs (k + i)).id ≠ (envs (k + j)).id

instance (envs : Nat → SendEnv) (k count : Nat) (db : Database) :
    Decidable (FreshIDs envs k count db) :=
  inferInstanceAs (Decidable (_ ∧ _))

/-- The inserts the sends of a bulk request are allowed. -/
def insertsEach (tenantID : UUID) (envs : Nat → SendEnv) (req : BulkSendRequest) :
    Nat → List Recipient → Database → List NotificationRow
  | _, [], _ => []
  | k, r :: rest, db =>
      (attempt tenantID (envs k) (single req r) db).inserts ++
        insertsEach tenantID envs req (k + 1) rest db

/-- How the answer to one recipient goes into the answer to the bulk request. -/
def tally (r : Recipient) (result : Except Err Notification)
    (others : List Notification × List Err) : List Notification × List Err :=
  match result with
  | .ok n => (n :: others.1, others.2)
  | .error e => (others.1, .wrap ("recipient " ++ r.recipientID) e :: others.2)

section Bulk

variable {maxRetries : Int} {envs : Nat → SendEnv} {tenantID : UUID} {req : BulkSendRequest}
  {w after w₁ w₂ : World}

theorem FreshIDs.head {k count : Nat} (fresh : FreshIDs envs k (count + 1) w.db) :
    (envs k).id ∉ w.db.notifications.map (·.id) :=
  fresh.1 0 (Nat.succ_pos count)

theorem FreshIDs.tail {k count : Nat} (fresh : FreshIDs envs k (count + 1) w.db)
    (more : Extends tenantID (envs k).id w after) : FreshIDs envs (k + 1) count after.db := by
  have shift : ∀ j, k + 1 + j = k + (j + 1) := fun j => by omega
  refine ⟨?_, ?_⟩
  · intro j inside
    obtain ⟨rows, notifications, new⟩ := more.rows
    rw [notifications, List.map_append, List.mem_append, shift]
    rintro (old | added)
    · exact fresh.1 (j + 1) (by omega) old
    · obtain ⟨row, member, same⟩ := List.mem_map.mp added
      exact fresh.2 (j + 1) (by omega) 0 (by omega) ((new row member).2.symm.trans same)
  · intro j inside i before
    rw [shift, shift]
    exact fresh.2 (j + 1) (by omega) (i + 1) (by omega)

/-- The row of a bulk send has no key and the request's template. -/
theorem attempt_single {env : SendEnv} {r : Recipient} {row : NotificationRow}
    (reached : attempt tenantID env (single req r) w.db = .insert row) :
    row.idempotencyKey = none ∧ row.templateID = req.templateID := by
  obtain ⟨_, _, _, fits, _⟩ := attempt_insert reached
  obtain ⟨_, _, _, _, _, template, key⟩ := row_of_insertParams fits
  exact ⟨(Option.some.inj key).symm, template⟩

theorem attempt_single_congr {env : SendEnv} {r : Recipient}
    (tenants : after.db.tenants = w.db.tenants) :
    attempt tenantID env (single req r) after.db = attempt tenantID env (single req r) w.db := by
  have found : ∀ db, findExisting env.lookupConn db tenantID (single req r) = .ok none :=
    fun _ => rfl
  unfold attempt
  simp only [found]
  cases env.createConn with
  | down => rfl
  | up =>
      cases fits : (insertParams tenantID (single req r)).row env.id env.createdAt with
      | none => rfl
      | some row =>
          obtain ⟨_, _, _, _, _, _, key⟩ := row_of_insertParams fits
          have keyless : row.idempotencyKey = none := (Option.some.inj key).symm
          have allows : ownAllows tenantID after.db row = ownAllows tenantID w.db row := by
            simp only [ownAllows, keyless, Option.all_none, tenants]
          simp only [allows]

theorem insertsEach_congr (tenants : after.db.tenants = w.db.tenants) (k : Nat)
    (recipients : List Recipient) :
    insertsEach tenantID envs req k recipients after.db =
      insertsEach tenantID envs req k recipients w.db := by
  induction recipients generalizing k with
  | nil => rfl
  | cons r others ih => simp only [insertsEach, attempt_single_congr tenants, ih]

theorem insertsEach_single {k : Nat} {recipients : List Recipient} {row : NotificationRow}
    (member : row ∈ insertsEach tenantID envs req k recipients w.db) :
    row.idempotencyKey = none ∧ row.templateID = req.templateID := by
  induction recipients generalizing k with
  | nil => simp [insertsEach] at member
  | cons r others ih =>
      rcases List.mem_append.mp member with here | later
      · cases reached : attempt tenantID (envs k) (single req r) w.db with
        | done result => simp [reached, Attempt.inserts] at here
        | insert own =>
            simp only [reached, Attempt.inserts, List.mem_singleton] at here
            exact here ▸ attempt_single reached
      · exact ih later

theorem sendEach_cons (k : Nat) (r : Recipient) (others : List Recipient) :
    sendEach maxRetries envs tenantID req k (r :: others) = fun w =>
      let first := send maxRetries (envs k) tenantID (single req r) w
      let later := sendEach maxRetries envs tenantID req (k + 1) others first.2
      (tally r first.1 later.1, later.2) := by
  funext w
  simp only [sendEach, tally]
  cases (send maxRetries (envs k) tenantID (single req r) w).1 <;> rfl

/-- By induction over the recipients; each Send leaves the states in the shape the
    rest of the loop needs. -/
theorem sendEach_isolated (agree : view tenantID w₁ = view tenantID w₂) {k : Nat}
    {recipients : List Recipient} (fresh₁ : FreshIDs envs k recipients.length w₁.db)
    (fresh₂ : FreshIDs envs k recipients.length w₂.db)
    (blocks : ∀ row ∈ insertsEach tenantID envs req k recipients w₁.db,
      foreignBlocks tenantID w₁.db row = foreignBlocks tenantID w₂.db row) :
    Isolated (view tenantID) (rest tenantID)
      (sendEach maxRetries envs tenantID req k recipients) w₁ w₂ := by
  induction recipients generalizing k w₁ w₂ with
  | nil => exact ⟨rfl, agree, rfl, rfl⟩
  | cons r others ih =>
      have first : Isolated (view tenantID) (rest tenantID)
          (send maxRetries (envs k) tenantID (single req r)) w₁ w₂ := by
        apply send_isolated agree fresh₁.head fresh₂.head
        intro row reached
        apply blocks row
        simp [insertsEach, reached, Attempt.inserts]
      have more₁ := send_extends maxRetries tenantID (single req r) fresh₁.head
      have more₂ := send_extends maxRetries tenantID (single req r) fresh₂.head
      have later : Isolated (view tenantID) (rest tenantID)
          (sendEach maxRetries envs tenantID req (k + 1) others)
          (send maxRetries (envs k) tenantID (single req r) w₁).2
          (send maxRetries (envs k) tenantID (single req r) w₂).2 := by
        apply ih first.view (fresh₁.tail more₁) (fresh₂.tail more₂)
        intro row member
        rw [insertsEach_congr more₁.tenants] at member
        rw [more₁.foreignBlocks, more₂.foreignBlocks]
        exact blocks row (List.mem_append_right _ member)
      rw [sendEach_cons]
      exact first.bind fun result => later.map (tally r result)

theorem rowCount_sendEach {k : Nat} {recipients : List Recipient}
    (fresh : FreshIDs envs k recipients.length w.db) :
    rowCount tenantID (sendEach maxRetries envs tenantID req k recipients w).2 =
      rowCount tenantID w +
        (passing tenantID w.db (insertsEach tenantID envs req k recipients w.db)).length := by
  induction recipients generalizing k w with
  | nil => simp [sendEach, insertsEach, passing]
  | cons r others ih =>
      have more := send_extends maxRetries tenantID (single req r) fresh.head
      have later := ih (fresh.tail more)
      have verdicts : passing tenantID (send maxRetries (envs k) tenantID (single req r) w).2.db =
          passing tenantID w.db := by
        funext rows
        simp only [passing, more.foreignBlocks]
      rw [insertsEach_congr more.tenants, verdicts, rowCount_send fresh.head] at later
      rw [sendEach_cons, insertsEach]
      simp only [passing, List.filter_append, List.length_append] at later ⊢
      omega

end Bulk

end NotifyHub.Isolation.Notifications
