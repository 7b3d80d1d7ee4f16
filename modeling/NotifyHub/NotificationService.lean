import NotifyHub.NotificationRepository
import NotifyHub.Queue

/-! # `notificationService`

One call at a time: `send` runs the whole of Send on a database, with the answers
of the outside world to its calls fixed in a `SendEnv`. What several calls do to
each other is the subject of the lifecycle modules, whose steps are the same
calls taken one by one.
-/

namespace NotifyHub

namespace NotificationService

/-! ## Validation

Each failing field contributes its Go name and the first tag it breaks, which is
what `toValidationError` puts into the details. -/

def required (field value : String) : List (String × String) :=
  if value = "" then [(field, "required")] else []

def channelRule (ch : Channel) : List (String × String) :=
  if ch.text = "" then [("Channel", "required")]
  else if ch.isValid then []
  else [("Channel", "oneof")]

def priorityRule (p : Int) : List (String × String) :=
  if p < 1 then [("Priority", "min")]
  else if 10 < p then [("Priority", "max")]
  else []

/-- Without a `dive` tag the elements are not looked into. -/
def recipientsRule : Option (List Recipient) → List (String × String)
  | none => [("Recipients", "required")]
  | some rs =>
      if rs.length < 1 then [("Recipients", "min")]
      else if 1000 < rs.length then [("Recipients", "max")]
      else []

def toValidationError : List (String × String) → Except AppError Unit
  | [] => .ok ()
  | details => .error (newValidationError "validation failed" details)

def validateSend (req : SendRequest) : Except AppError Unit :=
  toValidationError
    (required "Type" req.type ++ channelRule req.channel ++
      required "RecipientID" req.recipientID ++
      required "RecipientAddress" req.recipientAddress ++ priorityRule req.priority)

def validateSendBulk (req : BulkSendRequest) : Except AppError Unit :=
  toValidationError
    (required "Type" req.type ++ channelRule req.channel ++ priorityRule req.priority ++
      recipientsRule req.recipients)

/-! ## Sending -/

/-- The publish call of `enqueue`: topic, key and envelope. -/
def enqueue (maxRetries : Int) (tenantID : UUID) (n : Notification) (now : Time) :
    Publication Message :=
  { topic := topicForChannel n.channel
    key := n.recipientID
    value :=
      { notificationID := n.id
        tenantID := tenantID
        channel := n.channel
        recipientID := n.recipientID
        recipientAddress := n.recipientAddress
        templateID := n.templateID
        payload := n.payload
        priority := n.priority
        attempt := 1
        maxAttempts := maxRetries
        enqueuedAt := now } }

/-- `req.ScheduledAt != nil && req.ScheduledAt.After(now)`. -/
def scheduledAfter (req : SendRequest) (now : Time) : Bool :=
  match req.scheduledAt with
  | none => false
  | some t => decide (now < t)

/-- The idempotency check in front of the insert. -/
def findExisting (conn : Conn) (db : Database) (tenantID : UUID) (req : SendRequest) :
    Except AppError (Option Notification) :=
  match req.idempotencyKey with
  | none => .ok none
  | some key =>
      if key = "" then .ok none
      else NotificationRepository.getByIdempotencyKey conn db tenantID key

theorem findExisting_some {conn : Conn} {db : Database} {tenantID : UUID} {req : SendRequest}
    {n : Notification} (found : findExisting conn db tenantID req = .ok (some n)) :
    ∃ key row, req.idempotencyKey = some key ∧ key ≠ "" ∧ row ∈ db.notifications ∧
      row.idempotencyKey = some key ∧ row.tenantID = some tenantID ∧
      n = dbNotificationToDomain row := by
  unfold findExisting at found
  cases given : req.idempotencyKey with
  | none => simp [given] at found
  | some key =>
      by_cases empty : key = ""
      · simp [given, empty] at found
      · simp only [given, if_neg empty] at found
        obtain ⟨row, stored, facts⟩ := NotificationRepository.getByIdempotencyKey_some found
        exact ⟨key, row, rfl, empty, stored, facts⟩

/-- What the database, the broker and the clock answer to the calls of one Send. -/
structure SendEnv where
  lookupConn : Conn
  createConn : Conn
  id : UUID
  createdAt : Time
  now : Time
  enqueuedAt : Time
  publishError : Option String
  updateConn : Conn
  updatedAt : Time

/-- The database and everything the service has published. -/
structure World where
  db : Database
  published : List (Publication Message)

/-- Publish, then mark queued. -/
def sendNow (maxRetries : Int) (env : SendEnv) (tenantID : UUID) (n : Notification)
    (w : World) : Except Err Notification × World :=
  match env.publishError with
  | some text => (.error (.wrap "enqueue notification" (.plain text)), w)
  | none =>
      let sent := { w with
        published := w.published ++ [enqueue maxRetries tenantID n env.enqueuedAt] }
      match NotificationRepository.updateStatus env.updateConn sent.db n.id .queued
          env.updatedAt with
      | .error e => (.error (.app e), sent)
      | .ok (queued, db) => (.ok queued, { sent with db := db })

def send (maxRetries : Int) (env : SendEnv) (tenantID : UUID) (req : SendRequest)
    (w : World) : Except Err Notification × World :=
  match validateSend req with
  | .error e => (.error (.app e), w)
  | .ok () =>
      match findExisting env.lookupConn w.db tenantID req with
      | .error e => (.error (.app e), w)
      | .ok (some existing) => (.ok existing, w)
      | .ok none =>
          match NotificationRepository.create env.createConn w.db tenantID req env.id
              env.createdAt with
          | .error e => (.error (.app e), w)
          | .ok (n, db) =>
              if scheduledAfter req env.now then (.ok n, { w with db := db })
              else sendNow maxRetries env tenantID n { w with db := db }

/-! ## Bulk -/

/-- `m[k] = v`. -/
def assign (m : JSONMap) (k : String) (v : Value) : JSONMap :=
  if m.any (·.1 == k) then m.map fun kv => if kv.1 == k then (k, v) else kv
  else m ++ [(k, v)]

/-- `maps.Copy(dst, src)`. -/
def copy (dst : JSONMap) (src : Option JSONMap) : JSONMap :=
  (src.getD []).foldl (fun m kv => assign m kv.1 kv.2) dst

/-- The request of one recipient: bulk requests carry neither an idempotency key
    nor a schedule. -/
def single (req : BulkSendRequest) (r : Recipient) : SendRequest :=
  { type := req.type
    channel := req.channel
    recipientID := r.recipientID
    recipientAddress := r.recipientAddress
    templateID := req.templateID
    payload := some (copy (copy [] req.payload) r.payload)
    priority := req.priority
    idempotencyKey := none
    scheduledAt := none }

/-- The loop over the recipients; `envs k` answers the `k`-th Send. -/
def sendEach (maxRetries : Int) (envs : Nat → SendEnv) (tenantID : UUID)
    (req : BulkSendRequest) : Nat → List Recipient → World →
    (List Notification × List Err) × World
  | _, [], w => (([], []), w)
  | k, r :: rest, w =>
      let (result, sent) := send maxRetries (envs k) tenantID (single req r) w
      let ((results, errs), final) := sendEach maxRetries envs tenantID req (k + 1) rest sent
      match result with
      | .ok n => ((n :: results, errs), final)
      | .error e => ((results, .wrap ("recipient " ++ r.recipientID) e :: errs), final)

def sendBulk (maxRetries : Int) (envs : Nat → SendEnv) (tenantID : UUID)
    (req : BulkSendRequest) (w : World) : (List Notification × List Err) × World :=
  match validateSendBulk req with
  | .error e => (([], [.app e]), w)
  | .ok () => sendEach maxRetries envs tenantID req 0 (req.recipients.getD []) w

/-! ## Reads and cancellation

These go straight to the repository. -/

def getByID (conn : Conn) (db : Database) (tenantID id : UUID) : Except AppError Notification :=
  NotificationRepository.getByID conn db tenantID id

def list (conn countConn : Conn) (db : Database) (tenantID : UUID)
    (filter : ListNotificationsFilter) : Except AppError (List Notification × Nat) :=
  NotificationRepository.list conn countConn db tenantID filter

def cancel (conn : Conn) (db : Database) (tenantID id : UUID) (now : Time) :
    Except AppError (Notification × Database) :=
  NotificationRepository.cancel conn db tenantID id now

end NotificationService

end NotifyHub
