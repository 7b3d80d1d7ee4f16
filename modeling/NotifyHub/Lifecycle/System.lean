import NotifyHub.Lib.Transition
import NotifyHub.NotificationService
import NotifyHub.Scheduler

/-! # The system: API calls, scheduler ticks and workers on shared state

Every call of Send, every scheduler tick and every Process call is a thread. One
step of a thread is one call to the database, the broker, the clock or another
outside service, with the local computation around it; anything may happen
between two steps. Other actors act in one step: Cancel is a single guarded
UPDATE, a DLQ replay is a single publish.

Kafka is at-least-once: `deliver` may hand any published message to a worker, any
number of times. Requests, clocks, fresh ids and failures are arbitrary, and
clocks of different parties need not agree.
-/

namespace NotifyHub.Lifecycle

/-- `registry` maps a channel to the name of its registered provider. -/
structure Config where
  maxRetries : Int
  batchSize : Int
  rateCap : Channel → Int
  registry : Channel → Option String
  dlqEnabled : Bool

/-- An error returned by an outside call; `permanent` is what `provider.IsPermanent`
    says of it. -/
structure Fault where
  text : String
  permanent : Bool
  deriving Repr, DecidableEq

/-- What the outside world answers to the one call of a step: the error if it fails,
    the time it reads, the id it generates, and the reason of a preference or
    rate-limit check that says no. -/
structure Answer where
  fault : Option Fault := none
  now : Time := 0
  id : UUID := 0
  block : Option String := none
  deriving Repr, DecidableEq

def Answer.conn (a : Answer) : Conn :=
  match a.fault with
  | none => .up
  | some _ => .down

/-! ## Threads -/

/-- The next call of a Send. -/
inductive SendPc where
  | start
  | create
  | schedule (n : Notification)
  | publish (n : Notification)
  | markQueued (n : Notification)
  | returned (result : Except Err Notification)

/-- The next call of a scheduler tick; `rest` is the part of the batch still to do. -/
inductive TickPc where
  | list
  | enqueue (n : Notification) (rest : List Notification)
  | markQueued (n : Notification) (rest : List Notification)
  | returned

inductive DeliveryStatus where
  | success
  | failed
  deriving Repr, DecidableEq

/-- The non-fatal calls that close the pipeline of Process. -/
inductive Closing where
  | logDelivery (status : DeliveryStatus) (errMsg : Option String) (deliveredAt : Option Time)
  | deadLetter (reason errMsg : String)
  | updateStatus (status : NotificationStatus)
  | dispatchWebhook (event : String)
  deriving Repr, DecidableEq

/-- The next call of a Process. -/
inductive ProcessPc where
  | fetch
  | markProcessing (n : Notification)
  | preference (n : Notification)
  | rateLimit (n : Notification)
  | render (n : Notification)
  | send (n : Notification) (attempt : Int)
  | backoff (n : Notification) (attempt : Int)
  | closing (n : Notification) (todo : List Closing)
  | returned (err : Option Err)

/-- A running or finished call. `rest` holds the requests that follow in a SendBulk;
    `offset` is the position of the message a Process works on. -/
inductive Thread where
  | send (tenantID : UUID) (req : SendRequest) (pc : SendPc) (rest : List SendRequest)
  | tick (pc : TickPc)
  | process (offset : Nat) (msg : Message) (pc : ProcessPc)

/-! ## Shared state -/

/-- A published message, with the thread that published it. -/
structure Record where
  publication : Publication Message
  sender : Option Nat
  deriving Repr, DecidableEq

structure DeliveryLog where
  notificationID : UUID
  channel : Channel
  provider : String
  status : DeliveryStatus
  errorMessage : Option String
  retryCount : Int
  attemptedAt : Time
  deliveredAt : Option Time
  deriving Repr, DecidableEq

/-- `topics` lists what was published to the notification topics, in order;
    `deliveries` the positions handed to workers; `providerSends` the provider
    calls by notification; `cancelled` the notifications Cancel has dropped. -/
structure Shared where
  db : Database
  topics : List Record
  dlq : List DLQMessage
  deliveries : List Nat
  providerSends : List UUID
  logs : List DeliveryLog
  dispatches : List (UUID × String)
  cancelled : List UUID

structure State where
  shared : Shared
  threads : List Thread

/-- Append one publication. -/
def Shared.publish (sh : Shared) (publication : Publication Message) (sender : Option Nat) :
    Shared :=
  { sh with topics := sh.topics ++ [⟨publication, sender⟩] }

/-! ## Send -/

def sendStep (cfg : Config) (i : Nat) (a : Answer) (tenantID : UUID) (req : SendRequest)
    (sh : Shared) : SendPc → Shared × SendPc
  | .start =>
      match NotificationService.validateSend req with
      | .error e => (sh, .returned (.error (.app e)))
      | .ok () =>
          match NotificationService.findExisting a.conn sh.db tenantID req with
          | .error e => (sh, .returned (.error (.app e)))
          | .ok (some existing) => (sh, .returned (.ok existing))
          | .ok none => (sh, .create)
  | .create =>
      match NotificationRepository.create a.conn sh.db tenantID req a.id a.now with
      | .error e => (sh, .returned (.error (.app e)))
      | .ok (n, db) => ({ sh with db := db }, .schedule n)
  | .schedule n =>
      if NotificationService.scheduledAfter req a.now then (sh, .returned (.ok n))
      else (sh, .publish n)
  | .publish n =>
      match a.fault with
      | some f => (sh, .returned (.error (.wrap "enqueue notification" (.plain f.text))))
      | none =>
          (sh.publish (NotificationService.enqueue cfg.maxRetries tenantID n a.now) (some i),
            .markQueued n)
  | .markQueued n =>
      match NotificationRepository.updateStatus a.conn sh.db n.id .queued a.now with
      | .error e => (sh, .returned (.error (.app e)))
      | .ok (queued, db) => ({ sh with db := db }, .returned (.ok queued))
  | .returned result => (sh, .returned result)

/-! ## Scheduler.tick -/

def nextItem : List Notification → TickPc
  | [] => .returned
  | n :: rest => .enqueue n rest

def tickStep (cfg : Config) (i : Nat) (a : Answer) (sh : Shared) : TickPc → Shared × TickPc
  | .list =>
      match NotificationRepository.listDueScheduled a.conn sh.db cfg.batchSize a.now with
      | .error _ => (sh, .returned)
      | .ok notifications => (sh, nextItem notifications)
  | .enqueue n rest =>
      match a.fault with
      | some _ => (sh, nextItem rest)
      | none => (sh.publish (Scheduler.enqueue cfg.maxRetries n a.now) (some i), .markQueued n rest)
  | .markQueued n rest =>
      match NotificationRepository.updateStatus a.conn sh.db n.id .queued a.now with
      | .error _ => (sh, nextItem rest)
      | .ok (_, db) => ({ sh with db := db }, nextItem rest)
  | .returned => (sh, .returned)

/-! ## Processor.Process -/

def dlqReasonRetriesExhausted : String := "retries_exhausted"
def dlqReasonPermanent : String := "permanent"
def dlqReasonTemplateRender : String := "template_render"
def dlqReasonNoProvider : String := "no_provider"

def webhookEventDelivered : String := "notification.delivered"
def webhookEventFailed : String := "notification.failed"
def webhookEventDropped : String := "notification.dropped"

/-- `drop`. -/
def dropClosing (reason : String) : List Closing :=
  [.logDelivery .failed (some reason) none, .updateStatus .dropped,
    .dispatchWebhook webhookEventDropped]

/-- The failure exits of `deliver`. -/
def failClosing (reason errMsg : String) : List Closing :=
  [.logDelivery .failed (some errMsg) none, .deadLetter reason errMsg, .updateStatus .failed,
    .dispatchWebhook webhookEventFailed]

/-- The success exit of `deliver`. -/
def deliverClosing (now : Time) : List Closing :=
  [.logDelivery .success none (some now), .updateStatus .delivered,
    .dispatchWebhook webhookEventDelivered]

/-- One closing call. Errors are logged only, so the pipeline goes on in any case. -/
def closingStep (cfg : Config) (a : Answer) (msg : Message) (n : Notification) (sh : Shared) :
    Closing → Shared
  | .logDelivery status errMsg deliveredAt =>
      match a.fault with
      | some _ => sh
      | none =>
          { sh with
            logs := sh.logs ++
              [{ notificationID := n.id
                 channel := n.channel
                 provider := (cfg.registry n.channel).getD n.channel.text
                 status := status
                 errorMessage := errMsg
                 retryCount := int32 (msg.attempt - 1)
                 attemptedAt := a.now
                 deliveredAt := deliveredAt }] }
  | .deadLetter reason errMsg =>
      match cfg.dlqEnabled, a.fault with
      | true, none =>
          { sh with
            dlq := sh.dlq ++
              [{ original := msg
                 originalTopic := topicForChannel msg.channel
                 failureReason := reason
                 errorMessage := errMsg
                 lastAttempt := msg.attempt
                 deadLetteredAt := a.now }] }
      | _, _ => sh
  | .updateStatus status =>
      match NotificationRepository.updateStatus a.conn sh.db n.id status a.now with
      | .error _ => sh
      | .ok (_, db) => { sh with db := db }
  | .dispatchWebhook event => { sh with dispatches := sh.dispatches ++ [(n.id, event)] }

def processStep (cfg : Config) (a : Answer) (msg : Message) (sh : Shared) :
    ProcessPc → Shared × ProcessPc
  | .fetch =>
      match NotificationRepository.getByID a.conn sh.db msg.tenantID msg.notificationID with
      | .error e => (sh, .returned (some (.wrap "fetch notification" (.app e))))
      | .ok n => (sh, .markProcessing n)
  | .markProcessing n =>
      match NotificationRepository.updateStatus a.conn sh.db n.id .processing a.now with
      | .error e => (sh, .returned (some (.wrap "mark processing" (.app e))))
      | .ok (_, db) => ({ sh with db := db }, .preference n)
  | .preference n =>
      match a.fault, a.block with
      | some f, _ => (sh, .returned (some (.wrap "preference check" (.plain f.text))))
      | none, some reason => (sh, .closing n (dropClosing reason))
      | none, none => (sh, .rateLimit n)
  | .rateLimit n =>
      if 0 < cfg.rateCap n.channel then
        match a.fault, a.block with
        | some f, _ => (sh, .returned (some (.wrap "rate limit check" (.plain f.text))))
        | none, some _ => (sh, .closing n (dropClosing "rate limit exceeded"))
        | none, none => (sh, .render n)
      else (sh, .render n)
  | .render n =>
      match n.templateID, a.fault with
      | some _, some f => (sh, .closing n (failClosing dlqReasonTemplateRender f.text))
      | _, _ =>
          match cfg.registry n.channel with
          | some _ => (sh, .send n msg.attempt)
          | none =>
              (sh, .closing n (failClosing dlqReasonNoProvider
                ("no provider registered for channel: " ++ n.channel.text)))
  | .send n attempt =>
      let called := { sh with providerSends := sh.providerSends ++ [n.id] }
      match a.fault with
      | none => (called, .closing n (deliverClosing a.now))
      | some f =>
          if f.permanent then (called, .closing n (failClosing dlqReasonPermanent f.text))
          else if msg.maxAttempts ≤ attempt then
            (called, .closing n (failClosing dlqReasonRetriesExhausted f.text))
          else (called, .backoff n attempt)
  | .backoff n attempt =>
      match a.fault with
      | some f =>
          (sh, .closing n (failClosing dlqReasonRetriesExhausted
            ("context cancelled during retry: " ++ f.text)))
      | none => (sh, .send n (attempt + 1))
  | .closing _ [] => (sh, .returned none)
  | .closing n (act :: todo) => (closingStep cfg a msg n sh act, .closing n todo)
  | .returned err => (sh, .returned err)

/-! ## The whole system -/

/-- One step of a thread; a finished thread has none. A SendBulk goes on with its
    next recipient when a Send returns. -/
def Thread.step (cfg : Config) (i : Nat) (a : Answer) (sh : Shared) :
    Thread → Option (Shared × Thread)
  | .send _ _ (.returned _) [] => none
  | .send tenantID _ (.returned _) (req :: rest) => some (sh, .send tenantID req .start rest)
  | .send tenantID req pc rest =>
      let (sh', pc') := sendStep cfg i a tenantID req sh pc
      some (sh', .send tenantID req pc' rest)
  | .tick .returned => none
  | .tick pc =>
      let (sh', pc') := tickStep cfg i a sh pc
      some (sh', .tick pc')
  | .process _ _ (.returned _) => none
  | .process offset msg pc =>
      let (sh', pc') := processStep cfg a msg sh pc
      some (sh', .process offset msg pc')

inductive Label where
  | call (tenantID : UUID) (req : SendRequest)
  | callBulk (tenantID : UUID) (req : BulkSendRequest)
  | tick
  | deliver (offset : Nat)
  | cancel (tenantID id : UUID) (a : Answer)
  | replay (entry : Nat) (a : Answer)
  | step (thread : Nat) (a : Answer)

/-- The recipients' requests of a bulk call that passes validation. -/
def bulkRequests (req : BulkSendRequest) : List SendRequest :=
  match NotificationService.validateSendBulk req with
  | .error _ => []
  | .ok () => (req.recipients.getD []).map (NotificationService.single req)

/-- The envelope a DLQ replay publishes again. -/
def replayed (cfg : Config) (d : DLQMessage) (now : Time) : Publication Message :=
  { topic := d.originalTopic
    key := d.original.recipientID
    value := { d.original with
      attempt := 1, maxAttempts := cfg.maxRetries, enqueuedAt := now } }

def step (cfg : Config) (s : State) : Label → Option State
  | .call tenantID req => some { s with threads := s.threads ++ [.send tenantID req .start []] }
  | .callBulk tenantID req =>
      match bulkRequests req with
      | [] => some s
      | first :: rest =>
          some { s with threads := s.threads ++ [.send tenantID first .start rest] }
  | .tick => some { s with threads := s.threads ++ [.tick .list] }
  | .deliver offset =>
      match s.shared.topics[offset]? with
      | none => none
      | some record =>
          some
            { shared := { s.shared with deliveries := s.shared.deliveries ++ [offset] }
              threads := s.threads ++ [.process offset record.publication.value .fetch] }
  | .cancel tenantID id a =>
      match NotificationRepository.cancel a.conn s.shared.db tenantID id a.now with
      | .error _ => some s
      | .ok (_, db) =>
          some
            { s with
              shared := { s.shared with db := db, cancelled := s.shared.cancelled ++ [id] } }
  | .replay entry a =>
      match s.shared.dlq[entry]?, a.fault with
      | none, _ => none
      | some _, some _ => some s
      | some d, none =>
          some { s with shared := s.shared.publish (replayed cfg d a.now) none }
  | .step i a =>
      match s.threads[i]? with
      | none => none
      | some t =>
          match t.step cfg i a s.shared with
          | none => none
          | some (sh, t') => some { shared := sh, threads := s.threads.set i t' }

/-- A deployment before its first request: any tenants and templates, no notification. -/
def initial (db : Database) : State :=
  { shared :=
      { db := db.withoutNotifications
        topics := []
        dlq := []
        deliveries := []
        providerSends := []
        logs := []
        dispatches := []
        cancelled := [] }
    threads := [] }

abbrev run (cfg : Config) : State → List Label → Option State := Transition.run (step cfg)

abbrev Guarded (cfg : Config) (guard : State → Label → Prop) : State → List Label → Prop :=
  Transition.Guarded (step cfg) guard

def statusOf (db : Database) (id : UUID) : Option NotificationStatus :=
  (db.notifications.find? (·.id == id)).map (·.status)

theorem statusOf_of_mem {db : Database} {row : NotificationRow} (stored : row ∈ db.notifications) :
    statusOf db row.id = some row.status := by
  unfold statusOf
  rw [Database.find_notification stored]
  rfl

/-! ## A small deployment

One tenant with an email provider; the runs of the later modules on fixed inputs
start here. -/

def acme : UUID := 1

def plain : Config :=
  { maxRetries := 3
    batchSize := 100
    rateCap := fun _ => 0
    registry := fun _ => some "smtp"
    dlqEnabled := true }

def deployed : State := initial (.ofTenants [acme])

def welcome : SendRequest :=
  { type := "welcome"
    channel := .email
    recipientID := "u1"
    recipientAddress := "u1@example.com"
    templateID := none
    payload := none
    priority := 5
    idempotencyKey := none
    scheduledAt := none }

/-- The calls of thread `i`, all answered. -/
def steps (i k : Nat) : List Label := List.replicate k (.step i {})

-- Send, then a worker takes the message from fetch to the end of its pipeline.
example :
    (run plain deployed ([.call acme welcome] ++ steps 0 5 ++ [.deliver 0] ++ steps 1 10)).map
      (fun s => (statusOf s.shared.db 0, s.shared.providerSends)) = some (some .delivered, [0]) := by
  decide +kernel

end NotifyHub.Lifecycle
