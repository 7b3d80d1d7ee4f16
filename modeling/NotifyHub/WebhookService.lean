import NotifyHub.Queue
import NotifyHub.Stores.WebhookRepository

/-! # `webhookService`

Tenants register endpoints for events that the service knows. One event of a notification
goes to every active endpoint of its tenant that subscribes to it. The payload is built
once, from the notification value that the caller hands over; each endpoint gets a delivery
record and a message with that payload. An error at one endpoint is logged, and the others
still get theirs.
-/

namespace NotifyHub

def webhookTopic : String := "notifyhub.webhooks.outbound"

/-- `rfc3339` is `t.UTC().Format(time.RFC3339)`. -/
structure WebhookService where
  maxAttempts : Int
  rfc3339 : Time → String

/-- What the calls for one endpoint meet: the insert of the delivery, the clock, and the
    error of the publish. -/
structure EndpointCalls where
  insert : Conn := .up
  id : UUID
  insertedAt : Time := 0
  enqueuedAt : Time := 0
  broker : Option String := none
  deriving Repr, DecidableEq

structure DispatchCalls where
  list : Conn := .up
  builtAt : Time := 0
  each : Nat → EndpointCalls

/-- `domain.AllWebhookEvents`. -/
def allWebhookEvents : List String :=
  ["notification.delivered", "notification.failed", "notification.dropped",
    "device_token.deactivated"]

structure CreateWebhookEndpointRequest where
  url : String
  secret : String
  events : Option (List String)
  deriving Repr, DecidableEq

structure UpdateWebhookEndpointRequest where
  url : String
  events : Option (List String)
  isActive : Bool
  deriving Repr, DecidableEq

namespace WebhookService

/-! ## Endpoints -/

def validateEvents (events : Option (List String)) : Except AppError Unit :=
  match (events.getD []).find? fun e => !allWebhookEvents.contains e with
  | some e =>
      .error (newValidationError ("unknown event: " ++ e) (allWebhookEvents.map ("valid_events", ·)))
  | none => .ok ()

/-- `required,url` for the URL and `required,min=1` for the events; `isURL` is the rule `url`. -/
def validTarget (isURL : String → Bool) (url : String) (events : Option (List String)) : Bool :=
  url != "" && isURL url && events.any fun list => 1 ≤ list.length

def create (isURL : String → Bool) (conn : Conn) (s : Storage) (tenantID : UUID)
    (req : CreateWebhookEndpointRequest) (id : UUID) (now : Time) :
    Except AppError (WebhookEndpoint × Storage) :=
  if !(validTarget isURL req.url req.events && 16 ≤ req.secret.length) then
    .error (newValidationError "invalid webhook endpoint" [])
  else
    match validateEvents req.events with
    | .error e => .error e
    | .ok () =>
        WebhookRepository.createEndpoint conn s
          { id := UUID.zero
            tenantID := tenantID
            url := req.url
            secret := req.secret
            events := req.events
            isActive := true
            createdAt := 0
            updatedAt := 0 } id now

/-- The secret is not part of an update. -/
def update (isURL : String → Bool) (conn : Conn) (s : Storage) (tenantID id : UUID)
    (req : UpdateWebhookEndpointRequest) (now : Time) :
    Except AppError (WebhookEndpoint × Storage) :=
  if !validTarget isURL req.url req.events then
    .error (newValidationError "invalid webhook endpoint" [])
  else
    match validateEvents req.events with
    | .error e => .error e
    | .ok () =>
        WebhookRepository.updateEndpoint conn s
          { id := id
            tenantID := tenantID
            url := req.url
            secret := ""
            events := req.events
            isActive := req.isActive
            createdAt := 0
            updatedAt := 0 } now

def delete (conn : Conn) (s : Storage) (tenantID id : UUID) : Except AppError Storage :=
  WebhookRepository.deleteEndpoint conn s tenantID id

/-! ## Dispatch -/

def buildEventPayload (svc : WebhookService) (n : Notification) (event : String) (now : Time) :
    JSONMap :=
  [("event", .str event),
    ("notification_id", .str n.id.text),
    ("tenant_id", .str n.tenantID.text),
    ("channel", .str n.channel.text),
    ("recipient_id", .str n.recipientID),
    ("status", .str n.status.text),
    ("timestamp", .str (svc.rfc3339 now))]

def newDelivery (n : Notification) (event : String) (payload : JSONMap) (ep : WebhookEndpoint) :
    WebhookDelivery :=
  { endpointID := ep.id
    notificationID := some n.id
    event := event
    payload := payload
    status := .pending
    attempt := 0
    nextRetryAt := none }

def publication (svc : WebhookService) (n : Notification) (event : String) (payload : JSONMap)
    (ep : WebhookEndpoint) (deliveryID : UUID) (now : Time) : Publication WebhookMessage :=
  { topic := webhookTopic
    key := ep.id.text
    value :=
      { tenantID := n.tenantID
        endpointID := ep.id
        deliveryID := deliveryID
        notificationID := some n.id
        event := event
        payload := payload
        endpointURL := ep.url
        secret := ep.secret
        attempt := 1
        maxAttempts := svc.maxAttempts
        enqueuedAt := now } }

/-- The loop over the endpoints, from the `i`-th on. -/
def dispatchTo (svc : WebhookService) (each : Nat → EndpointCalls) (n : Notification)
    (event : String) (payload : JSONMap) :
    Nat → List WebhookEndpoint → Storage → List (Publication WebhookMessage) × Storage
  | _, [], s => ([], s)
  | i, ep :: rest, s =>
      match WebhookRepository.createDelivery (each i).insert s (newDelivery n event payload ep)
          (each i).id (each i).insertedAt with
      | .error _ => dispatchTo svc each n event payload (i + 1) rest s
      | .ok (deliveryID, s') =>
          let (published, final) := dispatchTo svc each n event payload (i + 1) rest s'
          match (each i).broker with
          | some _ => (published, final)
          | none =>
              (publication svc n event payload ep deliveryID (each i).enqueuedAt :: published, final)

/-- What was published, and the storage after the call. -/
def dispatch (svc : WebhookService) (calls : DispatchCalls) (s : Storage) (n : Notification)
    (event : String) : Except Err (List (Publication WebhookMessage) × Storage) :=
  match WebhookRepository.listActiveForEvent calls.list s n.tenantID event with
  | .error e => .error (.wrap "list active webhook endpoints" (.app e))
  | .ok endpoints =>
      .ok (dispatchTo svc calls.each n event (svc.buildEventPayload n event calls.builtAt) 0
        endpoints s)

/-! ## What is published -/

section Dispatch

variable {svc : WebhookService} {n : Notification} {event : String} {payload : JSONMap}
  {s s' : Storage} {p : Publication WebhookMessage}

theorem dispatchTo_publishes {each : Nat → EndpointCalls} {i : Nat}
    {endpoints : List WebhookEndpoint}
    (published : p ∈ (dispatchTo svc each n event payload i endpoints s).1) :
    ∃ ep ∈ endpoints, ∃ deliveryID now, p = publication svc n event payload ep deliveryID now := by
  induction endpoints generalizing i s with
  | nil => simp [dispatchTo] at published
  | cons ep rest ih =>
      have later : ∀ {s}, p ∈ (dispatchTo svc each n event payload (i + 1) rest s).1 →
          ∃ ep' ∈ ep :: rest, ∃ deliveryID now,
            p = publication svc n event payload ep' deliveryID now := by
        intro s after
        obtain ⟨ep', member, same⟩ := ih after
        exact ⟨ep', List.mem_cons_of_mem _ member, same⟩
      simp only [dispatchTo] at published
      split at published
      · exact later published
      · split at published
        · exact later published
        · rcases List.mem_cons.mp published with rfl | after
          · exact ⟨ep, List.mem_cons_self, _, _, rfl⟩
          · exact later after

/-- Every message of a dispatch carries the payload built from the notification as given. -/
theorem dispatch_publishes {calls : DispatchCalls} {published : List (Publication WebhookMessage)}
    (done : svc.dispatch calls s n event = .ok (published, s')) (member : p ∈ published) :
    p.value.notificationID = some n.id ∧ p.value.event = event ∧
      p.value.payload = svc.buildEventPayload n event calls.builtAt := by
  unfold dispatch at done
  split at done
  · cases done
  · obtain rfl := (Prod.mk.inj (Except.ok.inj done)).1
    obtain ⟨ep, _, deliveryID, now, rfl⟩ := dispatchTo_publishes member
    exact ⟨rfl, rfl, rfl⟩

end Dispatch

/-! ## A subscriber -/

section Subscriber

variable (core : Database) (tenantID : UUID) (event : String)

/-- An endpoint of the tenant that is active and subscribes to the event. -/
def subscriber : WebhookEndpointRow :=
  { id := 0
    tenantID := tenantID
    url := ""
    secret := ""
    events := some [event]
    isActive := true
    createdAt := 0
    updatedAt := 0 }

variable {core tenantID}

/-- The core tables and that endpoint. -/
def subscribed (registered : tenantID ∈ core.tenants) : Storage :=
  { Storage.ofCore core with
    endpoints := Rows.Table.insert .empty (subscriber tenantID event)
      ⟨by simp [Rows.Table.empty], by simp [noKey], registered⟩
    deliveries := .empty }

/-- With a subscriber, working calls publish a message. -/
theorem dispatch_subscribed (svc : WebhookService) {n : Notification}
    (registered : n.tenantID ∈ core.tenants) (stored : core.hasNotification n.id = true) :
    ∃ p s', svc.dispatch { each := fun _ => { id := 0 } } (subscribed event registered) n event =
      .ok ([p], s') := by
  have listed : WebhookRepository.listActiveForEvent .up (subscribed event registered) n.tenantID
      event = .ok [dbWebhookEndpointToDomain (subscriber n.tenantID event)] := by
    simp [WebhookRepository.listActiveForEvent, Conn.exec, listActiveWebhookEndpointsForEvent,
      subscribed, Rows.Table.insert, Rows.Table.empty, activeForEvent, subscriber]
  have accepted : (subscribed event registered).deliveries.Accepts
      (webhookDeliveryRow (newDelivery n event (svc.buildEventPayload n event 0)
        (dbWebhookEndpointToDomain (subscriber n.tenantID event))) 0 0) := by
    refine ⟨by simp [subscribed, Rows.Table.empty], by simp [noKey], ?_, ?_⟩
    · simp [webhookDeliveryRow, newDelivery, dbWebhookEndpointToDomain, subscribed,
        Rows.Table.insert, Rows.Table.empty]
    · simpa [webhookDeliveryRow, newDelivery, subscribed, Storage.ofCore] using stored
  simp only [dispatch, listed, dispatchTo, WebhookRepository.createDelivery, Conn.exec,
    insertWebhookDelivery, insertRow, dif_pos accepted]
  exact ⟨_, _, rfl⟩

end Subscriber

end WebhookService

end NotifyHub
