import NotifyHub.Api.Accounts
import NotifyHub.Api.WsToken
import NotifyHub.DeviceTokens
import NotifyHub.PageArithmetic
import NotifyHub.PreferenceUpserts
import NotifyHub.Stores.Core
import NotifyHub.WebhookService

/-! # The handlers of the API

One handler for each route behind the middleware. A route carries what the request says (path,
query, headers and body, as far as the handler looks at them) and what the calls made for it
meet. Each handler decodes, calls its service and maps the answer to a status; a call that
fails leaves the tables as they were, up to what the services did before.

Ids and numbers in a path, a query or a header are what `uuid.Parse` and `strconv.Atoi` make
of them.
-/

namespace NotifyHub.Api

/-! ## Requests and responses -/

/-- A body as `response.DecodeJSON` meets it. -/
inductive Body (α : Type) where
  | empty
  | malformed (err : String)
  | json (value : α)
  deriving Repr, DecidableEq

def Body.decode {α : Type} : Body α → Except AppError α
  | .empty => .error (newValidationError "request body is required" [])
  | .malformed err => .error (newValidationError ("invalid JSON: " ++ err) [])
  | .json value => .ok value

/-- A header that should hold an id. -/
inductive HeaderID where
  | absent
  | malformed
  | parsed (id : UUID)
  deriving Repr, DecidableEq

def codeToStatus : ErrCode → Nat
  | .notFound => 404
  | .conflict => 409
  | .validation => 422
  | .unauthorized => 401
  | .forbidden => 403
  | .rateLimited => 429
  | .internal => 500

inductive Data where
  | notification (n : Notification)
  | bulk (accepted : List Notification) (errors : List String)
  | notifications (ns : List Notification) (page perPage : Int) (total : Nat)
  | template (t : Template)
  | templates (ts : List Template) (page perPage : Int) (total : Nat)
  | preview (p : PreviewTemplateResponse)
  | preference (p : Preference)
  | preferences (ps : List Preference)
  | wsToken (token : String) (expiresIn : Int)
  | deviceToken (t : DeviceToken)
  | messages (ms : List InAppMessage)
  | unread (count : Nat)
  | endpoint (e : WebhookEndpoint)
  | endpoints (es : List WebhookEndpoint)
  | tenant (t : Tenant)
  | apiKey (k : CreateAPIKeyResponse)
  | deadLetter (m : DeadLetterMessage)
  | deadLetters (ms : List DeadLetterMessage)
  | replayed (warning : Option String)
  deriving Repr, DecidableEq

inductive Reply where
  | success (data : Data)
  | failure (e : AppError)
  | nothing
  deriving Repr, DecidableEq

/-- `retryAfter` is the header of a request that is turned away for its rate. -/
structure Response where
  status : Nat
  reply : Reply
  retryAfter : Option Nat := none
  deriving Repr, DecidableEq

def json (status : Nat) (data : Data) : Response := ⟨status, .success data, none⟩

def jsonError (e : AppError) : Response := ⟨codeToStatus e.code, .failure e, none⟩

def noContent : Response := ⟨204, .nothing, none⟩

/-- The answer to a read. -/
def respond {α : Type} (status : Nat) (data : α → Data) : Except AppError α → Response
  | .error e => jsonError e
  | .ok a => json status (data a)

/-- The error of a call, as the handlers pass it on. -/
def asAppError {α : Type} : Except Err α → Except AppError α
  | .error e => .error (toAppError e)
  | .ok a => .ok a

/-- What the handlers take from outside the repository, and the configuration. -/
structure Deps where
  maxRetries : Int
  engine : Engine
  isURL : String → Bool
  wsToken : WSTokenService

/-- The tables, and what has been published to the notification topics. -/
structure Backend where
  storage : Storage
  published : List (Publication String)

namespace Backend

/-- The answer to a write of the other tables. -/
def wrote {α : Type} (b : Backend) (status : Nat) (data : α → Data) :
    Except AppError (α × Storage) → Response × Backend
  | .error e => (jsonError e, b)
  | .ok (a, s) => (json status (data a), { b with storage := s })

/-- The answer to a write that returns nothing. -/
def finished (b : Backend) : Except AppError Storage → Response × Backend
  | .error e => (jsonError e, b)
  | .ok s => (noContent, { b with storage := s })

/-- The answer to a write of the core tables. -/
def wroteCore {α : Type} (b : Backend) (status : Nat) (data : α → Data)
    (result : Except AppError (α × Database))
    (keeps : ∀ a db, result = .ok (a, db) → b.storage.core.Keeps db) : Response × Backend :=
  match result, keeps with
  | .error e, _ => (jsonError e, b)
  | .ok (a, db), keeps =>
      (json status (data a), { b with storage := b.storage.withCore db (keeps a db rfl) })

/-- The state that the notification service leaves. What a request has brought can be
    marshalled. -/
def sent (b : Backend) (w : NotificationService.World) (keeps : b.storage.core.Keeps w.db) :
    Backend :=
  { storage := b.storage.withCore w.db keeps
    published := b.published ++ w.published.filterMap fun p =>
      p.value.marshal.map fun value => { topic := p.topic, key := p.key, value := value } }

/-- The world that it starts from. -/
def world (b : Backend) : NotificationService.World := ⟨b.storage.core, []⟩

end Backend

/-! ## Notifications -/

namespace NotificationHandler

def send (deps : Deps) (tenantID : UUID) (body : Body SendRequest)
    (env : NotificationService.SendEnv) (b : Backend) : Response × Backend :=
  match body.decode with
  | .error e => (jsonError e, b)
  | .ok req =>
      let outcome := NotificationService.send deps.maxRetries env tenantID req b.world
      (respond 202 .notification (asAppError outcome.1),
        b.sent outcome.2 (NotificationService.send_writes (w := b.world) req).keeps)

/-- All failed: the first error decides. Otherwise the request is accepted. -/
def bulkResponse : List Notification × List Err → Response
  | ([], e :: _) => jsonError (toAppError e)
  | (results, errs) => json 202 (.bulk results (errs.map Err.text))

def sendBulk (deps : Deps) (tenantID : UUID) (body : Body BulkSendRequest)
    (envs : Nat → NotificationService.SendEnv) (b : Backend) : Response × Backend :=
  match body.decode with
  | .error e => (jsonError e, b)
  | .ok req =>
      let outcome := NotificationService.sendBulk deps.maxRetries envs tenantID req b.world
      (bulkResponse outcome.1,
        b.sent outcome.2 (NotificationService.sendBulk_writes (w := b.world) req).keeps)

def getByID (tenantID : UUID) (id : Option UUID) (conn : Conn) (b : Backend) : Response :=
  match id with
  | none => jsonError (newValidationError "invalid notification id" [])
  | some id =>
      respond 200 .notification (NotificationService.getByID conn b.storage.core tenantID id)

def list (tenantID : UUID) (recipientID channel status : String) (page perPage : Int)
    (conn countConn : Conn) (b : Backend) : Response :=
  let filter := NotifyHub.NotificationHandler.filter recipientID channel status page perPage
  respond 200 (fun (ns, total) => .notifications ns filter.page filter.perPage total)
    (NotificationService.list conn countConn b.storage.core tenantID filter)

def cancel (tenantID : UUID) (id : Option UUID) (conn : Conn) (now : Time) (b : Backend) :
    Response × Backend :=
  match id with
  | none => (jsonError (newValidationError "invalid notification id" []), b)
  | some id =>
      b.wroteCore 200 .notification
        (NotificationService.cancel conn b.storage.core tenantID id now)
        fun _ _ done => (NotificationRepository.cancel_writes done).keeps

end NotificationHandler

/-! ## Templates -/

namespace TemplateHandler

def create (tenantID : UUID) (body : Body CreateTemplateRequest) (conn : Conn) (id : UUID)
    (now : Time) (b : Backend) : Response × Backend :=
  match body.decode with
  | .error e => (jsonError e, b)
  | .ok req =>
      b.wroteCore 201 .template
        (TemplateService.create conn b.storage.core tenantID req id now)
        fun _ _ done => (TemplateService.create_writes done).keeps

def list (tenantID : UUID) (channel : Channel) (page perPage : Int) (conn countConn : Conn)
    (b : Backend) : Response :=
  let (page, perPage) := NotifyHub.TemplateHandler.pageNumbers page perPage
  respond 200 (fun (ts, total) => .templates ts page perPage total)
    (TemplateService.list conn countConn b.storage.core tenantID channel page perPage)

def getByID (tenantID : UUID) (id : Option UUID) (conn : Conn) (b : Backend) : Response :=
  match id with
  | none => jsonError (newValidationError "invalid template id" [])
  | some id => respond 200 .template (TemplateService.getByID conn b.storage.core tenantID id)

def update (tenantID : UUID) (id : Option UUID) (body : Body UpdateTemplateRequest)
    (conn updateConn : Conn) (now : Time) (b : Backend) : Response × Backend :=
  match id with
  | none => (jsonError (newValidationError "invalid template id" []), b)
  | some id =>
      match body.decode with
      | .error e => (jsonError e, b)
      | .ok req =>
          b.wroteCore 200 .template
            (TemplateService.update conn updateConn b.storage.core tenantID id req now)
            fun _ _ done => (TemplateService.update_writes done).keeps

def delete (tenantID : UUID) (id : Option UUID) (conn : Conn) (now : Time) (b : Backend) :
    Response × Backend :=
  match id with
  | none => (jsonError (newValidationError "invalid template id" []), b)
  | some id =>
      b.wroteCore 200 .template
        (TemplateService.delete conn b.storage.core tenantID id now)
        fun _ _ done => (TemplateService.delete_writes done).keeps

def preview (deps : Deps) (tenantID : UUID) (id : Option UUID) (body : Body (Option JSONMap))
    (conn : Conn) (b : Backend) : Response :=
  match id with
  | none => jsonError (newValidationError "invalid template id" [])
  | some id =>
      match body.decode with
      | .error e => jsonError e
      | .ok payload =>
          respond 200 .preview
            (TemplateService.preview deps.engine conn b.storage.core tenantID id payload)

end TemplateHandler

/-! ## Preferences -/

namespace PreferenceHandler

def listByUser (tenantID : UUID) (userID : String) (conn : Conn) (b : Backend) : Response :=
  respond 200 .preferences (PreferenceRepository.listByUser conn b.storage tenantID userID)

/-- The check that Upsert and Delete make of the channel in the path. -/
def checkChannel (channel : Channel) : Except AppError Unit :=
  if channel.isValid then .ok ()
  else
    .error (newValidationError "invalid channel"
      [("channel", "must be one of: email, push, sms, inapp")])

def upsert (tenantID : UUID) (userID : String) (channel : Channel)
    (body : Body UpsertPreferenceRequest) (conn : Conn) (id : UUID) (now : Time) (b : Backend) :
    Response × Backend :=
  match checkChannel channel with
  | .error e => (jsonError e, b)
  | .ok () =>
      match body.decode with
      | .error e => (jsonError e, b)
      | .ok req =>
          b.wrote 200 .preference
            (PreferenceService.upsert conn b.storage tenantID userID channel req id now)

def delete (tenantID : UUID) (userID : String) (channel : Channel) (conn : Conn) (b : Backend) :
    Response × Backend :=
  match checkChannel channel with
  | .error e => (jsonError e, b)
  | .ok () => b.finished (PreferenceRepository.delete conn b.storage tenantID userID channel)

end PreferenceHandler

/-! ## Tokens -/

/-- The lifetime in the answer is the default of the configuration, whatever is configured. -/
def WSTokenHandler.issue (deps : Deps) (tenantID : UUID) (body : Body String) (now : Time) :
    Response :=
  match body.decode with
  | .error e => jsonError e
  | .ok recipientID =>
      if recipientID = "" then jsonError (newValidationError "recipient_id required" [])
      else json 200 (.wsToken (deps.wsToken.issue tenantID recipientID now) 60)

namespace DeviceTokenHandler

def register (tenantID : UUID) (body : Body RegisterDeviceTokenRequest) (conn : Conn) (id : UUID)
    (now : Time) (b : Backend) : Response × Backend :=
  match body.decode with
  | .error e => (jsonError e, b)
  | .ok req =>
      b.wrote 201 .deviceToken (DeviceTokenService.register conn b.storage tenantID req id now)

def deregister (tenantID : UUID) (token : String) (conn : Conn) (now : Time) (b : Backend) :
    Response × Backend :=
  b.finished (asAppError (DeviceTokenService.deregister conn b.storage tenantID token now))

end DeviceTokenHandler

/-! ## Inbox -/

namespace InboxHandler

def recipientIDFromHeader (header : String) : Except AppError String :=
  if header = "" then .error (newValidationError "X-Recipient-ID header required" [])
  else .ok header

def list (tenantID : UUID) (header : String) (params : InboxParams) (conn cursorConn : Conn)
    (b : Backend) : Response :=
  match recipientIDFromHeader header with
  | .error e => jsonError e
  | .ok recipientID =>
      respond 200 .messages (asAppError (InAppRepository.list conn cursorConn b.storage
        (NotifyHub.InboxHandler.query tenantID recipientID params)))

def unreadCount (tenantID : UUID) (header : String) (conn : Conn) (b : Backend) : Response :=
  match recipientIDFromHeader header with
  | .error e => jsonError e
  | .ok recipientID =>
      respond 200 .unread
        (asAppError (InAppRepository.countUnread conn b.storage tenantID recipientID))

def markRead (tenantID : UUID) (header : String) (id : Option UUID) (conn : Conn) (now : Time)
    (b : Backend) : Response × Backend :=
  match recipientIDFromHeader header, id with
  | .error e, _ => (jsonError e, b)
  | .ok _, none => (jsonError (newValidationError "invalid id" []), b)
  | .ok recipientID, some id =>
      b.finished (asAppError (InAppRepository.markRead conn b.storage tenantID id recipientID now))

def markAllRead (tenantID : UUID) (header : String) (conn : Conn) (now : Time) (b : Backend) :
    Response × Backend :=
  match recipientIDFromHeader header with
  | .error e => (jsonError e, b)
  | .ok recipientID =>
      b.finished (asAppError (InAppRepository.markAllRead conn b.storage tenantID recipientID now))

end InboxHandler

/-! ## Webhook endpoints -/

namespace WebhookHandler

def create (deps : Deps) (tenantID : UUID) (body : Body CreateWebhookEndpointRequest) (conn : Conn)
    (id : UUID) (now : Time) (b : Backend) : Response × Backend :=
  match body.decode with
  | .error e => (jsonError e, b)
  | .ok req =>
      b.wrote 201 .endpoint
        (WebhookService.create deps.isURL conn b.storage tenantID req id now)

def list (tenantID : UUID) (conn : Conn) (b : Backend) : Response :=
  respond 200 .endpoints (WebhookRepository.listEndpoints conn b.storage tenantID)

def getByID (tenantID : UUID) (id : Option UUID) (conn : Conn) (b : Backend) : Response :=
  match id with
  | none => jsonError (newValidationError "invalid id" [])
  | some id => respond 200 .endpoint (WebhookRepository.getEndpoint conn b.storage tenantID id)

def update (deps : Deps) (tenantID : UUID) (id : Option UUID)
    (body : Body UpdateWebhookEndpointRequest) (conn : Conn) (now : Time) (b : Backend) :
    Response × Backend :=
  match id with
  | none => (jsonError (newValidationError "invalid id" []), b)
  | some id =>
      match body.decode with
      | .error e => (jsonError e, b)
      | .ok req =>
          b.wrote 200 .endpoint
            (WebhookService.update deps.isURL conn b.storage tenantID id req now)

def delete (tenantID : UUID) (id : Option UUID) (conn : Conn) (b : Backend) : Response × Backend :=
  match id with
  | none => (jsonError (newValidationError "invalid id" []), b)
  | some id => b.finished (WebhookService.delete conn b.storage tenantID id)

end WebhookHandler

/-! ## Dead letters -/

namespace DLQHandler

def tenantIDFromHeader : HeaderID → Except AppError UUID
  | .absent => .error (newValidationError "X-Tenant-ID header required" [])
  | .malformed => .error (newValidationError "invalid X-Tenant-ID" [])
  | .parsed id => .ok id

def list (tenant : HeaderID) (params : DLQParams) (conn : Conn) (b : Backend) : Response :=
  match tenantIDFromHeader tenant with
  | .error e => jsonError e
  | .ok tenantID =>
      respond 200 .deadLetters (asAppError (DeadLetterRepository.list conn b.storage
        (NotifyHub.DLQHandler.listParams tenantID params)))

def getByID (tenant : HeaderID) (id : Option UUID) (conn : Conn) (b : Backend) : Response :=
  match tenantIDFromHeader tenant, id with
  | .error e, _ => jsonError e
  | .ok _, none => jsonError (newValidationError "invalid id" [])
  | .ok tenantID, some id =>
      respond 200 .deadLetter (asAppError (DeadLetterRepository.getByID conn b.storage tenantID id))

def replayResponse : ReplayResponse → Response
  | .refused e => jsonError e
  | .replayed warning => json 200 (.replayed warning)

def replay (deps : Deps) (tenant : HeaderID) (id : Option UUID) (calls : ReplayCalls) (b : Backend) :
    Response × Backend :=
  match tenantIDFromHeader tenant, id with
  | .error e, _ => (jsonError e, b)
  | .ok _, none => (jsonError (newValidationError "invalid id" []), b)
  | .ok tenantID, some id =>
      let outcome :=
        NotifyHub.DLQHandler.replay deps.maxRetries calls b.storage tenantID id
      (replayResponse outcome.1,
        { storage := outcome.2.2, published := b.published ++ outcome.2.1 })

def delete (tenant : HeaderID) (id : Option UUID) (conn : Conn) (b : Backend) : Response × Backend :=
  match tenantIDFromHeader tenant, id with
  | .error e, _ => (jsonError e, b)
  | .ok _, none => (jsonError (newValidationError "invalid id" []), b)
  | .ok tenantID, some id =>
      b.finished (asAppError (DeadLetterRepository.delete conn b.storage tenantID id))

end DLQHandler

/-! ## Routes -/

/-- The routes under `/api/v1` that need an API key. -/
inductive Route where
  | sendNotification (body : Body SendRequest) (env : NotificationService.SendEnv)
  | sendBulk (body : Body BulkSendRequest) (envs : Nat → NotificationService.SendEnv)
  | listNotifications (recipientID channel status : String) (page perPage : Int)
      (conn countConn : Conn)
  | getNotification (id : Option UUID) (conn : Conn)
  | cancelNotification (id : Option UUID) (conn : Conn) (now : Time)
  | createTemplate (body : Body CreateTemplateRequest) (conn : Conn) (id : UUID) (now : Time)
  | listTemplates (channel : Channel) (page perPage : Int) (conn countConn : Conn)
  | getTemplate (id : Option UUID) (conn : Conn)
  | updateTemplate (id : Option UUID) (body : Body UpdateTemplateRequest) (conn updateConn : Conn)
      (now : Time)
  | deleteTemplate (id : Option UUID) (conn : Conn) (now : Time)
  | previewTemplate (id : Option UUID) (body : Body (Option JSONMap)) (conn : Conn)
  | listPreferences (userID : String) (conn : Conn)
  | upsertPreference (userID : String) (channel : Channel) (body : Body UpsertPreferenceRequest)
      (conn : Conn) (id : UUID) (now : Time)
  | deletePreference (userID : String) (channel : Channel) (conn : Conn)
  | issueWSToken (body : Body String) (now : Time)
  | registerDeviceToken (body : Body RegisterDeviceTokenRequest) (conn : Conn) (id : UUID)
      (now : Time)
  | deregisterDeviceToken (token : String) (conn : Conn) (now : Time)
  | listInbox (recipient : String) (params : InboxParams) (conn cursorConn : Conn)
  | unreadCount (recipient : String) (conn : Conn)
  | markAllRead (recipient : String) (conn : Conn) (now : Time)
  | markRead (recipient : String) (id : Option UUID) (conn : Conn) (now : Time)
  | createWebhook (body : Body CreateWebhookEndpointRequest) (conn : Conn) (id : UUID) (now : Time)
  | listWebhooks (conn : Conn)
  | getWebhook (id : Option UUID) (conn : Conn)
  | updateWebhook (id : Option UUID) (body : Body UpdateWebhookEndpointRequest) (conn : Conn)
      (now : Time)
  | deleteWebhook (id : Option UUID) (conn : Conn)

/-- The handler behind a route, for a client of the tenant. -/
def Route.handle (deps : Deps) (tenantID : UUID) (b : Backend) : Route → Response × Backend
  | .sendNotification body env => NotificationHandler.send deps tenantID body env b
  | .sendBulk body envs => NotificationHandler.sendBulk deps tenantID body envs b
  | .listNotifications recipientID channel status page perPage conn countConn =>
      (NotificationHandler.list tenantID recipientID channel status page perPage conn countConn b, b)
  | .getNotification id conn => (NotificationHandler.getByID tenantID id conn b, b)
  | .cancelNotification id conn now => NotificationHandler.cancel tenantID id conn now b
  | .createTemplate body conn id now => TemplateHandler.create tenantID body conn id now b
  | .listTemplates channel page perPage conn countConn =>
      (TemplateHandler.list tenantID channel page perPage conn countConn b, b)
  | .getTemplate id conn => (TemplateHandler.getByID tenantID id conn b, b)
  | .updateTemplate id body conn updateConn now =>
      TemplateHandler.update tenantID id body conn updateConn now b
  | .deleteTemplate id conn now => TemplateHandler.delete tenantID id conn now b
  | .previewTemplate id body conn => (TemplateHandler.preview deps tenantID id body conn b, b)
  | .listPreferences userID conn => (PreferenceHandler.listByUser tenantID userID conn b, b)
  | .upsertPreference userID channel body conn id now =>
      PreferenceHandler.upsert tenantID userID channel body conn id now b
  | .deletePreference userID channel conn => PreferenceHandler.delete tenantID userID channel conn b
  | .issueWSToken body now => (WSTokenHandler.issue deps tenantID body now, b)
  | .registerDeviceToken body conn id now =>
      DeviceTokenHandler.register tenantID body conn id now b
  | .deregisterDeviceToken token conn now =>
      DeviceTokenHandler.deregister tenantID token conn now b
  | .listInbox recipient params conn cursorConn =>
      (InboxHandler.list tenantID recipient params conn cursorConn b, b)
  | .unreadCount recipient conn => (InboxHandler.unreadCount tenantID recipient conn b, b)
  | .markAllRead recipient conn now => InboxHandler.markAllRead tenantID recipient conn now b
  | .markRead recipient id conn now => InboxHandler.markRead tenantID recipient id conn now b
  | .createWebhook body conn id now => WebhookHandler.create deps tenantID body conn id now b
  | .listWebhooks conn => (WebhookHandler.list tenantID conn b, b)
  | .getWebhook id conn => (WebhookHandler.getByID tenantID id conn b, b)
  | .updateWebhook id body conn now => WebhookHandler.update deps tenantID id body conn now b
  | .deleteWebhook id conn => WebhookHandler.delete tenantID id conn b

end NotifyHub.Api
