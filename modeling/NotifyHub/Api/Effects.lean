import NotifyHub.Api.Handlers
import NotifyHub.Stores.Writes

/-! # What the handlers can do

One inversion for all routes: a handler answers and changes nothing, or writes for its tenant
and answers with success, or sends. What holds of every request is read off these cases.
-/

namespace NotifyHub

namespace NotificationService

variable {maxRetries : Int} {env : SendEnv} {tenantID : UUID} {w : World}

theorem updateStatus_error {conn : Conn} {db : Database} {row : NotificationRow}
    {status : NotificationStatus} {now : Time} {e : AppError} (stored : row ∈ db.notifications)
    (failed : NotificationRepository.updateStatus conn db row.id status now = .error e) :
    e.code = .internal := by
  cases conn with
  | up => simp [NotificationRepository.updateStatus_of_mem stored] at failed
  | down =>
      obtain rfl := Except.error.inj failed
      rfl

/-- A Send that stored the row and then failed reports an internal error. -/
theorem sendNow_error {row : NotificationRow} {e : Err} (stored : row ∈ w.db.notifications)
    (failed : (sendNow maxRetries env tenantID (dbNotificationToDomain row) w).1 = .error e) :
    (toAppError e).code = .internal := by
  unfold sendNow at failed
  split at failed
  · obtain rfl := Except.error.inj failed
    rfl
  · cases updated : NotificationRepository.updateStatus env.updateConn w.db row.id .queued
        env.updatedAt with
    | ok result => simp [updated, dbNotificationToDomain] at failed
    | error appErr =>
        simp only [dbNotificationToDomain, updated, Except.error.injEq] at failed
        rw [← failed]
        exact updateStatus_error stored updated

/-- An error of Send that is the caller's leaves everything as it was. -/
theorem send_refused {req : SendRequest} {e : Err}
    (failed : (send maxRetries env tenantID req w).1 = .error e)
    (refused : (toAppError e).code ≠ .internal) : (send maxRetries env tenantID req w).2 = w := by
  unfold send at failed ⊢
  split at failed
  · rfl
  · split at failed
    · rfl
    · cases failed
    · split at failed
      · rfl
      · rename_i n db created
        split at failed
        · cases failed
        · exfalso
          obtain ⟨_, row, _, rfl, accepted, rfl⟩ := NotificationRepository.create_ok created
          have stored : row ∈ (w.db.addNotification row accepted).notifications := by
            simp [Database.addNotification]
          exact refused
            (sendNow_error (w := { w with db := w.db.addNotification row accepted }) stored failed)

end NotificationService

namespace Api

/-- Whether a route sends, and to how many recipients. -/
inductive Sends where
  | none
  | one
  | many
  deriving Repr, DecidableEq

def Route.sends : Route → Sends
  | .sendNotification .. => .one
  | .sendBulk .. => .many
  | _ => .none

/-- All that a handler does for a client of the tenant. -/
inductive Effect (deps : Deps) (tenantID : UUID) (b : Backend) :
    Sends → Response × Backend → Prop where
  | answered {sends : Sends} (response : Response) : Effect deps tenantID b sends (response, b)
  | written {sends : Sends} {response : Response} {s : Storage} (success : response.status < 400)
      (writes : b.storage.WrittenBy tenantID s) :
      Effect deps tenantID b sends (response, { b with storage := s })
  | sent (env : NotificationService.SendEnv) (req : SendRequest)
      (keeps : b.storage.core.Keeps
        (NotificationService.send deps.maxRetries env tenantID req b.world).2.db) :
      Effect deps tenantID b .one
        (respond 202 .notification
          (asAppError (NotificationService.send deps.maxRetries env tenantID req b.world).1),
          b.sent (NotificationService.send deps.maxRetries env tenantID req b.world).2 keeps)
  | sentBulk (envs : Nat → NotificationService.SendEnv) (req : BulkSendRequest)
      (keeps : b.storage.core.Keeps
        (NotificationService.sendBulk deps.maxRetries envs tenantID req b.world).2.db) :
      Effect deps tenantID b .many
        (NotificationHandler.bulkResponse
          (NotificationService.sendBulk deps.maxRetries envs tenantID req b.world).1,
          b.sent (NotificationService.sendBulk deps.maxRetries envs tenantID req b.world).2
            keeps)

namespace Effect

variable {deps : Deps} {tenantID : UUID} {b : Backend} {sends : Sends}

theorem wrote {α : Type} {status : Nat} {data : α → Data} {result : Except AppError (α × Storage)}
    (success : status < 400)
    (writes : ∀ a s, result = .ok (a, s) → b.storage.WrittenBy tenantID s) :
    Effect deps tenantID b sends (b.wrote status data result) := by
  cases result with
  | error e => exact .answered _
  | ok done => exact .written success (writes done.1 done.2 rfl)

theorem finished {result : Except AppError Storage}
    (writes : ∀ s, result = .ok s → b.storage.WrittenBy tenantID s) :
    Effect deps tenantID b sends (b.finished result) := by
  cases result with
  | error e => exact .answered _
  | ok s => exact .written (by decide) (writes s rfl)

theorem wroteCore {α : Type} {status : Nat} {data : α → Data}
    {result : Except AppError (α × Database)}
    {keeps : ∀ a db, result = .ok (a, db) → b.storage.core.Keeps db} (success : status < 400)
    (writes : ∀ a db, result = .ok (a, db) → b.storage.core.WrittenBy tenantID db) :
    Effect deps tenantID b sends (b.wroteCore status data result keeps) := by
  cases result with
  | error e => exact .answered _
  | ok done =>
      exact .written success (.withCore (writes done.1 done.2 rfl) (keeps done.1 done.2 rfl))

end Effect

section Handlers

variable {deps : Deps} {tenantID : UUID} {b : Backend} {sends : Sends}

theorem of_asAppError {α : Type} {result : Except Err α} {a : α}
    (done : asAppError result = .ok a) : result = .ok a := by
  cases result with
  | error e => cases done
  | ok value => exact congrArg Except.ok (Except.ok.inj done)

open Effect

namespace NotificationHandler

theorem send_effect (body : Body SendRequest) (env : NotificationService.SendEnv) :
    Effect deps tenantID b .one (send deps tenantID body env b) := by
  unfold send
  split
  · exact .answered _
  · exact .sent env _ _

theorem sendBulk_effect (body : Body BulkSendRequest) (envs : Nat → NotificationService.SendEnv) :
    Effect deps tenantID b .many (sendBulk deps tenantID body envs b) := by
  unfold sendBulk
  split
  · exact .answered _
  · exact .sentBulk envs _ _

theorem cancel_effect (id : Option UUID) (conn : Conn) (now : Time) :
    Effect deps tenantID b sends (cancel tenantID id conn now b) := by
  unfold cancel
  split
  · exact .answered _
  · exact wroteCore (by decide) fun _ _ done => NotificationRepository.cancel_writes done

end NotificationHandler

namespace TemplateHandler

theorem create_effect (body : Body CreateTemplateRequest) (conn : Conn) (id : UUID) (now : Time) :
    Effect deps tenantID b sends (create tenantID body conn id now b) := by
  unfold create
  split
  · exact .answered _
  · exact wroteCore (by decide) fun _ _ done => TemplateService.create_writes done

theorem update_effect (id : Option UUID) (body : Body UpdateTemplateRequest)
    (conn updateConn : Conn) (now : Time) :
    Effect deps tenantID b sends (update tenantID id body conn updateConn now b) := by
  unfold update
  split
  · exact .answered _
  · split
    · exact .answered _
    · exact wroteCore (by decide) fun _ _ done => TemplateService.update_writes done

theorem delete_effect (id : Option UUID) (conn : Conn) (now : Time) :
    Effect deps tenantID b sends (delete tenantID id conn now b) := by
  unfold delete
  split
  · exact .answered _
  · exact wroteCore (by decide) fun _ _ done => TemplateService.delete_writes done

end TemplateHandler

namespace PreferenceHandler

theorem upsert_effect (userID : String) (channel : Channel) (body : Body UpsertPreferenceRequest)
    (conn : Conn) (id : UUID) (now : Time) :
    Effect deps tenantID b sends (upsert tenantID userID channel body conn id now b) := by
  unfold upsert
  split
  · exact .answered _
  · split
    · exact .answered _
    · exact wrote (by decide) fun _ _ done => .upsertPreference done

theorem delete_effect (userID : String) (channel : Channel) (conn : Conn) :
    Effect deps tenantID b sends (delete tenantID userID channel conn b) := by
  unfold delete
  split
  · exact .answered _
  · exact finished fun _ done => .deletePreference done

end PreferenceHandler

namespace DeviceTokenHandler

theorem register_effect (body : Body RegisterDeviceTokenRequest) (conn : Conn) (id : UUID)
    (now : Time) : Effect deps tenantID b sends (register tenantID body conn id now b) := by
  unfold register
  split
  · exact .answered _
  · exact wrote (by decide) fun _ _ done => .registerDeviceToken done

theorem deregister_effect (token : String) (conn : Conn) (now : Time) :
    Effect deps tenantID b sends (deregister tenantID token conn now b) :=
  finished fun _ done => .deregisterDeviceToken (of_asAppError done)

end DeviceTokenHandler

namespace InboxHandler

theorem markRead_effect (header : String) (id : Option UUID) (conn : Conn) (now : Time) :
    Effect deps tenantID b sends (markRead tenantID header id conn now b) := by
  unfold markRead
  split
  · exact .answered _
  · exact .answered _
  · exact finished fun _ done => .markRead (of_asAppError done)

theorem markAllRead_effect (header : String) (conn : Conn) (now : Time) :
    Effect deps tenantID b sends (markAllRead tenantID header conn now b) := by
  unfold markAllRead
  split
  · exact .answered _
  · exact finished fun _ done => .markAllRead (of_asAppError done)

end InboxHandler

namespace WebhookHandler

theorem create_effect (body : Body CreateWebhookEndpointRequest) (conn : Conn) (id : UUID)
    (now : Time) : Effect deps tenantID b sends (create deps tenantID body conn id now b) := by
  unfold create
  split
  · exact .answered _
  · exact wrote (by decide) fun _ _ done => .createWebhook done

theorem update_effect (id : Option UUID) (body : Body UpdateWebhookEndpointRequest) (conn : Conn)
    (now : Time) : Effect deps tenantID b sends (update deps tenantID id body conn now b) := by
  unfold update
  split
  · exact .answered _
  · split
    · exact .answered _
    · exact wrote (by decide) fun _ _ done => .updateWebhook done

theorem delete_effect (id : Option UUID) (conn : Conn) :
    Effect deps tenantID b sends (delete tenantID id conn b) := by
  unfold delete
  split
  · exact .answered _
  · exact finished fun _ done => .deleteWebhook done

end WebhookHandler

theorem handle_effect (deps : Deps) (tenantID : UUID) (b : Backend) (route : Route) :
    Effect deps tenantID b route.sends (route.handle deps tenantID b) := by
  cases route with
  | sendNotification body env => exact NotificationHandler.send_effect body env
  | sendBulk body envs => exact NotificationHandler.sendBulk_effect body envs
  | cancelNotification id conn now => exact NotificationHandler.cancel_effect id conn now
  | createTemplate body conn id now => exact TemplateHandler.create_effect body conn id now
  | updateTemplate id body conn updateConn now =>
      exact TemplateHandler.update_effect id body conn updateConn now
  | deleteTemplate id conn now => exact TemplateHandler.delete_effect id conn now
  | upsertPreference userID channel body conn id now =>
      exact PreferenceHandler.upsert_effect userID channel body conn id now
  | deletePreference userID channel conn => exact PreferenceHandler.delete_effect userID channel conn
  | registerDeviceToken body conn id now => exact DeviceTokenHandler.register_effect body conn id now
  | deregisterDeviceToken token conn now => exact DeviceTokenHandler.deregister_effect token conn now
  | markAllRead recipient conn now => exact InboxHandler.markAllRead_effect recipient conn now
  | markRead recipient id conn now => exact InboxHandler.markRead_effect recipient id conn now
  | createWebhook body conn id now => exact WebhookHandler.create_effect body conn id now
  | updateWebhook id body conn now => exact WebhookHandler.update_effect id body conn now
  | deleteWebhook id conn => exact WebhookHandler.delete_effect id conn
  | listNotifications | getNotification | listTemplates | getTemplate | previewTemplate
  | listPreferences | issueWSToken | listInbox | unreadCount | listWebhooks | getWebhook =>
      exact .answered _

end Handlers

/-! ## What follows for every route -/

namespace Effect

variable {deps : Deps} {tenantID : UUID} {b : Backend} {sends : Sends}
  {result : Response × Backend}

/-- Only rows of the tenant change. -/
theorem writes (effect : Effect deps tenantID b sends result) :
    b.storage.WrittenBy tenantID result.2.storage := by
  cases effect with
  | answered response => exact .refl
  | written success writes => exact writes
  | sent env req keeps => exact .withCore (NotificationService.send_writes (w := b.world) req) keeps
  | sentBulk envs req keeps =>
      exact .withCore (NotificationService.sendBulk_writes (w := b.world) req) keeps

theorem codeToStatus_ne_internal {code : ErrCode} (small : codeToStatus code < 500) :
    code ≠ .internal := by
  rintro rfl
  exact absurd small (by decide)

theorem sent_world (keeps : b.storage.core.Keeps b.world.db) : b.sent b.world keeps = b := by
  simp only [Backend.sent, Backend.world, List.filterMap_nil, List.append_nil]
  rfl

/-- An error of a route that does not send says that nothing has changed; so does a client error
    of a Send. -/
theorem refused (effect : Effect deps tenantID b sends result) (failed : 400 ≤ result.1.status)
    (certain : sends = .none ∨ sends = .one ∧ result.1.status < 500) : result.2 = b := by
  cases effect with
  | answered response => rfl
  | written success writes => exact absurd success (Nat.not_lt.mpr failed)
  | sent env req keeps =>
      cases outcome : (NotificationService.send deps.maxRetries env tenantID req b.world).1 with
      | ok n =>
          simp only [outcome, asAppError, respond, json] at failed
          omega
      | error e =>
          simp only [outcome, asAppError, respond, jsonError, reduceCtorEq, true_and,
            false_or] at certain
          have unchanged := NotificationService.send_refused outcome
            (codeToStatus_ne_internal certain)
          simp only [unchanged]
          exact sent_world _
  | sentBulk envs req keeps => simp at certain

end Effect

end Api

end NotifyHub
