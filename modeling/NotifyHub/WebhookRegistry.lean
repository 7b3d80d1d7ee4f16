import Mathlib.Logic.Function.Basic
import NotifyHub.Lib.Trace
import NotifyHub.WebhookProcessing

/-! # What a webhook call may be

Tenants create, change and delete endpoints while events are dispatched and calls are posted.
A message carries the URL and the secret that the lookup of its dispatch gave, and it is posted
whatever became of the endpoint since. `Registrations.of` says what the tenants registered,
from their calls alone; the table holds that, and every POST was right at the lookup it comes from.
A POST is here what the client is called with; where the endpoint redirects it to is its own matter.
-/

namespace NotifyHub

open Rows Transition

/-! ## The registry -/

/-- What a tenant registered under an id. -/
structure Registration where
  tenantID : UUID
  secret : String
  url : String
  events : List String
  isActive : Bool
  deriving Repr, DecidableEq

/-- The calls that went through, the lookups, and what the client was called with. -/
inductive Happening where
  | created (tenantID id : UUID) (req : CreateWebhookEndpointRequest)
  | updated (tenantID id : UUID) (req : UpdateWebhookEndpointRequest)
  | deleted (tenantID id : UUID)
  | listed (n : Notification) (event : String)
  | posted (posts : List Post)

abbrev Registrations := UUID → Option Registration

namespace Registrations

/-- The secret is that of the creation. Changes are for the owner only. -/
def note (r : Registrations) : Happening → Registrations
  | .created tenantID id req =>
      Function.update r id (some
        { tenantID := tenantID
          secret := req.secret
          url := req.url
          events := req.events.getD []
          isActive := true })
  | .updated tenantID id req =>
      Function.update r id ((r id).map fun e =>
        if e.tenantID = tenantID then
          { e with url := req.url, events := req.events.getD [], isActive := req.isActive }
        else e)
  | .deleted tenantID id => Function.update r id ((r id).filter fun e => e.tenantID ≠ tenantID)
  | .listed _ _ => r
  | .posted _ => r

def of (trace : List Happening) : Registrations :=
  trace.foldl note fun _ => none

theorem of_append (trace : List Happening) (e : Option Happening) :
    of (trace ++ e.toList) = e.elim (of trace) (of trace).note := by
  cases e <;> simp [of]

/-- A registration has its owner and its secret from a creation. -/
theorem created_of {trace : List Happening} {id : UUID} {target : Registration}
    (stands : of trace id = some target) :
    ∃ req, .created target.tenantID id req ∈ trace ∧ req.secret = target.secret := by
  induction trace using List.reverseRecOn generalizing target with
  | nil => cases stands
  | append_singleton trace last ih =>
      -- a change keeps both, so an older registration has them
      have older : ∀ before, of trace id = some before → before.tenantID = target.tenantID →
          before.secret = target.secret →
            ∃ req, .created target.tenantID id req ∈ trace ++ [last] ∧
              req.secret = target.secret := by
        intro before stood owner secret
        obtain ⟨req, made, same⟩ := ih stood
        exact ⟨req, List.mem_append_left _ (owner ▸ made), same.trans secret⟩
      rw [← Option.toList_some, of_append] at stands
      cases last with
      | created tenantID id' req =>
          by_cases same : id = id'
          · subst same
            simp only [Option.elim, note, Function.update_self, Option.some.injEq] at stands
            subst stands
            exact ⟨req, List.mem_append_right _ (List.mem_singleton_self _), rfl⟩
          · simp only [Option.elim, note, Function.update_of_ne same] at stands
            exact older target stands rfl rfl
      | updated tenantID id' req =>
          by_cases same : id = id'
          · subst same
            simp only [Option.elim, note, Function.update_self,
              Option.map_eq_some_iff] at stands
            obtain ⟨before, stood, rfl⟩ := stands
            refine older before stood ?_ ?_ <;> split <;> rfl
          · simp only [Option.elim, note, Function.update_of_ne same] at stands
            exact older target stands rfl rfl
      | deleted tenantID id' =>
          by_cases same : id = id'
          · subst same
            simp only [Option.elim, note, Function.update_self,
              Option.filter_eq_some_iff] at stands
            exact older target stands.1 rfl rfl
          · simp only [Option.elim, note, Function.update_of_ne same] at stands
            exact older target stands rfl rfl
      | listed n event => exact older target stands rfl rfl
      | posted posts => exact older target stands rfl rfl

end Registrations

/-! ## The table holds the registry -/

def WebhookEndpointRow.registration (row : WebhookEndpointRow) : Registration :=
  { tenantID := row.tenantID
    secret := row.secret
    url := row.url
    events := row.events.getD []
    isActive := row.isActive }

/-- What the table says of an id. -/
def Storage.registrations (s : Storage) : Registrations :=
  fun id => (lookup WebhookEndpointRow.id s.endpoints.rows id).map (·.registration)

theorem Storage.registrations_congr {s s' : Storage}
    (rows : s'.endpoints.rows = s.endpoints.rows) : s'.registrations = s.registrations := by
  unfold Storage.registrations
  rw [rows]

/-- A call that went through. -/
def EndpointCall.happening (isURL : String → Bool) (s : Storage) : EndpointCall → Option Happening
  | .create conn tenantID req id now =>
      match WebhookService.create isURL conn s tenantID req id now with
      | .error _ => none
      | .ok _ => some (.created tenantID id req)
  | .update conn tenantID id req now =>
      match WebhookService.update isURL conn s tenantID id req now with
      | .error _ => none
      | .ok _ => some (.updated tenantID id req)
  | .delete conn tenantID id =>
      match WebhookService.delete conn s tenantID id with
      | .error _ => none
      | .ok _ => some (.deleted tenantID id)

namespace WebhookService

variable {isURL : String → Bool} {conn : Conn} {s s' : Storage} {tenantID id : UUID} {now : Time}

theorem create_registers {req : CreateWebhookEndpointRequest} {ep : WebhookEndpoint}
    (created : create isURL conn s tenantID req id now = .ok (ep, s')) :
    s'.registrations = s.registrations.note (.created tenantID id req) := by
  unfold create at created
  split at created
  · cases created
  · split at created
    · cases created
    · obtain ⟨_, rows, _⟩ := WebhookRepository.createEndpoint_ok created
      have ids := uniqueOn_some.mp s'.endpoints.pkey
      rw [rows, List.map_append, List.nodup_append] at ids
      have new : id ∉ s.endpoints.rows.map (·.id) :=
        fun old => ids.2.2 _ old _ (List.mem_singleton_self _) rfl
      funext other
      rw [Storage.registrations, rows, lookup_append new]
      by_cases same : other = id
      · subst same
        simp [Registrations.note, webhookEndpointRow, WebhookEndpointRow.registration]
      · simp [Registrations.note, webhookEndpointRow, Function.update_of_ne same, Storage.registrations]

theorem update_registers {req : UpdateWebhookEndpointRequest} {ep : WebhookEndpoint}
    (updated : update isURL conn s tenantID id req now = .ok (ep, s')) :
    s'.registrations = s.registrations.note (.updated tenantID id req) := by
  unfold update at updated
  split at updated
  · cases updated
  · split at updated
    · cases updated
    · obtain ⟨_, rows, _⟩ := WebhookRepository.updateEndpoint_ok updated
      funext other
      rw [Storage.registrations, rows, lookup_updateWhere (rewriteEndpoint s.core _ now).id]
      cases found : lookup WebhookEndpointRow.id s.endpoints.rows other with
      | none =>
          by_cases same : other = id
          · subst same
            simp [Registrations.note, Storage.registrations, found]
          · simp [Registrations.note, Function.update_of_ne same, Storage.registrations, found]
      | some row =>
          have named : row.id = other := by simpa using List.find?_some found
          by_cases same : other = id
          · subst same
            by_cases own : row.tenantID = tenantID
            · simp [Registrations.note, Storage.registrations, found, endpointAt, named, own,
                rewriteEndpoint, WebhookEndpointRow.registration]
            · simp [Registrations.note, Storage.registrations, found, endpointAt, own,
                WebhookEndpointRow.registration]
          · simp [Registrations.note, Storage.registrations, found, endpointAt, named, same]

theorem delete_registers (s : Storage) (tenantID id : UUID) :
    (deleteWebhookEndpoint s id tenantID).registrations =
      s.registrations.note (.deleted tenantID id) := by
  have left : (deleteWebhookEndpoint s id tenantID).endpoints.rows =
      s.endpoints.rows.filter (!endpointAt id tenantID ·) := rfl
  funext other
  rw [Storage.registrations, left, lookup_filter s.endpoints.pkey]
  cases found : lookup WebhookEndpointRow.id s.endpoints.rows other with
  | none =>
      by_cases same : other = id
      · subst same
        simp [Registrations.note, Storage.registrations, found]
      · simp [Registrations.note, Function.update_of_ne same, Storage.registrations, found]
  | some row =>
      have named : row.id = other := by simpa using List.find?_some found
      by_cases same : other = id
      · subst same
        by_cases own : row.tenantID = tenantID <;>
          simp [Registrations.note, Storage.registrations, found, endpointAt, named, own, Option.filter,
            WebhookEndpointRow.registration]
      · simp [Registrations.note, Storage.registrations, found, endpointAt, named, same, Option.filter]

end WebhookService

theorem EndpointCall.perform_registers (isURL : String → Bool) (s : Storage) (call : EndpointCall) :
    (call.perform isURL s).registrations =
      (call.happening isURL s).elim s.registrations s.registrations.note := by
  cases call with
  | create conn tenantID req id now =>
      cases created : WebhookService.create isURL conn s tenantID req id now with
      | error e => simp only [perform, happening, created, Option.elim]
      | ok answer =>
          simp only [perform, happening, created, Option.elim]
          exact WebhookService.create_registers created
  | update conn tenantID id req now =>
      cases updated : WebhookService.update isURL conn s tenantID id req now with
      | error e => simp only [perform, happening, updated, Option.elim]
      | ok answer =>
          simp only [perform, happening, updated, Option.elim]
          exact WebhookService.update_registers updated
  | delete conn tenantID id =>
      cases deleted : WebhookService.delete conn s tenantID id with
      | error e => simp only [perform, happening, deleted, Option.elim]
      | ok s' =>
          simp only [perform, happening, deleted, Option.elim]
          obtain rfl := WebhookRepository.deleteEndpoint_ok deleted
          exact WebhookService.delete_registers s tenantID id

/-! ## From the lookup to the POST -/

/-- When the lookup was made, the id stood for an active endpoint of the notification's tenant
    that subscribes to the event. -/
structure Standing (earlier : List Happening) (n : Notification) (event : String) (id : UUID)
    (target : Registration) : Prop where
  stands : Registrations.of earlier id = some target
  own : target.tenantID = n.tenantID
  active : target.isActive = true
  subscribed : event ∈ target.events

/-- A dispatch of this trace found the endpoint, and the payload is one that it built. -/
def Listed (svc : WebhookService) (trace : List Happening) (n : Notification) (event : String)
    (held : JSONMap × WebhookEndpoint) : Prop :=
  ∃ earlier later target now, trace = earlier ++ .listed n event :: later ∧
    Standing earlier n event held.2.id target ∧
    held.2.url = target.url ∧ held.2.secret = target.secret ∧
    held.1 = svc.buildEventPayload n event now

theorem Listed.mono {svc : WebhookService} {trace : List Happening} {n : Notification}
    {event : String} {held : JSONMap × WebhookEndpoint} (listed : Listed svc trace n event held)
    (more : List Happening) : Listed svc (trace ++ more) n event held := by
  obtain ⟨earlier, later, target, now, rfl, rest⟩ := listed
  exact ⟨earlier, later ++ more, target, now, by simp, rest⟩

/-- The endpoints that a dispatch has yet to serve, with the payload for them. -/
def DispatchPc.holds : DispatchPc → List (JSONMap × WebhookEndpoint)
  | .list => []
  | .loop payload endpoints => endpoints.map (payload, ·)
  | .publish payload ep _ rest => (payload, ep) :: rest.map (payload, ·)
  | .returned _ => []

/-- The lookup, if this call is the one that makes it. -/
def DispatchThread.happening (s : Storage) (a : DispatchAnswer) (t : DispatchThread) :
    Option Happening :=
  match t.pc with
  | .list =>
      match WebhookRepository.listActiveForEvent a.conn s t.n.tenantID t.event with
      | .error _ => none
      | .ok _ => some (.listed t.n t.event)
  | .loop _ _ => none
  | .publish .. => none
  | .returned _ => none

theorem WebhookService.eq_subscribers_of_listed {conn : Conn} {s : Storage} {n : Notification}
    {event : String} {endpoints : List WebhookEndpoint}
    (listed : WebhookRepository.listActiveForEvent conn s n.tenantID event = .ok endpoints) :
    endpoints = (subscribers s n event).map dbWebhookEndpointToDomain := by
  cases conn with
  | down => simp [WebhookRepository.listActiveForEvent, Conn.exec] at listed
  | up => exact (Except.ok.inj listed).symm

/-- A call of dispatch finds its endpoints, or it goes on with those it has. -/
theorem WebhookService.advance_holds {svc : WebhookService} {t : DispatchThread} {s s' : Storage}
    {a : DispatchAnswer} {pc : DispatchPc} {sent : List (Publication WebhookMessage)}
    (taken : svc.advance t.n t.event s a t.pc = some (pc, s', sent)) :
    s'.endpoints.rows = s.endpoints.rows ∧
      ((t.happening s a = some (.listed t.n t.event) ∧ sent = [] ∧
          pc.holds = (subscribers s t.n t.event).map fun row =>
            (svc.buildEventPayload t.n t.event a.now, dbWebhookEndpointToDomain row)) ∨
        t.happening s a = none ∧ (∀ h ∈ pc.holds, h ∈ t.pc.holds) ∧
          ∀ p ∈ sent, ∃ h ∈ t.pc.holds, ∃ id now,
            p = svc.publication t.n t.event h.1 h.2 id now) := by
  cases at_ : t.pc with
  | list =>
      rw [at_] at taken
      simp only [advance] at taken
      cases listed : WebhookRepository.listActiveForEvent a.conn s t.n.tenantID t.event with
      | error e =>
          simp only [listed, Option.some.injEq, Prod.mk.injEq] at taken
          obtain ⟨rfl, rfl, rfl⟩ := taken
          exact ⟨rfl, .inr ⟨by simp [DispatchThread.happening, at_, listed],
            by simp [DispatchPc.holds], by simp⟩⟩
      | ok endpoints =>
          simp only [listed, Option.some.injEq, Prod.mk.injEq] at taken
          obtain ⟨rfl, rfl, rfl⟩ := taken
          refine ⟨rfl, .inl ⟨by simp [DispatchThread.happening, at_, listed], rfl, ?_⟩⟩
          simp [DispatchPc.holds, eq_subscribers_of_listed listed, Function.comp_def]
  | loop payload endpoints =>
      have quiet : t.happening s a = none := by simp [DispatchThread.happening, at_]
      rw [at_] at taken
      cases endpoints with
      | nil =>
          cases taken
          exact ⟨rfl, .inr ⟨quiet, by simp [DispatchPc.holds], by simp⟩⟩
      | cons ep rest =>
          simp only [advance] at taken
          split at taken
          · cases taken
            exact ⟨rfl, .inr ⟨quiet, fun h member => List.mem_cons_of_mem _ member, by simp⟩⟩
          · rename_i inserted
            cases taken
            refine ⟨(WebhookRepository.createDelivery_ok inserted).2.2.1, .inr ⟨quiet, ?_, by simp⟩⟩
            simp [DispatchPc.holds]
  | publish payload ep deliveryID rest =>
      have quiet : t.happening s a = none := by simp [DispatchThread.happening, at_]
      have rest_held : ∀ h ∈ (DispatchPc.loop payload rest).holds,
          h ∈ (DispatchPc.publish payload ep deliveryID rest).holds :=
        fun h member => List.mem_cons_of_mem _ member
      rw [at_] at taken
      simp only [advance] at taken
      split at taken
      · cases taken
        exact ⟨rfl, .inr ⟨quiet, rest_held, by simp⟩⟩
      · cases taken
        refine ⟨rfl, .inr ⟨quiet, rest_held, fun p member => ?_⟩⟩
        obtain rfl := List.mem_singleton.mp member
        exact ⟨(payload, ep), List.mem_cons_self, deliveryID, a.now, rfl⟩
  | returned err =>
      rw [at_] at taken
      cases taken

namespace WebhookWorker

variable {w : WebhookWorker} {calls : WebhookCalls} {s : Storage} {msg : WebhookMessage}
  {call : Exchange}

theorem mem_send {body : String} {replies : Nat → HTTP.Reply}
    (made : call ∈ (w.send msg body replies).1) : call.request = w.request msg body := by
  unfold send at made
  split at made
  · simp at made
  · split at made
    split at made
    · rw [List.mem_singleton.mp made]
    · split at made <;> rw [List.mem_singleton.mp made]

theorem mem_sendLoop {body : String} {i : Nat} {attempt : Int}
    (made : call ∈ (w.sendLoop calls msg body i attempt).1) :
    call.request = w.request msg body := by
  fun_induction sendLoop w calls msg body i attempt with
  | case1 i attempt calls statusCode sent =>
      exact mem_send (by rw [sent]; exact made)
  | case2 i attempt calls statusCode err sent spent =>
      exact mem_send (by rw [sent]; exact made)
  | case3 i attempt calls statusCode err sent more cancelled waited =>
      exact mem_send (by rw [sent]; exact made)
  | case4 i attempt calls statusCode err sent more waited later last onward ih =>
      rcases List.mem_append.mp made with first | second
      · exact mem_send (by rw [sent]; exact first)
      · exact ih (by rw [onward]; exact second)

/-- The client is called with the request of the message, with its payload as the body. -/
theorem mem_process_exchanges (made : call ∈ (w.process calls s msg).exchanges) :
    ∃ body, w.marshal msg.payload = .ok body ∧ call.request = w.request msg body := by
  unfold process at made
  split at made
  · simp [markFailed] at made
  · rename_i body marshalled
    refine ⟨body, marshalled, ?_⟩
    have looped : call ∈ (w.sendLoop calls msg body 0 msg.attempt).1 := by
      split at made <;> rename_i ended <;> rw [ended] <;>
        simpa [markDelivered, markFailed] using made
    exact mem_sendLoop looped

theorem process_endpoints (w : WebhookWorker) (calls : WebhookCalls) (s : Storage)
    (msg : WebhookMessage) :
    (w.process calls s msg).storage.endpoints.rows = s.endpoints.rows := by
  have ends : (∃ made context d, w.process calls s msg = mark calls s made context d) ∨
      (w.process calls s msg).storage = s := by
    unfold process
    split
    · exact .inl ⟨_, _, _, rfl⟩
    · split
      · exact .inl ⟨_, _, _, rfl⟩
      · exact .inl ⟨_, _, _, rfl⟩
      · exact .inr rfl
  rcases ends with ⟨made, context, d, marked⟩ | same
  · rw [marked, mark]
    split
    · rfl
    · rename_i updated
      exact (WebhookRepository.updateDelivery_ok updated).2.1
  · rw [same]

end WebhookWorker

/-! ## Runs -/

/-- The POST is what a dispatch before it would send for its lookup: to the URL that stood then,
    signed with the secret that the endpoint was created with. -/
def Rightful (cfg : WebhookSetup) (before : List Happening) (post : Post) : Prop :=
  ∃ earlier later n event id target now req,
    before = earlier ++ .listed n event :: later ∧
    Standing earlier n event id target ∧
    .created n.tenantID id req ∈ earlier ∧
    cfg.worker.marshal (cfg.service.buildEventPayload n event now) = .ok post.body ∧
    post.url = target.url ∧ post.event = event ∧
    post.signature = "sha256=" ++ cfg.worker.computeHMAC post.body req.secret

namespace WebhookSystem

/-- Whatever is posted, it is rightful. -/
def PostsRightful (cfg : WebhookSetup) (before : List Happening) : Happening → Prop
  | .posted posts => ∀ post ∈ posts, Rightful cfg before post
  | .created .. => True
  | .updated .. => True
  | .deleted .. => True
  | .listed .. => True

def happening (cfg : WebhookSetup) (s : WebhookSystem) : WebhookLabel → Option Happening
  | .dispatch _ _ => none
  | .advance i a => s.dispatches[i]?.bind (·.happening s.storage a)
  | .write call => call.happening cfg.isURL s.storage
  | .process offset calls _ =>
      s.topic[offset]?.map fun msg =>
        .posted ((cfg.worker.process calls s.storage msg).exchanges.map (·.request))

/-- The system with what happened in it. -/
def witnessed (cfg : WebhookSetup) :=
  Trace.recorded (step cfg) (happening cfg)

/-- The message is one that a dispatch of this trace sends. -/
def Sent (svc : WebhookService) (trace : List Happening) (msg : WebhookMessage) : Prop :=
  ∃ n event held id now, Listed svc trace n event held ∧
    msg = (svc.publication n event held.1 held.2 id now).value

structure Followed (cfg : WebhookSetup) (s : WebhookSystem × List Happening) : Prop where
  stored : s.1.storage.registrations = Registrations.of s.2
  held : ∀ t ∈ s.1.dispatches, ∀ h ∈ t.pc.holds, Listed cfg.service s.2 t.n t.event h
  queued : ∀ msg ∈ s.1.topic, Sent cfg.service s.2 msg
  rightful : Trace.Always (PostsRightful cfg) s.2

section Runs

variable {cfg : WebhookSetup} {s next : WebhookSystem} {trace : List Happening}

/-- A row that the lookup gives stands in the registry. -/
theorem Followed.standing (inv : Followed cfg (s, trace)) {n : Notification} {event : String}
    {row : WebhookEndpointRow} (found : row ∈ WebhookService.subscribers s.storage n event) :
    Standing trace n event row.id row.registration := by
  obtain ⟨member, own, active, list, events, subscribed⟩ := WebhookService.mem_subscribers.mp found
  refine ⟨?_, own, active, ?_⟩
  · rw [← inv.stored]
    simp only [Storage.registrations, lookup_of_mem s.storage.endpoints.pkey member, Option.map_some]
  · simpa [WebhookEndpointRow.registration, events] using subscribed

theorem Sent.rightful {msg : WebhookMessage} (sent : Sent cfg.service trace msg) {post : Post}
    {body : String} (marshalled : cfg.worker.marshal msg.payload = .ok body)
    (made : post = cfg.worker.request msg body) : Rightful cfg trace post := by
  obtain ⟨n, event, held, id, now, ⟨earlier, later, target, built, split, standing, url, secret,
    payload⟩, rfl⟩ := sent
  obtain ⟨req, created, same⟩ := Registrations.created_of standing.stands
  subst made
  refine ⟨earlier, later, n, event, held.2.id, target, built, req, split, standing,
    standing.own ▸ created, ?_, url, rfl, ?_⟩
  · rw [← payload]
    exact marshalled
  · rw [same, ← secret]
    rfl

theorem Followed.advance (inv : Followed cfg (s, trace)) {i : Nat} {a : DispatchAnswer}
    (taken : step cfg s (.advance i a) = some next) :
    Followed cfg (next, trace ++ (happening cfg s (.advance i a)).toList) := by
  simp only [step] at taken
  split at taken
  · cases taken
  · rename_i t running
    split at taken
    · cases taken
    · rename_i pc storage sent advanced
      cases taken
      have noted : happening cfg s (.advance i a) = t.happening s.storage a := by
        simp [happening, running]
      obtain ⟨rows, found | onward⟩ := WebhookService.advance_holds advanced
      · obtain ⟨listed, rfl, holds⟩ := found
        rw [noted, listed]
        refine ⟨?_, fun u member h held => ?_, ?_, ?_⟩
        · rw [Registrations.of_append]
          exact (Storage.registrations_congr rows).trans inv.stored
        · rcases Threads.mem_set member with rfl | other
          · simp only [holds, List.mem_map] at held
            obtain ⟨row, subscribed, rfl⟩ := held
            exact ⟨trace, [], row.registration, a.now, rfl, inv.standing subscribed, rfl, rfl, rfl⟩
          · exact (inv.held u other h held).mono _
        · intro msg member
          obtain ⟨n, event, held, id, now, found, same⟩ := inv.queued msg (by simpa using member)
          exact ⟨n, event, held, id, now, found.mono _, same⟩
        · exact inv.rightful.append (by simp [PostsRightful])
      · obtain ⟨quiet, kept, sends⟩ := onward
        have own : ∀ h ∈ t.pc.holds, Listed cfg.service trace t.n t.event h :=
          inv.held t (List.mem_of_getElem? running)
        rw [noted, quiet, Option.toList_none, List.append_nil]
        refine ⟨(Storage.registrations_congr rows).trans inv.stored, fun u member h held => ?_, ?_,
          inv.rightful⟩
        · rcases Threads.mem_set member with rfl | other
          · exact own h (kept h held)
          · exact inv.held u other h held
        · intro msg member
          rcases List.mem_append.mp member with old | new
          · exact inv.queued msg old
          · obtain ⟨p, published, rfl⟩ := List.mem_map.mp new
            obtain ⟨h, held, id, now, rfl⟩ := sends p published
            exact ⟨t.n, t.event, h, id, now, own h held, rfl⟩

/-- What happens beside the dispatches leaves what they and the messages carry as it was. -/
theorem Followed.beside (inv : Followed cfg (s, trace)) {storage : Storage}
    {outcomes : List Outcome} {e : Option Happening}
    (stored : storage.registrations =
      e.elim s.storage.registrations s.storage.registrations.note)
    (rightful : ∀ last ∈ e, PostsRightful cfg trace last) :
    Followed cfg ({ s with storage := storage, outcomes := outcomes }, trace ++ e.toList) := by
  refine ⟨?_, fun t member h held => (inv.held t member h held).mono _, fun msg member => ?_,
    inv.rightful.append rightful⟩
  · rw [Registrations.of_append, ← inv.stored]
    exact stored
  · obtain ⟨n, event, held, id, now, found, same⟩ := inv.queued msg member
    exact ⟨n, event, held, id, now, found.mono _, same⟩

theorem Followed.step {label : WebhookLabel} (inv : Followed cfg (s, trace))
    (taken : WebhookSystem.step cfg s label = some next) :
    Followed cfg (next, trace ++ (happening cfg s label).toList) := by
  cases label with
  | dispatch n event =>
      cases taken
      simp only [happening, Option.toList_none, List.append_nil]
      refine ⟨inv.stored, fun t member h held => ?_, inv.queued, inv.rightful⟩
      rcases List.mem_append.mp member with old | new
      · exact inv.held t old h held
      · obtain rfl := List.mem_singleton.mp new
        simp [DispatchPc.holds] at held
  | advance i a => exact inv.advance taken
  | write call =>
      cases taken
      refine inv.beside (call.perform_registers cfg.isURL s.storage) fun last noted => ?_
      cases call <;> simp only [happening, EndpointCall.happening] at noted <;>
        split at noted <;> cases noted <;> trivial
  | process offset calls acked =>
      simp only [WebhookSystem.step] at taken
      split at taken
      · cases taken
      · rename_i msg there
        split at taken
        · cases taken
        · cases taken
          simp only [happening, there, Option.map_some]
          refine inv.beside ?_ fun last noted => ?_
          · exact Storage.registrations_congr (cfg.worker.process_endpoints calls s.storage msg)
          · cases noted
            intro post made
            obtain ⟨call, done, rfl⟩ := List.mem_map.mp made
            obtain ⟨body, marshalled, same⟩ := WebhookWorker.mem_process_exchanges done
            exact (inv.queued msg (List.mem_of_getElem? there)).rightful marshalled same

theorem followed_start (cfg : WebhookSetup) (core : Database) :
    Followed cfg (start (.ofCore core), []) := by
  refine ⟨?_, by simp [start], by simp [start], .nil⟩
  funext id
  simp [Storage.registrations, start, Storage.ofCore, Table.empty, Registrations.of, lookup]

/-- In every run, however the calls of tenants, dispatches and deliveries interleave, each POST
    that the client is called with goes to a URL that the notification's tenant had registered for
    the event, active, when the dispatch looked, and is signed with the secret from the creation of
    that endpoint. -/
theorem posts_rightful (cfg : WebhookSetup) (core : Database) {labels : List WebhookLabel}
    (finished : run (witnessed cfg) (start (.ofCore core), []) labels = some (next, trace)) :
    next.storage.registrations = Registrations.of trace ∧
      Trace.Always (PostsRightful cfg) trace := by
  have keeps : ∀ s label next, Followed cfg s → witnessed cfg s label = some next →
      Followed cfg next := by
    rintro ⟨s, trace⟩ label last inv taken
    obtain ⟨next, stepped, rfl⟩ := Trace.recorded_some taken
    exact inv.step stepped
  have inv := run_invariant keeps (followed_start cfg core) finished
  exact ⟨inv.stored, inv.rightful⟩

end Runs

/-! ## An endpoint that moves -/

/-- The endpoint is created, a dispatch finds it, it moves to another URL, and the call that was
    found before goes out. -/
def moving : List WebhookLabel :=
  [.write (WebhookService.subscribe "a.shop" "0123456789abcdef" 1),
    .dispatch WebhookService.receipt "notification.delivered", .advance 0 { id := 10 },
    .write (.update .up 7 1
      { url := "b.shop", events := some ["notification.delivered"], isActive := true } 5),
    .advance 0 { id := 10 }, .advance 0 { id := 11 }, delivery]

/-- Where the POSTs of a trace go. -/
def destinations (trace : List Happening) : List String :=
  trace.flatMap fun
    | .posted posts => posts.map (·.url)
    | _ => []

/-- It is posted to the URL that stood at the lookup. -/
theorem moved_after_lookup :
    ∃ last trace, run (witnessed plainSetup)
        (start (.ofCore WebhookService.receiptStored), []) moving = some (last, trace) ∧
      destinations trace = ["a.shop"] ∧ last.storage.registrations = Registrations.of trace ∧
      Trace.Always (PostsRightful plainSetup) trace := by
  have done : (run (witnessed plainSetup) (start (.ofCore WebhookService.receiptStored), [])
      moving).map (fun s => destinations s.2) = some ["a.shop"] := by
    decide +kernel
  obtain ⟨⟨last, trace⟩, finished, gone⟩ := Option.map_eq_some_iff.mp done
  exact ⟨last, trace, finished, gone, posts_rightful plainSetup _ finished⟩

end WebhookSystem

end NotifyHub
