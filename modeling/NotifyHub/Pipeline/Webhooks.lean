import NotifyHub.Pipeline.Course
import NotifyHub.Pipeline.Persistence
import NotifyHub.WebhookService

/-! # What the webhooks of a call say

Process fetches the notification once and hands that value to every Dispatch. Meanwhile
the stored status has become processing and then the terminal one, so the payload names
the status from before the call.
-/

namespace NotifyHub.Pipeline

open Lifecycle NotificationRepository

/-- The terminal status that an event of a notification names. -/
def statusNamed (event : String) : Option NotificationStatus :=
  if event = webhookEventDelivered then some .delivered
  else if event = webhookEventFailed then some .failed
  else if event = webhookEventDropped then some .dropped
  else none

/-- The status in the payload is the one that the event names and the one that is stored. -/
def TellsTheTruth (db : Database) (msg : WebhookMessage) : Prop :=
  ∃ id status, msg.notificationID = some id ∧ statusNamed msg.event = some status ∧
    msg.payload.lookup "status" = some (.str status.text) ∧ statusOf db id = some status

/-- At every moment of the call at which Dispatch is called, with any endpoints and whatever
    its own calls meet, every message it publishes tells the truth. -/
def PayloadsTrue (svc : WebhookService) (cfg : Config) (msg : Message) (world : Nat → Answer)
    (sh : Shared) : Prop :=
  ∀ k n event todo (s s' : Storage) calls published,
    (proceed cfg msg world k (begin sh)).pc = .closing n (.dispatchWebhook event :: todo) →
    s.core = (proceed cfg msg world k (begin sh)).shared.db →
    svc.dispatch calls s n event = .ok (published, s') →
    ∀ p ∈ published, TellsTheTruth s.core p.value

/-! ## The event of an exit -/

section Exits

variable {world : Nat → Answer} {n : Notification} {exit : Exit}

def Exit.event : Exit → String
  | .unwanted _ | .limited => webhookEventDropped
  | .unrendered _ | .unregistered => webhookEventFailed
  | .tried _ .accepted => webhookEventDelivered
  | .tried _ .permanent | .tried _ .exhausted | .tried _ .interrupted => webhookEventFailed

theorem Exit.statusNamed_event (exit : Exit) : statusNamed exit.event = some exit.status := by
  cases exit with
  | unwanted | limited | unrendered | unregistered => rfl
  | tried j v => cases v <;> rfl

/-- Every exit ends with the status and then the event. -/
theorem Exit.closings_eq (world : Nat → Answer) (n : Notification) (exit : Exit) :
    ∃ records, closingStatuses records = [] ∧ (∀ event, .dispatchWebhook event ∉ records) ∧
      exit.closings world n =
        records ++ [.updateStatus exit.status, .dispatchWebhook exit.event] := by
  have drops : ∀ reason, ∃ records, closingStatuses records = [] ∧
      (∀ event, Closing.dispatchWebhook event ∉ records) ∧
      dropClosing reason = records ++ [.updateStatus .dropped, .dispatchWebhook webhookEventDropped] :=
    fun reason => ⟨[.logDelivery .failed (some reason) none], rfl, by simp, rfl⟩
  have fails : ∀ reason errMsg, ∃ records, closingStatuses records = [] ∧
      (∀ event, Closing.dispatchWebhook event ∉ records) ∧
      failClosing reason errMsg =
        records ++ [.updateStatus .failed, .dispatchWebhook webhookEventFailed] :=
    fun reason errMsg =>
      ⟨[.logDelivery .failed (some errMsg) none, .deadLetter reason errMsg], rfl, by simp, rfl⟩
  cases exit with
  | unwanted | limited => exact drops _
  | unrendered | unregistered => exact fails _ _
  | tried j v =>
      cases v with
      | accepted => exact ⟨[.logDelivery .success none (some (world (5 + 2 * j)).now)], rfl, by simp, rfl⟩
      | permanent | exhausted | interrupted => exact fails _ _

theorem closingStatuses_append (first second : List Closing) :
    closingStatuses (first ++ second) = closingStatuses first ++ closingStatuses second := by
  induction first with
  | nil => rfl
  | cons act rest ih =>
      cases act with
      | updateStatus status => simp [closingStatuses, ih]
      | logDelivery | deadLetter | dispatchWebhook => simpa [closingStatuses] using ih

theorem Exit.closingStatuses_closings (exit : Exit) :
    closingStatuses (exit.closings world n) = [exit.status] := by
  obtain ⟨records, silent, _, closings⟩ := exit.closings_eq world n
  rw [closings, closingStatuses_append, silent]
  rfl

theorem Exit.dispatch_mem (exit : Exit) :
    .dispatchWebhook exit.event ∈ exit.closings world n := by
  obtain ⟨records, _, _, closings⟩ := exit.closings_eq world n
  simp [closings]

/-- The dispatch of an exit is its last call and has its event. -/
theorem Exit.dispatch_last {done todo : List Closing} {event : String}
    (split : done ++ .dispatchWebhook event :: todo = exit.closings world n) :
    event = exit.event ∧ todo = [] := by
  obtain ⟨records, _, without, closings⟩ := exit.closings_eq world n
  have whole : done ++ .dispatchWebhook event :: todo =
      (records ++ [.updateStatus exit.status]) ++ [.dispatchWebhook exit.event] := by
    rw [split, closings, List.append_assoc]
    rfl
  rcases List.eq_nil_or_concat todo with rfl | ⟨before, last, rfl⟩
  · have ends := (List.append_inj' whole rfl).2
    simp only [List.cons.injEq, Closing.dispatchWebhook.injEq, and_true] at ends
    exact ⟨ends, rfl⟩
  · rw [List.concat_eq_append, ← List.cons_append, ← List.append_assoc] at whole
    have earlier := (List.append_inj' whole rfl).1
    have member : Closing.dispatchWebhook event ∈ records ++ [.updateStatus exit.status] := by
      simp [← earlier]
    simp [without] at member

end Exits

/-! ## The status at the dispatch -/

section Moments

variable {cfg : Config} {msg : Message} {world : Nat → Answer} {sh : Shared} {o : Progress}

/-- Once the write of the status is behind, and went through, the status is stored. -/
def StatusStored (cfg : Config) (msg : Message) (world : Nat → Answer) (sh : Shared) (o : Progress) :
    Prop :=
  ∀ n todo exit, o.pc = .closing n todo → closingStatuses todo = [] → Persisted o.calls →
    Reaches cfg msg world sh n exit → Holds o.shared.db msg.notificationID exit.status

theorem settled_closing {shared : Shared} {calls : List Call} {n : Notification} {act : Closing}
    {todo : List Closing} {exit : Exit} {a : Answer}
    (course : Course cfg msg world sh ⟨shared, .closing n (act :: todo), calls⟩)
    (stage : Stage msg shared calls (.closing n (act :: todo)))
    (settled : StatusStored cfg msg world sh ⟨shared, .closing n (act :: todo), calls⟩)
    (silent : closingStatuses todo = [])
    (persisted : Persisted (calls ++ [⟨.closing n (act :: todo), a⟩]))
    (reaches : Reaches cfg msg world sh n exit) :
    Holds (closingStep cfg a msg n shared act).db msg.notificationID exit.status := by
  have earlier := ((persisted_append _ _).mp persisted).1
  cases act with
  | updateStatus status =>
      obtain ⟨other, done, reaches', split, _⟩ := course
      obtain ⟨_, rfl⟩ := reaches.unique reaches'
      have statuses := congrArg closingStatuses split
      rw [closingStatuses_append, Exit.closingStatuses_closings, closingStatuses, silent] at statuses
      obtain ⟨_, rfl⟩ : closingStatuses done = [] ∧ status = exit.status := by
        simpa [List.append_eq_singleton_iff] using statuses
      have answered : a.fault = none := ((persisted_append _ _).mp persisted).2 rfl
      obtain ⟨same, ⟨_, _, holds⟩ | ⟨writes, _⟩⟩ := stage
      · obtain ⟨result, db, updated⟩ := (same ▸ holds).updateStatus exit.status a.now
        simp only [closingStep, conn_eq_up.mpr answered, updated]
        exact same ▸ holds_of_updateStatus updated
      · simp [closingStatuses] at writes
  | logDelivery | deadLetter | dispatchWebhook =>
      rw [closingStep_db_of_ne (by simp)]
      exact settled n _ exit rfl silent earlier reaches

theorem settled_onward {a : Answer} {shared shared' : Shared} {pc pc' : ProcessPc}
    {calls : List Call} (onward : Onward cfg a msg shared pc shared' pc')
    (course : Course cfg msg world sh ⟨shared, pc, calls⟩) (stage : Stage msg shared calls pc)
    (settled : StatusStored cfg msg world sh ⟨shared, pc, calls⟩) :
    StatusStored cfg msg world sh ⟨shared', pc', calls ++ [⟨pc, a⟩]⟩ := by
  intro n todo exit here silent persisted reaches
  cases onward with
  | unfetched | fetched | unprocessed | processing | unasked | wanted | uncounted | unlimited
  | rendered | unsent | waited | closed => cases here
  | unwanted | limited =>
      cases here
      simp [dropClosing, closingStatuses] at silent
  | unsendable | gaveUp | interrupted =>
      cases here
      simp [failClosing, closingStatuses] at silent
  | sent =>
      cases here
      simp [deliverClosing, closingStatuses] at silent
  | closing =>
      cases here
      exact settled_closing course stage settled silent persisted reaches

theorem settled_at (cfg : Config) (msg : Message) (world : Nat → Answer) (sh : Shared) (k : Nat) :
    Course cfg msg world sh (proceed cfg msg world k (begin sh)) ∧
      StatusStored cfg msg world sh (proceed cfg msg world k (begin sh)) := by
  have along : Course cfg msg world sh (proceed cfg msg world k (begin sh)) ∧
      Stage msg (proceed cfg msg world k (begin sh)).shared
        (proceed cfg msg world k (begin sh)).calls (proceed cfg msg world k (begin sh)).pc ∧
      StatusStored cfg msg world sh (proceed cfg msg world k (begin sh)) := by
    apply proceed_along fun o => Course cfg msg world sh o ∧ Stage msg o.shared o.calls o.pc ∧
      StatusStored cfg msg world sh o
    · rintro o ⟨course, stage, settled⟩ running
      have onward := processStep_onward cfg (world o.calls.length) msg o.shared (result_eq_none running)
      exact ⟨course_next course running, stage_onward onward stage,
        settled_onward onward course stage settled⟩
    · refine ⟨⟨⟨rfl, .nil⟩, rfl⟩, fun _ => by simp [begin], ?_⟩
      intro n todo exit here
      cases here
  exact ⟨along.1, along.2.2⟩

/-- When Dispatch is called, the status that the event names is stored. -/
theorem stored_at_dispatch {k : Nat} {n : Notification} {event : String} {todo : List Closing}
    (persisted : Persisted (process cfg msg world sh).calls)
    (here : (proceed cfg msg world k (begin sh)).pc = .closing n (.dispatchWebhook event :: todo)) :
    ∃ exit, Reaches cfg msg world sh n exit ∧ event = exit.event ∧
      Holds (proceed cfg msg world k (begin sh)).shared.db msg.notificationID exit.status := by
  obtain ⟨course, settled⟩ := settled_at cfg msg world sh k
  have upTo : Persisted (proceed cfg msg world k (begin sh)).calls :=
    fun call member => persisted call ((calls_upTo k).subset member)
  unfold Course at course
  rw [here] at course
  obtain ⟨exit, done, reaches, split, _⟩ := course
  obtain ⟨rfl, rfl⟩ := Exit.dispatch_last split
  exact ⟨exit, reaches, rfl, settled n _ exit here rfl upTo reaches⟩

/-- Process registers no tenant and deletes none. -/
theorem tenants_onward {a : Answer} {shared shared' : Shared} {pc pc' : ProcessPc}
    (onward : Onward cfg a msg shared pc shared' pc') : shared'.db.tenants = shared.db.tenants := by
  cases onward with
  | unfetched | fetched | unprocessed | unasked | wanted | uncounted | unlimited | rendered
  | unsent | waited | closed | unwanted | limited | unsendable | gaveUp | interrupted | sent => rfl
  | processing updated =>
      obtain ⟨_, _, _, _, rfl⟩ := updateStatus_ok updated
      rfl
  | @closing n act todo =>
      rcases closingStep_db cfg a msg n shared act with same | ⟨status, result, _, updated⟩
      · rw [same]
      · obtain ⟨_, _, _, _, changed⟩ := updateStatus_ok updated
        rw [changed]
        rfl

theorem tenants_at (k : Nat) :
    (proceed cfg msg world k (begin sh)).shared.db.tenants = sh.db.tenants :=
  proceed_along (fun o => o.shared.db.tenants = sh.db.tenants)
    (fun _ same running =>
      (tenants_onward (processStep_onward _ _ _ _ (result_eq_none running))).trans same) k rfl

theorem Call.pc_of_closing {call : Call} {n : Notification} {act : Closing}
    (made : call.closing = some (n, act)) : ∃ todo, call.pc = .closing n (act :: todo) := by
  unfold Call.closing at made
  split at made
  · rename_i todo pc
    obtain ⟨rfl, rfl⟩ := Prod.mk.inj (Option.some.inj made)
    exact ⟨todo, pc⟩
  · cases made

/-- Every exit gets to its dispatch. -/
theorem dispatch_of_reaches {n : Notification} {exit : Exit}
    (reaches : Reaches cfg msg world sh n exit) :
    ∃ k todo, (proceed cfg msg world k (begin sh)).pc =
      .closing n (.dispatchWebhook exit.event :: todo) := by
  rcases process_course cfg msg world sh with ⟨_, unanswered, _⟩ | ⟨_, m, other, reaches', made⟩
  · exact absurd reaches.answered unanswered
  · obtain ⟨rfl, rfl⟩ := reaches.unique reaches'
    have last : (n, Closing.dispatchWebhook exit.event) ∈
        (process cfg msg world sh).calls.filterMap Call.closing := by
      rw [made.done]
      exact List.mem_map_of_mem exit.dispatch_mem
    obtain ⟨call, member, closing⟩ := List.mem_filterMap.mp last
    obtain ⟨todo, pc⟩ := Call.pc_of_closing closing
    obtain ⟨k, here, _⟩ := moment_of_call member
    exact ⟨k, todo, here.trans pc⟩

end Moments

/-! ## The payloads -/

theorem status_text_injective : Function.Injective NotificationStatus.text := by
  intro first second same
  cases first <;> cases second <;> first | rfl | simp [NotificationStatus.text] at same

theorem lookup_status (svc : WebhookService) (n : Notification) (event : String) (now : Time) :
    (svc.buildEventPayload n event now).lookup "status" = some (.str n.status.text) := by
  simp [WebhookService.buildEventPayload, List.lookup_cons]

section Truth

variable {svc : WebhookService} {n : Notification} {exit : Exit} {s s' : Storage}
  {calls : DispatchCalls} {published : List (Publication WebhookMessage)}
  {p : Publication WebhookMessage}

/-- With the status of the exit stored, a message is true if the value handed over has it. -/
theorem truth_iff (stored : Holds s.core n.id exit.status)
    (done : svc.dispatch calls s n exit.event = .ok (published, s')) (member : p ∈ published) :
    TellsTheTruth s.core p.value ↔ n.status = exit.status := by
  obtain ⟨id, event, payload⟩ := WebhookService.dispatch_publishes done member
  unfold TellsTheTruth
  rw [id, event, payload, lookup_status, exit.statusNamed_event]
  constructor
  · rintro ⟨_, status, _, named, told, _⟩
    obtain rfl := Option.some.inj named
    simpa [status_text_injective.eq_iff] using told
  · intro same
    exact ⟨n.id, exit.status, rfl, rfl, by rw [same], stored.statusOf⟩

end Truth

/-- Where the terminal status is written, the payloads are true if and only if the status
    stored when Process starts is already the one it leads to. -/
theorem payloads_true_iff_already_there (svc : WebhookService) (cfg : Config) (msg : Message)
    (world : Nat → Answer) (sh : Shared) (persisted : Persisted (process cfg msg world sh).calls) :
    PayloadsTrue svc cfg msg world sh ↔
      ∀ n exit, Reaches cfg msg world sh n exit → n.status = exit.status := by
  constructor
  · intro honest n exit reaches
    obtain ⟨k, todo, here⟩ := dispatch_of_reaches reaches
    obtain ⟨other, reaches', _, holds⟩ := stored_at_dispatch persisted here
    obtain ⟨_, rfl⟩ := reaches.unique reaches'
    obtain ⟨row, member, same, owner, rfl⟩ := reaches.found
    have tenant : (dbNotificationToDomain row).tenantID = msg.tenantID := by
      simp [dbNotificationToDomain, owner]
    have registered : (dbNotificationToDomain row).tenantID ∈
        (proceed cfg msg world k (begin sh)).shared.db.tenants := by
      rw [tenants_at, tenant]
      exact sh.db.notifications_tenant_id_fkey row member _ owner
    have stored : (proceed cfg msg world k (begin sh)).shared.db.hasNotification
        (dbNotificationToDomain row).id = true := by
      obtain ⟨now, present, named, _⟩ := holds
      exact List.any_eq_true.mpr ⟨now, present, by simp [named, same, dbNotificationToDomain]⟩
    -- one subscriber is enough to see the payload
    obtain ⟨p, s', done⟩ := WebhookService.dispatch_subscribed exit.event svc registered stored
    have told := honest k _ _ todo _ s' _ [p] here rfl done p List.mem_cons_self
    rw [← same] at holds
    exact (truth_iff holds done List.mem_cons_self).mp told
  · intro already k n event todo s s' calls published here core done p member
    obtain ⟨exit, reaches, rfl, holds⟩ := stored_at_dispatch persisted here
    obtain ⟨row, _, same, _, rfl⟩ := reaches.found
    rw [← core, ← same] at holds
    exact (truth_iff holds done member).mpr (already _ exit reaches)

/-- The same message once more, after a delivery. -/
def redelivered : Shared := (process plain envelope (fun _ => {}) queued).shared

def callbacks : WebhookService :=
  { maxAttempts := 5, rfc3339 := fun _ => "1970-01-01T00:00:00Z" }

/-- A second delivery finds the status as it leaves it. -/
theorem redelivery_payloads_true :
    PayloadsTrue callbacks plain envelope (fun _ => {}) redelivered := by
  have persisted : Persisted (process plain envelope (fun _ => {}) redelivered).calls := by
    decide +kernel
  refine (payloads_true_iff_already_there _ _ _ _ _ persisted).mpr ?_
  intro n exit reaches
  have stored : n.status = .delivered := by
    obtain ⟨row, member, _, _, rfl⟩ := reaches.found
    have all : ∀ row ∈ redelivered.db.notifications, row.status = .delivered := by decide +kernel
    exact all row member
  cases exit with
  | unwanted reason => simp [Reaches] at reaches
  | limited => simp [Reaches] at reaches
  | unrendered errMsg => simp [Reaches] at reaches
  | unregistered => simp [Reaches, plain] at reaches
  | tried j v =>
      cases v with
      | accepted => exact stored
      | permanent | exhausted | interrupted =>
          simp [Reaches, Retry.Loop.Ends, sendLoop] at reaches

/-- A queued notification is delivered. When Dispatch is called, delivered is stored, and
    the event is notification.delivered. -/
def atDispatch : Progress := proceed plain envelope (fun _ => {}) 8 (begin queued)

/-- The payload says queued. -/
theorem delivered_payload_names_queued :
    ∃ n todo s s' p,
      atDispatch.pc = .closing n (.dispatchWebhook webhookEventDelivered :: todo) ∧
      s.core = atDispatch.shared.db ∧ statusOf s.core n.id = some .delivered ∧
      callbacks.dispatch { each := fun _ => { id := 0 } } s n webhookEventDelivered =
        .ok ([p], s') ∧
      p.value.payload.lookup "status" = some (.str "queued") ∧
      Persisted (process plain envelope (fun _ => {}) queued).calls ∧
      ¬PayloadsTrue callbacks plain envelope (fun _ => {}) queued := by
  have handed : (Call.closing ⟨atDispatch.pc, {}⟩).map
      (fun c => (c.1.id, c.1.tenantID, c.1.status, c.2)) =
        some (0, acme, .queued, .dispatchWebhook webhookEventDelivered) := by
    decide +kernel
  have present : acme ∈ atDispatch.shared.db.tenants ∧
      atDispatch.shared.db.hasNotification 0 = true ∧
      statusOf atDispatch.shared.db 0 = some .delivered := by
    decide +kernel
  obtain ⟨⟨n, act⟩, closing, same⟩ := Option.map_eq_some_iff.mp handed
  simp only [Prod.mk.injEq] at same
  obtain ⟨id, tenant, status, rfl⟩ := same
  obtain ⟨todo, here⟩ := Call.pc_of_closing closing
  obtain ⟨p, s', done⟩ := WebhookService.dispatch_subscribed webhookEventDelivered callbacks
    (tenant ▸ present.1) (id ▸ present.2.1)
  have payload := (WebhookService.dispatch_publishes done List.mem_cons_self).2.2
  have told : p.value.payload.lookup "status" = some (.str "queued") := by
    rw [payload, lookup_status, status]
    rfl
  have delivered : statusOf atDispatch.shared.db n.id = some .delivered := by
    rw [id, present.2.2]
  refine ⟨n, todo, _, s', p, here, rfl, delivered, done, told, by decide +kernel, ?_⟩
  intro honest
  obtain ⟨_, named, _, event, claimed, _⟩ :=
    honest 8 n _ todo _ s' _ [p] here rfl done p List.mem_cons_self
  rw [(WebhookService.dispatch_publishes done List.mem_cons_self).2.1] at event
  obtain rfl : named = .delivered := (Option.some.inj event).symm
  rw [told] at claimed
  simp [NotificationStatus.text] at claimed

end NotifyHub.Pipeline
