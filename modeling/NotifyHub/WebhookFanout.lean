import NotifyHub.WebhookService

/-! # One event for many endpoints

Dispatch goes through the endpoints one by one, on one storage. Each of them gets what its own
two calls allow: a delivery if the insert succeeds, and then a message if the publish does.
-/

namespace NotifyHub

open Rows

/-! ## The event lists -/

/-- A call that writes endpoints. -/
inductive EndpointCall where
  | create (conn : Conn) (tenantID : UUID) (req : CreateWebhookEndpointRequest) (id : UUID)
      (now : Time)
  | update (conn : Conn) (tenantID id : UUID) (req : UpdateWebhookEndpointRequest) (now : Time)
  | delete (conn : Conn) (tenantID id : UUID)

/-- The storage after a call, which is as before if the call fails. -/
def EndpointCall.perform (isURL : String → Bool) (s : Storage) : EndpointCall → Storage
  | .create conn tenantID req id now =>
      match WebhookService.create isURL conn s tenantID req id now with
      | .error _ => s
      | .ok (_, s') => s'
  | .update conn tenantID id req now =>
      match WebhookService.update isURL conn s tenantID id req now with
      | .error _ => s
      | .ok (_, s') => s'
  | .delete conn tenantID id =>
      match WebhookService.delete conn s tenantID id with
      | .error _ => s
      | .ok s' => s'

def registered (isURL : String → Bool) (core : Database) (calls : List EndpointCall) : Storage :=
  calls.foldl (EndpointCall.perform isURL) (.ofCore core)

/-- A call that, if it succeeds, stores the list. -/
def EndpointCall.Stores (events : Option (List String)) : EndpointCall → Prop
  | .create _ _ req _ _ => req.events = events
  | .update _ _ _ req _ => req.events = events
  | .delete .. => False

/-- A list of events that the service knows. -/
def KnownEvents (events : Option (List String)) : Prop :=
  ∃ list, events = some list ∧ list ≠ [] ∧ ∀ e ∈ list, e ∈ allWebhookEvents

/-- What a call can do to the storage. -/
inductive EndpointCall.Effect (s : Storage) : EndpointCall → Storage → Prop where
  | failed {call : EndpointCall} : Effect s call s
  | created {conn : Conn} {tenantID : UUID} {req : CreateWebhookEndpointRequest} {id : UUID}
      {now : Time} {s' : Storage} {row : WebhookEndpointRow} (known : KnownEvents req.events)
      (rows : s'.endpoints.rows = s.endpoints.rows ++ [row]) (named : row.id = id)
      (events : row.events = req.events) (deliveries : s'.deliveries.rows = s.deliveries.rows) :
      Effect s (.create conn tenantID req id now) s'
  | updated {conn : Conn} {tenantID id : UUID} {req : UpdateWebhookEndpointRequest} {now : Time}
      {s' : Storage} (known : KnownEvents req.events)
      (rows : ∀ row ∈ s'.endpoints.rows, row ∈ s.endpoints.rows ∨ row.events = req.events)
      (ids : s'.endpoints.rows.map (·.id) = s.endpoints.rows.map (·.id))
      (deliveries : s'.deliveries.rows = s.deliveries.rows) :
      Effect s (.update conn tenantID id req now) s'
  | deleted {conn : Conn} {tenantID id : UUID} :
      Effect s (.delete conn tenantID id) (deleteWebhookEndpoint s id tenantID)

namespace WebhookService

variable {isURL : String → Bool} {conn : Conn} {s s' : Storage} {tenantID id : UUID} {now : Time}

theorem knownEvents_of_valid {url : String} {events : Option (List String)}
    (target : validTarget isURL url events = true) (checked : validateEvents events = .ok ()) :
    KnownEvents events := by
  cases events with
  | none => simp [validTarget] at target
  | some list =>
      have some_ : list ≠ [] := by
        rintro rfl
        simp [validTarget] at target
      refine ⟨list, rfl, some_, fun e member => ?_⟩
      unfold validateEvents at checked
      split at checked
      · cases checked
      · rename_i found
        simpa using List.find?_eq_none.mp found e member

theorem create_effect {req : CreateWebhookEndpointRequest} {ep : WebhookEndpoint}
    (created : create isURL conn s tenantID req id now = .ok (ep, s')) :
    EndpointCall.Effect s (.create conn tenantID req id now) s' := by
  unfold create at created
  split at created
  · cases created
  · rename_i valid
    simp only [Bool.not_eq_true, Bool.not_eq_false', Bool.and_eq_true] at valid
    split at created
    · cases created
    · rename_i checked
      obtain ⟨_, rows, deliveries⟩ := WebhookRepository.createEndpoint_ok created
      exact .created (knownEvents_of_valid valid.1 checked) rows rfl rfl deliveries

theorem update_effect {req : UpdateWebhookEndpointRequest} {ep : WebhookEndpoint}
    (updated : update isURL conn s tenantID id req now = .ok (ep, s')) :
    EndpointCall.Effect s (.update conn tenantID id req now) s' := by
  unfold update at updated
  split at updated
  · cases updated
  · rename_i valid
    simp only [Bool.not_eq_true, Bool.not_eq_false'] at valid
    split at updated
    · cases updated
    · rename_i checked
      obtain ⟨_, rows, deliveries⟩ := WebhookRepository.updateEndpoint_ok updated
      refine .updated (knownEvents_of_valid valid checked) (fun row member => ?_) ?_ deliveries
      · rw [rows] at member
        obtain ⟨old, stored, rfl⟩ := mem_updateWhere.mp member
        split
        · exact .inr rfl
        · exact .inl stored
      · rw [rows]
        exact map_updateWhere fun _ => rfl

end WebhookService

namespace EndpointCall

variable {isURL : String → Bool} {s s' : Storage} {call : EndpointCall}

theorem perform_effect (isURL : String → Bool) (s : Storage) (call : EndpointCall) :
    Effect s call (call.perform isURL s) := by
  cases call with
  | create conn tenantID req id now =>
      simp only [perform]
      split
      · exact .failed
      · rename_i created
        exact WebhookService.create_effect created
  | update conn tenantID id req now =>
      simp only [perform]
      split
      · exact .failed
      · rename_i updated
        exact WebhookService.update_effect updated
  | delete conn tenantID id =>
      simp only [perform]
      split
      · exact .failed
      · rename_i deleted
        obtain rfl := WebhookRepository.deleteEndpoint_ok deleted
        exact .deleted

/-- A call leaves the lists alone, or it stores the one that it was given and that it checked. -/
theorem Effect.events (effect : Effect s call s') :
    ∀ row ∈ s'.endpoints.rows,
      row ∈ s.endpoints.rows ∨ KnownEvents row.events ∧ call.Stores row.events := by
  intro row member
  cases effect with
  | failed => exact .inl member
  | created known rows named events deliveries =>
      rw [rows] at member
      rcases List.mem_append.mp member with old | new
      · exact .inl old
      · obtain rfl := List.mem_singleton.mp new
        exact .inr ⟨events ▸ known, events.symm⟩
  | updated known rows ids deliveries =>
      rcases rows row member with old | new
      · exact .inl old
      · exact .inr ⟨new ▸ known, new.symm⟩
  | deleted => exact .inl (List.mem_filter.mp member).1

end EndpointCall

/-- Whatever calls were made, every stored list is one that a call was given, and it names known
    events only. -/
theorem registered_events (isURL : String → Bool) (core : Database) (calls : List EndpointCall) :
    ∀ row ∈ (registered isURL core calls).endpoints.rows,
      KnownEvents row.events ∧ ∃ call ∈ calls, call.Stores row.events := by
  have after : ∀ s : Storage, ∀ row ∈ (calls.foldl (EndpointCall.perform isURL) s).endpoints.rows,
      row ∈ s.endpoints.rows ∨ KnownEvents row.events ∧ ∃ call ∈ calls, call.Stores row.events := by
    induction calls with
    | nil => exact fun s row member => .inl member
    | cons call rest ih =>
        intro s row member
        rcases ih _ row member with earlier | ⟨known, later, inRest, stores⟩
        · exact ((call.perform_effect isURL s).events row earlier).imp_right
            fun ⟨known, stores⟩ => ⟨known, call, List.mem_cons_self, stores⟩
        · exact .inr ⟨known, later, List.mem_cons_of_mem _ inRest, stores⟩
  intro row member
  rcases after (.ofCore core) row member with initial | stored
  · simp [Storage.ofCore, Table.empty] at initial
  · exact stored

/-! ## Shares -/

/-- What one endpoint gets. -/
structure Share where
  delivery : Option WebhookDeliveryRow
  message : Option (Publication WebhookMessage)

namespace WebhookService

/-- The insert of the delivery succeeds: the database is reachable and has the notification. -/
def Created (core : Database) (n : Notification) (own : EndpointCalls) : Prop :=
  own.insert = .up ∧ core.hasNotification n.id = true

instance (core : Database) (n : Notification) (own : EndpointCalls) :
    Decidable (Created core n own) :=
  inferInstanceAs (Decidable (_ ∧ _))

/-- What an endpoint gets from its own calls: a delivery if the insert succeeds, and a message for
    it if the publish does as well. -/
def share (svc : WebhookService) (core : Database) (n : Notification) (event : String)
    (payload : JSONMap) (own : EndpointCalls) (ep : WebhookEndpoint) : Share :=
  { delivery :=
      if Created core n own then
        some (webhookDeliveryRow (newDelivery n event payload ep) own.id own.insertedAt)
      else none
    message :=
      if Created core n own ∧ own.broker = none then
        some (svc.publication n event payload ep own.id own.enqueuedAt)
      else none }

/-- The ids that the database generates are new. -/
def NewIDs (each : Nat → EndpointCalls) (indices : List Nat) (s : Storage) : Prop :=
  (indices.map fun k => (each k).id).Nodup ∧
    ∀ k ∈ indices, (each k).id ∉ s.deliveries.rows.map (·.id)

/-- The share as the receiver sees it: the message goes where the endpoint is, is signed with its
    secret and names the delivery that was stored for it. -/
structure Fits (core : Database) (n : Notification) (own : EndpointCalls)
    (e : WebhookEndpointRow) (got : Share) : Prop where
  pending : ∀ d ∈ got.delivery, d.endpointID = e.id ∧ d.status = "pending"
  addressed : ∀ p ∈ got.message, p.value.endpointID = e.id ∧ p.value.endpointURL = e.url ∧
    p.value.secret = e.secret ∧ ∃ d ∈ got.delivery, p.value.deliveryID = d.id
  created : got.delivery.isSome ↔ Created core n own
  sent : got.message.isSome ↔ Created core n own ∧ own.broker = none

section Fanout

variable {svc : WebhookService} {n : Notification} {event : String} {payload : JSONMap}
  {each : Nat → EndpointCalls} {s : Storage} {i : Nat} {ep : WebhookEndpoint}
  {endpoints : List WebhookEndpoint}

theorem createDelivery_error {own : EndpointCalls} (failed : ¬Created s.core n own) :
    ∃ e, WebhookRepository.createDelivery own.insert s (newDelivery n event payload ep) own.id
      own.insertedAt = .error e := by
  cases result : WebhookRepository.createDelivery own.insert s (newDelivery n event payload ep) own.id
      own.insertedAt with
  | error e => exact ⟨e, rfl⟩
  | ok answer =>
      obtain ⟨deliveryID, s'⟩ := answer
      obtain rfl := (WebhookRepository.createDelivery_ok result).1
      cases conn : own.insert with
      | down => simp [conn, WebhookRepository.createDelivery, Conn.exec] at result
      | up =>
          rw [conn] at result
          have accepted := WebhookRepository.createDelivery_up.mp ⟨s', result⟩
          exact absurd ⟨conn, accepted.2.2.2 n.id rfl⟩ failed

theorem createDelivery_created {own : EndpointCalls} (created : Created s.core n own)
    (known : ep.id ∈ s.endpoints.rows.map (·.id)) (fresh : own.id ∉ s.deliveries.rows.map (·.id)) :
    ∃ s', WebhookRepository.createDelivery own.insert s (newDelivery n event payload ep) own.id
      own.insertedAt = .ok (own.id, s') := by
  rw [created.1]
  refine WebhookRepository.createDelivery_up.mpr ⟨fresh, by simp [noKey], known, ?_⟩
  rintro _ ⟨⟩
  exact created.2

theorem NewIDs.rest {more : Nat} (fresh : NewIDs each (List.range' i (more + 1)) s) :
    NewIDs each (List.range' (i + 1) more) s := by
  obtain ⟨distinct, unused⟩ := fresh
  rw [List.range'_succ] at distinct unused
  exact ⟨(List.nodup_cons.mp distinct).2, fun k later => unused k (List.mem_cons_of_mem _ later)⟩

theorem NewIDs.stored {s' : Storage} {row : WebhookDeliveryRow} {more : Nat}
    (fresh : NewIDs each (List.range' i (more + 1)) s) (same : row.id = (each i).id)
    (rows : s'.deliveries.rows = s.deliveries.rows ++ [row]) :
    NewIDs each (List.range' (i + 1) more) s' := by
  obtain ⟨distinct, unused⟩ := fresh
  rw [List.range'_succ] at distinct unused
  obtain ⟨own, others⟩ := List.nodup_cons.mp distinct
  refine ⟨others, fun k later => ?_⟩
  rw [rows, List.map_append, List.mem_append, List.map_singleton, List.mem_singleton, same]
  rintro (old | new)
  · exact unused k (List.mem_cons_of_mem _ later) old
  · exact own (List.mem_map.mpr ⟨k, later, new⟩)

theorem dispatchTo_failed {e : AppError}
    (failed : WebhookRepository.createDelivery (each i).insert s (newDelivery n event payload ep)
      (each i).id (each i).insertedAt = .error e) :
    dispatchTo svc each n event payload i (ep :: endpoints) s =
      dispatchTo svc each n event payload (i + 1) endpoints s := by
  simp only [dispatchTo, failed]

theorem dispatchTo_inserted {s' : Storage}
    (inserted : WebhookRepository.createDelivery (each i).insert s (newDelivery n event payload ep)
      (each i).id (each i).insertedAt = .ok ((each i).id, s')) :
    dispatchTo svc each n event payload i (ep :: endpoints) s =
      ((if (each i).broker = none then
          [svc.publication n event payload ep (each i).id (each i).enqueuedAt]
        else []) ++ (dispatchTo svc each n event payload (i + 1) endpoints s').1,
        (dispatchTo svc each n event payload (i + 1) endpoints s').2) := by
  simp only [dispatchTo, inserted]
  cases (each i).broker <;> simp

/-- The loop gives each endpoint its share. -/
theorem dispatchTo_shares (svc : WebhookService) {core : Database} (same : s.core = core)
    (known : ∀ ep ∈ endpoints, ep.id ∈ s.endpoints.rows.map (·.id))
    (fresh : NewIDs each (List.range' i endpoints.length) s) :
    (dispatchTo svc each n event payload i endpoints s).1 =
        (endpoints.zipIdx i).filterMap
          (fun p => (share svc core n event payload (each p.2) p.1).message) ∧
      (dispatchTo svc each n event payload i endpoints s).2.deliveries.rows =
        s.deliveries.rows ++ (endpoints.zipIdx i).filterMap
          (fun p => (share svc core n event payload (each p.2) p.1).delivery) := by
  induction endpoints generalizing i s with
  | nil => simp [dispatchTo]
  | cons ep rest ih =>
      have here := known ep List.mem_cons_self
      have knownRest : ∀ other ∈ rest, other.id ∈ s.endpoints.rows.map (·.id) :=
        fun other member => known other (List.mem_cons_of_mem _ member)
      rw [List.zipIdx_cons, List.filterMap_cons, List.filterMap_cons]
      by_cases created : Created core n (each i)
      · have unused : (each i).id ∉ s.deliveries.rows.map (·.id) :=
          fresh.2 i (by simp [List.range'_succ])
        obtain ⟨s', inserted⟩ : ∃ s', WebhookRepository.createDelivery (each i).insert s
            (newDelivery n event payload ep) (each i).id (each i).insertedAt =
              .ok ((each i).id, s') := createDelivery_created (same.symm ▸ created) here unused
        obtain ⟨_, core', endpoints, rows⟩ := WebhookRepository.createDelivery_ok inserted
        obtain ⟨messages, deliveries⟩ :=
          ih (core'.trans same) (endpoints.symm ▸ knownRest) (fresh.stored rfl rows)
        rw [dispatchTo_inserted inserted, messages, deliveries, rows]
        by_cases sent : (each i).broker = none
        · simp [share, created, sent]
        · simp [share, created, sent]
      · obtain ⟨e, failed⟩ : ∃ e, WebhookRepository.createDelivery (each i).insert s
            (newDelivery n event payload ep) (each i).id (each i).insertedAt = .error e :=
          createDelivery_error (same.symm ▸ created)
        obtain ⟨messages, deliveries⟩ := ih same knownRest fresh.rest
        rw [dispatchTo_failed failed, messages, deliveries]
        simp [share, created]

/-! ## Dispatch -/

theorem mem_share_delivery {core : Database} {own : EndpointCalls} {d : WebhookDeliveryRow} :
    d ∈ (share svc core n event payload own ep).delivery ↔
      Created core n own ∧
        webhookDeliveryRow (newDelivery n event payload ep) own.id own.insertedAt = d := by
  simp [share]

theorem mem_share_message {core : Database} {own : EndpointCalls} {p : Publication WebhookMessage} :
    p ∈ (share svc core n event payload own ep).message ↔
      (Created core n own ∧ own.broker = none) ∧
        svc.publication n event payload ep own.id own.enqueuedAt = p := by
  simp [share]

theorem share_fits (core : Database) (own : EndpointCalls) (e : WebhookEndpointRow) :
    Fits core n own e (share svc core n event payload own (dbWebhookEndpointToDomain e)) where
  pending := by
    intro d stored
    obtain ⟨_, rfl⟩ := mem_share_delivery.mp stored
    exact ⟨rfl, rfl⟩
  addressed := by
    intro p sent
    obtain ⟨⟨created, _⟩, rfl⟩ := mem_share_message.mp sent
    exact ⟨rfl, rfl, rfl, _, mem_share_delivery.mpr ⟨created, rfl⟩, rfl⟩
  created := by simp [share]
  sent := by simp [share]

section Keyed

variable {core : Database} {rows : List WebhookEndpointRow}

theorem zipIdx_ids (rows : List WebhookEndpointRow) :
    ((rows.map dbWebhookEndpointToDomain).zipIdx).map (fun p => p.1.id) = rows.map (·.id) := by
  rw [← Function.comp_def, ← List.map_map, List.zipIdx_map_fst, List.map_map]
  rfl

/-- The rows and messages of an endpoint are told from the others by its id. -/
theorem shares_apart {e : WebhookEndpointRow} (nodup : (rows.map (·.id)).Nodup)
    (listed : rows[i]? = some e) :
    (((rows.map dbWebhookEndpointToDomain).zipIdx).filterMap
        (fun p => (share svc core n event payload (each p.2) p.1).delivery)).filter
          (fun d => d.endpointID == e.id) =
        (share svc core n event payload (each i) (dbWebhookEndpointToDomain e)).delivery.toList ∧
      (((rows.map dbWebhookEndpointToDomain).zipIdx).filterMap
        (fun p => (share svc core n event payload (each p.2) p.1).message)).filter
          (fun p => p.value.endpointID == e.id) =
        (share svc core n event payload (each i) (dbWebhookEndpointToDomain e)).message.toList := by
  rw [← zipIdx_ids] at nodup
  have member : (dbWebhookEndpointToDomain e, i) ∈ (rows.map dbWebhookEndpointToDomain).zipIdx := by
    rw [List.mk_mem_zipIdx_iff_getElem?, List.getElem?_map, listed]
    rfl
  constructor
  · refine filter_filterMap_key ?_ nodup member
    intro p d stored
    obtain ⟨_, rfl⟩ := mem_share_delivery.mp stored
    rfl
  · refine filter_filterMap_key ?_ nodup member
    intro p message sent
    obtain ⟨_, rfl⟩ := mem_share_message.mp sent
    rfl

theorem id_of_mem_zipIdx {p : WebhookEndpoint × Nat}
    (member : p ∈ (rows.map dbWebhookEndpointToDomain).zipIdx) : ∃ e ∈ rows, p.1.id = e.id := by
  have inIDs : p.1.id ∈ rows.map (·.id) := zipIdx_ids rows ▸ List.mem_map_of_mem member
  obtain ⟨e, inRows, same⟩ := List.mem_map.mp inIDs
  exact ⟨e, inRows, same.symm⟩

end Keyed

/-- The endpoints that dispatch looks up. -/
def subscribers (s : Storage) (n : Notification) (event : String) : List WebhookEndpointRow :=
  listActiveWebhookEndpointsForEvent s.endpoints.rows n.tenantID event

theorem mem_subscribers {e : WebhookEndpointRow} :
    e ∈ subscribers s n event ↔
      e ∈ s.endpoints.rows ∧ e.tenantID = n.tenantID ∧ e.isActive = true ∧
        ∃ list, e.events = some list ∧ event ∈ list := by
  cases events : e.events <;>
    simp [subscribers, listActiveWebhookEndpointsForEvent, activeForEvent, events, and_assoc]

theorem dispatch_found {calls : DispatchCalls} (found : calls.list = .up) :
    svc.dispatch calls s n event = .ok (dispatchTo svc calls.each n event
      (svc.buildEventPayload n event calls.builtAt) 0
      ((subscribers s n event).map dbWebhookEndpointToDomain) s) := by
  simp only [dispatch, WebhookRepository.listActiveForEvent, found, Conn.exec, subscribers]

/-- Every subscriber gets its share, which its own calls determine, and nobody else gets
    anything. The endpoints that `create` and `update` stored subscribe to events that were
    checked. -/
theorem dispatch_shares (svc : WebhookService) (calls : DispatchCalls) (s : Storage)
    (n : Notification) (event : String) (found : calls.list = .up)
    (fresh : NewIDs calls.each (List.range (subscribers s n event).length) s) :
    ∃ published s' added,
      svc.dispatch calls s n event = .ok (published, s') ∧
      s'.deliveries.rows = s.deliveries.rows ++ added ∧
      (∀ i e, (subscribers s n event)[i]? = some e → ∃ got : Share,
        got = share svc s.core n event (svc.buildEventPayload n event calls.builtAt)
          (calls.each i) (dbWebhookEndpointToDomain e) ∧
        Fits s.core n (calls.each i) e got ∧
        added.filter (·.endpointID == e.id) = got.delivery.toList ∧
        published.filter (·.value.endpointID == e.id) = got.message.toList) ∧
      (∀ d ∈ added, ∃ e ∈ subscribers s n event, d.endpointID = e.id) ∧
      (∀ p ∈ published, ∃ e ∈ subscribers s n event, p.value.endpointID = e.id) ∧
      (∀ e, e ∈ subscribers s n event ↔
        e ∈ s.endpoints.rows ∧ e.tenantID = n.tenantID ∧ e.isActive = true ∧
          ∃ list, e.events = some list ∧ event ∈ list) ∧
      ∀ isURL core writes, s.endpoints.rows = (registered isURL core writes).endpoints.rows →
        ∀ e ∈ s.endpoints.rows,
          KnownEvents e.events ∧ ∃ call ∈ writes, call.Stores e.events := by
  have ids : ((subscribers s n event).map (·.id)).Nodup :=
    uniqueOn_some.mp (s.endpoints.pkey.filter _)
  have known : ∀ ep ∈ (subscribers s n event).map dbWebhookEndpointToDomain,
      ep.id ∈ s.endpoints.rows.map (·.id) := by
    intro ep listed
    obtain ⟨e, member, rfl⟩ := List.mem_map.mp listed
    exact List.mem_map.mpr ⟨e, (mem_subscribers.mp member).1, rfl⟩
  rw [List.range_eq_range', ← List.length_map dbWebhookEndpointToDomain] at fresh
  obtain ⟨messages, deliveries⟩ := dispatchTo_shares svc (n := n) rfl known fresh
  refine ⟨_, _, _, dispatch_found found, deliveries, fun i e listed => ?_, fun d stored => ?_,
    fun p sent => ?_, fun e => mem_subscribers, fun isURL core writes same e stored => ?_⟩
  · obtain ⟨rows, sent⟩ := shares_apart ids listed
    exact ⟨_, rfl, share_fits s.core (calls.each i) e, rows, messages ▸ sent⟩
  · obtain ⟨q, member, given⟩ := List.mem_filterMap.mp stored
    obtain ⟨_, rfl⟩ := mem_share_delivery.mp given
    exact id_of_mem_zipIdx member
  · rw [messages] at sent
    obtain ⟨q, member, given⟩ := List.mem_filterMap.mp sent
    obtain ⟨_, rfl⟩ := mem_share_message.mp given
    exact id_of_mem_zipIdx member
  · exact registered_events isURL core writes e (same ▸ stored)

end Fanout

/-! ## Two subscribers -/

def receipt : Notification :=
  { id := 3
    tenantID := 7
    idempotencyKey := none
    type := "receipt"
    channel := .email
    recipientID := "alice"
    recipientAddress := "alice@shop"
    templateID := none
    payload := []
    priority := 5
    status := .delivered
    scheduledAt := none
    createdAt := 0
    updatedAt := 0 }

/-- The tenant with that notification. -/
def receiptStored : Database :=
  (Database.ofTenants [receipt.tenantID]).addNotification
    { id := receipt.id
      tenantID := some receipt.tenantID
      idempotencyKey := none
      type := receipt.type
      channel := receipt.channel
      recipientID := receipt.recipientID
      recipientAddress := some receipt.recipientAddress
      templateID := none
      payload := []
      priority := 5
      status := receipt.status
      scheduledAt := none
      createdAt := 0
      updatedAt := 0 } (by decide)

def subscribe (url secret : String) (id : UUID) : EndpointCall :=
  .create .up receipt.tenantID
    { url := url, secret := secret, events := some ["notification.delivered"] } id 0

/-- Both endpoints are registered for the event. -/
def twoEndpoints : Storage :=
  registered (fun _ => true) receiptStored
    [subscribe "a.shop" "0123456789abcdef" 1, subscribe "b.shop" "fedcba9876543210" 2]

/-- The publish for the first endpoint fails. -/
def firstUnpublished : DispatchCalls :=
  { each := fun i =>
      { id := BitVec.ofNat 128 (10 + i), broker := if i = 0 then some "no leader" else none } }

/-- The second endpoint still gets its message. -/
theorem dispatch_firstUnpublished :
    NewIDs firstUnpublished.each
        (List.range (subscribers twoEndpoints receipt "notification.delivered").length)
        twoEndpoints ∧
      ∃ published s',
        dispatch { maxAttempts := 3, rfc3339 := fun _ => "" } firstUnpublished twoEndpoints receipt
          "notification.delivered" = .ok (published, s') ∧
        published.filter (·.value.endpointID == 1) = [] ∧
        (published.filter (·.value.endpointID == 2)).map (·.value.secret) =
          ["fedcba9876543210"] := by
  have fresh : NewIDs firstUnpublished.each
      (List.range (subscribers twoEndpoints receipt "notification.delivered").length)
      twoEndpoints := by
    unfold NewIDs
    decide +kernel
  obtain ⟨published, s', _, done, _, served, _⟩ := dispatch_shares
    { maxAttempts := 3, rfc3339 := fun _ => "" } firstUnpublished twoEndpoints receipt
    "notification.delivered" rfl fresh
  obtain ⟨got, rfl, _, _, first⟩ := served 0 _ rfl
  obtain ⟨got, rfl, _, _, second⟩ := served 1 _ rfl
  have stored : twoEndpoints.core.hasNotification receipt.id = true := by decide +kernel
  refine ⟨fresh, published, s', done, first.trans ?_, ?_⟩
  · simp [share, firstUnpublished]
  · refine (congrArg _ second).trans ?_
    simp [share, firstUnpublished, Created, stored, publication, dbWebhookEndpointToDomain,
      webhookEndpointRow]

end WebhookService

end NotifyHub
