import Mathlib.Data.List.Sort
import NotifyHub.Stores.Storage

/-! # `postgresWebhookRepo`

The statements of `queries/webhook.sql` and the operations over them, on
`webhook_endpoints` and `webhook_deliveries`. Deleting an endpoint deletes its deliveries.
-/

namespace NotifyHub

open Rows

structure WebhookEndpoint where
  id : UUID
  tenantID : UUID
  url : String
  secret : String
  events : Option (List String)
  isActive : Bool
  createdAt : Time
  updatedAt : Time
  deriving Repr, DecidableEq

/-- `WebhookDeliveryStatus`, of which a new delivery has the first. -/
inductive WebhookDeliveryStatus where
  | pending
  | delivered
  | failed
  deriving Repr, DecidableEq

def WebhookDeliveryStatus.text : WebhookDeliveryStatus → String
  | .pending => "pending"
  | .delivered => "delivered"
  | .failed => "failed"

/-- What CreateDelivery reads of a delivery. -/
structure WebhookDelivery where
  endpointID : UUID
  notificationID : Option UUID
  event : String
  payload : JSONMap
  status : WebhookDeliveryStatus
  attempt : Int
  nextRetryAt : Option Time
  deriving Repr, DecidableEq

/-- What UpdateDelivery reads of a delivery. -/
structure WebhookDeliveryUpdate where
  id : UUID
  status : WebhookDeliveryStatus
  attempt : Int
  nextRetryAt : Option Time := none
  lastError : Option String := none
  responseStatus : Option Int := none
  deriving Repr, DecidableEq

/-! ## Statements -/

def webhookEndpointRow (ep : WebhookEndpoint) (id : UUID) (now : Time) : WebhookEndpointRow :=
  { id := id
    tenantID := ep.tenantID
    url := ep.url
    secret := ep.secret
    events := ep.events
    isActive := ep.isActive
    createdAt := now
    updatedAt := now }

def insertWebhookEndpoint (s : Storage) (ep : WebhookEndpoint) (id : UUID) (now : Time) :
    Except SqlError (WebhookEndpointRow × Storage) :=
  let row := webhookEndpointRow ep id now
  if accepted : s.endpoints.Accepts row then
    .ok (row,
      { s with
        endpoints := s.endpoints.insert row accepted
        deliveries := s.deliveries.recheck (by
          intro d member
          have valid := s.deliveries.valid d member
          refine ⟨?_, valid.2⟩
          have kept : d.endpointID ∈ (s.endpoints.rows ++ [row]).map (·.id) := by
            rw [List.map_append]
            exact List.mem_append_left _ valid.1
          exact kept) })
  else .error (.rejected "constraint violation")

/-- `WHERE id = $1 AND tenant_id = $2`. -/
def endpointAt (id tenantID : UUID) (e : WebhookEndpointRow) : Bool :=
  e.id == id && e.tenantID == tenantID

def getWebhookEndpoint (rows : List WebhookEndpointRow) (id tenantID : UUID) :
    Except SqlError WebhookEndpointRow :=
  match rows.find? (endpointAt id tenantID) with
  | none => .error .noRows
  | some row => .ok row

/-- `WHERE tenant_id = $1 ORDER BY created_at DESC`. -/
def listWebhookEndpoints (rows : List WebhookEndpointRow) (tenantID : UUID) :
    List WebhookEndpointRow :=
  (rows.filter (·.tenantID == tenantID)).insertionSort fun a b => b.createdAt ≤ a.createdAt

/-- `SET url = $3, events = $4, is_active = $5, updated_at = now()`. -/
def rewriteEndpoint (db : Database) (ep : WebhookEndpoint) (now : Time) :
    Table.Change WebhookEndpointRow.id noKey (WebhookEndpointRow.Valid db) :=
  { set := fun e =>
      { e with url := ep.url, events := ep.events, isActive := ep.isActive, updatedAt := now }
    id := fun _ => rfl
    key := fun _ => rfl
    valid := fun _ valid => valid }

def updateWebhookEndpoint (s : Storage) (ep : WebhookEndpoint) (now : Time) :
    Except SqlError (WebhookEndpointRow × Storage) :=
  match s.endpoints.rows.find? (endpointAt ep.id ep.tenantID) with
  | none => .error .noRows
  | some row =>
      .ok ((rewriteEndpoint s.core ep now).set row,
        { s with
          endpoints := s.endpoints.update (endpointAt ep.id ep.tenantID)
            (rewriteEndpoint s.core ep now)
          deliveries := s.deliveries.recheck (by
            intro d member
            have valid := s.deliveries.valid d member
            refine ⟨?_, valid.2⟩
            have same : (updateWhere (endpointAt ep.id ep.tenantID)
                (rewriteEndpoint s.core ep now).set s.endpoints.rows).map (·.id) =
                s.endpoints.rows.map (·.id) := map_updateWhere (rewriteEndpoint s.core ep now).id
            exact same ▸ valid.1) })

/-- `ON DELETE CASCADE`: the deliveries of an endpoint that is deleted go with it. -/
def cascades (id tenantID : UUID) (endpoints : List WebhookEndpointRow) (d : WebhookDeliveryRow) :
    Bool :=
  d.endpointID == id && endpoints.any (endpointAt id tenantID)

/-- A delivery that stays has its endpoint still. -/
theorem endpoint_kept {endpoints : List WebhookEndpointRow} {id tenantID : UUID}
    {d : WebhookDeliveryRow} (stored : d.endpointID ∈ endpoints.map (·.id))
    (kept : cascades id tenantID endpoints d = false) :
    d.endpointID ∈ (endpoints.filter (!endpointAt id tenantID ·)).map (·.id) := by
  obtain ⟨e, member, same⟩ := List.mem_map.mp stored
  refine List.mem_map.mpr ⟨e, List.mem_filter.mpr ⟨member, ?_⟩, same⟩
  cases hit : endpointAt id tenantID e with
  | false => rfl
  | true =>
      have named : e.id = id := by
        simp only [endpointAt, Bool.and_eq_true, beq_iff_eq] at hit
        exact hit.1
      have found : endpoints.any (endpointAt id tenantID) = true :=
        List.any_eq_true.mpr ⟨e, member, hit⟩
      simp [cascades, found, ← same, named] at kept

def deleteWebhookEndpoint (s : Storage) (id tenantID : UUID) : Storage :=
  { s with
    endpoints := s.endpoints.remove (endpointAt id tenantID)
    deliveries := (s.deliveries.remove (cascades id tenantID s.endpoints.rows)).recheck (by
      intro d member
      obtain ⟨stored, kept⟩ := List.mem_filter.mp member
      have valid := s.deliveries.valid d stored
      exact ⟨endpoint_kept valid.1 (by simpa using kept), valid.2⟩) }

/-- `WHERE tenant_id = $1 AND is_active = TRUE AND events @> jsonb_build_array($2)`. -/
def activeForEvent (tenantID : UUID) (event : String) (e : WebhookEndpointRow) : Bool :=
  e.tenantID == tenantID && e.isActive && e.events.any (·.contains event)

def listActiveWebhookEndpointsForEvent (rows : List WebhookEndpointRow) (tenantID : UUID)
    (event : String) : List WebhookEndpointRow :=
  rows.filter (activeForEvent tenantID event)

instance (db : Database) (endpoints : List WebhookEndpointRow) :
    DecidablePred (WebhookDeliveryRow.Valid db endpoints) :=
  fun _ => inferInstanceAs (Decidable (_ ∧ _))

/-- The columns that are not in the statement are NULL. -/
def webhookDeliveryRow (d : WebhookDelivery) (id : UUID) (now : Time) : WebhookDeliveryRow :=
  { id := id
    endpointID := d.endpointID
    notificationID := d.notificationID
    event := d.event
    payload := d.payload
    status := d.status.text
    attempt := int32 d.attempt
    nextRetryAt := d.nextRetryAt
    lastError := none
    responseStatus := none
    createdAt := now
    updatedAt := now }

def insertWebhookDelivery (s : Storage) (d : WebhookDelivery) (id : UUID) (now : Time) :
    Except SqlError (WebhookDeliveryRow × Storage) :=
  match insertRow s.deliveries (webhookDeliveryRow d id now) with
  | .error e => .error e
  | .ok (row, deliveries) => .ok (row, { s with deliveries := deliveries })

/-- `SET status = $2, attempt = $3, next_retry_at = $4, last_error = $5, response_status = $6,
    updated_at = now()`; the numbers are narrowed to 32 bits. -/
def rewriteDelivery (db : Database) (endpoints : List WebhookEndpointRow)
    (d : WebhookDeliveryUpdate) (now : Time) :
    Table.Change WebhookDeliveryRow.id noKey (WebhookDeliveryRow.Valid db endpoints) :=
  { set := fun row =>
      { row with
        status := d.status.text
        attempt := int32 d.attempt
        nextRetryAt := d.nextRetryAt
        lastError := d.lastError
        responseStatus := d.responseStatus.map int32
        updatedAt := now }
    id := fun _ => rfl
    key := fun _ => rfl
    valid := fun _ valid => valid }

/-- `WHERE id = $1`, of whatever endpoint. -/
def updateWebhookDelivery (s : Storage) (d : WebhookDeliveryUpdate) (now : Time) :
    Except SqlError (WebhookDeliveryRow × Storage) :=
  match s.deliveries.rows.find? (·.id == d.id) with
  | none => .error .noRows
  | some row =>
      let change := rewriteDelivery s.core s.endpoints.rows d now
      .ok (change.set row, { s with deliveries := s.deliveries.update (·.id == d.id) change })

/-- Events that are JSON null are read as an empty list. -/
def dbWebhookEndpointToDomain (e : WebhookEndpointRow) : WebhookEndpoint :=
  { id := e.id
    tenantID := e.tenantID
    url := e.url
    secret := e.secret
    events := some (e.events.getD [])
    isActive := e.isActive
    createdAt := e.createdAt
    updatedAt := e.updatedAt }

/-! ## Repository operations -/

namespace WebhookRepository

def createEndpoint (conn : Conn) (s : Storage) (ep : WebhookEndpoint) (id : UUID) (now : Time) :
    Except AppError (WebhookEndpoint × Storage) :=
  match conn.exec (insertWebhookEndpoint s ep id now) with
  | .error _ => .error (newInternalError "insert webhook endpoint")
  | .ok (row, s') => .ok (dbWebhookEndpointToDomain row, s')

def getEndpoint (conn : Conn) (s : Storage) (tenantID id : UUID) :
    Except AppError WebhookEndpoint :=
  match conn.exec (getWebhookEndpoint s.endpoints.rows id tenantID) with
  | .error .noRows => .error (newNotFoundError "webhook endpoint not found")
  | .error _ => .error (newInternalError "get webhook endpoint")
  | .ok row => .ok (dbWebhookEndpointToDomain row)

def listEndpoints (conn : Conn) (s : Storage) (tenantID : UUID) :
    Except AppError (List WebhookEndpoint) :=
  match conn.exec (.ok (listWebhookEndpoints s.endpoints.rows tenantID)) with
  | .error _ => .error (newInternalError "list webhook endpoints")
  | .ok rows => .ok (rows.map dbWebhookEndpointToDomain)

def updateEndpoint (conn : Conn) (s : Storage) (ep : WebhookEndpoint) (now : Time) :
    Except AppError (WebhookEndpoint × Storage) :=
  match conn.exec (updateWebhookEndpoint s ep now) with
  | .error .noRows => .error (newNotFoundError "webhook endpoint not found")
  | .error _ => .error (newInternalError "update webhook endpoint")
  | .ok (row, s') => .ok (dbWebhookEndpointToDomain row, s')

def deleteEndpoint (conn : Conn) (s : Storage) (tenantID id : UUID) : Except AppError Storage :=
  match conn.exec (.ok (deleteWebhookEndpoint s id tenantID)) with
  | .error _ => .error (newInternalError "delete webhook endpoint")
  | .ok s' => .ok s'

def listActiveForEvent (conn : Conn) (s : Storage) (tenantID : UUID) (event : String) :
    Except AppError (List WebhookEndpoint) :=
  match conn.exec (.ok (listActiveWebhookEndpointsForEvent s.endpoints.rows tenantID event)) with
  | .error _ => .error (newInternalError "list active webhook endpoints")
  | .ok rows => .ok (rows.map dbWebhookEndpointToDomain)

/-- Of the delivery that comes back only the id is read. -/
def createDelivery (conn : Conn) (s : Storage) (d : WebhookDelivery) (id : UUID) (now : Time) :
    Except AppError (UUID × Storage) :=
  match conn.exec (insertWebhookDelivery s d id now) with
  | .error _ => .error (newInternalError "insert webhook delivery")
  | .ok (row, s') => .ok (row.id, s')

/-- A missing row is an internal error here, too. Nothing is read of the delivery that comes
    back. -/
def updateDelivery (conn : Conn) (s : Storage) (d : WebhookDeliveryUpdate) (now : Time) :
    Except AppError Storage :=
  match conn.exec (updateWebhookDelivery s d now) with
  | .error _ => .error (newInternalError "update webhook delivery")
  | .ok (_, s') => .ok s'

/-! ## What the operations do

One lemma for each write, in terms of the rows. -/

section Spec

variable {conn : Conn} {s s' : Storage} {ep saved : WebhookEndpoint} {tenantID id : UUID} {now : Time}

theorem createEndpoint_ok (created : createEndpoint conn s ep id now = .ok (saved, s')) :
    s'.core = s.core ∧ s'.endpoints.rows = s.endpoints.rows ++ [webhookEndpointRow ep id now] ∧
      s'.deliveries.rows = s.deliveries.rows := by
  cases conn with
  | down => simp [createEndpoint, Conn.exec] at created
  | up =>
      unfold createEndpoint Conn.exec insertWebhookEndpoint at created
      by_cases accepted : s.endpoints.Accepts (webhookEndpointRow ep id now)
      · simp only [dif_pos accepted, Except.ok.injEq, Prod.mk.injEq] at created
        obtain ⟨_, rfl⟩ := created
        exact ⟨rfl, rfl, rfl⟩
      · simp [dif_neg accepted] at created

theorem updateEndpoint_ok (updated : updateEndpoint conn s ep now = .ok (saved, s')) :
    s'.core = s.core ∧
      s'.endpoints.rows = updateWhere (endpointAt ep.id ep.tenantID)
        (rewriteEndpoint s.core ep now).set s.endpoints.rows ∧
      s'.deliveries.rows = s.deliveries.rows := by
  cases conn with
  | down => simp [updateEndpoint, Conn.exec] at updated
  | up =>
      simp only [updateEndpoint, Conn.exec, updateWebhookEndpoint] at updated
      cases found : s.endpoints.rows.find? (endpointAt ep.id ep.tenantID) with
      | none => simp [found] at updated
      | some row =>
          simp only [found, Except.ok.injEq, Prod.mk.injEq] at updated
          obtain ⟨_, rfl⟩ := updated
          exact ⟨rfl, rfl, rfl⟩

theorem deleteEndpoint_ok (deleted : deleteEndpoint conn s tenantID id = .ok s') :
    s' = deleteWebhookEndpoint s id tenantID := by
  cases conn with
  | down => simp [deleteEndpoint, Conn.exec] at deleted
  | up => exact (Except.ok.inj deleted).symm

theorem createDelivery_ok {d : WebhookDelivery} {deliveryID : UUID}
    (created : createDelivery conn s d id now = .ok (deliveryID, s')) :
    deliveryID = id ∧ s'.core = s.core ∧ s'.endpoints.rows = s.endpoints.rows ∧
      s'.deliveries.rows = s.deliveries.rows ++ [webhookDeliveryRow d id now] := by
  cases conn with
  | down => simp [createDelivery, Conn.exec] at created
  | up =>
      by_cases accepted : s.deliveries.Accepts (webhookDeliveryRow d id now)
      · simp only [createDelivery, Conn.exec, insertWebhookDelivery, insertRow, dif_pos accepted,
          Except.ok.injEq, Prod.mk.injEq] at created
        obtain ⟨rfl, rfl⟩ := created
        exact ⟨rfl, rfl, rfl, rfl⟩
      · simp [createDelivery, Conn.exec, insertWebhookDelivery, insertRow, dif_neg accepted] at created

/-- With the database reachable, the insert succeeds if and only if the constraints allow it. -/
theorem createDelivery_up {d : WebhookDelivery} :
    (∃ s', createDelivery .up s d id now = .ok (id, s')) ↔
      s.deliveries.Accepts (webhookDeliveryRow d id now) := by
  by_cases accepted : s.deliveries.Accepts (webhookDeliveryRow d id now)
  · simp only [createDelivery, Conn.exec, insertWebhookDelivery, insertRow, dif_pos accepted]
    exact iff_of_true ⟨_, rfl⟩ accepted
  · simp [createDelivery, Conn.exec, insertWebhookDelivery, insertRow, accepted]

theorem updateDelivery_ok {d : WebhookDeliveryUpdate}
    (updated : updateDelivery conn s d now = .ok s') :
    s'.core = s.core ∧ s'.endpoints.rows = s.endpoints.rows ∧
      s'.deliveries.rows = updateWhere (·.id == d.id)
        (rewriteDelivery s.core s.endpoints.rows d now).set s.deliveries.rows := by
  cases conn with
  | down => simp [updateDelivery, Conn.exec] at updated
  | up =>
      simp only [updateDelivery, Conn.exec, updateWebhookDelivery] at updated
      cases found : s.deliveries.rows.find? (·.id == d.id) with
      | none => simp [found] at updated
      | some row =>
          simp only [found, Except.ok.injEq] at updated
          subst updated
          exact ⟨rfl, rfl, rfl⟩

/-- With the database reachable, the update succeeds if and only if the delivery is stored. -/
theorem updateDelivery_up {d : WebhookDeliveryUpdate} :
    (∃ s', updateDelivery .up s d now = .ok s') ↔ d.id ∈ s.deliveries.rows.map (·.id) := by
  simp only [updateDelivery, Conn.exec, updateWebhookDelivery]
  cases found : s.deliveries.rows.find? (·.id == d.id) with
  | none =>
      simp only [List.find?_eq_none, beq_iff_eq] at found
      simpa using found
  | some row =>
      have same : row.id = d.id := by simpa using List.find?_some found
      exact iff_of_true ⟨_, rfl⟩ (List.mem_map.mpr ⟨row, List.mem_of_find?_eq_some found, same⟩)

end Spec

end WebhookRepository

end NotifyHub
