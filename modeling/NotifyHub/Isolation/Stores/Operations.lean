import NotifyHub.Stores.DeadLetterRepository
import NotifyHub.Stores.DeviceTokenRepository
import NotifyHub.Stores.InAppRepository
import NotifyHub.Stores.PreferenceRepository
import NotifyHub.Stores.WebhookRepository

/-! # The other stores: the operations, and what is whose

The five repositories filter all their statements by `tenant_id`, and their UNIQUE
constraints include it. An operation is described by what it does to the rows of one
table; if that reads and writes the tenant's rows only, it is isolated.
-/

namespace NotifyHub.Isolation.Stores

open Rows
open Observer (Isolated)

/-! ## What is the tenant's -/

/-- The tables with a `tenant_id`. -/
inductive TableName where
  | preferences
  | inapp
  | deviceTokens
  | deadLetters
  | endpoints
  deriving Repr, DecidableEq

abbrev TableName.Row : TableName → Type
  | .preferences => PreferenceRow
  | .inapp => InAppRow
  | .deviceTokens => DeviceTokenRow
  | .deadLetters => DeadLetterRow
  | .endpoints => WebhookEndpointRow

def rows (s : Storage) : (t : TableName) → List t.Row
  | .preferences => s.preferences.rows
  | .inapp => s.inapp.rows
  | .deviceTokens => s.deviceTokens.rows
  | .deadLetters => s.deadLetters.rows
  | .endpoints => s.endpoints.rows

def owns (tenantID : UUID) : (t : TableName) → t.Row → Bool
  | .preferences, p => p.tenantID == some tenantID
  | .inapp, m => m.tenantID == tenantID
  | .deviceTokens, d => d.tenantID == tenantID
  | .deadLetters, m => m.tenantID == tenantID
  | .endpoints, e => e.tenantID == tenantID

/-- A delivery is its endpoint's owner's. -/
def ownsDelivery (tenantID : UUID) (endpoints : List WebhookEndpointRow) (d : WebhookDeliveryRow) :
    Bool :=
  endpoints.any fun e => e.tenantID == tenantID && e.id == d.endpointID

/-- The tenant's rows and its registration. -/
@[ext]
structure View where
  rows : (t : TableName) → List t.Row
  deliveries : List WebhookDeliveryRow
  notifications : List NotificationRow
  registered : Bool

def view (tenantID : UUID) (s : Storage) : View :=
  { rows := fun t => (rows s t).filter (owns tenantID t)
    deliveries := s.deliveries.rows.filter (ownsDelivery tenantID s.endpoints.rows)
    notifications := s.core.notifications.filter (Database.ownNotification tenantID)
    registered := decide (tenantID ∈ s.core.tenants) }

/-- Everyone else's rows, and the core tables. -/
@[ext]
structure Rest where
  rows : (t : TableName) → List t.Row
  deliveries : List WebhookDeliveryRow
  core : Database

def rest (tenantID : UUID) (s : Storage) : Rest :=
  { rows := fun t => (rows s t).filter (!owns tenantID t ·)
    deliveries := s.deliveries.rows.filter (!ownsDelivery tenantID s.endpoints.rows ·)
    core := s.core }

/-! ## The operations -/

inductive Op where
  | getPreference (conn : Conn) (userID : String) (channel : Channel)
  | listPreferences (conn : Conn) (userID : String)
  | upsertPreference (conn : Conn) (userID : String) (channel : Channel)
      (req : UpsertPreferenceRequest) (id : UUID) (now : Time)
  | deletePreference (conn : Conn) (userID : String) (channel : Channel)
  | insertInApp (conn : Conn) (msg : InAppMessage) (id : UUID) (now : Time)
  | getInApp (conn : Conn) (id : UUID)
  | listInApp (conn cursorConn : Conn) (q : InboxQuery)
  | listInAppSince (conn cursorConn : Conn) (recipientID : String) (sinceID : UUID)
  | countUnread (conn : Conn) (recipientID : String)
  | markRead (conn : Conn) (id : UUID) (recipientID : String) (now : Time)
  | markAllRead (conn : Conn) (recipientID : String) (now : Time)
  | upsertToken (conn : Conn) (req : RegisterDeviceTokenRequest) (id : UUID) (now : Time)
  | deactivateToken (conn : Conn) (token : String) (now : Time)
  | listTokens (conn : Conn) (userID : String)
  | createDeadLetter (conn : Conn) (msg : DeadLetterMessage) (id : UUID) (now : Time)
  | getDeadLetter (conn : Conn) (id : UUID)
  | listDeadLetters (conn : Conn) (params : DeadLetterListParams)
  | markReplayed (conn : Conn) (id : UUID) (now : Time)
  | deleteDeadLetter (conn : Conn) (id : UUID)
  | countDeadLetters (conn : Conn)
  | createEndpoint (conn : Conn) (ep : WebhookEndpoint) (id : UUID) (now : Time)
  | getEndpoint (conn : Conn) (id : UUID)
  | listEndpoints (conn : Conn)
  | updateEndpoint (conn : Conn) (ep : WebhookEndpoint) (now : Time)
  | deleteEndpoint (conn : Conn) (id : UUID)
  | listEndpointsForEvent (conn : Conn) (event : String)

inductive Outcome where
  | preference (result : Except AppError Preference)
  | preferences (result : Except AppError (List Preference))
  | message (result : Except Err InAppMessage)
  | messages (result : Except Err (List InAppMessage))
  | count (result : Except Err Nat)
  | token (result : Except Err DeviceToken)
  | tokens (result : Except Err (List DeviceToken))
  | deadLetter (result : Except Err DeadLetterMessage)
  | deadLetters (result : Except Err (List DeadLetterMessage))
  | counts (result : Except Err (List (String × Nat)))
  | endpoint (result : Except AppError WebhookEndpoint)
  | endpoints (result : Except AppError (List WebhookEndpoint))
  | done (result : Except Err Unit)
  | appDone (result : Except AppError Unit)
  deriving DecidableEq

/-- A write that fails leaves the storage as it was. -/
def written {ε α : Type} (answer : Except ε α → Outcome) (s : Storage) :
    Except ε (α × Storage) → Outcome × Storage
  | .error e => (answer (.error e), s)
  | .ok (a, s') => (answer (.ok a), s')

def finished {ε : Type} (answer : Except ε Unit → Outcome) (s : Storage) :
    Except ε Storage → Outcome × Storage
  | .error e => (answer (.error e), s)
  | .ok s' => (answer (.ok ()), s')

def Op.exec (tenantID : UUID) : Op → Storage → Outcome × Storage
  | .getPreference conn userID channel, s =>
      (.preference (PreferenceRepository.get conn s tenantID userID channel), s)
  | .listPreferences conn userID, s =>
      (.preferences (PreferenceRepository.listByUser conn s tenantID userID), s)
  | .upsertPreference conn userID channel req id now, s =>
      written .preference s
        (PreferenceRepository.upsert conn s tenantID userID channel req id now)
  | .deletePreference conn userID channel, s =>
      finished .appDone s (PreferenceRepository.delete conn s tenantID userID channel)
  | .insertInApp conn msg id now, s =>
      written .message s (InAppRepository.insert conn s { msg with tenantID := tenantID } id now)
  | .getInApp conn id, s => (.message (InAppRepository.getByID conn s tenantID id), s)
  | .listInApp conn cursorConn q, s =>
      (.messages (InAppRepository.list conn cursorConn s { q with tenantID := tenantID }), s)
  | .listInAppSince conn cursorConn recipientID sinceID, s =>
      (.messages (InAppRepository.listSince conn cursorConn s tenantID recipientID sinceID), s)
  | .countUnread conn recipientID, s =>
      (.count (InAppRepository.countUnread conn s tenantID recipientID), s)
  | .markRead conn id recipientID now, s =>
      finished .done s (InAppRepository.markRead conn s tenantID id recipientID now)
  | .markAllRead conn recipientID now, s =>
      finished .done s (InAppRepository.markAllRead conn s tenantID recipientID now)
  | .upsertToken conn req id now, s =>
      written .token s (DeviceTokenRepository.upsert conn s tenantID req id now)
  | .deactivateToken conn token now, s =>
      finished .done s (DeviceTokenRepository.deactivate conn s tenantID token now)
  | .listTokens conn userID, s =>
      (.tokens (DeviceTokenRepository.listActiveByUser conn s tenantID userID), s)
  | .createDeadLetter conn msg id now, s =>
      written .deadLetter s
        (DeadLetterRepository.create conn s { msg with tenantID := tenantID } id now)
  | .getDeadLetter conn id, s => (.deadLetter (DeadLetterRepository.getByID conn s tenantID id), s)
  | .listDeadLetters conn params, s =>
      (.deadLetters (DeadLetterRepository.list conn s { params with tenantID := tenantID }), s)
  | .markReplayed conn id now, s =>
      finished .done s (DeadLetterRepository.markReplayed conn s tenantID id now)
  | .deleteDeadLetter conn id, s =>
      finished .done s (DeadLetterRepository.delete conn s tenantID id)
  | .countDeadLetters conn, s => (.counts (DeadLetterRepository.countByChannel conn s tenantID), s)
  | .createEndpoint conn ep id now, s =>
      written .endpoint s
        (WebhookRepository.createEndpoint conn s { ep with tenantID := tenantID } id now)
  | .getEndpoint conn id, s => (.endpoint (WebhookRepository.getEndpoint conn s tenantID id), s)
  | .listEndpoints conn, s => (.endpoints (WebhookRepository.listEndpoints conn s tenantID), s)
  | .updateEndpoint conn ep now, s =>
      written .endpoint s
        (WebhookRepository.updateEndpoint conn s { ep with tenantID := tenantID } now)
  | .deleteEndpoint conn id, s =>
      finished .appDone s (WebhookRepository.deleteEndpoint conn s tenantID id)
  | .listEndpointsForEvent conn event, s =>
      (.endpoints (WebhookRepository.listActiveForEvent conn s tenantID event), s)

/-- The id an insert gets is new. -/
def Op.Fresh (s : Storage) : Op → Prop
  | .upsertPreference _ _ _ _ id _ => id ∉ s.preferences.rows.map (·.id)
  | .insertInApp _ _ id _ => id ∉ s.inapp.rows.map (·.id)
  | .upsertToken _ _ id _ => id ∉ s.deviceTokens.rows.map (·.id)
  | .createDeadLetter _ _ id _ => id ∉ s.deadLetters.rows.map (·.id)
  | .createEndpoint _ _ id _ => id ∉ s.endpoints.rows.map (·.id)
  | _ => True

/-- Whether the tenant itself has the notification. -/
def ownsNotification (tenantID : UUID) (s : Storage) (n : UUID) : Bool :=
  (s.core.notifications.filter (Database.ownNotification tenantID)).any (·.id == n)

/-- The notification of someone else that an insert of a registered tenant names. -/
def Op.refers (tenantID : UUID) (s : Storage) : Op → List UUID
  | .insertInApp .up msg _ _ =>
      if tenantID ∈ s.core.tenants then
        msg.notificationID.toList.filter fun n => !ownsNotification tenantID s n
      else []
  | _ => []

section TwoStates

variable {tenantID : UUID} {s s₁ s₂ : Storage} {exec : Storage → Outcome × Storage}

/-! ## One table at a time -/

theorem rows_agree (agree : view tenantID s₁ = view tenantID s₂) (t : TableName) :
    (rows s₁ t).filter (owns tenantID t) = (rows s₂ t).filter (owns tenantID t) :=
  congrFun (congrArg View.rows agree) t

theorem registered_agree (agree : view tenantID s₁ = view tenantID s₂) :
    decide (tenantID ∈ s₁.core.tenants) = decide (tenantID ∈ s₂.core.tenants) :=
  congrArg View.registered agree

/-- A new content for one of the tables that nothing references. -/
inductive Replaced : TableName → Storage → Storage → Prop where
  | same (t : TableName) (s : Storage) : Replaced t s s
  | preferences (s : Storage)
      (table : Table PreferenceRow.id PreferenceRow.key (PreferenceRow.Valid s.core)) :
      Replaced .preferences s { s with preferences := table }
  | inapp (s : Storage) (table : Table InAppRow.id noKey (InAppRow.Valid s.core)) :
      Replaced .inapp s { s with inapp := table }
  | deviceTokens (s : Storage)
      (table : Table DeviceTokenRow.id DeviceTokenRow.key (DeviceTokenRow.Valid s.core)) :
      Replaced .deviceTokens s { s with deviceTokens := table }
  | deadLetters (s : Storage) (table : Table DeadLetterRow.id noKey (DeadLetterRow.Valid s.core)) :
      Replaced .deadLetters s { s with deadLetters := table }

theorem Replaced.elsewhere {t u : TableName} {s s' : Storage} (replaced : Replaced t s s')
    (other : u ≠ t) : rows s' u = rows s u := by
  cases replaced with
  | same => rfl
  | preferences | inapp | deviceTokens | deadLetters =>
      cases u <;> first | rfl | exact absurd rfl other

theorem Replaced.frame {t : TableName} {s s' : Storage} (replaced : Replaced t s s') :
    s'.core = s.core ∧ s'.deliveries.rows = s.deliveries.rows ∧
      s'.endpoints.rows = s.endpoints.rows := by
  cases replaced with
  | same | preferences | inapp | deviceTokens | deadLetters => exact ⟨rfl, rfl, rfl⟩

/-- What an operation does, in terms of the rows of one table. -/
structure Acts (tenantID : UUID) (exec : Storage → Outcome × Storage) (t : TableName)
    (op : List t.Row → Outcome × List t.Row) (s : Storage) : Prop where
  answer : (exec s).1 = (op (rows s t)).1
  here : rows (exec s).2 t = (op (rows s t)).2
  elsewhere : ∀ u, u ≠ t → rows (exec s).2 u = rows s u
  core : (exec s).2.core = s.core
  deliveries : (view tenantID (exec s).2).deliveries = (view tenantID s).deliveries
  otherDeliveries : (rest tenantID (exec s).2).deliveries = (rest tenantID s).deliveries

theorem Acts.of_replaced {t : TableName} {op : List t.Row → Outcome × List t.Row}
    (replaced : Replaced t s (exec s).2) (answer : (exec s).1 = (op (rows s t)).1)
    (here : rows (exec s).2 t = (op (rows s t)).2) : Acts tenantID exec t op s := by
  obtain ⟨core, deliveries, endpoints⟩ := replaced.frame
  refine ⟨answer, here, fun _ other => replaced.elsewhere other, core, ?_, ?_⟩
  · simp only [view, deliveries, endpoints]
  · simp only [rest, deliveries, endpoints]

theorem Acts.rest {t : TableName} {op : List t.Row → Outcome × List t.Row}
    (acts : Acts tenantID exec t op s)
    (others : (op (rows s t)).2.filter (!owns tenantID t ·) =
      (rows s t).filter (!owns tenantID t ·)) :
    rest tenantID (exec s).2 = rest tenantID s := by
  apply Rest.ext
  · funext u
    by_cases same : u = t
    · subst same
      simp only [Stores.rest, acts.here]
      exact others
    · simp only [Stores.rest, acts.elsewhere u same]
  · exact acts.otherDeliveries
  · exact acts.core

/-- An operation that does the same private thing to a table in both states. -/
theorem Acts.isolated {t : TableName} {op : List t.Row → Outcome × List t.Row}
    (private_ : Private (owns tenantID t) op) (acts₁ : Acts tenantID exec t op s₁)
    (acts₂ : Acts tenantID exec t op s₂) (agree : view tenantID s₁ = view tenantID s₂) :
    Isolated (view tenantID) (Stores.rest tenantID) exec s₁ s₂ := by
  have both := private_ (rows s₁ t) (rows s₂ t) (rows_agree agree t)
  refine ⟨?_, ?_, acts₁.rest both.left, acts₂.rest both.right⟩
  · rw [acts₁.answer, acts₂.answer]
    exact both.outcome
  · apply View.ext
    · funext u
      by_cases same : u = t
      · subst same
        simp only [view, acts₁.here, acts₂.here]
        exact both.view
      · simp only [view, acts₁.elsewhere u same, acts₂.elsewhere u same]
        exact rows_agree agree u
    · rw [acts₁.deliveries, acts₂.deliveries, agree]
    · simp only [view, acts₁.core, acts₂.core]
      exact congrArg View.notifications agree
    · simp only [view, acts₁.core, acts₂.core]
      exact congrArg View.registered agree

/-- `op` is the answer of a statement on the table, and the rows it leaves. -/
def Stored (t : TableName) (s : Storage) (op : Except SqlError t.Row × List t.Row) :
    Except SqlError (t.Row × Storage) → Prop
  | .error e => op = (.error e, rows s t)
  | .ok (row, s') => Replaced t s s' ∧ op = (.ok row, rows s' t)

def responded {ρ : Type} (answer : Except SqlError ρ → Outcome) (s : Storage) :
    Except SqlError (ρ × Storage) → Outcome × Storage
  | .error e => (answer (.error e), s)
  | .ok (row, s') => (answer (.ok row), s')

theorem Acts.of_stored {t : TableName} {answer : Except SqlError t.Row → Outcome}
    {op : List t.Row → Except SqlError t.Row × List t.Row}
    {result : Except SqlError (t.Row × Storage)} (executed : exec s = responded answer s result)
    (stored : Stored t s (op (rows s t)) result) :
    Acts tenantID exec t (fun r => (answer (op r).1, (op r).2)) s := by
  cases result with
  | error e =>
      have left : op (rows s t) = (.error e, rows s t) := stored
      apply Acts.of_replaced
      · rw [executed]
        exact .same t s
      · rw [executed, left]
        rfl
      · rw [executed, left]
        rfl
  | ok written =>
      obtain ⟨replaced, left⟩ : Replaced t s written.2 ∧
          op (rows s t) = (.ok written.1, rows written.2 t) := stored
      apply Acts.of_replaced
      · rw [executed]
        exact replaced
      · rw [executed, left]
        rfl
      · rw [executed, left]
        rfl

/-- An operation that writes nothing. -/
theorem read_isolated (agree : view tenantID s₁ = view tenantID s₂)
    (same : (exec s₁).1 = (exec s₂).1) (keeps₁ : (exec s₁).2 = s₁) (keeps₂ : (exec s₂).2 = s₂) :
    Isolated (view tenantID) (rest tenantID) exec s₁ s₂ := by
  refine ⟨same, ?_, ?_, ?_⟩
  · rw [keeps₁, keeps₂, agree]
  · rw [keeps₁]
  · rw [keeps₂]

end TwoStates

end NotifyHub.Isolation.Stores
