import NotifyHub.Isolation.Stores.Delivery
import NotifyHub.Isolation.Stores.Users

/-! # The other stores of one tenant, seen from another

Every statement of the five repositories is filtered by `tenant_id`. What is left is a
reference: `inapp_messages.notification_id` may name a notification of any tenant. A
tenant observes of the others exactly whether a notification exists that it names and
does not own.
-/

namespace NotifyHub.Isolation.Stores

open Observer (Isolated)

/-- From two states a tenant cannot tell apart its operation gives the same outcome,
    leaves it the same rows and touches nothing else, if and only if the notification
    that it names and does not own exists in both or in neither. -/
theorem stores_isolated_iff_same_references (tenantID : UUID) (op : Op) (s₁ s₂ : Storage)
    (agree : view tenantID s₁ = view tenantID s₂) (fresh₁ : op.Fresh s₁) (fresh₂ : op.Fresh s₂) :
    Isolated (view tenantID) (rest tenantID) (op.exec tenantID) s₁ s₂ ↔
      ∀ n ∈ op.refers tenantID s₁,
        s₁.core.hasNotification n = s₂.core.hasNotification n := by
  -- Only an insert into the inbox refers to anything.
  have whenever : op.refers tenantID s₁ = [] →
      Isolated (view tenantID) (rest tenantID) (op.exec tenantID) s₁ s₂ →
      (Isolated (view tenantID) (rest tenantID) (op.exec tenantID) s₁ s₂ ↔
        ∀ n ∈ op.refers tenantID s₁,
          s₁.core.hasNotification n = s₂.core.hasNotification n) := by
    intro nothing isolated
    simp [nothing, isolated]
  cases op with
  | insertInApp conn msg id now =>
      cases conn with
      | down => exact whenever rfl (read_isolated agree rfl rfl rfl)
      | up =>
          rw [insertInApp_isolated_iff agree msg id now]
          exact accepts_alike_iff agree fresh₁ fresh₂
  | getPreference conn userID channel =>
      exact whenever rfl (getPreference_isolated agree conn userID channel)
  | listPreferences conn userID => exact whenever rfl (listPreferences_isolated agree conn userID)
  | upsertPreference conn userID channel req id now =>
      exact whenever rfl (upsertPreference_isolated agree fresh₁ fresh₂)
  | deletePreference conn userID channel =>
      exact whenever rfl (deletePreference_isolated agree conn userID channel)
  | getInApp conn id => exact whenever rfl (getInApp_isolated agree conn id)
  | listInApp conn cursorConn q => exact whenever rfl (listInApp_isolated agree conn cursorConn q)
  | listInAppSince conn cursorConn recipientID sinceID =>
      exact whenever rfl (listInAppSince_isolated agree conn cursorConn recipientID sinceID)
  | countUnread conn recipientID => exact whenever rfl (countUnread_isolated agree conn recipientID)
  | markRead conn id recipientID now =>
      exact whenever rfl (markRead_isolated agree conn id recipientID now)
  | markAllRead conn recipientID now =>
      exact whenever rfl (markAllRead_isolated agree conn recipientID now)
  | upsertToken conn req id now => exact whenever rfl (upsertToken_isolated agree fresh₁ fresh₂)
  | deactivateToken conn token now =>
      exact whenever rfl (deactivateToken_isolated agree conn token now)
  | listTokens conn userID => exact whenever rfl (listTokens_isolated agree conn userID)
  | createDeadLetter conn msg id now =>
      exact whenever rfl (createDeadLetter_isolated agree fresh₁ fresh₂)
  | getDeadLetter conn id => exact whenever rfl (getDeadLetter_isolated agree conn id)
  | listDeadLetters conn params =>
      exact whenever rfl (listDeadLetters_isolated agree conn params)
  | markReplayed conn id now => exact whenever rfl (markReplayed_isolated agree conn id now)
  | deleteDeadLetter conn id => exact whenever rfl (deleteDeadLetter_isolated agree conn id)
  | countDeadLetters conn => exact whenever rfl (countDeadLetters_isolated agree conn)
  | createEndpoint conn ep id now =>
      exact whenever rfl (createEndpoint_isolated agree fresh₁ fresh₂)
  | getEndpoint conn id => exact whenever rfl (getEndpoint_isolated agree conn id)
  | listEndpoints conn => exact whenever rfl (listEndpoints_isolated agree conn)
  | updateEndpoint conn ep now => exact whenever rfl (updateEndpoint_isolated agree conn ep now)
  | deleteEndpoint conn id => exact whenever rfl (deleteEndpoint_isolated agree conn id)
  | listEndpointsForEvent conn event =>
      exact whenever rfl (listEndpointsForEvent_isolated agree conn event)

/-! ## A message that names the rival's notification -/

def shop : UUID := 1

def rival : UUID := 2

def quiet : Storage := .ofCore (.ofTenants [shop, rival])

/-- The rival's notification. -/
def parcel : NotificationRow :=
  { id := 70
    tenantID := some rival
    idempotencyKey := none
    type := "parcel"
    channel := .email
    recipientID := "bob"
    recipientAddress := none
    templateID := none
    payload := []
    priority := 5
    status := .delivered
    scheduledAt := none
    createdAt := 10
    updatedAt := 10 }

def busy : Storage := .ofCore ((Database.ofTenants [shop, rival]).addNotification parcel (by decide))

def note (notificationID : Option UUID) : InAppMessage :=
  { id := UUID.zero
    tenantID := shop
    notificationID := notificationID
    recipientID := "alice"
    title := "Parcel"
    body := "On its way"
    payload := none
    readAt := none
    createdAt := 0 }

theorem views_agree : view shop quiet = view shop busy := by
  apply View.ext
  · funext t
    cases t <;> rfl
  · rfl
  · rfl
  · rfl

theorem nameless_isolated :
    view shop quiet = view shop busy ∧
      Isolated (view shop) (rest shop) ((Op.insertInApp .up (note none) 80 10).exec shop)
        quiet busy :=
  ⟨views_agree,
    (stores_isolated_iff_same_references shop (.insertInApp .up (note none) 80 10) quiet busy
      views_agree List.not_mem_nil List.not_mem_nil).mpr (by decide)⟩

/-- Whether the rival has a notification 70 is told by the shop's insert. -/
theorem foreign_notification_observed :
    view shop quiet = view shop busy ∧
      (Op.insertInApp .up (note (some 70)) 80 10).Fresh quiet ∧
      (Op.insertInApp .up (note (some 70)) 80 10).Fresh busy ∧
      ((Op.insertInApp .up (note (some 70)) 80 10).exec shop quiet).1 =
        .message (.error (.wrap "insert inapp message" (.plain "constraint violation"))) ∧
      ¬Isolated (view shop) (rest shop) ((Op.insertInApp .up (note (some 70)) 80 10).exec shop)
        quiet busy := by
  refine ⟨views_agree, List.not_mem_nil, List.not_mem_nil, by decide +kernel, ?_⟩
  intro isolated
  have differs : ((Op.insertInApp .up (note (some 70)) 80 10).exec shop quiet).1 ≠
      ((Op.insertInApp .up (note (some 70)) 80 10).exec shop busy).1 := by decide +kernel
  exact differs isolated.outcome

end NotifyHub.Isolation.Stores
