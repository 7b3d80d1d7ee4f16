import NotifyHub.Lifecycle.System

/-! # The two producers of envelopes

The service and the scheduler build the envelope in two separate literals. The
worker looks the notification up by the tenant and id of the envelope, so the
fields have to be those of the stored row. The scheduler's literal leaves the
tenant out.
-/

namespace NotifyHub.Lifecycle

open Database NotificationRepository

/-- Same topic, same key and same envelope, but for the time of enqueueing. -/
def AgreeButTime (left right : Publication Message) : Prop :=
  left.topic = right.topic ∧ left.key = right.key ∧
    { left.value with enqueuedAt := right.value.enqueuedAt } = right.value

instance (left right : Publication Message) : Decidable (AgreeButTime left right) :=
  inferInstanceAs (Decidable (_ ∧ _ ∧ _))

/-- The worker decodes the envelope, finds `n` and gets past its fetch step. -/
def Fetches {Bytes : Type} (codec : Codec Message Bytes) (cfg : Config) (sh : Shared)
    (publication : Publication Message) (n : Notification) : Prop :=
  ∃ msg, codec.unmarshal (codec.marshal publication.value) = some msg ∧
    getByID .up sh.db msg.tenantID msg.notificationID = .ok n ∧
    (processStep cfg {} msg sh .fetch).2 = .markProcessing n

section Producers

variable {Bytes : Type} {codec : Codec Message Bytes} {cfg : Config} {sh : Shared}
  {row : NotificationRow} {tenantID : UUID} {publication : Publication Message}

/-- An envelope with tenant and id of a stored row is fetched. -/
theorem fetches_of_mem (stored : row ∈ sh.db.notifications) (owner : row.tenantID = some tenantID)
    (tenant : publication.value.tenantID = tenantID)
    (subject : publication.value.notificationID = row.id) :
    Fetches codec cfg sh publication (dbNotificationToDomain row) := by
  have found : getByID .up sh.db publication.value.tenantID publication.value.notificationID =
      .ok (dbNotificationToDomain row) := by
    rw [tenant, subject]
    exact getByID_of_mem stored owner
  refine ⟨publication.value, codec.roundTrip _, found, ?_⟩
  simp only [processStep, Answer.conn, found]

/-- An envelope with another tenant is not. -/
theorem not_fetches_of_tenant {n : Notification} (stored : row ∈ sh.db.notifications)
    (owner : row.tenantID = some tenantID) (tenant : publication.value.tenantID ≠ tenantID)
    (subject : publication.value.notificationID = row.id) :
    ¬ Fetches codec cfg sh publication n := by
  rintro ⟨msg, decoded, found, _⟩
  obtain rfl := Option.some.inj ((codec.roundTrip _).symm.trans decoded)
  obtain ⟨other, otherMem, same, owner', _⟩ := getByID_ok found
  obtain rfl := notification_ext otherMem stored (same.trans subject)
  exact tenant (Option.some.inj (owner'.symm.trans owner))

end Producers

/-- The two producers agree on a stored notification, and the worker can fetch what
    they publish, exactly for the zero tenant. -/
theorem producers_agree_iff_zero_tenant {Bytes : Type} (codec : Codec Message Bytes) (cfg : Config)
    (sh : Shared) (row : NotificationRow) (tenantID : UUID) (now now' : Time)
    (stored : row ∈ sh.db.notifications) (owner : row.tenantID = some tenantID) :
    (AgreeButTime (Scheduler.enqueue cfg.maxRetries (dbNotificationToDomain row) now)
        (NotificationService.enqueue cfg.maxRetries tenantID (dbNotificationToDomain row) now') ∧
      Fetches codec cfg sh (Scheduler.enqueue cfg.maxRetries (dbNotificationToDomain row) now)
        (dbNotificationToDomain row) ∧
      Fetches codec cfg sh
        (NotificationService.enqueue cfg.maxRetries tenantID (dbNotificationToDomain row) now')
        (dbNotificationToDomain row)) ↔ tenantID = UUID.zero := by
  constructor
  · rintro ⟨_, fetched, _⟩
    by_contra other
    exact not_fetches_of_tenant stored owner (Ne.symm other) rfl fetched
  · rintro rfl
    exact ⟨⟨rfl, rfl, rfl⟩, fetches_of_mem stored owner rfl rfl, fetches_of_mem stored owner rfl rfl⟩

/-- A notification for later, of the tenant, as Send stores it. -/
def scheduledFor (tenantID : UUID) : List Label :=
  [.call tenantID { welcome with scheduledAt := some 10 }] ++ steps 0 3

def verbatim : Codec Message Message := ⟨id, some, fun _ => rfl⟩

theorem producers_agree_zero_tenant :
    ∃ s ∈ run plain (initial (.ofTenants [UUID.zero])) (scheduledFor UUID.zero),
      ∃ row ∈ s.shared.db.notifications,
        AgreeButTime (Scheduler.enqueue 3 (dbNotificationToDomain row) 10)
          (NotificationService.enqueue 3 UUID.zero (dbNotificationToDomain row) 0) ∧
        Fetches verbatim plain s.shared (Scheduler.enqueue 3 (dbNotificationToDomain row) 10)
          (dbNotificationToDomain row) := by
  obtain ⟨s, finished, row, stored, owner⟩ :
      ∃ s ∈ run plain (initial (.ofTenants [UUID.zero])) (scheduledFor UUID.zero),
        ∃ row ∈ s.shared.db.notifications, row.tenantID = some UUID.zero := by decide +kernel
  obtain ⟨agree, fetched, _⟩ := (producers_agree_iff_zero_tenant verbatim plain s.shared row
    UUID.zero 10 0 stored owner).mpr rfl
  exact ⟨s, finished, row, stored, agree, fetched⟩

/-- For any other tenant the scheduler's envelope carries the zero tenant: it differs
    from the service's, and the worker finds no such notification. -/
theorem scheduled_envelope_not_found :
    ∃ s ∈ run plain deployed (scheduledFor acme),
      ∃ row ∈ s.shared.db.notifications, row.tenantID = some acme ∧
        ¬ AgreeButTime (Scheduler.enqueue 3 (dbNotificationToDomain row) 10)
          (NotificationService.enqueue 3 acme (dbNotificationToDomain row) 0) ∧
        getByID .up s.shared.db
          (Scheduler.enqueue 3 (dbNotificationToDomain row) 10).value.tenantID row.id =
            .error (newNotFoundError "notification not found") := by
  decide +kernel

end NotifyHub.Lifecycle
