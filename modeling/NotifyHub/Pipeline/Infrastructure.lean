import NotifyHub.Pipeline.Course
import NotifyHub.PreferenceService
import NotifyHub.RateLimit.Service

/-! # Errors that Process returns

A non-nil result keeps the offset uncommitted, so that Kafka delivers the message again.
It is meant for a database or a Redis that is down. Here all of them work: the
preference check is IsAllowed on the stored preferences, the rate limit is AllowKey, and
the other calls are answered. One error is left, that of a notification which is not
there, and it comes back for ever.
-/

namespace NotifyHub.Pipeline

open Lifecycle NotificationRepository

/-- What a working backend answers to a call: the repositories answer, IsAllowed and Allow
    with what they compute. The template store, the provider and the closing calls may
    answer anything. -/
def Call.Served (zones : Zones) (s : Storage) (rdb : RateLimit.Redis) (cfg : Config) (msg : Message)
    (call : Call) : Prop :=
  match call.pc with
  | .fetch | .markProcessing _ => call.answer.fault = none
  | .preference n =>
      match PreferenceService.isAllowed zones .up s msg.tenantID n.recipientID n.channel
          call.answer.now with
      | .ok (true, _) => call.answer.fault = none ∧ call.answer.block = none
      | .ok (false, reason) => call.answer.fault = none ∧ call.answer.block = some reason
      | .error e => call.answer.fault.map (·.text) = some e.message
  | .rateLimit n =>
      0 < cfg.rateCap n.channel →
        match (RateLimit.allowKey rdb
          { link := .up
            key := RateLimit.allowKeyName n.recipientID n.channel
            window := hour
            cap := cfg.rateCap n.channel
            now := call.answer.now }).1 with
        | .ok true => call.answer.fault = none ∧ call.answer.block = none
        | .ok false => call.answer.fault = none ∧ call.answer.block.isSome = true
        | .error _ => call.answer.fault.isSome = true
  | .render _ | .send .. | .backoff .. | .closing .. | .returned _ => True

instance (zones : Zones) (s : Storage) (rdb : RateLimit.Redis) (cfg : Config) (msg : Message)
    (call : Call) : Decidable (call.Served zones s rdb cfg msg) := by
  unfold Call.Served
  repeat' split
  all_goals infer_instance

section Served

variable {zones : Zones} {s : Storage} {rdb : RateLimit.Redis} {cfg : Config} {msg : Message}
  {a : Answer} {n : Notification}

/-- A user without a preference is an answer, too. -/
theorem isAllowed_answers (zones : Zones) (s : Storage) (tenantID : UUID) (userID : String)
    (channel : Channel) (now : Time) :
    ∃ allowed reason,
      PreferenceService.isAllowed zones .up s tenantID userID channel now = .ok (allowed, reason) := by
  unfold PreferenceService.isAllowed PreferenceRepository.get getPreference
  simp only [Conn.exec]
  cases s.preferences.rows.find? _ with
  | none => exact ⟨true, "", rfl⟩
  | some row =>
      simp only
      repeat' split
      all_goals exact ⟨_, _, rfl⟩

theorem Served.asked (served : Call.Served zones s rdb cfg msg ⟨.preference n, a⟩) :
    a.fault = none := by
  obtain ⟨allowed, reason, answer⟩ :=
    isAllowed_answers zones s msg.tenantID n.recipientID n.channel a.now
  simp only [Call.Served, answer] at served
  cases allowed with
  | true => exact served.1
  | false => exact served.1

theorem Served.counted (served : Call.Served zones s rdb cfg msg ⟨.rateLimit n, a⟩)
    (capped : 0 < cfg.rateCap n.channel) : a.fault = none := by
  have answer := served capped
  simp only [RateLimit.allowKey] at answer
  split at answer
  · exact answer.1
  · exact answer.1
  · rename_i failed
    cases failed

/-- A notification that is there at the fetch is there at the mark, and then nothing is left
    that could fail. -/
def Lookup (msg : Message) (sh : Shared) : ProcessPc → Prop
  | .fetch => ∃ n, Found msg sh n
  | .markProcessing n => ∃ status, Holds sh.db n.id status
  | .returned (some _) => False
  | .preference _ | .rateLimit _ | .render _ | .send .. | .backoff .. | .closing ..
  | .returned none => True

theorem lookup_onward {sh sh' : Shared} {pc pc' : ProcessPc}
    (onward : Onward cfg a msg sh pc sh' pc')
    (served : Call.Served zones s rdb cfg msg ⟨pc, a⟩) (lookup : Lookup msg sh pc) :
    Lookup msg sh' pc' := by
  cases onward with
  | unfetched failed =>
      obtain ⟨n, row, stored, same, owner, _⟩ := lookup
      rw [conn_eq_up.mpr served, ← same, getByID_of_mem stored owner] at failed
      cases failed
  | fetched found =>
      obtain ⟨row, stored, _, _, rfl⟩ := getByID_ok found
      exact ⟨row.status, row, stored, rfl, rfl⟩
  | unprocessed failed =>
      obtain ⟨status, holds⟩ := lookup
      obtain ⟨result, db, updated⟩ := holds.updateStatus .processing a.now
      rw [conn_eq_up.mpr served, updated] at failed
      cases failed
  | unasked failed => simp [Served.asked served] at failed
  | uncounted failed capped => simp [Served.counted served capped] at failed
  | processing | unwanted | wanted | limited | unlimited | unsendable | rendered | sent | gaveUp
  | unsent | interrupted | waited | closed | closing => trivial

end Served

/-- With every call answered by a working backend, Process returns nil exactly if the
    notification of the message exists for its tenant. -/
theorem nil_iff_notification_exists (zones : Zones) (s : Storage) (rdb : RateLimit.Redis)
    (cfg : Config) (msg : Message) (world : Nat → Answer) (sh : Shared)
    (served : ∀ call ∈ (process cfg msg world sh).calls, call.Served zones s rdb cfg msg) :
    (process cfg msg world sh).result = some none ↔
      ∃ row ∈ sh.db.notifications,
        row.id = msg.notificationID ∧ row.tenantID = some msg.tenantID := by
  constructor
  · intro nil_
    obtain ⟨n, marked, _⟩ := (returns_nil_iff cfg msg world sh).mp nil_
    obtain ⟨row, stored, same, owner, _⟩ := marked.found
    exact ⟨row, stored, same, owner⟩
  · rintro ⟨row, stored, same, owner⟩
    have along : (∀ call ∈ (process cfg msg world sh).calls, call.Served zones s rdb cfg msg) →
        Lookup msg (process cfg msg world sh).shared (process cfg msg world sh).pc := by
      apply process_invariant (fun o =>
        (∀ call ∈ o.calls, call.Served zones s rdb cfg msg) → Lookup msg o.shared o.pc)
      · exact fun _ => ⟨_, row, stored, same, owner, rfl⟩
      · intro o a inv running upTo
        rw [Progress.next, List.forall_mem_append, List.forall_mem_singleton] at upTo
        exact lookup_onward (processStep_onward _ _ _ _ (result_eq_none running)) upTo.2
          (inv upTo.1)
    have lookup := along served
    obtain ⟨err, returned⟩ := process_returns cfg msg world sh
    rw [Progress.result] at returned ⊢
    split at returned
    · rename_i err' pc
      rw [pc] at lookup
      cases err' with
      | some e => exact lookup.elim
      | none => rfl
    · cases returned

/-- A user without preferences and a channel without a cap. -/
theorem queued_returns_nil :
    (process plain envelope (fun _ => {}) queued).result = some none := by
  have served : ∀ call ∈ (process plain envelope (fun _ => {}) queued).calls,
      call.Served (fun _ => none) (Storage.ofCore (.ofTenants [acme])) RateLimit.empty plain
        envelope := by
    decide +kernel
  refine (nil_iff_notification_exists _ _ _ plain envelope (fun _ => {}) queued served).mpr ?_
  decide +kernel

/-- A queued notification and a message for it under the zero tenant, which is what the
    scheduler publishes: everything works, and the result is an error. -/
theorem absent_notification_errs :
    (∀ call ∈ (process plain { envelope with tenantID := UUID.zero } (fun _ => {}) queued).calls,
        call.Served (fun _ => none) (Storage.ofCore (.ofTenants [acme])) RateLimit.empty plain
          { envelope with tenantID := UUID.zero }) ∧
      (process plain { envelope with tenantID := UUID.zero } (fun _ => {}) queued).result =
        some (some (.wrap "fetch notification" (.app (newNotFoundError "notification not found")))) := by
  decide +kernel

end NotifyHub.Pipeline
