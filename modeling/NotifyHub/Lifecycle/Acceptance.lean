import NotifyHub.Lifecycle.Coherence

/-! # Accepted sends

Send answers success in three places: after the status update, for a request that
lies in the future, and early, when the idempotency key is already known. Only
the early one says nothing about a publish: the row it finds may be what a failed
earlier call left behind.
-/

namespace NotifyHub.Lifecycle

open NotificationRepository
open NotificationService hiding getByID list cancel

/-- What a Send has returned with success, for a request that is due. -/
def Thread.accepted (now : Time) : Thread → Option Notification
  | .send _ req (.returned (.ok n)) _ => if scheduledAfter req now then none else some n
  | _ => none

/-- If this step makes a Send return success for a request that is due, the returned
    notification has been published to its channel's topic, or cancelled. -/
def OnItsWay (cfg : Config) (s : State) : Label → Prop
  | .step i a =>
      ∀ next ∈ step cfg s (.step i a), ∀ t ∈ next.threads[i]?, ∀ n ∈ t.accepted a.now,
        Published next.shared n.id n.channel ∨ n.id ∈ next.shared.cancelled
  | _ => True

instance (cfg : Config) (s : State) : ∀ label, Decidable (OnItsWay cfg s label)
  | .step i a => inferInstanceAs (Decidable (∀ next ∈ step cfg s (.step i a), _))
  | .call _ _ | .callBulk _ _ | .tick | .deliver _ | .cancel _ _ _ | .replay _ _ => .isTrue trivial

/-- The lookup of a Send with a known key, about to return early. -/
def Thread.repeated (a : Answer) (sh : Shared) : Thread → Option Notification
  | .send tenantID req .start _ =>
      match validateSend req, findExisting a.conn sh.db tenantID req with
      | .ok (), .ok (some existing) => if scheduledAfter req a.now then none else some existing
      | _, _ => none
  | _ => none

/-- A repeated key finds a row that has left `pending` or whose message is out. -/
def RepeatCovered (s : State) : Label → Prop
  | .step i a =>
      ∀ t ∈ s.threads[i]?, ∀ n ∈ t.repeated a s.shared,
        n.status ≠ .pending ∨ Published s.shared n.id n.channel
  | _ => True

section Step

variable {cfg : Config} {s : State} {i : Nat} {a : Answer} {sh : Shared} {t t' : Thread}

/-- For a stored row the condition on repeats is the property itself. -/
theorem Coherent.covered_iff (inv : Coherent s) {row : NotificationRow}
    (stored : row ∈ s.shared.db.notifications) :
    (row.status ≠ .pending ∨ Published s.shared row.id row.channel) ↔
      (Published s.shared row.id row.channel ∨ row.id ∈ s.shared.cancelled) := by
  constructor
  · rintro (moved | sent)
    · exact (inv.statuses row stored moved).symm
    · exact .inl sent
  · rintro (sent | dropped)
    · exact .inr sent
    · exact .inl (inv.settled row stored dropped)

/-- A Send that goes on past its lookup returns success only after its publish. -/
theorem Move.accepted (inv : Coherent s) (running : s.threads[i]? = some t)
    (move : Move cfg i a s.shared t sh t') {n : Notification} (success : n ∈ t'.accepted a.now) :
    Published sh n.id n.channel ∨ sh = s.shared ∧ n ∈ t.repeated a s.shared := by
  have before := inv.threads t (List.mem_of_getElem? running)
  cases move with
  | hit valid found =>
      right
      refine ⟨rfl, ?_⟩
      simpa only [Thread.repeated, valid, found, Thread.accepted] using success
  | later future => simp [Thread.accepted, future] at success
  | queued updated =>
      left
      obtain ⟨row, stored, same, rfl, rfl⟩ := updateStatus_ok updated
      have sent := (before.copies _ (List.mem_singleton_self _)).published (before.marking _ rfl)
      simp only [Thread.accepted] at success
      split at success
      · simp at success
      · obtain rfl := Option.some.inj success
        exact sent row stored same
  | refused | miss | created | due | unpublished | published | unmarked | nextRecipient | unlisted
  | listed | itemUnpublished | itemPublished | itemUnmarked | itemQueued | unfetched | fetched
  | unprocessed | processing | working | settled => simp [Thread.accepted] at success

/-- A repeat does return early, with what its lookup finds. -/
theorem step_of_repeated (cfg : Config) (running : s.threads[i]? = some t) {n : Notification}
    (early : n ∈ t.repeated a s.shared) :
    ∃ t', step cfg s (.step i a) = some ⟨s.shared, s.threads.set i t'⟩ ∧ n ∈ t'.accepted a.now ∧
      ∃ row ∈ s.shared.db.notifications, n = dbNotificationToDomain row := by
  cases t with
  | tick | process => simp [Thread.repeated] at early
  | send tenantID req pc rest =>
      cases pc with
      | create | schedule | publish | markQueued | returned => simp [Thread.repeated] at early
      | start =>
          simp only [Thread.repeated] at early
          split at early
          · rename_i existing valid found
            refine ⟨.send tenantID req (.returned (.ok existing)) rest, ?_, early, ?_⟩
            · simp only [step, running, Thread.step, sendStep, valid, found]
            · obtain ⟨_, row, _, _, stored, _, _, rfl⟩ := findExisting_some found
              split at early
              · simp at early
              · exact ⟨row, stored, (Option.some.inj early).symm⟩
          · simp at early

theorem onItsWay_iff_repeatCovered (inv : Coherent s) (label : Label) :
    OnItsWay cfg s label ↔ RepeatCovered s label := by
  cases label with
  | step i a =>
      constructor
      · intro way t running n early
        obtain ⟨t', taken, success, row, stored, rfl⟩ := step_of_repeated cfg running early
        exact (inv.covered_iff stored).mpr
          (way _ taken t' (Threads.set_self running) _ success)
      · intro covered next taken t' at_ n success
        cases step_steps taken with
        | stay outside | start outside => exact absurd rfl (outside i a)
        | moved running move =>
            rw [Threads.set_self running] at at_
            obtain rfl := Option.some.inj at_
            rcases move.accepted inv running success with sent | ⟨rfl, early⟩
            · exact .inl sent
            · obtain ⟨_, _, _, row, stored, rfl⟩ := step_of_repeated cfg running early
              exact (inv.covered_iff stored).mp (covered _ running _ early)
  | call | callBulk | tick | deliver | cancel | replay => exact Iff.rfl

end Step

/-- Every success that Send answers for a due request is backed by a publish or a
    cancellation, throughout a run, exactly when every repeated key of the run
    finds a row that is no longer pending or whose message has been published. -/
theorem accepted_sends_on_their_way (cfg : Config) (db : Database) (labels : List Label) :
    Guarded cfg (OnItsWay cfg) (initial db) labels ↔
      Guarded cfg RepeatCovered (initial db) labels :=
  Transition.guarded_congr (fun _ _ _ inv taken => coherent_step inv taken)
    (fun _ label inv => onItsWay_iff_repeatCovered inv label) (coherent_initial db) labels

/-- A first call whose publish fails, and its retry: the retry is answered with
    success although nothing was ever published. -/
theorem retry_accepted_unpublished :
    ¬ Guarded plain (OnItsWay plain) deployed
      ([.call acme { welcome with idempotencyKey := some "order-7" }] ++ steps 0 3 ++
        [.step 0 { fault := some ⟨"broker unavailable", false⟩ },
          .call acme { welcome with idempotencyKey := some "order-7" }] ++ steps 1 1) := by
  decide +kernel

end NotifyHub.Lifecycle
