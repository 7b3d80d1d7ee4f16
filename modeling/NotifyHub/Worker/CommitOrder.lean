import NotifyHub.Worker.Loop

/-! # What a committed offset says

All three consumers skip the commit of a message whose handler failed, so that the
broker delivers it again. But they go on to the next message, and the commit of any
later offset moves the committed position past the one that was skipped. The pool
has the same trouble with messages its workers still have in hand.
-/

namespace NotifyHub

open Transition (run Guarded)

/-- `DLQConsumer.Run`, whose handler is the insert into `dead_letter_messages`. -/
def DLQConsumer.step {Raw : Type} (decode : Raw → Option DLQMessage) (log : List Raw) :
    Loop.State DLQMessage → Loop.Label → Option (Loop.State DLQMessage) :=
  Loop.step decode log

/-- `WebhookWorker.Run`, whose handler is `process`. -/
def WebhookWorker.step {Raw : Type} (decode : Raw → Option WebhookMessage) (log : List Raw) :
    Loop.State WebhookMessage → Loop.Label → Option (Loop.State WebhookMessage) :=
  Loop.step decode log

namespace CommitOrder

/-- After the step every offset below the committed position belongs to a message that
    does not decode or whose handler has succeeded. -/
abbrev SafeAfter {Raw Msg σ α : Type} (decode : Raw → Option Msg) (log : List Raw)
    (step : σ → α → Option σ) (view : σ → Offsets.View) : σ → α → Prop :=
  Offsets.SafeAfter (undecodable decode log · = true) step view

/-- No commit passes over an unhandled message, in any run of a consumer, if and only if
    each commit of the run finds every smaller offset of the session handled that is
    still queued, in a worker's hands or given up after an error. -/
theorem committed_handled_iff_in_order {Raw : Type} (log : List Raw) :
    (∀ (decode : Raw → Option Message) (concurrency : Nat) (labels : List Pool.Label),
      Guarded (Pool.step decode log concurrency)
          (SafeAfter decode log (Pool.step decode log concurrency) Pool.view)
          (Pool.started concurrency .empty) labels ↔
        Guarded (Pool.step decode log concurrency)
          (Offsets.CommitsInOrder Pool.view Pool.commits) (Pool.started concurrency .empty)
          labels) ∧
    (∀ (decode : Raw → Option DLQMessage) (labels : List Loop.Label),
      Guarded (DLQConsumer.step decode log)
          (SafeAfter decode log (DLQConsumer.step decode log) Loop.view)
          (Loop.started .empty) labels ↔
        Guarded (DLQConsumer.step decode log) (Offsets.CommitsInOrder Loop.view Loop.commits)
          (Loop.started .empty) labels) ∧
    (∀ (decode : Raw → Option WebhookMessage) (labels : List Loop.Label),
      Guarded (WebhookWorker.step decode log)
          (SafeAfter decode log (WebhookWorker.step decode log) Loop.view)
          (Loop.started .empty) labels ↔
        Guarded (WebhookWorker.step decode log) (Offsets.CommitsInOrder Loop.view Loop.commits)
          (Loop.started .empty) labels) := by
  refine ⟨?_, ?_, ?_⟩
  · intro decode concurrency labels
    apply (Pool.consumer decode log concurrency).safe_iff_inOrder
    rw [Pool.view_started]
    exact Offsets.accounted_empty
  · intro decode labels
    exact (Loop.consumer decode log).safe_iff_inOrder Offsets.accounted_empty labels
  · intro decode labels
    exact (Loop.consumer decode log).safe_iff_inOrder Offsets.accounted_empty labels

/-! ## A failure followed by a success -/

def hello : Message :=
  { notificationID := 1
    tenantID := 1
    channel := .email
    recipientID := "u1"
    recipientAddress := "u1@example.com"
    templateID := none
    payload := []
    priority := 5
    attempt := 1
    maxAttempts := 3
    enqueuedAt := 0 }

def letter : DLQMessage :=
  { original := hello
    originalTopic := topicForChannel .email
    failureReason := "provider_error"
    errorMessage := "bounced"
    lastAttempt := 3
    deadLetteredAt := 0 }

def callback : WebhookMessage :=
  { tenantID := 1
    endpointID := 2
    deliveryID := 3
    notificationID := some 1
    event := "notification.delivered"
    payload := []
    endpointURL := "endpoint"
    secret := "s"
    attempt := 1
    maxAttempts := 3
    enqueuedAt := 0 }

def failThenSucceed : List Loop.Label :=
  [.fetch, .handle false, .fetch, .handle true, .commit true]

/-- The handler fails on the first of two messages and succeeds on the second: after the
    commit the group resumes behind both. -/
theorem failed_message_committed_over :
    (∃ s ∈ run (Pool.step some [hello, hello] 1) (Pool.started 1 .empty)
        [.fetch, .dispatch, .receive 0, .process 0 false, .fetch, .dispatch, .receive 0,
          .process 0 true, .commit 0 true],
      s.group.committed = 2 ∧ s.group.abandoned = [0] ∧
        ¬ Offsets.Safe (undecodable some [hello, hello] · = true) s.group) ∧
    (∃ s ∈ run (DLQConsumer.step some [letter, letter]) (Loop.started .empty) failThenSucceed,
      s.group.committed = 2 ∧ s.group.abandoned = [0] ∧
        ¬ Offsets.Safe (undecodable some [letter, letter] · = true) s.group) ∧
    (∃ s ∈ run (WebhookWorker.step some [callback, callback]) (Loop.started .empty)
        failThenSucceed,
      s.group.committed = 2 ∧ s.group.abandoned = [0] ∧
        ¬ Offsets.Safe (undecodable some [callback, callback] · = true) s.group) := by
  decide +kernel

end CommitOrder

end NotifyHub
