import NotifyHub.Pipeline.Course
import NotifyHub.Worker.Replay

/-! # What is said about the retries

`sendWithRetry` leaves by a permanent error, with its attempts used up, or because the
context is cancelled during a wait. `deliver` gets one error value for all three, asks
only whether it is permanent, and closes the message. The attempts it records are those
of the message, since the counter of the loop is local to it.
-/

namespace NotifyHub.Pipeline

open Lifecycle NotificationRepository

/-! ## Exhausted, permanent, cancelled -/

/-- All attempts were made, and all of them failed. -/
def Exhausted (msg : Message) (calls : List Call) : Prop :=
  ((sendResults calls).length : Int) = max 1 (msg.maxAttempts - msg.attempt + 1) ∧
    ∀ result ∈ sendResults calls, result ≠ none

def LastPermanent (calls : List Call) : Prop :=
  ∃ f : Fault, (sendResults calls).getLast? = some (some f) ∧ f.permanent = true

/-- The provider was called, and not with success in the end. -/
def SendFailed (calls : List Call) : Prop :=
  sendResults calls ≠ [] ∧ (sendResults calls).getLast? ≠ some none

structure HonestRetries (msg : Message) (o : Progress) : Prop where
  failure : o.result = some none → SendFailed o.calls →
    LastPermanent o.calls ∨ Exhausted msg o.calls
  reason : ∀ n errMsg, (n, Closing.deadLetter dlqReasonRetriesExhausted errMsg) ∈
    o.calls.filterMap Call.closing → Exhausted msg o.calls
  cancellation : o.calls.any Call.cancelled = true → o.result ≠ some none

section Retries

variable {cfg : Config} {msg : Message} {world : Nat → Answer} {sh : Shared} {calls : List Call}
  {n : Notification} {exit : Exit} {j : Nat}

def Exit.reason : Exit → Option String
  | .unwanted _ | .limited | .tried _ .accepted => none
  | .unrendered _ => some dlqReasonTemplateRender
  | .unregistered => some dlqReasonNoProvider
  | .tried _ .permanent => some dlqReasonPermanent
  | .tried _ .exhausted | .tried _ .interrupted => some dlqReasonRetriesExhausted

theorem reason_of_failClosing {reason errMsg reason' errMsg' : String}
    (lettered : Closing.deadLetter reason errMsg ∈ failClosing reason' errMsg') :
    reason = reason' := by
  simp only [failClosing, List.mem_cons, reduceCtorEq, Closing.deadLetter.injEq, List.not_mem_nil,
    or_false, false_or] at lettered
  exact lettered.1

theorem Exit.reason_of_mem {reason errMsg : String}
    (lettered : Closing.deadLetter reason errMsg ∈ exit.closings world n) :
    exit.reason = some reason := by
  cases exit with
  | unwanted | limited => simp [Exit.closings, dropClosing] at lettered
  | unrendered | unregistered => exact congrArg some (reason_of_failClosing lettered).symm
  | tried j v =>
      cases v with
      | accepted => simp [Exit.closings, deliverClosing] at lettered
      | permanent | exhausted | interrupted =>
          exact congrArg some (reason_of_failClosing lettered).symm

theorem getLast?_answersTo (j : Nat) :
    (answersTo world (j + 1)).getLast? = some (world (5 + 2 * j)).fault := by
  simp [answersTo_succ]

theorem lastPermanent_of_ends (made : sendResults calls = answersTo world (j + 1))
    (ends : (sendLoop msg world).Ends j .permanent) : LastPermanent calls := by
  obtain ⟨f, failed, permanent⟩ := Option.map_eq_some_iff.mp ends.2
  exact ⟨f, by rw [made, getLast?_answersTo, failed], permanent⟩

theorem exhausted_of_ends (made : sendResults calls = answersTo world (j + 1))
    (ends : (sendLoop msg world).Ends j .exhausted) : Exhausted msg calls := by
  obtain ⟨going, last, spent⟩ := ends
  have budget : (sendLoop msg world).budget = (msg.maxAttempts - msg.attempt).toNat := rfl
  have failed : ∀ i < j + 1, (sendLoop msg world).tries i = some false := by
    intro i before
    rcases Nat.lt_succ_iff_lt_or_eq.mp before with earlier | rfl
    · exact (going.2 i earlier).1
    · exact last
  refine ⟨?_, ?_⟩
  · rw [made]
    simp only [answersTo, List.length_map, List.length_range]
    omega
  · rw [made]
    intro result member accepted
    obtain ⟨i, before, rfl⟩ := List.mem_map.mp member
    have tries := failed i (List.mem_range.mp before)
    simp [sendLoop, accepted] at tries

theorem honest_of_exit {o : Progress} (reaches : Reaches cfg msg world sh n exit)
    (made : Made o.calls (answersTo world exit.sends) exit.cancelled
      ((exit.closings world n).map (n, ·)))
    (running : exit.cancelled = false) : HonestRetries msg o where
  failure _ failed := by
    cases exit with
    | unwanted | limited | unrendered | unregistered => exact absurd made.sends failed.1
    | tried j v =>
        cases v with
        | accepted =>
            have last : (sendResults o.calls).getLast? = some (world (5 + 2 * j)).fault := by
              rw [made.sends]
              exact getLast?_answersTo j
            have accepted : (world (5 + 2 * j)).fault = none := by
              simpa [sendLoop] using reaches.2.2
            exact absurd (accepted ▸ last) failed.2
        | permanent => exact .inl (lastPermanent_of_ends made.sends reaches.2)
        | exhausted => exact .inr (exhausted_of_ends made.sends reaches.2)
        | interrupted => cases running
  reason m errMsg lettered := by
    rw [made.done] at lettered
    obtain ⟨act, member, same⟩ := List.mem_map.mp lettered
    obtain ⟨rfl, rfl⟩ := Prod.mk.inj same
    have reason := Exit.reason_of_mem member
    cases exit with
    | unwanted | limited => cases reason
    | unrendered | unregistered => exact absurd (Option.some.inj reason) (by decide)
    | tried j v =>
        cases v with
        | accepted => cases reason
        | permanent => exact absurd (Option.some.inj reason) (by decide)
        | exhausted => exact exhausted_of_ends made.sends reaches.2
        | interrupted => cases running
  cancellation cancelled := by
    rw [made.cancelled, running] at cancelled
    cases cancelled

end Retries

/-- Retries are declared exhausted only when they are, if and only if the context is not
    cancelled in a wait between two attempts. -/
theorem honest_iff_not_interrupted (cfg : Config) (msg : Message) (world : Nat → Answer)
    (sh : Shared) :
    HonestRetries msg (process cfg msg world sh) ↔
      ∀ n j, ¬Reaches cfg msg world sh n (.tried j .interrupted) := by
  rcases process_course cfg msg world sh with ⟨⟨e, failed⟩, unanswered, made⟩ | ⟨fine, n, exit, reaches, made⟩
  · constructor
    · exact fun _ n j reaches => unanswered reaches.answered
    · intro _
      refine ⟨by simp [failed], ?_, ?_⟩
      · simp [made.done]
      · simp [made.cancelled]
  · constructor
    · intro honest m j interrupted
      obtain ⟨rfl, rfl⟩ := reaches.unique interrupted
      exact honest.cancellation made.cancelled fine
    · intro uninterrupted
      refine honest_of_exit reaches made ?_
      cases exit with
      | unwanted | limited | unrendered | unregistered => rfl
      | tried j v =>
          cases v with
          | accepted | permanent | exhausted => rfl
          | interrupted => exact absurd reaches (uninterrupted n j)

/-- The provider is busy, and the context is cancelled during the first wait. The later calls
    get the same context. -/
def shutdown (call : Nat) : Answer :=
  if call < 5 then {}
  else if call = 5 then { fault := some ⟨"busy", false⟩ }
  else { fault := some ⟨"context canceled", false⟩ }

/-- One attempt of three: the result is nil, although nothing was recorded about the message
    and its notification is still being processed. -/
theorem shutdown_exhausts_retries :
    (process plain envelope shutdown queued).result = some none ∧
      (sendResults (process plain envelope shutdown queued).calls).length = 1 ∧
      (process plain envelope shutdown queued).shared.dlq = [] ∧
      (process plain envelope shutdown queued).shared.logs = [] ∧
      statusOf (process plain envelope shutdown queued).shared.db envelope.notificationID =
        some .processing ∧
      ¬HonestRetries envelope (process plain envelope shutdown queued) := by
  have run : (process plain envelope shutdown queued).result = some none ∧
      (process plain envelope shutdown queued).calls.any Call.cancelled = true ∧
      (sendResults (process plain envelope shutdown queued).calls).length = 1 ∧
      (process plain envelope shutdown queued).shared.dlq = [] ∧
      (process plain envelope shutdown queued).shared.logs = [] ∧
      statusOf (process plain envelope shutdown queued).shared.db envelope.notificationID =
        some .processing := by
    decide +kernel
  obtain ⟨fine, cancelled, once, letters, logs, status⟩ := run
  exact ⟨fine, once, letters, logs, status, fun honest => honest.cancellation cancelled fine⟩

/-! ## Recorded attempts -/

/-- The row that the entry of `logDelivery` becomes. -/
def logEntry (cfg : Config) (msg : Message) (n : Notification) (status : DeliveryStatus)
    (errMsg : Option String) (deliveredAt : Option Time) (now : Time) : DeliveryLog :=
  { notificationID := n.id
    channel := n.channel
    provider := (cfg.registry n.channel).getD n.channel.text
    status := status
    errorMessage := errMsg
    retryCount := int32 (msg.attempt - 1)
    attemptedAt := now
    deliveredAt := deliveredAt }

/-- The envelope of `deadLetter`. -/
def dlqEntry (msg : Message) (reason errMsg : String) (now : Time) : DLQMessage :=
  { original := msg
    originalTopic := topicForChannel msg.channel
    failureReason := reason
    errorMessage := errMsg
    lastAttempt := msg.attempt
    deadLetteredAt := now }

section Entries

variable {cfg : Config} {msg : Message} {a : Answer} {n : Notification} {sh : Shared}

theorem closingStep_logDelivery {status : DeliveryStatus} {errMsg : Option String}
    {deliveredAt : Option Time} (succeeds : a.fault = none) :
    closingStep cfg a msg n sh (.logDelivery status errMsg deliveredAt) =
      { sh with logs := sh.logs ++ [logEntry cfg msg n status errMsg deliveredAt a.now] } := by
  simp only [closingStep, succeeds, logEntry]

theorem closingStep_deadLetter {reason errMsg : String} (enabled : cfg.dlqEnabled = true)
    (succeeds : a.fault = none) :
    closingStep cfg a msg n sh (.deadLetter reason errMsg) =
      { sh with dlq := sh.dlq ++ [dlqEntry msg reason errMsg a.now] } := by
  simp only [closingStep, succeeds, enabled, dlqEntry]

end Entries

/-- What the closing calls write about a run with `k` provider calls, whether or not the
    writes get through. -/
structure TrueCounts (cfg : Config) (msg : Message) (calls : List Call) (k : Int) : Prop where
  logged : ∀ call ∈ calls, ∀ n status errMsg deliveredAt,
    call.closing = some (n, .logDelivery status errMsg deliveredAt) →
      (logEntry cfg msg n status errMsg deliveredAt call.answer.now).retryCount =
        (msg.attempt - 1) + (k - 1)
  lettered : cfg.dlqEnabled = true → ∀ call ∈ calls, ∀ n reason errMsg,
    call.closing = some (n, .deadLetter reason errMsg) →
      (dlqEntry msg reason errMsg call.answer.now).lastAttempt = msg.attempt + k - 1 ∧
      ∀ id now, (deadLetterRow (DLQConsumer.domainMsg
        (dlqEntry msg reason errMsg call.answer.now) now) id now).attempts = msg.attempt + k - 1

section Counts

variable {cfg : Config} {msg : Message} {world : Nat → Answer} {calls : List Call} {n : Notification}
  {j : Nat} {v : Retry.Verdict} {sends : List (Option Fault)} {cancelled : Bool}

/-- The closing calls of an exit are made. -/
theorem Made.call_of_mem {exit : Exit} {act : Closing}
    (made : Made calls sends cancelled ((exit.closings world n).map (n, ·)))
    (member : act ∈ exit.closings world n) : ∃ call ∈ calls, call.closing = some (n, act) := by
  have done : (n, act) ∈ calls.filterMap Call.closing := by
    rw [made.done]
    exact List.mem_map_of_mem member
  exact List.mem_filterMap.mp done

theorem Made.mem_of_call {exit : Exit} {call : Call} {m : Notification} {act : Closing}
    (made : Made calls sends cancelled ((exit.closings world n).map (n, ·)))
    (member : call ∈ calls) (closing : call.closing = some (m, act)) :
    act ∈ exit.closings world n := by
  have done : (m, act) ∈ (exit.closings world n).map (n, ·) := by
    rw [← made.done]
    exact List.mem_filterMap.mpr ⟨call, member, closing⟩
  obtain ⟨act', there, same⟩ := List.mem_map.mp done
  exact (Prod.mk.inj same).2 ▸ there

/-- Every exit behind the provider begins with the delivery log. -/
theorem logs_of_tried (world : Nat → Answer) (n : Notification) (j : Nat) (v : Retry.Verdict) :
    ∃ status errMsg deliveredAt,
      Closing.logDelivery status errMsg deliveredAt ∈ (Exit.tried j v).closings world n := by
  cases v <;> exact ⟨_, _, _, List.mem_cons_self⟩

theorem letter_of_tried (world : Nat → Answer) (n : Notification) (j : Nat)
    (failed : v ≠ .accepted) :
    ∃ reason errMsg, Closing.deadLetter reason errMsg ∈ (Exit.tried j v).closings world n := by
  cases v with
  | accepted => exact absurd rfl failed
  | permanent | exhausted | interrupted =>
      exact ⟨_, _, List.mem_cons_of_mem _ List.mem_cons_self⟩

/-- A count that is not negative is never narrowed to a larger one. -/
theorem int32_sub_one_eq_iff {a : Int} (positive : 1 ≤ a) (k : Nat) :
    int32 (a - 1) = a - 1 + k ↔ k = 0 ∧ a ≤ 2 ^ 31 := by
  simp only [int32, Int.bmod_def]
  omega

/-- The counts of the message are those of the run after one try, if they fit the columns. -/
theorem trueCounts_iff (positive : 1 ≤ msg.attempt)
    (made : Made calls sends cancelled (((Exit.tried j v).closings world n).map (n, ·))) :
    TrueCounts cfg msg calls ((j + 1 : Nat) : Int) ↔
      j = 0 ∧ msg.attempt ≤ 2 ^ 31 ∧
        (v ≠ .accepted → cfg.dlqEnabled = true → msg.attempt < 2 ^ 31) := by
  constructor
  · intro right
    obtain ⟨status, errMsg, deliveredAt, logged⟩ := logs_of_tried world n j v
    obtain ⟨call, member, closing⟩ := made.call_of_mem logged
    have count : int32 (msg.attempt - 1) = (msg.attempt - 1) + (((j + 1 : Nat) : Int) - 1) :=
      right.logged call member n status errMsg deliveredAt closing
    obtain ⟨rfl, small⟩ := (int32_sub_one_eq_iff positive j).mp (by omega)
    refine ⟨rfl, small, ?_⟩
    intro failed enabled
    obtain ⟨reason, errMsg, lettered⟩ := letter_of_tried world n 0 failed
    obtain ⟨call, member, closing⟩ := made.call_of_mem lettered
    have column : int32 msg.attempt = msg.attempt + ((0 + 1 : Nat) : Int) - 1 :=
      (right.lettered enabled call member n reason errMsg closing).2 0 0
    exact (int32_eq_self_iff positive).mp (by omega)
  · rintro ⟨rfl, small, fits⟩
    refine ⟨?_, ?_⟩
    · intro call member m status errMsg deliveredAt closing
      have column := (int32_sub_one_eq_iff positive 0).mpr ⟨rfl, small⟩
      simpa [logEntry] using column
    · intro enabled call member m reason errMsg closing
      have failed : v ≠ .accepted := by
        rintro rfl
        have none_ := Exit.reason_of_mem (made.mem_of_call member closing)
        cases none_
      have column : int32 msg.attempt = msg.attempt :=
        (int32_eq_self_iff positive).mpr (fits failed enabled)
      refine ⟨by simp [dlqEntry], ?_⟩
      intro id now
      simpa [deadLetterRow, DLQConsumer.domainMsg, dlqEntry] using column

end Counts

/-- When Process gets to its last step, the attempts it records are the real ones if and only
    if the loop ended with its first try, and they fit their columns: the retries that of the
    delivery log, and the attempt of a dead letter that of `dead_letter_messages`. -/
theorem counts_true_iff_first_try (cfg : Config) (msg : Message)
    (positive : 1 ≤ msg.attempt) (world : Nat → Answer) (sh : Shared)
    (sent : sendResults (process cfg msg world sh).calls ≠ []) :
    TrueCounts cfg msg (process cfg msg world sh).calls
        (sendResults (process cfg msg world sh).calls).length ↔
      ∃ n v, Reaches cfg msg world sh n (.tried 0 v) ∧ msg.attempt ≤ 2 ^ 31 ∧
        (v ≠ .accepted → cfg.dlqEnabled = true → msg.attempt < 2 ^ 31) := by
  rcases process_course cfg msg world sh with ⟨_, _, made⟩ | ⟨_, n, exit, reaches, made⟩
  · exact absurd made.sends sent
  · cases exit with
    | unwanted | limited | unrendered | unregistered => exact absurd made.sends sent
    | tried j v =>
        have count : (sendResults (process cfg msg world sh).calls).length = j + 1 := by
          simp [made.sends, answersTo, Exit.sends]
        rw [count, trueCounts_iff positive made]
        constructor
        · rintro ⟨rfl, fits⟩
          exact ⟨n, v, reaches, fits⟩
        · rintro ⟨m, v', first, fits⟩
          obtain ⟨rfl, same⟩ := reaches.unique first
          obtain ⟨rfl, rfl⟩ := Exit.tried.inj same
          exact ⟨rfl, fits⟩

/-- A provider that refuses for good, at the first try. -/
def refusal (call : Nat) : Answer :=
  if call = 5 then { fault := some ⟨"mailbox unknown", true⟩ } else {}

theorem refusal_counted :
    TrueCounts plain envelope (process plain envelope refusal queued).calls
      (sendResults (process plain envelope refusal queued).calls).length := by
  have found : ∃ row ∈ queued.db.notifications, row.id = envelope.notificationID ∧
      row.tenantID = some envelope.tenantID ∧ row.templateID = none := by
    decide +kernel
  obtain ⟨row, stored, same, owner, plainText⟩ := found
  refine (counts_true_iff_first_try plain envelope (by decide) refusal queued
    (by decide +kernel)).mpr
      ⟨dbNotificationToDomain row, .permanent, ⟨?_, ?_⟩, by decide, fun _ _ => by decide⟩
  · exact
      { found := ⟨row, stored, same, owner, rfl⟩, fetched := rfl, marked := rfl, asked := rfl,
        free := rfl, counted := fun _ => ⟨rfl, rfl⟩, rendered := fun _ => rfl, provider := rfl }
  · exact ⟨Retry.Loop.going_zero _, rfl⟩

/-- A provider that is busy, each time it is asked. -/
def busy (call : Nat) : Answer :=
  if call = 5 ∨ call = 7 ∨ call = 9 then { fault := some ⟨"busy", false⟩ } else {}

/-- Three attempts, all of them in vain: the log counts no retry and the dead letter one
    attempt. -/
theorem busy_miscounted :
    (sendResults (process plain envelope busy queued).calls).length = 3 ∧
      (process plain envelope busy queued).shared.logs.map (·.retryCount) = [0] ∧
      (process plain envelope busy queued).shared.dlq.map (·.lastAttempt) = [1] ∧
      ¬TrueCounts plain envelope (process plain envelope busy queued).calls 3 := by
  have run : (sendResults (process plain envelope busy queued).calls).length = 3 ∧
      (process plain envelope busy queued).shared.logs.map (·.retryCount) = [0] ∧
      (process plain envelope busy queued).shared.dlq.map (·.lastAttempt) = [1] ∧
      Closing.logDelivery .failed (some "busy") none ∈
        ((process plain envelope busy queued).calls.filterMap Call.closing).map (·.2) := by
    decide +kernel
  obtain ⟨thrice, logs, dlq, logged⟩ := run
  refine ⟨thrice, logs, dlq, ?_⟩
  intro right
  obtain ⟨⟨n, act⟩, made, rfl⟩ := List.mem_map.mp logged
  obtain ⟨call, member, closing⟩ := List.mem_filterMap.mp made
  have count := right.logged call member n _ _ _ closing
  simp [logEntry, envelope, int32] at count

end NotifyHub.Pipeline
