import NotifyHub.Lib.Trace
import NotifyHub.Lifecycle.Hands

/-! # What is said to be delivered

Three records say that a notification was delivered: its status, an entry of the delivery log and
a webhook. A Process call writes them one after another, on copies that may be old by then, and
each of the writes may fail. None of them is ever made for a notification that no provider has
accepted.
-/

namespace NotifyHub.Lifecycle

open Database NotificationRepository
open NotificationService hiding getByID list cancel

/-- The closing calls that say so. -/
def Closing.claims : Closing → Bool
  | .logDelivery status _ _ => status == .success
  | .deadLetter .. => false
  | .updateStatus status => status == .delivered
  | .dispatchWebhook event => event == webhookEventDelivered

/-- The notification that the rest of a Process call will say is delivered. -/
def Thread.claims : Thread → List UUID
  | .process _ _ (.closing n todo) => if todo.any Closing.claims then [n.id] else []
  | _ => []

/-- The notification that a provider accepts in this step. -/
def accepts (s : State) : Label → Option UUID
  | .step i a =>
      match s.threads[i]?, a.fault with
      | some (.process _ _ (.send n _)), none => some n.id
      | _, _ => none
  | _ => none

structure Honest (s : State) (accepted : List UUID) : Prop where
  rows : ∀ row ∈ s.shared.db.notifications, row.status = .delivered → row.id ∈ accepted
  logs : ∀ entry ∈ s.shared.logs, entry.status = .success → entry.notificationID ∈ accepted
  dispatches : ∀ dispatch ∈ s.shared.dispatches, dispatch.2 = webhookEventDelivered →
    dispatch.1 ∈ accepted
  threads : ∀ t ∈ s.threads, ∀ id ∈ t.claims, id ∈ accepted

section Claims

variable {cfg : Config} {i : Nat} {a : Answer} {s s' : State} {sh sh' : Shared} {t t' : Thread}
  {accepted : List UUID} {id : UUID}

theorem mem_claims_closing {offset : Nat} {msg : Message} {n : Notification} {todo : List Closing} :
    id ∈ (Thread.process offset msg (.closing n todo)).claims ↔
      todo.any Closing.claims = true ∧ id = n.id := by
  simp only [Thread.claims]
  split
  · rename_i some_
    simp [some_]
  · rename_i none_
    simp [none_]

/-- Only an accepted Send leads to the exit that says so. -/
theorem Onward.claims {offset : Nat} {msg : Message} {pc pc' : ProcessPc}
    (onward : Onward cfg a msg sh pc sh' pc')
    (member : id ∈ (Thread.process offset msg pc').claims) :
    id ∈ (Thread.process offset msg pc).claims ∨
      ∃ n attempt, pc = .send n attempt ∧ a.fault = none ∧ n.id = id := by
  cases onward with
  | sent accepted =>
      exact .inr ⟨_, _, rfl, accepted, (mem_claims_closing.mp member).2.symm⟩
  | unwanted | limited =>
      have said := (mem_claims_closing.mp member).1
      simp [dropClosing, Closing.claims, webhookEventDropped, webhookEventDelivered] at said
  | unsendable | gaveUp | interrupted =>
      have said := (mem_claims_closing.mp member).1
      simp [failClosing, Closing.claims, webhookEventFailed, webhookEventDelivered] at said
  | closing =>
      obtain ⟨said, same⟩ := mem_claims_closing.mp member
      exact .inl (mem_claims_closing.mpr ⟨by simp [said], same⟩)
  | unfetched | fetched | unprocessed | processing | unasked | wanted | uncounted | unlimited
  | rendered | unsent | waited | closed => simp [Thread.claims] at member

theorem Onward.logs {offset : Nat} {msg : Message} {pc pc' : ProcessPc}
    (onward : Onward cfg a msg sh pc sh' pc') {entry : DeliveryLog} (member : entry ∈ sh'.logs)
    (success : entry.status = .success) :
    entry ∈ sh.logs ∨ entry.notificationID ∈ (Thread.process offset msg pc).claims := by
  cases onward with
  | @closing n act todo =>
      cases act with
      | logDelivery status errMsg deliveredAt =>
          simp only [closingStep] at member
          split at member
          · exact .inl member
          · rcases List.mem_append.mp member with old | new
            · exact .inl old
            · obtain rfl := List.mem_singleton.mp new
              obtain rfl : status = .success := success
              exact .inr (mem_claims_closing.mpr ⟨rfl, rfl⟩)
      | deadLetter | updateStatus =>
          simp only [closingStep] at member
          split at member <;> exact .inl member
      | dispatchWebhook => exact .inl member
  | unfetched | fetched | unprocessed | processing | unasked | unwanted | wanted | uncounted
  | limited | unlimited | unsendable | rendered | sent | gaveUp | unsent | interrupted | waited
  | closed => exact .inl member

theorem Onward.dispatches {offset : Nat} {msg : Message} {pc pc' : ProcessPc}
    (onward : Onward cfg a msg sh pc sh' pc') {dispatch : UUID × String}
    (member : dispatch ∈ sh'.dispatches) (delivered : dispatch.2 = webhookEventDelivered) :
    dispatch ∈ sh.dispatches ∨ dispatch.1 ∈ (Thread.process offset msg pc).claims := by
  cases onward with
  | @closing n act todo =>
      cases act with
      | dispatchWebhook event =>
          rcases List.mem_append.mp member with old | new
          · exact .inl old
          · obtain rfl := List.mem_singleton.mp new
            obtain rfl : event = webhookEventDelivered := delivered
            exact .inr (mem_claims_closing.mpr ⟨by simp [Closing.claims], rfl⟩)
      | logDelivery | deadLetter | updateStatus =>
          simp only [closingStep] at member
          split at member <;> exact .inl member
  | unfetched | fetched | unprocessed | processing | unasked | unwanted | wanted | uncounted
  | limited | unlimited | unsendable | rendered | sent | gaveUp | unsent | interrupted | waited
  | closed => exact .inl member

/-- A row becomes delivered by a thread that says so. -/
theorem Move.delivered (move : Move cfg i a sh t sh' t') {row : NotificationRow}
    (stored : row ∈ sh'.db.notifications) (delivered : row.status = .delivered) :
    (∃ old ∈ sh.db.notifications, old.id = row.id ∧ old.status = .delivered) ∨
      row.id ∈ t.claims := by
  rcases move.row_origin stored with old | ⟨inserts, _⟩ | ⟨n, status, old, writes, _, _, same, rfl⟩
  · exact .inl ⟨row, old, rfl, delivered⟩
  · have pending := inserts.pending.symm.trans delivered
    cases pending
  · obtain rfl : status = .delivered := delivered
    cases writes with
    | settled => exact .inr (mem_claims_closing.mpr ⟨by simp [Closing.claims], same⟩)

theorem claims_of_produces (produces : t.Produces) : t.claims = [] := by
  cases t with
  | send | tick => rfl
  | process => exact produces.elim

theorem Honest.mono (inv : Honest s accepted) (more : List UUID) : Honest s (accepted ++ more) where
  rows row stored delivered := List.mem_append_left _ (inv.rows row stored delivered)
  logs entry member success := List.mem_append_left _ (inv.logs entry member success)
  dispatches d member delivered := List.mem_append_left _ (inv.dispatches d member delivered)
  threads t member id said := List.mem_append_left _ (inv.threads t member id said)

theorem Honest.moved (inv : Honest s accepted) (running : s.threads[i]? = some t)
    (taken : t.step cfg i a s.shared = some (sh, t')) :
    Honest ⟨sh, s.threads.set i t'⟩ (accepted ++ (accepts s (.step i a)).toList) := by
  have said : ∀ id ∈ t.claims, id ∈ accepted := inv.threads t (List.mem_of_getElem? running)
  have rows : ∀ row ∈ sh.db.notifications, row.status = .delivered → row.id ∈ accepted := by
    intro row stored delivered
    rcases (Thread.step_move taken).delivered stored delivered with ⟨old, before, same, was⟩ | new
    · exact same ▸ inv.rows old before was
    · exact said row.id new
  rcases Thread.step_cases taken with ⟨_, after, unworked⟩ | ⟨offset, msg, pc, pc', rfl, rfl, onward⟩
  · have quiet : Honest ⟨sh, s.threads.set i t'⟩ accepted := by
      refine ⟨rows, ?_, ?_, ?_⟩
      · rw [unworked.logs]
        exact inv.logs
      · rw [unworked.dispatches]
        exact inv.dispatches
      · intro x member
        rcases Threads.mem_set member with rfl | old
        · simp [claims_of_produces after]
        · exact inv.threads x old
    exact quiet.mono _
  · refine ⟨fun row stored delivered => List.mem_append_left _ (rows row stored delivered),
      ?_, ?_, ?_⟩
    · intro entry member success
      rcases onward.logs member success with old | new
      · exact List.mem_append_left _ (inv.logs entry old success)
      · exact List.mem_append_left _ (said _ new)
    · intro dispatch member delivered
      rcases onward.dispatches member delivered with old | new
      · exact List.mem_append_left _ (inv.dispatches dispatch old delivered)
      · exact List.mem_append_left _ (said _ new)
    · intro x member id claimed
      rcases Threads.mem_set member with rfl | old
      · rcases onward.claims claimed with earlier | ⟨n, attempt, rfl, none_, rfl⟩
        · exact List.mem_append_left _ (said id earlier)
        · exact List.mem_append_right _ (by simp [accepts, running, none_])
      · exact List.mem_append_left _ (inv.threads x old id claimed)

theorem Honest.started (inv : Honest s accepted) (same : sh.db = s.shared.db)
    (logs : sh.logs = s.shared.logs) (dispatches : sh.dispatches = s.shared.dispatches)
    (silent : t.claims = []) : Honest ⟨sh, s.threads ++ [t]⟩ accepted := by
  refine ⟨?_, ?_, ?_, ?_⟩
  · rw [same]
    exact inv.rows
  · rw [logs]
    exact inv.logs
  · rw [dispatches]
    exact inv.dispatches
  · intro x member
    rcases List.mem_append.mp member with old | new
    · exact inv.threads x old
    · simp [List.mem_singleton.mp new, silent]

theorem honest_step {label : Label} (inv : Honest s accepted)
    (taken : step cfg s label = some s') :
    Honest s' (accepted ++ (accepts s label).toList) := by
  cases step_steps taken with
  | stay => exact inv.mono _
  | start outside fresh =>
      refine (inv.started rfl rfl rfl ?_).mono _
      cases fresh with
      | call | bulk | tick => rfl
  | deliver stored =>
      apply Honest.mono
      apply inv.started <;> rfl
  | cancelled updated =>
      obtain ⟨_, _, _, _, rfl⟩ := cancel_ok updated
      apply Honest.mono
      refine ⟨?_, inv.logs, inv.dispatches, inv.threads⟩
      intro row stored delivered
      obtain ⟨old, before, rfl⟩ := Rows.mem_updateWhere.mp stored
      split at delivered
      · cases delivered
      · rename_i missed
        simp only [missed]
        exact inv.rows old before delivered
  | replayed stored =>
      apply Honest.mono
      exact ⟨inv.rows, inv.logs, inv.dispatches, inv.threads⟩
  | moved =>
      obtain ⟨t, sh, t', running, onward, same⟩ := step_thread taken
      rw [same]
      exact inv.moved running onward

end Claims

/-- In every run, whatever status, delivery log and webhooks say was delivered has been accepted
    by a provider before. -/
theorem delivered_means_accepted (cfg : Config) (db : Database) (labels : List Label) (s : State)
    (accepted : List UUID)
    (finished : Transition.run (Trace.recorded (step cfg) accepts) (initial db, []) labels =
      some (s, accepted)) :
    (∀ row ∈ s.shared.db.notifications, row.status = .delivered → row.id ∈ accepted) ∧
      (∀ entry ∈ s.shared.logs, entry.status = .success → entry.notificationID ∈ accepted) ∧
      ∀ dispatch ∈ s.shared.dispatches, dispatch.2 = webhookEventDelivered →
        dispatch.1 ∈ accepted := by
  have keeps : ∀ (p : State × List UUID) label next, Honest p.1 p.2 →
      Trace.recorded (step cfg) accepts p label = some next → Honest next.1 next.2 := by
    intro p label next inv taken
    obtain ⟨s', stepped, rfl⟩ := Trace.recorded_some taken
    exact honest_step inv stepped
  have start : Honest (initial db) [] :=
    ⟨by simp [initial, withoutNotifications], by simp [initial], by simp [initial],
      by simp [initial]⟩
  have inv : Honest s accepted :=
    @Transition.run_invariant _ _ _ (fun p => Honest p.1 p.2) keeps _ _ _ start finished
  exact ⟨inv.rows, inv.logs, inv.dispatches⟩

theorem welcome_accepted :
    ∃ s accepted,
      Transition.run (Trace.recorded (step plain) accepts) (deployed, [])
        ([.call acme welcome] ++ steps 0 5 ++ [.deliver 0] ++ steps 1 10) = some (s, accepted) ∧
      statusOf s.shared.db 0 = some .delivered ∧ accepted = [0] ∧
      ∀ row ∈ s.shared.db.notifications, row.status = .delivered → row.id ∈ accepted := by
  obtain ⟨⟨s, accepted⟩, finished, delivered, once⟩ :
      ∃ p ∈ Transition.run (Trace.recorded (step plain) accepts) (deployed, [])
        ([.call acme welcome] ++ steps 0 5 ++ [.deliver 0] ++ steps 1 10),
        statusOf p.1.shared.db 0 = some .delivered ∧ p.2 = [0] := by decide +kernel
  exact ⟨s, accepted, finished, delivered, once,
    (delivered_means_accepted plain _ _ s accepted finished).1⟩

end NotifyHub.Lifecycle
