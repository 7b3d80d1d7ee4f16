import NotifyHub.Lib.Trace
import NotifyHub.Pipeline.Course
import NotifyHub.Pipeline.FrequencyCap

/-! # The counter of processed notifications

Process counts every call in NotifProcessed, in a deferred function that reads the
variable `outcome` when the call returns. The variable starts as delivered, and the
returns with an error come before anything else is assigned to it.
-/

namespace NotifyHub.Pipeline

open Lifecycle NotificationRepository

/-- The values of `outcome`: StatusDelivered, StatusFailed, StatusDroppedPref and
    StatusDroppedRateLim. -/
inductive Outcome where
  | delivered
  | failed
  | droppedPref
  | droppedRateLim
  deriving Repr, DecidableEq

def Outcome.label : Outcome → String
  | .delivered => "delivered"
  | .failed => "failed"
  | .droppedPref => "dropped_pref"
  | .droppedRateLim => "dropped_ratelimit"

/-! ## The variable -/

/-- The assignments to `outcome`, at the calls after which they are made. What `deliver`
    returns is assigned when its closing calls are done, and nothing comes in between. -/
def assign (cfg : Config) (msg : Message) (outcome : Outcome) (call : Call) : Outcome :=
  match call.pc, call.answer.fault, call.answer.block with
  | .preference _, none, some _ => .droppedPref
  | .rateLimit n, none, some _ => if 0 < cfg.rateCap n.channel then .droppedRateLim else outcome
  | .render n, fault, _ =>
      if n.templateID.isSome && fault.isSome || (cfg.registry n.channel).isNone then .failed
      else outcome
  | .send _ _, none, _ => .delivered
  | .send _ attempt, some f, _ =>
      if f.permanent || decide (msg.maxAttempts ≤ attempt) then .failed else outcome
  | .backoff _ _, some _, _ => .failed
  | _, _, _ => outcome

def outcomeOf (cfg : Config) (msg : Message) (calls : List Call) : Outcome :=
  calls.foldl (assign cfg msg) .delivered

/-- The labels with which the counter is increased, call by call. -/
def notifProcessed (cfg : Config) (calls : List (Message × Progress)) : List (String × String) :=
  calls.map fun entry => (entry.1.channel.text, (outcomeOf cfg entry.1 entry.2.calls).label)

/-! ## What happened -/

/-- The outcome that a call brings about: the provider accepts, the notification is closed
    as failed, or a check drops it. -/
def Call.ends (cfg : Config) (call : Call) : Option Outcome :=
  match call.pc, call.answer.fault, call.answer.block with
  | .preference _, none, some _ => some .droppedPref
  | .rateLimit n, none, some _ =>
      if 0 < cfg.rateCap n.channel then some .droppedRateLim else none
  | .send _ _, none, _ => some .delivered
  | .closing _ (.updateStatus .failed :: _), _, _ => some .failed
  | _, _, _ => none

def ended (cfg : Config) (calls : List Call) (outcome : Outcome) : Bool :=
  calls.any fun call => call.ends cfg == some outcome

/-- Every counter has been increased once for each call that ended as it says. -/
def CountsWhatHappened (cfg : Config) (calls : List (Message × Progress)) : Prop :=
  ∀ channel outcome,
    (notifProcessed cfg calls).count (channel, outcome.label) =
      calls.countP fun entry =>
        decide (entry.1.channel.text = channel) && ended cfg entry.2.calls outcome

/-! ## The variable along a call -/

section Along

variable {cfg : Config} {msg : Message} {calls : List Call} {call : Call} {o : Progress}

theorem outcomeOf_append : outcomeOf cfg msg (calls ++ [call]) =
    assign cfg msg (outcomeOf cfg msg calls) call := by
  simp [outcomeOf]

theorem ended_append (outcome : Outcome) : ended cfg (calls ++ [call]) outcome =
    (ended cfg calls outcome || call.ends cfg == some outcome) := by
  simp [ended]

/-- The variable has its first value, and nothing has happened. -/
structure Fresh (cfg : Config) (msg : Message) (calls : List Call) : Prop where
  preset : outcomeOf cfg msg calls = .delivered
  nothing : ∀ outcome, ended cfg calls outcome = false

/-- The notification is going to be marked as failed. -/
def failing (todo : List Closing) : Bool := (closingStatuses todo).contains .failed

/-- From an exit on the variable tells what happens. -/
def Labelled (cfg : Config) (msg : Message) (calls : List Call) : ProcessPc → Prop
  | .closing _ todo =>
      ∀ outcome, (ended cfg calls outcome || outcome == .failed && failing todo) =
        (outcome == outcomeOf cfg msg calls)
  | .returned none => ∀ outcome, ended cfg calls outcome = (outcome == outcomeOf cfg msg calls)
  | .fetch | .markProcessing _ | .preference _ | .rateLimit _ | .render _ | .send .. | .backoff ..
  | .returned (some _) => Fresh cfg msg calls

theorem Fresh.next (fresh : Fresh cfg msg calls)
    (assigns : assign cfg msg .delivered call = .delivered) (ends : call.ends cfg = none) :
    Fresh cfg msg (calls ++ [call]) := by
  refine ⟨?_, ?_⟩
  · rw [outcomeOf_append, fresh.preset, assigns]
  · intro outcome
    simp [ended_append, fresh.nothing, ends]

theorem Fresh.happens {n : Notification} {todo : List Closing} (fresh : Fresh cfg msg calls)
    (outcome : Outcome) (assigns : assign cfg msg .delivered call = outcome)
    (ends : call.ends cfg = some outcome) (passing : failing todo = false) :
    Labelled cfg msg (calls ++ [call]) (.closing n todo) := by
  intro other
  rw [outcomeOf_append, fresh.preset, assigns, ended_append, fresh.nothing, ends, passing]
  cases other <;> cases outcome <;> rfl

theorem Fresh.failed {n : Notification} {reason errMsg : String} (fresh : Fresh cfg msg calls)
    (assigns : assign cfg msg .delivered call = .failed) (ends : call.ends cfg = none) :
    Labelled cfg msg (calls ++ [call]) (.closing n (failClosing reason errMsg)) := by
  intro other
  rw [outcomeOf_append, fresh.preset, assigns, ended_append, fresh.nothing, ends]
  cases other <;> rfl

theorem labelled_preference {n : Notification} {a : Answer} {shared : Shared}
    (fresh : Fresh cfg msg calls) :
    Labelled cfg msg (calls ++ [⟨.preference n, a⟩])
      (processStep cfg a msg shared (.preference n)).2 := by
  simp only [processStep]
  cases fault : a.fault with
  | some f => exact fresh.next (by simp [assign, fault]) (by simp [Call.ends, fault])
  | none =>
      cases block : a.block with
      | some reason =>
          exact fresh.happens .droppedPref (by simp [assign, fault, block])
            (by simp [Call.ends, fault, block]) rfl
      | none => exact fresh.next (by simp [assign, fault, block]) (by simp [Call.ends, fault, block])

theorem labelled_rateLimit {n : Notification} {a : Answer} {shared : Shared}
    (fresh : Fresh cfg msg calls) :
    Labelled cfg msg (calls ++ [⟨.rateLimit n, a⟩])
      (processStep cfg a msg shared (.rateLimit n)).2 := by
  simp only [processStep]
  by_cases capped : 0 < cfg.rateCap n.channel
  · simp only [capped, if_true]
    cases fault : a.fault with
    | some f => exact fresh.next (by simp [assign, fault]) (by simp [Call.ends, fault])
    | none =>
        cases block : a.block with
        | some reason =>
            exact fresh.happens .droppedRateLim (by simp [assign, fault, block, capped])
              (by simp [Call.ends, fault, block, capped]) rfl
        | none =>
            exact fresh.next (by simp [assign, fault, block]) (by simp [Call.ends, fault, block])
  · simp only [capped, if_false]
    refine fresh.next ?_ ?_
    · cases fault : a.fault <;> cases block : a.block <;> simp [assign, fault, block, capped]
    · cases fault : a.fault <;> cases block : a.block <;> simp [Call.ends, fault, block, capped]

theorem labelled_render {n : Notification} {a : Answer} {shared : Shared}
    (fresh : Fresh cfg msg calls) :
    Labelled cfg msg (calls ++ [⟨.render n, a⟩]) (processStep cfg a msg shared (.render n)).2 := by
  have ends : Call.ends cfg ⟨.render n, a⟩ = none := by simp [Call.ends]
  simp only [processStep]
  split
  · rename_i template failed
    exact fresh.failed (by simp [assign, template, failed]) ends
  · rename_i fine
    cases provider : cfg.registry n.channel with
    | none => exact fresh.failed (by simp [assign, provider]) ends
    | some name =>
        refine fresh.next ?_ ends
        cases template : n.templateID with
        | none => simp [assign, provider, template]
        | some id =>
            cases fault : a.fault with
            | none => simp [assign, provider, fault]
            | some f => exact absurd fault (fine id f template)

theorem labelled_send {n : Notification} {attempt : Int} {a : Answer} {shared : Shared}
    (fresh : Fresh cfg msg calls) :
    Labelled cfg msg (calls ++ [⟨.send n attempt, a⟩])
      (processStep cfg a msg shared (.send n attempt)).2 := by
  simp only [processStep]
  cases fault : a.fault with
  | none => exact fresh.happens .delivered (by simp [assign, fault]) (by simp [Call.ends, fault]) rfl
  | some f =>
      have ends : Call.ends cfg ⟨.send n attempt, a⟩ = none := by simp [Call.ends, fault]
      simp only
      split
      · rename_i permanent
        exact fresh.failed (by simp [assign, fault, permanent]) ends
      · rename_i passing
        split
        · rename_i last
          exact fresh.failed (by simp [assign, fault, last]) ends
        · rename_i left
          exact fresh.next (by simp [assign, fault, passing, left]) ends

theorem labelled_backoff {n : Notification} {attempt : Int} {a : Answer} {shared : Shared}
    (fresh : Fresh cfg msg calls) :
    Labelled cfg msg (calls ++ [⟨.backoff n attempt, a⟩])
      (processStep cfg a msg shared (.backoff n attempt)).2 := by
  have ends : Call.ends cfg ⟨.backoff n attempt, a⟩ = none := by simp [Call.ends]
  simp only [processStep]
  cases fault : a.fault with
  | some f => exact fresh.failed (by simp [assign, fault]) ends
  | none => exact fresh.next (by simp [assign, fault]) ends

theorem labelled_closing {n : Notification} {todo : List Closing} {a : Answer} {shared : Shared}
    (labelled : Labelled cfg msg calls (.closing n todo)) :
    Labelled cfg msg (calls ++ [⟨.closing n todo, a⟩])
      (processStep cfg a msg shared (.closing n todo)).2 := by
  have kept : outcomeOf cfg msg (calls ++ [⟨.closing n todo, a⟩]) = outcomeOf cfg msg calls := by
    simp [outcomeOf_append, assign]
  cases todo with
  | nil =>
      intro outcome
      rw [kept, ← labelled outcome, ended_append]
      simp [Call.ends, failing, closingStatuses]
  | cons act todo =>
      intro outcome
      rw [kept, ← labelled outcome, ended_append, Bool.or_assoc]
      congr 1
      -- the write of the status is the call that ends as failed
      cases act with
      | updateStatus status => cases status <;> cases outcome <;> rfl
      | logDelivery | deadLetter | dispatchWebhook => cases outcome <;> rfl

theorem labelled_next (labelled : Labelled cfg msg o.calls o.pc) (running : o.result = none)
    (a : Answer) : Labelled cfg msg (o.next cfg msg a).calls (o.next cfg msg a).pc := by
  obtain ⟨shared, pc, calls⟩ := o
  simp only [Progress.next]
  cases pc with
  | fetch =>
      have fresh : Fresh cfg msg (calls ++ [⟨.fetch, a⟩]) :=
        Fresh.next labelled (by simp [assign]) (by simp [Call.ends])
      simp only [processStep]
      split <;> exact fresh
  | markProcessing n =>
      have fresh : Fresh cfg msg (calls ++ [⟨.markProcessing n, a⟩]) :=
        Fresh.next labelled (by simp [assign]) (by simp [Call.ends])
      simp only [processStep]
      split <;> exact fresh
  | preference n => exact labelled_preference labelled
  | rateLimit n => exact labelled_rateLimit labelled
  | render n => exact labelled_render labelled
  | send n attempt => exact labelled_send labelled
  | backoff n attempt => exact labelled_backoff labelled
  | closing n todo => exact labelled_closing labelled
  | returned err => simp [Progress.result] at running

end Along

theorem process_labelled (cfg : Config) (msg : Message) (world : Nat → Answer) (sh : Shared) :
    Labelled cfg msg (process cfg msg world sh).calls (process cfg msg world sh).pc :=
  process_invariant (fun o => Labelled cfg msg o.calls o.pc) ⟨rfl, fun _ => rfl⟩
    fun _ a labelled running => labelled_next labelled running a

/-- One call is counted for what it was, unless it returned an error: then nothing has
    happened, and it is counted as delivered. -/
theorem counted_right_iff_answered (cfg : Config) (msg : Message) (world : Nat → Answer)
    (sh : Shared) :
    (∀ outcome, ended cfg (process cfg msg world sh).calls outcome =
        (outcome == outcomeOf cfg msg (process cfg msg world sh).calls)) ↔
      Answered cfg msg world sh := by
  rw [← returns_nil_iff]
  have labelled := process_labelled cfg msg world sh
  obtain ⟨err, returned⟩ := process_returns cfg msg world sh
  generalize process cfg msg world sh = o at labelled returned ⊢
  obtain ⟨shared, pc, calls⟩ := o
  cases pc with
  | returned err =>
      cases err with
      | none => exact ⟨fun _ => rfl, fun _ => labelled⟩
      | some e =>
          constructor
          · intro right
            have delivered := right .delivered
            simp [labelled.preset, labelled.nothing] at delivered
          · intro nil_
            simp [Progress.result] at nil_
  | fetch | markProcessing | preference | rateLimit | render | send | backoff | closing =>
      simp [Progress.result] at returned

/-! ## A sequence of calls -/

theorem Outcome.label_injective : Function.Injective Outcome.label := by
  intro first second same
  cases first <;> cases second <;> first | rfl | simp [Outcome.label] at same

theorem count_notifProcessed (cfg : Config) (calls : List (Message × Progress)) (channel : String)
    (outcome : Outcome) :
    (notifProcessed cfg calls).count (channel, outcome.label) =
      calls.countP fun entry => decide (entry.1.channel.text = channel) &&
        (outcome == outcomeOf cfg entry.1 entry.2.calls) := by
  rw [notifProcessed, List.count_eq_countP, List.countP_map]
  refine List.countP_congr ?_
  intro entry _
  simp only [Function.comp_apply, beq_iff_eq, Prod.mk.injEq, Outcome.label_injective.eq_iff,
    Bool.and_eq_true, decide_eq_true_eq]
  exact and_congr_right fun _ => eq_comm

/-- The call is counted for what it was. -/
def RightlyCounted (cfg : Config) (entry : Message × Progress) : Prop :=
  ∀ outcome, ended cfg entry.2.calls outcome = (outcome == outcomeOf cfg entry.1 entry.2.calls)

/-- The counter never misses what happened. -/
theorem counted_of_ended (cfg : Config) (msg : Message) (world : Nat → Answer) (sh : Shared)
    {outcome : Outcome} (happened : ended cfg (process cfg msg world sh).calls outcome = true) :
    (outcome == outcomeOf cfg msg (process cfg msg world sh).calls) = true := by
  have labelled := process_labelled cfg msg world sh
  obtain ⟨err, returned⟩ := process_returns cfg msg world sh
  generalize process cfg msg world sh = o at labelled returned happened ⊢
  obtain ⟨shared, pc, calls⟩ := o
  cases pc with
  | returned err =>
      cases err with
      | none => rw [← labelled outcome, happened]
      | some e => simp [labelled.nothing] at happened
  | fetch | markProcessing | preference | rateLimit | render | send | backoff | closing =>
      simp [Progress.result] at returned

theorem process_of_mem_history {cfg : Config} {sh : Shared} {deliveries : List Delivery}
    {entry : Message × Progress} (member : entry ∈ history cfg sh deliveries) :
    ∃ world before, entry.2 = process cfg entry.1 world before := by
  induction deliveries generalizing sh with
  | nil => simp [history] at member
  | cons d rest ih =>
      rcases List.mem_cons.mp member with rfl | later
      · exact ⟨d.world, sh, rfl⟩
      · exact ih later

theorem counts_iff_each {cfg : Config} {sh : Shared} {deliveries : List Delivery} :
    CountsWhatHappened cfg (history cfg sh deliveries) ↔
      ∀ entry ∈ history cfg sh deliveries, RightlyCounted cfg entry := by
  have complete : ∀ entry ∈ history cfg sh deliveries, ∀ outcome,
      ended cfg entry.2.calls outcome = true →
        (outcome == outcomeOf cfg entry.1 entry.2.calls) = true := by
    intro entry member outcome happened
    obtain ⟨world, before, same⟩ := process_of_mem_history member
    rw [same] at happened ⊢
    exact counted_of_ended cfg entry.1 world before happened
  have each : ∀ channel outcome,
      ((notifProcessed cfg (history cfg sh deliveries)).count (channel, outcome.label) =
        (history cfg sh deliveries).countP fun entry =>
          decide (entry.1.channel.text = channel) && ended cfg entry.2.calls outcome) ↔
      ∀ entry ∈ history cfg sh deliveries,
        (decide (entry.1.channel.text = channel) &&
          (outcome == outcomeOf cfg entry.1 entry.2.calls)) = true →
        (decide (entry.1.channel.text = channel) && ended cfg entry.2.calls outcome) = true := by
    intro channel outcome
    rw [count_notifProcessed]
    refine Trace.countP_eq_countP_iff ?_
    intro entry member both
    rw [Bool.and_eq_true] at both ⊢
    exact ⟨both.1, complete entry member outcome both.2⟩
  unfold CountsWhatHappened
  simp only [each]
  constructor
  · intro right entry member outcome
    have counted := right entry.1.channel.text outcome entry member
    simp only [decide_true, Bool.true_and] at counted
    exact Bool.eq_iff_iff.mpr ⟨complete entry member outcome, counted⟩
  · intro right channel outcome entry member both
    rwa [right entry member outcome]

/-- Every call of the sequence gets the answers without which it returns an error. -/
def AllAnswered (cfg : Config) : Shared → List Delivery → Prop
  | _, [] => True
  | sh, d :: rest =>
      Answered cfg d.msg d.world sh ∧ AllAnswered cfg (process cfg d.msg d.world sh).shared rest

/-- The counters tell what happened in a sequence of calls if and only if none of them meets
    an infrastructure error. -/
theorem metrics_right_iff_all_answered (cfg : Config) (sh : Shared) (deliveries : List Delivery) :
    CountsWhatHappened cfg (history cfg sh deliveries) ↔ AllAnswered cfg sh deliveries := by
  rw [counts_iff_each]
  induction deliveries generalizing sh with
  | nil => simp [history, AllAnswered]
  | cons d rest ih =>
      rw [history, List.forall_mem_cons, ih, AllAnswered]
      exact and_congr_left fun _ => counted_right_iff_answered cfg d.msg d.world sh

/-- The database does not answer the fetch. -/
def outage (call : Nat) : Answer :=
  if call = 0 then { fault := some ⟨"connection refused", false⟩ } else {}

/-- One call that returns an error and never gets to a provider: it is counted as delivered. -/
theorem outage_counted_delivered :
    (history plain queued [⟨envelope, outage⟩]).map (fun entry => sendResults entry.2.calls) = [[]] ∧
      (history plain queued [⟨envelope, outage⟩]).map (fun entry => entry.2.result) =
        [some (some (.wrap "fetch notification" (.app (newInternalError
          "failed to get notification"))))] ∧
      notifProcessed plain (history plain queued [⟨envelope, outage⟩]) = [("email", "delivered")] ∧
      ¬CountsWhatHappened plain (history plain queued [⟨envelope, outage⟩]) := by
  refine ⟨by decide +kernel, by decide +kernel, by decide +kernel, ?_⟩
  intro right
  have wrong : (notifProcessed plain (history plain queued [⟨envelope, outage⟩])).count
      ("email", Outcome.label .delivered) ≠
        (history plain queued [⟨envelope, outage⟩]).countP fun entry =>
          decide (entry.1.channel.text = "email") && ended plain entry.2.calls .delivered := by
    decide +kernel
  exact wrong (right "email" .delivered)

end NotifyHub.Pipeline
