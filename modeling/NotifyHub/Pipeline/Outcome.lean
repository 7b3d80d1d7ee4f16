import NotifyHub.Pipeline.Process

/-! # How a call of Process ends

Each exit of the pipeline is a list of closing calls: a delivery log, at most one
dead letter, a terminal status and a webhook event. `Closed` counts what has been
done together with what is left to do, so it is the same along the whole list.

Errors of the closing calls are logged only. If they succeed, the effects of a call
agree with each other and with what it returns.
-/

namespace NotifyHub.Pipeline

open Lifecycle NotificationRepository

/-! ## The exits -/

def Closing.log : Closing → Option DeliveryStatus
  | .logDelivery status _ _ => some status
  | .deadLetter .. | .updateStatus _ | .dispatchWebhook _ => none

def Closing.letter : Closing → Option String
  | .deadLetter reason _ => some reason
  | .logDelivery .. | .updateStatus _ | .dispatchWebhook _ => none

def Closing.event : Closing → Option String
  | .dispatchWebhook event => some event
  | .logDelivery .. | .deadLetter .. | .updateStatus _ => none

/-- What the log, the dead letters and the webhook say about a terminal status. -/
def logStatus (status : NotificationStatus) : DeliveryStatus :=
  if status = .delivered then .success else .failed

def letters (status : NotificationStatus) : Nat := if status = .failed then 1 else 0

def eventName (status : NotificationStatus) : String := "notification." ++ status.text

/-- Done so far and left to do, together: one log, one event, one status, and a dead
    letter for a failure. -/
structure Closed (old : Shared) (msg : Message) (status : NotificationStatus)
    (todo : List Closing) (sh : Shared) : Prop where
  logs : ∃ added, sh.logs = old.logs ++ added ∧
    added.map (·.status) ++ todo.filterMap Closing.log = [logStatus status] ∧
    ∀ log ∈ added, log.notificationID = msg.notificationID
  dlq : ∃ added, sh.dlq = old.dlq ++ added ∧
    added.length + (todo.filterMap Closing.letter).length = letters status ∧
    ∀ d ∈ added, d.original = msg
  dispatches : ∃ added, sh.dispatches = old.dispatches ++ added ∧
    added ++ (todo.filterMap Closing.event).map (msg.notificationID, ·) =
      [(msg.notificationID, eventName status)]
  status : closingStatuses todo = [status] ∧ Holds sh.db msg.notificationID .processing ∨
    closingStatuses todo = [] ∧ Holds sh.db msg.notificationID status

/-- Neither logged nor dead-lettered nor announced. -/
structure Silent (old new : Shared) : Prop where
  logs : new.logs = old.logs
  dlq : new.dlq = old.dlq
  dispatches : new.dispatches = old.dispatches

theorem Silent.refl (sh : Shared) : Silent sh sh := ⟨rfl, rfl, rfl⟩

theorem append_one {ε : Type} {old new added : List ε} (grown : new = old ++ added) (x : ε) :
    new ++ [x] = old ++ (added ++ [x]) := by
  rw [grown, List.append_assoc]

section Closing

variable {old sh : Shared} {msg : Message} {n : Notification} {status : NotificationStatus}
  {todo : List Closing} {act : Closing} {cfg : Config} {a : Answer}

theorem Closed.start (silent : Silent old sh)
    (holds : Holds sh.db msg.notificationID .processing)
    (statuses : closingStatuses todo = [status])
    (logs : todo.filterMap Closing.log = [logStatus status])
    (letters_ : (todo.filterMap Closing.letter).length = letters status)
    (events : todo.filterMap Closing.event = [eventName status]) :
    Closed old msg status todo sh := by
  refine ⟨⟨[], ?_, ?_, ?_⟩, ⟨[], ?_, ?_, ?_⟩, ⟨[], ?_, ?_⟩, .inl ⟨statuses, holds⟩⟩
  · simp [silent.logs]
  · simpa using logs
  · simp
  · simp [silent.dlq]
  · simpa using letters_
  · simp
  · simp [silent.dispatches]
  · simp [events]

theorem Closed.drop (silent : Silent old sh)
    (holds : Holds sh.db msg.notificationID .processing) (reason : String) :
    Closed old msg .dropped (dropClosing reason) sh :=
  .start silent holds rfl rfl rfl rfl

theorem Closed.fail (silent : Silent old sh)
    (holds : Holds sh.db msg.notificationID .processing) (reason errMsg : String) :
    Closed old msg .failed (failClosing reason errMsg) sh :=
  .start silent holds rfl rfl rfl rfl

theorem Closed.deliver (silent : Silent old sh)
    (holds : Holds sh.db msg.notificationID .processing) (now : Time) :
    Closed old msg .delivered (deliverClosing now) sh :=
  .start silent holds rfl rfl rfl rfl

/-- One closing call that succeeds. -/
theorem Closed.step (closed : Closed old msg status (act :: todo) sh)
    (same : n.id = msg.notificationID) (enabled : cfg.dlqEnabled = true)
    (succeeds : a.fault = none) : Closed old msg status todo (closingStep cfg a msg n sh act) := by
  obtain ⟨⟨logs, logsEq, logsAll, logsOwn⟩, ⟨dlq, dlqEq, dlqAll, dlqOwn⟩,
    ⟨events, eventsEq, eventsAll⟩, written⟩ := closed
  cases act with
  | logDelivery logged errMsg deliveredAt =>
      simp only [closingStep, succeeds]
      refine ⟨⟨_, append_one logsEq _, ?_, ?_⟩, ⟨dlq, dlqEq, dlqAll, dlqOwn⟩,
        ⟨events, eventsEq, eventsAll⟩, written⟩
      · simpa [Closing.log] using logsAll
      · exact List.forall_mem_append.mpr ⟨logsOwn, List.forall_mem_singleton.mpr same⟩
  | deadLetter reason errMsg =>
      simp only [closingStep, succeeds, enabled]
      refine ⟨⟨logs, logsEq, logsAll, logsOwn⟩,
        ⟨_, append_one dlqEq _, ?_, ?_⟩, ⟨events, eventsEq, eventsAll⟩, written⟩
      · simp only [List.filterMap_cons, Closing.letter, List.length_cons] at dlqAll
        simp only [List.length_append, List.length_singleton]
        omega
      · exact List.forall_mem_append.mpr ⟨dlqOwn, List.forall_mem_singleton.mpr rfl⟩
  | updateStatus next =>
      have up : a.conn = .up := by simp [Answer.conn, succeeds]
      have held : ∃ before, Holds sh.db n.id before := by
        rw [same]
        exact written.elim (fun h => ⟨_, h.2⟩) (fun h => ⟨_, h.2⟩)
      obtain ⟨before, holds⟩ := held
      obtain ⟨result, db, updated⟩ := holds.updateStatus next a.now
      simp only [closingStep, up, updated]
      refine ⟨⟨logs, logsEq, logsAll, logsOwn⟩, ⟨dlq, dlqEq, dlqAll, dlqOwn⟩,
        ⟨events, eventsEq, eventsAll⟩, ?_⟩
      cases written with
      | inl pending =>
          obtain ⟨rfl, rest⟩ := List.cons.inj pending.1
          exact .inr ⟨rest, same ▸ holds_of_updateStatus updated⟩
      | inr done => simp [closingStatuses] at done
  | dispatchWebhook event =>
      simp only [closingStep]
      refine ⟨⟨logs, logsEq, logsAll, logsOwn⟩, ⟨dlq, dlqEq, dlqAll, dlqOwn⟩,
        ⟨_, append_one eventsEq _, ?_⟩, written⟩
      simpa [Closing.event, same] using eventsAll

end Closing

/-! ## Effects agree when the closing calls succeed -/

/-- What the provider said to one Send; `none` is acceptance. -/
def Call.sendResult (call : Call) : Option (Option Fault) :=
  match call.pc with
  | .send .. => some call.answer.fault
  | _ => none

def sendResults (calls : List Call) : List (Option Fault) := calls.filterMap Call.sendResult

/-- The wait before a retry and the closing calls. -/
def Call.closes (call : Call) : Bool :=
  match call.pc with
  | .backoff .. | .closing _ (_ :: _) => true
  | _ => false

/-- The context is not cancelled during a wait, and no closing call fails. -/
def Reliable (calls : List Call) : Prop :=
  ∀ call ∈ calls, call.closes = true → call.answer.fault = none

instance (calls : List Call) : Decidable (Reliable calls) :=
  inferInstanceAs (Decidable (∀ call ∈ calls, call.closes = true → call.answer.fault = none))

/-- How the terminal status and the provider's answers go together. -/
structure Tried (old : Shared) (status : NotificationStatus) (sh : Shared) (calls : List Call) :
    Prop where
  terminal : Terminal status
  accepted : status = .delivered ↔ (sendResults calls).getLast? = some none
  dropped : status = .dropped → sendResults calls = [] ∧ sh.providerSends = old.providerSends

/-- The provider has not been called. -/
structure Unsent (old sh : Shared) (calls : List Call) : Prop where
  results : sendResults calls = []
  sends : sh.providerSends = old.providerSends

/-- Marked as processing, and not closing yet. -/
structure Working (old : Shared) (msg : Message) (n : Notification) (sh : Shared) : Prop where
  silent : Silent old sh
  same : n.id = msg.notificationID
  holds : Holds sh.db msg.notificationID .processing

/-- What is true of a call of Process by where it stands. -/
def Facts (old : Shared) (msg : Message) (sh : Shared) (calls : List Call) : ProcessPc → Prop
  | .fetch => sh = old ∧ Unsent old sh calls
  | .markProcessing n => sh = old ∧ n.id = msg.notificationID ∧ Unsent old sh calls
  | .preference n | .rateLimit n | .render n => Working old msg n sh ∧ Unsent old sh calls
  | .send n _ | .backoff n _ => Working old msg n sh ∧ ∀ result ∈ sendResults calls, result ≠ none
  | .closing n todo =>
      n.id = msg.notificationID ∧
        ∃ status, Closed old msg status todo sh ∧ Tried old status sh calls
  | .returned (some _) =>
      Silent old sh ∧ Unsent old sh calls ∧
        (sh.db = old.db ∨ Holds sh.db msg.notificationID .processing)
  | .returned none => ∃ status, Closed old msg status [] sh ∧ Tried old status sh calls

section Facts

variable {old sh : Shared} {msg : Message} {n : Notification} {calls : List Call} {call : Call}
  {cfg : Config} {a : Answer} {pc : ProcessPc}

theorem sendResults_append (calls : List Call) (call : Call) :
    sendResults (calls ++ [call]) = sendResults calls ++ call.sendResult.toList := by
  simp only [sendResults, List.filterMap_append, List.filterMap_cons, List.filterMap_nil]
  cases call.sendResult <;> rfl

theorem sendResults_other (other : call.sendResult = none) :
    sendResults (calls ++ [call]) = sendResults calls := by
  rw [sendResults_append, other, Option.toList_none, List.append_nil]

theorem Reliable.init (reliable : Reliable (calls ++ [call])) : Reliable calls :=
  fun c member => reliable c (List.mem_append_left _ member)

theorem Reliable.last (reliable : Reliable (calls ++ [call])) (closes : call.closes = true) :
    call.answer.fault = none :=
  reliable call (by simp) closes

theorem Unsent.onward (unsent : Unsent old sh calls) (other : call.sendResult = none) :
    Unsent old sh (calls ++ [call]) :=
  ⟨(sendResults_other other).trans unsent.results, unsent.sends⟩

theorem Tried.onward {status : NotificationStatus} {sh' : Shared} (tried : Tried old status sh calls)
    (other : call.sendResult = none) (sends : sh'.providerSends = sh.providerSends) :
    Tried old status sh' (calls ++ [call]) := by
  refine ⟨tried.terminal, ?_, ?_⟩
  · rw [sendResults_other other]
    exact tried.accepted
  · rw [sendResults_other other, sends]
    exact tried.dropped

theorem Working.dropped (working : Working old msg n sh) (unsent : Unsent old sh calls)
    (reason : String) : Facts old msg sh calls (.closing n (dropClosing reason)) := by
  refine ⟨working.same, .dropped, .drop working.silent working.holds reason, .inr (.inr rfl), ?_,
    fun _ => ⟨unsent.results, unsent.sends⟩⟩
  simp [unsent.results]

theorem Working.failed (working : Working old msg n sh)
    (refused : (sendResults calls).getLast? ≠ some none) (reason errMsg : String) :
    Facts old msg sh calls (.closing n (failClosing reason errMsg)) :=
  ⟨working.same, .failed, .fail working.silent working.holds reason errMsg,
    .inr (.inl rfl), by simp [refused], by simp⟩

theorem Working.returned (working : Working old msg n sh) (unsent : Unsent old sh calls) (e : Err) :
    Facts old msg sh calls (.returned (some e)) :=
  ⟨working.silent, unsent, .inr working.holds⟩

theorem getLast?_ne_of_all {results : List (Option Fault)} (all : ∀ r ∈ results, r ≠ none) :
    results.getLast? ≠ some none :=
  fun last => all none (List.mem_of_getLast? last) rfl

theorem Working.called (working : Working old msg n sh) : Working old msg n (sh.called n) :=
  ⟨⟨working.silent.logs, working.silent.dlq, working.silent.dispatches⟩, working.same, working.holds⟩

/-- A Send that fails leaves only failed Sends behind. -/
theorem failed_append {attempt : Int} {f : Fault} (failed : ∀ result ∈ sendResults calls, result ≠ none)
    (fault : a.fault = some f) :
    ∀ result ∈ sendResults (calls ++ [⟨.send n attempt, a⟩]), result ≠ none := by
  have results : sendResults (calls ++ [⟨.send n attempt, a⟩]) = sendResults calls ++ [a.fault] :=
    sendResults_append calls ⟨.send n attempt, a⟩
  rw [results, fault]
  exact List.forall_mem_append.mpr ⟨failed, by simp⟩

theorem Working.delivered {attempt : Int} (working : Working old msg n sh) (accepted : a.fault = none) :
    Facts old msg (sh.called n) (calls ++ [⟨.send n attempt, a⟩]) (.closing n (deliverClosing a.now)) := by
  have results : sendResults (calls ++ [⟨.send n attempt, a⟩]) = sendResults calls ++ [a.fault] :=
    sendResults_append calls ⟨.send n attempt, a⟩
  have called := working.called
  refine ⟨working.same, .delivered, .deliver called.silent called.holds a.now, .inl rfl, ?_, by simp⟩
  simp [results, accepted]

theorem providerSends_closingStep (act : Closing) :
    (closingStep cfg a msg n sh act).providerSends = sh.providerSends := by
  cases act with
  | logDelivery | deadLetter | updateStatus =>
      simp only [closingStep]
      split <;> rfl
  | dispatchWebhook => rfl

/-- One outside call of Process, by what came of it. -/
theorem facts_onward {sh' : Shared} {pc' : ProcessPc} (onward : Onward cfg a msg sh pc sh' pc')
    (facts : Facts old msg sh calls pc) (enabled : cfg.dlqEnabled = true)
    (reliable : Reliable (calls ++ [⟨pc, a⟩])) : Facts old msg sh' (calls ++ [⟨pc, a⟩]) pc' := by
  cases onward with
  | unfetched =>
      obtain ⟨rfl, unsent⟩ := facts
      exact ⟨.refl _, unsent.onward rfl, .inl rfl⟩
  | fetched found =>
      obtain ⟨rfl, unsent⟩ := facts
      obtain ⟨row, _, same, _, rfl⟩ := getByID_ok found
      exact ⟨rfl, same, unsent.onward rfl⟩
  | unprocessed =>
      obtain ⟨rfl, _, unsent⟩ := facts
      exact ⟨.refl _, unsent.onward rfl, .inl rfl⟩
  | processing updated =>
      obtain ⟨rfl, same, unsent⟩ := facts
      exact ⟨⟨⟨rfl, rfl, rfl⟩, same, same ▸ holds_of_updateStatus updated⟩,
        (sendResults_other rfl).trans unsent.results, unsent.sends⟩
  | unasked | uncounted => exact facts.1.returned (facts.2.onward rfl) _
  | unwanted | limited => exact facts.1.dropped (facts.2.onward rfl) _
  | wanted | unlimited => exact ⟨facts.1, facts.2.onward rfl⟩
  | @unsendable n =>
      have none_ : sendResults (calls ++ [⟨.render n, a⟩]) = [] := (facts.2.onward rfl).results
      exact facts.1.failed (by simp [none_]) _ _
  | @rendered n =>
      have none_ : sendResults (calls ++ [⟨.render n, a⟩]) = [] := (facts.2.onward rfl).results
      exact ⟨facts.1, by simp [none_]⟩
  | sent accepted => exact facts.1.delivered accepted
  | gaveUp fault => exact facts.1.called.failed (getLast?_ne_of_all (failed_append facts.2 fault)) _ _
  | unsent fault => exact ⟨facts.1.called, failed_append facts.2 fault⟩
  | interrupted fault =>
      have slept : a.fault = none := reliable.last rfl
      rw [slept] at fault
      cases fault
  | waited => exact ⟨facts.1, by rw [sendResults_other rfl]; exact facts.2⟩
  | closed =>
      obtain ⟨_, status, closed, tried⟩ := facts
      exact ⟨status, closed, tried.onward rfl rfl⟩
  | closing =>
      obtain ⟨same, status, closed, tried⟩ := facts
      have succeeds : a.fault = none := reliable.last rfl
      exact ⟨same, status, closed.step same enabled succeeds,
        tried.onward rfl (providerSends_closingStep _)⟩

end Facts

theorem process_facts {cfg : Config} {msg : Message} {world : Nat → Answer} {sh : Shared}
    (enabled : cfg.dlqEnabled = true) (reliable : Reliable (process cfg msg world sh).calls) :
    Facts sh msg (process cfg msg world sh).shared (process cfg msg world sh).calls
      (process cfg msg world sh).pc := by
  -- reliability of the whole call is reliability of every prefix of it
  have along : Reliable (process cfg msg world sh).calls →
      Facts sh msg (process cfg msg world sh).shared (process cfg msg world sh).calls
        (process cfg msg world sh).pc :=
    process_invariant (fun o => Reliable o.calls → Facts sh msg o.shared o.calls o.pc)
      (fun _ => ⟨rfl, rfl, rfl⟩)
      (fun _ _ inv running upTo =>
        facts_onward (processStep_onward _ _ _ _ (result_eq_none running)) (inv upTo.init) enabled upTo)
  exact along reliable

/-- (a) An infrastructure error: nothing happened beyond the processing mark. -/
structure Abandoned (msg : Message) (old new : Shared) : Prop where
  sends : new.providerSends = old.providerSends
  logs : new.logs = old.logs
  dlq : new.dlq = old.dlq
  dispatches : new.dispatches = old.dispatches
  status : statusOf new.db msg.notificationID = statusOf old.db msg.notificationID ∨
    statusOf new.db msg.notificationID = some .processing

/-- (b) A terminal outcome, with all traces of it in agreement. -/
structure Settled (msg : Message) (old : Shared) (o : Progress) (status : NotificationStatus)
    (log : DeliveryLog) : Prop where
  stored : statusOf o.shared.db msg.notificationID = some status
  terminal : status = .delivered ∨ status = .failed ∨ status = .dropped
  logged : o.shared.logs = old.logs ++ [log] ∧ log.notificationID = msg.notificationID
  dispatched : o.shared.dispatches =
    old.dispatches ++ [(msg.notificationID, "notification." ++ status.text)]
  success : log.status = .success ↔ status = .delivered
  accepted : status = .delivered ↔ (sendResults o.calls).getLast? = some none
  lettered : status = .failed → ∃ d, o.shared.dlq = old.dlq ++ [d] ∧ d.original = msg
  unlettered : status ≠ .failed → o.shared.dlq = old.dlq
  dropped : status = .dropped →
    sendResults o.calls = [] ∧ o.shared.providerSends = old.providerSends

theorem settled_of_closed {msg : Message} {old : Shared} {o : Progress}
    {status : NotificationStatus} (closed : Closed old msg status [] o.shared)
    (tried : Tried old status o.shared o.calls) : ∃ log, Settled msg old o status log := by
  obtain ⟨⟨logs, logsEq, logsAll, logsOwn⟩, ⟨dlq, dlqEq, dlqAll, dlqOwn⟩,
    ⟨events, eventsEq, eventsAll⟩, written⟩ := closed
  simp only [List.filterMap_nil, List.map_nil, List.append_nil, List.length_nil, Nat.add_zero]
    at logsAll dlqAll eventsAll
  obtain ⟨log, rfl, logged⟩ := List.map_eq_singleton_iff.mp logsAll
  have stored : Holds o.shared.db msg.notificationID status := by
    cases written with
    | inl pending => simp [closingStatuses] at pending
    | inr done => exact done.2
  refine ⟨log, stored.statusOf, tried.terminal, ⟨logsEq, logsOwn log (by simp)⟩,
    eventsAll ▸ eventsEq, ?_, tried.accepted, ?_, ?_, tried.dropped⟩
  · rw [logged]
    unfold logStatus
    split <;> simp_all
  · rintro rfl
    obtain ⟨d, rfl⟩ := List.length_eq_one_iff.mp dlqAll
    exact ⟨d, dlqEq, dlqOwn d (by simp)⟩
  · intro other
    have none_ : dlq = [] := by simpa [letters, other] using dlqAll
    simpa [none_] using dlqEq

/-- With the dead-letter queue enabled and the closing calls answered, Process either
    returns an error and has done nothing, or returns nil with one terminal status,
    one log, one webhook event and the right number of dead letters. -/
theorem process_outcome (cfg : Config) (msg : Message) (world : Nat → Answer) (sh : Shared)
    (enabled : cfg.dlqEnabled = true) (reliable : Reliable (process cfg msg world sh).calls) :
    (∃ e, (process cfg msg world sh).result = some (some e) ∧
        Abandoned msg sh (process cfg msg world sh).shared) ∨
      ((process cfg msg world sh).result = some none ∧
        ∃ status log, Settled msg sh (process cfg msg world sh) status log) := by
  have facts := process_facts enabled reliable
  obtain ⟨err, returned⟩ := process_returns cfg msg world sh
  generalize process cfg msg world sh = o at facts returned ⊢
  obtain ⟨sh', pc, calls⟩ := o
  cases pc with
  | returned err =>
      cases err with
      | some e =>
          obtain ⟨silent, unsent, kept⟩ := facts
          refine .inl ⟨e, rfl, unsent.sends, silent.logs, silent.dlq, silent.dispatches, ?_⟩
          exact kept.imp (fun same => by rw [same]) Holds.statusOf
      | none =>
          obtain ⟨status, closed, tried⟩ := facts
          exact .inr ⟨rfl, status, settled_of_closed closed tried⟩
  | fetch | markProcessing | preference | rateLimit | render | send | backoff | closing =>
      simp [Progress.result] at returned

theorem process_outcome_queued :
    (process plain envelope (fun _ => {}) queued).result = some none ∧
      ∃ log, Settled envelope queued (process plain envelope (fun _ => {}) queued) .delivered log := by
  have delivered : statusOf (process plain envelope (fun _ => {}) queued).shared.db
      envelope.notificationID = some .delivered := by decide +kernel
  have fine : (process plain envelope (fun _ => {}) queued).result = some none := by decide +kernel
  rcases process_outcome plain envelope (fun _ => {}) queued rfl (by decide +kernel) with
    ⟨e, failed, _⟩ | ⟨_, status, log, settled⟩
  · rw [fine] at failed
    cases failed
  · obtain rfl := Option.some.inj (settled.stored.symm.trans delivered)
    exact ⟨fine, log, settled⟩

end NotifyHub.Pipeline
