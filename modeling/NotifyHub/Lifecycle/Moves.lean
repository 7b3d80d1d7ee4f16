import NotifyHub.Lifecycle.System

/-! # What a step can do

`Move` lists the transitions of a thread with everything each of them changes;
`Steps` does the same for the labels of the system. The two inversion theorems say
that the lists are complete, so that the invariants of the later modules are
case analyses over named transitions and never unfold the step functions.
-/

namespace NotifyHub.Lifecycle

open NotificationRepository
open NotificationService hiding getByID list cancel

/-! ## The pipeline of Process, coarsely -/

/-- The calls after the processing mark, on notification `n`. -/
inductive ProcessPc.Begun (n : Notification) : ProcessPc → Prop where
  | preference : Begun n (.preference n)
  | rateLimit : Begun n (.rateLimit n)
  | render : Begun n (.render n)
  | send {attempt} : Begun n (.send n attempt)
  | backoff {attempt} : Begun n (.backoff n attempt)
  | closing {todo} : Begun n (.closing n todo)

/-- The statuses a list of closing calls would write. -/
def closingStatuses : List Closing → List NotificationStatus
  | [] => []
  | .updateStatus status :: todo => status :: closingStatuses todo
  | _ :: todo => closingStatuses todo

def Terminal (status : NotificationStatus) : Prop :=
  status = .delivered ∨ status = .failed ∨ status = .dropped

/-- The terminal status is still to be written. -/
def ProcessPc.Unsettled : ProcessPc → Prop
  | .preference _ | .rateLimit _ | .render _ | .send _ _ | .backoff _ _ => True
  | .closing _ todo => closingStatuses todo ≠ []
  | .fetch | .markProcessing _ | .returned _ => False

/-- At most one status is left to write, and it is terminal. -/
def ProcessPc.Tidy : ProcessPc → Prop
  | .closing _ todo =>
      closingStatuses todo = [] ∨ ∃ status, Terminal status ∧ closingStatuses todo = [status]
  | _ => True

/-- A pipeline step that touches neither the notifications nor their topics. -/
structure Quiet (msg : Message) (n : Notification) (old new : Shared) : Prop where
  db : new.db = old.db
  topics : new.topics = old.topics
  cancelled : new.cancelled = old.cancelled
  deliveries : new.deliveries = old.deliveries
  sends : new.providerSends = old.providerSends ∨ new.providerSends = old.providerSends ++ [n.id]
  dlq : new.dlq = old.dlq ∨
    ∃ d, new.dlq = old.dlq ++ [d] ∧ d.original = msg ∧ d.originalTopic = topicForChannel msg.channel

theorem Quiet.refl (msg : Message) (n : Notification) (sh : Shared) : Quiet msg n sh sh :=
  ⟨rfl, rfl, rfl, rfl, .inl rfl, .inl rfl⟩

/-! ## Transitions of Process -/

/-- The state after a call of the provider. -/
def Shared.called (sh : Shared) (n : Notification) : Shared :=
  { sh with providerSends := sh.providerSends ++ [n.id] }

/-- The outcomes of one outside call of Process, each with what it takes. -/
inductive Onward (cfg : Config) (a : Answer) (msg : Message) (sh : Shared) :
    ProcessPc → Shared → ProcessPc → Prop where
  | unfetched {e err} (failed : getByID a.conn sh.db msg.tenantID msg.notificationID = .error e) :
      Onward cfg a msg sh .fetch sh (.returned (some err))
  | fetched {n} (found : getByID a.conn sh.db msg.tenantID msg.notificationID = .ok n) :
      Onward cfg a msg sh .fetch sh (.markProcessing n)
  | unprocessed {n e err} (failed : updateStatus a.conn sh.db n.id .processing a.now = .error e) :
      Onward cfg a msg sh (.markProcessing n) sh (.returned (some err))
  | processing {n result db}
      (updated : updateStatus a.conn sh.db n.id .processing a.now = .ok (result, db)) :
      Onward cfg a msg sh (.markProcessing n) { sh with db := db } (.preference n)
  | unasked {n f err} (failed : a.fault = some f) :
      Onward cfg a msg sh (.preference n) sh (.returned (some err))
  | unwanted {n reason} (answered : a.fault = none) (blocked : a.block = some reason) :
      Onward cfg a msg sh (.preference n) sh (.closing n (dropClosing reason))
  | wanted {n} (answered : a.fault = none) (free : a.block = none) :
      Onward cfg a msg sh (.preference n) sh (.rateLimit n)
  | uncounted {n f err} (failed : a.fault = some f) (capped : 0 < cfg.rateCap n.channel) :
      Onward cfg a msg sh (.rateLimit n) sh (.returned (some err))
  | limited {n reason} (capped : 0 < cfg.rateCap n.channel) :
      Onward cfg a msg sh (.rateLimit n) sh (.closing n (dropClosing reason))
  | unlimited {n} : Onward cfg a msg sh (.rateLimit n) sh (.render n)
  | unsendable {n reason errMsg} (stuck : a.fault ≠ none ∨ cfg.registry n.channel = none) :
      Onward cfg a msg sh (.render n) sh (.closing n (failClosing reason errMsg))
  | rendered {n} : Onward cfg a msg sh (.render n) sh (.send n msg.attempt)
  | sent {n attempt} (accepted : a.fault = none) :
      Onward cfg a msg sh (.send n attempt) (sh.called n) (.closing n (deliverClosing a.now))
  | gaveUp {n attempt f reason errMsg} (failed : a.fault = some f) :
      Onward cfg a msg sh (.send n attempt) (sh.called n) (.closing n (failClosing reason errMsg))
  | unsent {n attempt f} (failed : a.fault = some f) (left : attempt < msg.maxAttempts) :
      Onward cfg a msg sh (.send n attempt) (sh.called n) (.backoff n attempt)
  | interrupted {n attempt f reason errMsg} (failed : a.fault = some f) :
      Onward cfg a msg sh (.backoff n attempt) sh (.closing n (failClosing reason errMsg))
  | waited {n attempt} (slept : a.fault = none) :
      Onward cfg a msg sh (.backoff n attempt) sh (.send n (attempt + 1))
  | closed {n} : Onward cfg a msg sh (.closing n []) sh (.returned none)
  | closing {n act todo} :
      Onward cfg a msg sh (.closing n (act :: todo)) (closingStep cfg a msg n sh act)
        (.closing n todo)

/-- The list is complete. -/
theorem processStep_onward (cfg : Config) (a : Answer) (msg : Message) (sh : Shared) {pc : ProcessPc}
    (running : ∀ err, pc ≠ .returned err) :
    Onward cfg a msg sh pc (processStep cfg a msg sh pc).1 (processStep cfg a msg sh pc).2 := by
  cases pc with
  | fetch =>
      simp only [processStep]
      cases found : getByID a.conn sh.db msg.tenantID msg.notificationID with
      | error e => exact .unfetched found
      | ok n => exact .fetched found
  | markProcessing n =>
      simp only [processStep]
      cases updated : updateStatus a.conn sh.db n.id .processing a.now with
      | error e => exact .unprocessed updated
      | ok result => exact .processing updated
  | preference n =>
      simp only [processStep]
      cases answered : a.fault with
      | some f => exact .unasked answered
      | none =>
          cases block : a.block with
          | some reason => exact .unwanted answered block
          | none => exact .wanted answered block
  | rateLimit n =>
      simp only [processStep]
      split
      · rename_i capped
        cases answered : a.fault with
        | some f => exact .uncounted answered capped
        | none =>
            cases a.block with
            | some reason => exact .limited capped
            | none => exact .unlimited
      · exact .unlimited
  | render n =>
      simp only [processStep]
      split
      · rename_i failed
        exact .unsendable (.inl (by simp [failed]))
      · cases provider : cfg.registry n.channel with
        | some name => exact .rendered
        | none => exact .unsendable (.inr provider)
  | send n attempt =>
      simp only [processStep]
      cases answered : a.fault with
      | none => exact .sent answered
      | some f =>
          simp only
          split
          · exact .gaveUp answered
          · split
            · exact .gaveUp answered
            · rename_i left
              exact .unsent answered (Int.not_le.mp left)
  | backoff n attempt =>
      simp only [processStep]
      cases answered : a.fault with
      | some f => exact .interrupted answered
      | none => exact .waited answered
  | closing n todo =>
      cases todo with
      | nil => exact .closed
      | cons act todo => exact .closing
  | returned err => exact absurd rfl (running err)

/-! ## Transitions of a thread -/

inductive Move (cfg : Config) (i : Nat) (a : Answer) : Shared → Thread → Shared → Thread → Prop where
  | refused {sh tenantID req pc rest e} (early : pc = .start ∨ pc = .create) :
      Move cfg i a sh (.send tenantID req pc rest) sh
        (.send tenantID req (.returned (.error e)) rest)
  | hit {sh tenantID req rest existing} (valid : validateSend req = .ok ())
      (found : findExisting a.conn sh.db tenantID req = .ok (some existing)) :
      Move cfg i a sh (.send tenantID req .start rest) sh
        (.send tenantID req (.returned (.ok existing)) rest)
  | miss {sh tenantID req rest} :
      Move cfg i a sh (.send tenantID req .start rest) sh (.send tenantID req .create rest)
  | created {sh tenantID req rest n db}
      (inserted : create a.conn sh.db tenantID req a.id a.now = .ok (n, db)) :
      Move cfg i a sh (.send tenantID req .create rest) { sh with db := db }
        (.send tenantID req (.schedule n) rest)
  | later {sh tenantID req n rest} (future : scheduledAfter req a.now = true) :
      Move cfg i a sh (.send tenantID req (.schedule n) rest) sh
        (.send tenantID req (.returned (.ok n)) rest)
  | due {sh tenantID req n rest} (ready : scheduledAfter req a.now = false) :
      Move cfg i a sh (.send tenantID req (.schedule n) rest) sh
        (.send tenantID req (.publish n) rest)
  | unpublished {sh tenantID req n rest f e} (failed : a.fault = some f) :
      Move cfg i a sh (.send tenantID req (.publish n) rest) sh
        (.send tenantID req (.returned (.error e)) rest)
  | published {sh tenantID req n rest} (sent : a.fault = none) :
      Move cfg i a sh (.send tenantID req (.publish n) rest)
        (sh.publish (NotificationService.enqueue cfg.maxRetries tenantID n a.now) (some i))
        (.send tenantID req (.markQueued n) rest)
  | unmarked {sh tenantID req n rest e e'}
      (failed : updateStatus a.conn sh.db n.id .queued a.now = .error e) :
      Move cfg i a sh (.send tenantID req (.markQueued n) rest) sh
        (.send tenantID req (.returned (.error e')) rest)
  | queued {sh tenantID req n rest result db}
      (updated : updateStatus a.conn sh.db n.id .queued a.now = .ok (result, db)) :
      Move cfg i a sh (.send tenantID req (.markQueued n) rest) { sh with db := db }
        (.send tenantID req (.returned (.ok result)) rest)
  | nextRecipient {sh tenantID req result next rest} :
      Move cfg i a sh (.send tenantID req (.returned result) (next :: rest)) sh
        (.send tenantID next .start rest)
  | unlisted {sh} : Move cfg i a sh (.tick .list) sh (.tick .returned)
  | listed {sh ns}
      (found : listDueScheduled a.conn sh.db cfg.batchSize a.now = .ok ns) :
      Move cfg i a sh (.tick .list) sh (.tick (nextItem ns))
  | itemUnpublished {sh n rest f} (failed : a.fault = some f) :
      Move cfg i a sh (.tick (.enqueue n rest)) sh (.tick (nextItem rest))
  | itemPublished {sh n rest} (sent : a.fault = none) :
      Move cfg i a sh (.tick (.enqueue n rest))
        (sh.publish (Scheduler.enqueue cfg.maxRetries n a.now) (some i))
        (.tick (.markQueued n rest))
  | itemUnmarked {sh n rest e}
      (failed : updateStatus a.conn sh.db n.id .queued a.now = .error e) :
      Move cfg i a sh (.tick (.markQueued n rest)) sh (.tick (nextItem rest))
  | itemQueued {sh n rest result db}
      (updated : updateStatus a.conn sh.db n.id .queued a.now = .ok (result, db)) :
      Move cfg i a sh (.tick (.markQueued n rest)) { sh with db := db } (.tick (nextItem rest))
  | unfetched {sh offset msg e} :
      Move cfg i a sh (.process offset msg .fetch) sh (.process offset msg (.returned e))
  | fetched {sh offset msg n}
      (found : getByID a.conn sh.db msg.tenantID msg.notificationID = .ok n) :
      Move cfg i a sh (.process offset msg .fetch) sh (.process offset msg (.markProcessing n))
  | unprocessed {sh offset msg n e} :
      Move cfg i a sh (.process offset msg (.markProcessing n)) sh
        (.process offset msg (.returned e))
  | processing {sh offset msg n result db}
      (updated : updateStatus a.conn sh.db n.id .processing a.now = .ok (result, db)) :
      Move cfg i a sh (.process offset msg (.markProcessing n)) { sh with db := db }
        (.process offset msg (.preference n))
  | working {old new offset msg n pc pc'} (quiet : Quiet msg n old new) (begun : pc.Begun n)
      (onward : pc'.Begun n ∨ ∃ e, pc' = .returned e) (unsettled : pc'.Unsettled → pc.Unsettled)
      (tidy : pc.Tidy → pc'.Tidy) :
      Move cfg i a old (.process offset msg pc) new (.process offset msg pc')
  | settled {sh offset msg n status todo result db}
      (updated : updateStatus a.conn sh.db n.id status a.now = .ok (result, db)) :
      Move cfg i a sh (.process offset msg (.closing n (.updateStatus status :: todo)))
        { sh with db := db } (.process offset msg (.closing n todo))

section Inversion

variable {cfg : Config} {i : Nat} {a : Answer}

theorem sendStep_move (tenantID : UUID) (req : SendRequest) (rest : List SendRequest) (sh : Shared)
    (pc : SendPc) (running : ∀ result, pc ≠ .returned result) :
    Move cfg i a sh (.send tenantID req pc rest) (sendStep cfg i a tenantID req sh pc).1
      (.send tenantID req (sendStep cfg i a tenantID req sh pc).2 rest) := by
  cases pc with
  | start =>
      simp only [sendStep]
      cases valid : validateSend req with
      | error e => exact .refused (.inl rfl)
      | ok _ =>
          cases found : findExisting a.conn sh.db tenantID req with
          | error e => exact .refused (.inl rfl)
          | ok existing =>
              cases existing with
              | none => exact .miss
              | some n => exact .hit valid found
  | create =>
      simp only [sendStep]
      cases inserted : create a.conn sh.db tenantID req a.id a.now with
      | error e => exact .refused (.inr rfl)
      | ok result => exact .created inserted
  | schedule n =>
      simp only [sendStep]
      cases future : scheduledAfter req a.now with
      | true => exact .later future
      | false => exact .due future
  | publish n =>
      simp only [sendStep]
      cases failed : a.fault with
      | none => exact .published failed
      | some f => exact .unpublished failed
  | markQueued n =>
      simp only [sendStep]
      cases updated : updateStatus a.conn sh.db n.id .queued a.now with
      | error e => exact .unmarked updated
      | ok result => exact .queued updated
  | returned result => exact absurd rfl (running result)

theorem tickStep_move (sh : Shared) (pc : TickPc) (running : pc ≠ .returned) :
    Move cfg i a sh (.tick pc) (tickStep cfg i a sh pc).1 (.tick (tickStep cfg i a sh pc).2) := by
  cases pc with
  | list =>
      simp only [tickStep]
      cases found : listDueScheduled a.conn sh.db cfg.batchSize a.now with
      | error e => exact .unlisted
      | ok ns => exact .listed found
  | enqueue n rest =>
      simp only [tickStep]
      cases failed : a.fault with
      | none => exact .itemPublished failed
      | some f => exact .itemUnpublished failed
  | markQueued n rest =>
      simp only [tickStep]
      cases updated : updateStatus a.conn sh.db n.id .queued a.now with
      | error e => exact .itemUnmarked updated
      | ok result => exact .itemQueued updated
  | returned => exact absurd rfl running

/-- The exits of the pipeline write one terminal status. -/
theorem drop_tidy (n : Notification) (reason : String) :
    (ProcessPc.closing n (dropClosing reason)).Tidy :=
  .inr ⟨.dropped, .inr (.inr rfl), rfl⟩

theorem fail_tidy (n : Notification) (reason errMsg : String) :
    (ProcessPc.closing n (failClosing reason errMsg)).Tidy :=
  .inr ⟨.failed, .inr (.inl rfl), rfl⟩

theorem deliver_tidy (n : Notification) (now : Time) :
    (ProcessPc.closing n (deliverClosing now)).Tidy :=
  .inr ⟨.delivered, .inl rfl, rfl⟩

/-- A closing call other than a status write that succeeds. -/
theorem closing_move {sh sh' : Shared} {offset : Nat} {msg : Message} {n : Notification}
    {act : Closing} {todo : List Closing} (quiet : Quiet msg n sh sh')
    (writes : closingStatuses (act :: todo) = closingStatuses todo ∨
      ∃ status, act = .updateStatus status) :
    Move cfg i a sh (.process offset msg (.closing n (act :: todo))) sh'
      (.process offset msg (.closing n todo)) := by
  refine .working quiet .closing (.inl .closing) ?_ ?_
  · intro left
    rcases writes with same | ⟨status, rfl⟩
    · simpa only [ProcessPc.Unsettled, same] using left
    · simp [ProcessPc.Unsettled, closingStatuses]
  · intro tidy
    rcases writes with same | ⟨status, rfl⟩
    · simpa only [ProcessPc.Tidy, same] using tidy
    · simp only [ProcessPc.Tidy, closingStatuses, List.cons.injEq, reduceCtorEq, false_or] at tidy
      obtain ⟨_, _, _, none_⟩ := tidy
      exact .inl none_

theorem closingStep_move (offset : Nat) (msg : Message) (n : Notification) (sh : Shared)
    (act : Closing) (todo : List Closing) :
    Move cfg i a sh (.process offset msg (.closing n (act :: todo)))
      (closingStep cfg a msg n sh act) (.process offset msg (.closing n todo)) := by
  cases act with
  | logDelivery status errMsg deliveredAt =>
      simp only [closingStep]
      cases a.fault with
      | some f => exact closing_move (.refl _ _ _) (.inl rfl)
      | none => exact closing_move ⟨rfl, rfl, rfl, rfl, .inl rfl, .inl rfl⟩ (.inl rfl)
  | deadLetter reason errMsg =>
      simp only [closingStep]
      split
      · exact closing_move ⟨rfl, rfl, rfl, rfl, .inl rfl, .inr ⟨_, rfl, rfl, rfl⟩⟩ (.inl rfl)
      · exact closing_move (.refl _ _ _) (.inl rfl)
  | updateStatus status =>
      simp only [closingStep]
      cases updated : updateStatus a.conn sh.db n.id status a.now with
      | error e => exact closing_move (.refl _ _ _) (.inr ⟨status, rfl⟩)
      | ok result => exact .settled updated
  | dispatchWebhook event =>
      exact closing_move ⟨rfl, rfl, rfl, rfl, .inl rfl, .inl rfl⟩ (.inl rfl)

/-- Only a status write that succeeds changes the database. -/
theorem closingStep_db (cfg : Config) (a : Answer) (msg : Message) (n : Notification) (sh : Shared)
    (act : Closing) :
    (closingStep cfg a msg n sh act).db = sh.db ∨
      ∃ status result, act = .updateStatus status ∧
        updateStatus a.conn sh.db n.id status a.now =
          .ok (result, (closingStep cfg a msg n sh act).db) := by
  cases act with
  | logDelivery | deadLetter =>
      simp only [closingStep]
      split <;> exact .inl rfl
  | updateStatus status =>
      simp only [closingStep]
      cases updated : updateStatus a.conn sh.db n.id status a.now with
      | error e => exact .inl rfl
      | ok result => exact .inr ⟨status, result.1, rfl, updated⟩
  | dispatchWebhook event => exact .inl rfl

theorem closingStep_db_of_ne {msg : Message} {n : Notification} {sh : Shared} {act : Closing}
    (other : ∀ status, act ≠ .updateStatus status) : (closingStep cfg a msg n sh act).db = sh.db := by
  rcases closingStep_db cfg a msg n sh act with same | ⟨status, _, rfl, _⟩
  · exact same
  · exact absurd rfl (other status)

/-- A call between the processing mark and the closing calls goes on, closes or returns. -/
theorem pipeline_move {old new : Shared} {offset : Nat} {msg : Message} {n : Notification}
    {pc pc' : ProcessPc} (quiet : Quiet msg n old new) (begun : pc.Begun n)
    (unsettled : pc.Unsettled) (onward : pc'.Begun n ∨ ∃ e, pc' = .returned e) (tidy : pc'.Tidy) :
    Move cfg i a old (.process offset msg pc) new (.process offset msg pc') :=
  .working quiet begun onward (fun _ => unsettled) (fun _ => tidy)

theorem processStep_move (offset : Nat) (msg : Message) (sh : Shared) (pc : ProcessPc)
    (running : ∀ err, pc ≠ .returned err) :
    Move cfg i a sh (.process offset msg pc) (processStep cfg a msg sh pc).1
      (.process offset msg (processStep cfg a msg sh pc).2) := by
  have onward := processStep_onward cfg a msg sh running
  generalize (processStep cfg a msg sh pc).1 = sh', (processStep cfg a msg sh pc).2 = pc' at onward ⊢
  have same (n : Notification) : Quiet msg n sh sh := .refl _ _ _
  have called (n : Notification) : Quiet msg n sh (sh.called n) :=
    ⟨rfl, rfl, rfl, rfl, .inr rfl, .inl rfl⟩
  cases onward with
  | unfetched => exact .unfetched
  | fetched found => exact .fetched found
  | unprocessed => exact .unprocessed
  | processing updated => exact .processing updated
  | unasked => exact pipeline_move (same _) .preference trivial (.inr ⟨_, rfl⟩) trivial
  | unwanted => exact pipeline_move (same _) .preference trivial (.inl .closing) (drop_tidy _ _)
  | wanted => exact pipeline_move (same _) .preference trivial (.inl .rateLimit) trivial
  | uncounted => exact pipeline_move (same _) .rateLimit trivial (.inr ⟨_, rfl⟩) trivial
  | limited => exact pipeline_move (same _) .rateLimit trivial (.inl .closing) (drop_tidy _ _)
  | unlimited => exact pipeline_move (same _) .rateLimit trivial (.inl .render) trivial
  | unsendable => exact pipeline_move (same _) .render trivial (.inl .closing) (fail_tidy _ _ _)
  | rendered => exact pipeline_move (same _) .render trivial (.inl .send) trivial
  | sent => exact pipeline_move (called _) .send trivial (.inl .closing) (deliver_tidy _ _)
  | gaveUp => exact pipeline_move (called _) .send trivial (.inl .closing) (fail_tidy _ _ _)
  | unsent => exact pipeline_move (called _) .send trivial (.inl .backoff) trivial
  | interrupted => exact pipeline_move (same _) .backoff trivial (.inl .closing) (fail_tidy _ _ _)
  | waited => exact pipeline_move (same _) .backoff trivial (.inl .send) trivial
  | closed =>
      exact .working (same _) .closing (.inr ⟨_, rfl⟩) (fun left => left.elim) (fun _ => trivial)
  | closing => exact closingStep_move offset msg _ sh _ _

/-- Every step of a thread is a `Move`. -/
theorem Thread.step_move {sh sh' : Shared} {t t' : Thread}
    (taken : t.step cfg i a sh = some (sh', t')) : Move cfg i a sh t sh' t' := by
  cases t with
  | send tenantID req pc rest =>
      cases pc with
      | returned result =>
          cases rest with
          | nil => simp [Thread.step] at taken
          | cons next rest =>
              simp only [Thread.step, Option.some.injEq, Prod.mk.injEq] at taken
              obtain ⟨rfl, rfl⟩ := taken
              exact .nextRecipient
      | start | create | schedule | publish | markQueued =>
          simp only [Thread.step, Option.some.injEq, Prod.mk.injEq] at taken
          obtain ⟨rfl, rfl⟩ := taken
          exact sendStep_move _ _ _ _ _ (by simp)
  | tick pc =>
      cases pc with
      | returned => simp [Thread.step] at taken
      | list | enqueue | markQueued =>
          simp only [Thread.step, Option.some.injEq, Prod.mk.injEq] at taken
          obtain ⟨rfl, rfl⟩ := taken
          exact tickStep_move _ _ (by simp)
  | process offset msg pc =>
      cases pc with
      | returned err => simp [Thread.step] at taken
      | fetch | markProcessing | preference | rateLimit | render | send | backoff | closing =>
          simp only [Thread.step, Option.some.injEq, Prod.mk.injEq] at taken
          obtain ⟨rfl, rfl⟩ := taken
          exact processStep_move _ _ _ _ (by simp)

end Inversion

/-! ## Transitions of the system -/

/-- The threads a label may start. Bulk requests carry no idempotency key. -/
inductive Starts (sh : Shared) : Thread → Prop where
  | call {tenantID req} : Starts sh (.send tenantID req .start [])
  | bulk {tenantID first rest} (keyless : ∀ req ∈ first :: rest, req.idempotencyKey = none)
      (unscheduled : ∀ req ∈ first :: rest, req.scheduledAt = none) :
      Starts sh (.send tenantID first .start rest)
  | tick : Starts sh (.tick .list)

inductive Steps (cfg : Config) (s : State) : Label → State → Prop where
  | stay {label} (outside : ∀ i a, label ≠ .step i a) : Steps cfg s label s
  | start {label t} (outside : ∀ i a, label ≠ .step i a) (fresh : Starts s.shared t) :
      Steps cfg s label { s with threads := s.threads ++ [t] }
  | deliver {offset record} (stored : s.shared.topics[offset]? = some record) :
      Steps cfg s (.deliver offset)
        { shared := { s.shared with deliveries := s.shared.deliveries ++ [offset] }
          threads := s.threads ++ [.process offset record.publication.value .fetch] }
  | cancelled {tenantID id a result db}
      (updated : cancel a.conn s.shared.db tenantID id a.now = .ok (result, db)) :
      Steps cfg s (.cancel tenantID id a)
        { s with shared := { s.shared with db := db, cancelled := s.shared.cancelled ++ [id] } }
  | replayed {entry a d} (stored : s.shared.dlq[entry]? = some d) :
      Steps cfg s (.replay entry a)
        { s with shared := s.shared.publish (replayed cfg d a.now) none }
  | moved {i a t sh t'} (running : s.threads[i]? = some t) (move : Move cfg i a s.shared t sh t') :
      Steps cfg s (.step i a) { shared := sh, threads := s.threads.set i t' }

theorem bulkRequests_plain {req : BulkSendRequest} :
    ∀ single ∈ bulkRequests req, single.idempotencyKey = none ∧ single.scheduledAt = none := by
  intro single member
  unfold bulkRequests at member
  split at member
  · simp at member
  · obtain ⟨r, _, rfl⟩ := List.mem_map.mp member
    exact ⟨rfl, rfl⟩

/-- Every step of the system is one of `Steps`. -/
theorem step_steps {cfg : Config} {s s' : State} {label : Label}
    (taken : step cfg s label = some s') : Steps cfg s label s' := by
  cases label with
  | call tenantID req =>
      obtain rfl := Option.some.inj taken
      exact .start nofun .call
  | callBulk tenantID req =>
      simp only [step] at taken
      cases requests : bulkRequests req with
      | nil =>
          simp only [requests, Option.some.injEq] at taken
          exact taken ▸ .stay nofun
      | cons first rest =>
          simp only [requests, Option.some.injEq] at taken
          have plain : ∀ single ∈ bulkRequests req,
              single.idempotencyKey = none ∧ single.scheduledAt = none := bulkRequests_plain
          rw [requests] at plain
          exact taken ▸ .start nofun (.bulk (fun r m => (plain r m).1) fun r m => (plain r m).2)
  | tick =>
      obtain rfl := Option.some.inj taken
      exact .start nofun .tick
  | deliver offset =>
      simp only [step] at taken
      cases stored : s.shared.topics[offset]? with
      | none => simp [stored] at taken
      | some record =>
          simp only [stored, Option.some.injEq] at taken
          exact taken ▸ .deliver stored
  | cancel tenantID id a =>
      simp only [step] at taken
      cases updated : cancel a.conn s.shared.db tenantID id a.now with
      | error e =>
          simp only [updated, Option.some.injEq] at taken
          exact taken ▸ .stay nofun
      | ok result =>
          simp only [updated, Option.some.injEq] at taken
          exact taken ▸ .cancelled updated
  | replay entry a =>
      simp only [step] at taken
      cases stored : s.shared.dlq[entry]? with
      | none => simp [stored] at taken
      | some d =>
          cases failed : a.fault with
          | some f =>
              simp only [stored, failed, Option.some.injEq] at taken
              exact taken ▸ .stay nofun
          | none =>
              simp only [stored, failed, Option.some.injEq] at taken
              exact taken ▸ .replayed stored
  | step i a =>
      simp only [step] at taken
      cases running : s.threads[i]? with
      | none => simp [running] at taken
      | some t =>
          cases moved : t.step cfg i a s.shared with
          | none => simp [running, moved] at taken
          | some result =>
              simp only [running, moved, Option.some.injEq] at taken
              exact taken ▸ .moved running (Thread.step_move moved)

/-! ## Producers and workers -/

theorem step_thread {cfg : Config} {s s' : State} {i : Nat} {a : Answer}
    (taken : step cfg s (.step i a) = some s') :
    ∃ t sh t', s.threads[i]? = some t ∧ t.step cfg i a s.shared = some (sh, t') ∧
      s' = ⟨sh, s.threads.set i t'⟩ := by
  simp only [step] at taken
  cases running : s.threads[i]? with
  | none => simp [running] at taken
  | some t =>
      simp only [running] at taken
      cases onward : t.step cfg i a s.shared with
      | none => simp [onward] at taken
      | some result =>
          simp only [onward, Option.some.injEq] at taken
          exact ⟨t, result.1, result.2, rfl, onward, taken.symm⟩

/-- A Send or a tick. -/
def Thread.Produces : Thread → Prop
  | .process .. => False
  | _ => True

/-- A producer leaves alone what only workers write. -/
structure Unworked (old new : Shared) : Prop where
  dlq : new.dlq = old.dlq
  sends : new.providerSends = old.providerSends
  logs : new.logs = old.logs
  dispatches : new.dispatches = old.dispatches

theorem Thread.step_cases {cfg : Config} {i : Nat} {a : Answer} {sh sh' : Shared} {t t' : Thread}
    (taken : t.step cfg i a sh = some (sh', t')) :
    (t.Produces ∧ t'.Produces ∧ Unworked sh sh') ∨
      ∃ offset msg pc pc', t = .process offset msg pc ∧ t' = .process offset msg pc' ∧
        Onward cfg a msg sh pc sh' pc' := by
  cases t with
  | send tenantID req pc rest =>
      cases Thread.step_move taken <;> exact .inl ⟨trivial, trivial, rfl, rfl, rfl, rfl⟩
  | tick pc =>
      cases Thread.step_move taken <;> exact .inl ⟨trivial, trivial, rfl, rfl, rfl, rfl⟩
  | process offset msg pc =>
      cases pc with
      | returned err => simp [Thread.step] at taken
      | fetch | markProcessing | preference | rateLimit | render | send | backoff | closing =>
          simp only [Thread.step, Option.some.injEq, Prod.mk.injEq] at taken
          obtain ⟨rfl, rfl⟩ := taken
          exact .inr ⟨_, _, _, _, rfl, rfl, processStep_onward _ _ _ _ (by simp)⟩

end NotifyHub.Lifecycle
