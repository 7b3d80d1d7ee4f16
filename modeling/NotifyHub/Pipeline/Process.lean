import NotifyHub.Lifecycle.Moves

/-! # One call of Process

`processStep`, taken until the call returns and with nobody else at work. `world`
answers the outside calls in the order in which they are made, so a statement over
every `world` is one over every behaviour of the dependencies. The calls made are
recorded with their answers.

Every retry uses up one of the attempts of the message, hence the call returns
whatever the answers are.
-/

namespace NotifyHub.Pipeline

open Lifecycle NotificationRepository

/-- An outside call of Process and what came back. -/
structure Call where
  pc : ProcessPc
  answer : Answer

structure Progress where
  shared : Shared
  pc : ProcessPc
  calls : List Call

/-- What the call has returned, once it has. -/
def Progress.result (o : Progress) : Option (Option Err) :=
  match o.pc with
  | .returned err => some err
  | _ => none

def Progress.next (cfg : Config) (msg : Message) (a : Answer) (o : Progress) : Progress :=
  { shared := (processStep cfg a msg o.shared o.pc).1
    pc := (processStep cfg a msg o.shared o.pc).2
    calls := o.calls ++ [⟨o.pc, a⟩] }

def proceed (cfg : Config) (msg : Message) (world : Nat → Answer) : Nat → Progress → Progress
  | 0, o => o
  | fuel + 1, o =>
      match o.result with
      | some _ => o
      | none => proceed cfg msg world fuel (o.next cfg msg (world o.calls.length))

/-- A bound on the calls still to come. -/
def callsLeft (msg : Message) : ProcessPc → Nat
  | .fetch => 11 + 2 * (msg.maxAttempts - msg.attempt).toNat
  | .markProcessing _ => 10 + 2 * (msg.maxAttempts - msg.attempt).toNat
  | .preference _ => 9 + 2 * (msg.maxAttempts - msg.attempt).toNat
  | .rateLimit _ => 8 + 2 * (msg.maxAttempts - msg.attempt).toNat
  | .render _ => 7 + 2 * (msg.maxAttempts - msg.attempt).toNat
  | .send _ attempt => 6 + 2 * (msg.maxAttempts - attempt).toNat
  | .backoff _ attempt => 7 + 2 * (msg.maxAttempts - (attempt + 1)).toNat
  | .closing _ todo => 1 + todo.length
  | .returned _ => 0

def begin (sh : Shared) : Progress := ⟨sh, .fetch, []⟩

/-- `Processor.Process`. -/
def process (cfg : Config) (msg : Message) (world : Nat → Answer) (sh : Shared) : Progress :=
  proceed cfg msg world (callsLeft msg .fetch) (begin sh)

section Termination

variable {cfg : Config} {msg : Message} {world : Nat → Answer}

@[simp] theorem length_dropClosing (reason : String) : (dropClosing reason).length = 3 := rfl

@[simp] theorem length_failClosing (reason errMsg : String) :
    (failClosing reason errMsg).length = 4 := rfl

@[simp] theorem length_deliverClosing (now : Time) : (deliverClosing now).length = 3 := rfl

theorem result_eq_none {o : Progress} (running : o.result = none) (err : Option Err) :
    o.pc ≠ .returned err := by
  intro returned
  simp [Progress.result, returned] at running

/-- Every call brings the end closer. -/
theorem callsLeft_onward {a : Answer} {sh sh' : Shared} {pc pc' : ProcessPc}
    (onward : Onward cfg a msg sh pc sh' pc') : callsLeft msg pc' < callsLeft msg pc := by
  cases onward with
  | unfetched | fetched | unprocessed | processing | unasked | wanted | uncounted | unlimited
  | rendered | unsent | waited | closed | closing =>
      simp only [callsLeft, List.length_nil, List.length_cons]
      omega
  | unwanted | limited =>
      simp only [callsLeft, length_dropClosing]
      omega
  | unsendable | gaveUp | interrupted =>
      simp only [callsLeft, length_failClosing]
      omega
  | sent =>
      simp only [callsLeft, length_deliverClosing]
      omega

theorem callsLeft_processStep (a : Answer) (sh : Shared) (pc : ProcessPc)
    (running : ∀ err, pc ≠ .returned err) :
    callsLeft msg (processStep cfg a msg sh pc).2 < callsLeft msg pc :=
  callsLeft_onward (processStep_onward cfg a msg sh running)

theorem proceed_returns (fuel : Nat) (o : Progress) (enough : callsLeft msg o.pc ≤ fuel) :
    ∃ err, (proceed cfg msg world fuel o).result = some err := by
  induction fuel generalizing o with
  | zero =>
      cases finished : o.result with
      | some err => exact ⟨err, finished⟩
      | none =>
          have fewer : callsLeft msg (processStep cfg {} msg o.shared o.pc).2 < callsLeft msg o.pc :=
            callsLeft_processStep {} o.shared o.pc (result_eq_none finished)
          omega
  | succ fuel ih =>
      cases finished : o.result with
      | some err => exact ⟨err, by simp only [proceed, finished]⟩
      | none =>
          simp only [proceed, finished]
          apply ih
          have fewer : callsLeft msg (o.next cfg msg (world o.calls.length)).pc < callsLeft msg o.pc :=
            callsLeft_processStep _ o.shared o.pc (result_eq_none finished)
          omega

/-- Process returns, whatever the outside world answers. -/
theorem process_returns (cfg : Config) (msg : Message) (world : Nat → Answer) (sh : Shared) :
    ∃ err, (process cfg msg world sh).result = some err :=
  proceed_returns _ _ Nat.le.refl

end Termination

/-! ## Moments of a call -/

section Moments

variable {cfg : Config} {msg : Message} {world : Nat → Answer} {sh : Shared} {o : Progress}

/-- What the answers of a world preserve holds at every moment of the call. -/
theorem proceed_along (Inv : Progress → Prop)
    (keeps : ∀ o, Inv o → o.result = none → Inv (o.next cfg msg (world o.calls.length)))
    (fuel : Nat) (inv : Inv o) : Inv (proceed cfg msg world fuel o) := by
  induction fuel generalizing o with
  | zero => exact inv
  | succ fuel ih =>
      cases finished : o.result with
      | some err => simpa only [proceed, finished] using inv
      | none =>
          simp only [proceed, finished]
          exact ih (keeps o inv finished)

/-- ... and when it returns. -/
theorem process_along (Inv : Progress → Prop) (start : Inv (begin sh))
    (keeps : ∀ o, Inv o → o.result = none → Inv (o.next cfg msg (world o.calls.length))) :
    Inv (process cfg msg world sh) :=
  proceed_along Inv keeps _ start

theorem proceed_finished {err : Option Err} (finished : o.result = some err) (fuel : Nat) :
    proceed cfg msg world fuel o = o := by
  cases fuel with
  | zero => rfl
  | succ fuel => simp only [proceed, finished]

theorem proceed_add (k fuel : Nat) :
    proceed cfg msg world (k + fuel) o = proceed cfg msg world fuel (proceed cfg msg world k o) := by
  induction k generalizing o with
  | zero => rw [Nat.zero_add, proceed]
  | succ k ih =>
      rw [Nat.succ_add]
      cases finished : o.result with
      | some err => simp only [proceed, finished, proceed_finished finished]
      | none =>
          simp only [proceed, finished]
          exact ih

theorem proceed_next (k : Nat) (running : (proceed cfg msg world k o).result = none) :
    proceed cfg msg world (k + 1) o = (proceed cfg msg world k o).next cfg msg
      (world (proceed cfg msg world k o).calls.length) := by
  rw [proceed_add]
  simp only [proceed, running]

theorem calls_prefix (fuel : Nat) : o.calls <+: (proceed cfg msg world fuel o).calls :=
  proceed_along (fun later => o.calls <+: later.calls)
    (fun _ earlier _ => earlier.trans (List.prefix_append _ _)) fuel (List.prefix_refl _)

/-- The calls up to a moment are among those of the whole. -/
theorem calls_upTo (k : Nat) :
    (proceed cfg msg world k (begin sh)).calls <+: (process cfg msg world sh).calls := by
  obtain ⟨err, finished⟩ := process_returns cfg msg world sh
  have whole : process cfg msg world sh =
      proceed cfg msg world (callsLeft msg .fetch) (proceed cfg msg world k (begin sh)) := by
    rw [← proceed_add, Nat.add_comm, proceed_add]
    exact (proceed_finished finished k).symm
  rw [whole]
  exact calls_prefix _

/-- Every call is made at some moment. -/
theorem moment_of_call {call : Call} (made : call ∈ (process cfg msg world sh).calls) :
    ∃ k, (proceed cfg msg world k (begin sh)).pc = call.pc ∧
      call.answer = world (proceed cfg msg world k (begin sh)).calls.length := by
  have along : (∃ k, process cfg msg world sh = proceed cfg msg world k (begin sh)) ∧
      ∀ call ∈ (process cfg msg world sh).calls,
        ∃ k, (proceed cfg msg world k (begin sh)).pc = call.pc ∧
          call.answer = world (proceed cfg msg world k (begin sh)).calls.length := by
    apply process_along fun o => (∃ k, o = proceed cfg msg world k (begin sh)) ∧
      ∀ call ∈ o.calls, ∃ k, (proceed cfg msg world k (begin sh)).pc = call.pc ∧
        call.answer = world (proceed cfg msg world k (begin sh)).calls.length
    · exact ⟨⟨0, rfl⟩, by simp [begin]⟩
    · rintro o ⟨⟨k, rfl⟩, earlier⟩ running
      refine ⟨⟨k + 1, (proceed_next k running).symm⟩, ?_⟩
      exact List.forall_mem_append.mpr ⟨earlier, List.forall_mem_singleton.mpr ⟨k, rfl, rfl⟩⟩
  exact along.2 call made

end Moments

/-- What every call of Process preserves holds when it returns. -/
theorem process_invariant {cfg : Config} {msg : Message} {world : Nat → Answer} {sh : Shared}
    (Inv : Progress → Prop) (start : Inv (begin sh))
    (keeps : ∀ o a, Inv o → o.result = none → Inv (o.next cfg msg a)) :
    Inv (process cfg msg world sh) :=
  process_along Inv start fun o inv running => keeps o _ inv running

/-! ## The same call as a thread of the system -/

section Thread

variable {cfg : Config} {msg : Message} {i offset : Nat} {ts : List Thread}

/-- The system while thread `i` is the call in question. -/
def processing (i : Nat) (ts : List Thread) (offset : Nat) (msg : Message) (o : Progress) : State :=
  ⟨o.shared, ts.set i (.process offset msg o.pc)⟩

theorem step_processing (inside : i < ts.length) {o : Progress} (running : o.result = none)
    (a : Answer) :
    step cfg (processing i ts offset msg o) (.step i a) =
      some (processing i ts offset msg (o.next cfg msg a)) := by
  have here : (ts.set i (.process offset msg o.pc))[i]? = some (.process offset msg o.pc) :=
    List.getElem?_set_self inside
  have live := result_eq_none running
  cases pc : o.pc with
  | returned err => exact absurd pc (live err)
  | fetch | markProcessing | preference | rateLimit | render | send | backoff | closing =>
      simp only [pc] at here
      simp only [processing, step, pc, here, Thread.step, List.set_set, Progress.next]

theorem run_proceed (inside : i < ts.length) (world : Nat → Answer) (fuel : Nat) (o : Progress) :
    ∃ answers : List Answer, run cfg (processing i ts offset msg o) (answers.map (.step i)) =
      some (processing i ts offset msg (proceed cfg msg world fuel o)) := by
  induction fuel generalizing o with
  | zero => exact ⟨[], rfl⟩
  | succ fuel ih =>
      cases finished : o.result with
      | some err => exact ⟨[], by simp only [proceed, finished]; rfl⟩
      | none =>
          obtain ⟨answers, onward⟩ := ih (o.next cfg msg (world o.calls.length))
          refine ⟨world o.calls.length :: answers, ?_⟩
          simp only [proceed, finished]
          exact (Transition.run_cons (step_processing inside finished _) _).trans onward

/-- Every outcome of Process is the outcome of an uninterrupted worker thread. -/
theorem process_refined (cfg : Config) (world : Nat → Answer) {s : State}
    (called : s.threads[i]? = some (.process offset msg .fetch)) :
    ∃ answers : List Answer, run cfg s (answers.map (.step i)) =
      some (processing i s.threads offset msg (process cfg msg world s.shared)) := by
  obtain ⟨inside, found⟩ := List.getElem?_eq_some_iff.mp called
  have start : s = processing i s.threads offset msg (begin s.shared) := by
    have same : s.threads.set i (.process offset msg .fetch) = s.threads := by
      rw [← found, List.set_getElem_self]
    simp only [processing, begin, same]
  have alone : ∃ answers : List Answer,
      run cfg (processing i s.threads offset msg (begin s.shared)) (answers.map (.step i)) =
        some (processing i s.threads offset msg (process cfg msg world s.shared)) :=
    run_proceed inside world _ _
  rwa [← start] at alone

end Thread

/-! ## The stored status -/

/-- The notification is stored with the status. -/
def Holds (db : Database) (id : UUID) (status : NotificationStatus) : Prop :=
  ∃ row ∈ db.notifications, row.id = id ∧ row.status = status

section Status

variable {db db' : Database} {id : UUID} {status : NotificationStatus} {n : Notification}
  {conn : Conn} {now : Time}

theorem Holds.statusOf (holds : Holds db id status) : statusOf db id = some status := by
  obtain ⟨row, stored, rfl, rfl⟩ := holds
  exact statusOf_of_mem stored

theorem holds_of_updateStatus (updated : updateStatus conn db id status now = .ok (n, db')) :
    Holds db' id status := by
  obtain ⟨row, stored, same, _, rfl⟩ := updateStatus_ok updated
  refine ⟨Database.stamp status now row, Rows.mem_updateWhere.mpr ⟨row, stored, ?_⟩, same, rfl⟩
  simp [same]

/-- An update of a stored notification fails only with the connection. -/
theorem Holds.updateStatus {old : NotificationStatus} (holds : Holds db id old)
    (status : NotificationStatus) (now : Time) :
    ∃ n db', NotificationRepository.updateStatus .up db id status now = .ok (n, db') := by
  obtain ⟨row, stored, rfl, _⟩ := holds
  exact ⟨_, _, updateStatus_of_mem stored⟩

end Status

/-! ## A stored notification and its message -/

/-- The deployment of the lifecycle modules after one Send. -/
def queued : Shared :=
  ((run plain deployed ([.call acme welcome] ++ steps 0 5)).getD deployed).shared

def envelope : Message :=
  { notificationID := 0
    tenantID := acme
    channel := .email
    recipientID := "u1"
    recipientAddress := "u1@example.com"
    templateID := none
    payload := []
    priority := 5
    attempt := 1
    maxAttempts := 3
    enqueuedAt := 0 }

end NotifyHub.Pipeline
