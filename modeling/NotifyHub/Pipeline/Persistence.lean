import NotifyHub.Pipeline.Course

/-! # The terminal status that is not written

On every exit the terminal status is one of several calls whose errors are logged
only. `Stage` follows the stored status through a call of Process under any failures:
it is processing from the mark on, and stays so if that one write fails. Process
returns nil in either case, and the pool commits the offset.
-/

namespace NotifyHub.Pipeline

open Lifecycle NotificationRepository

/-- The call is the write of the terminal status. -/
def Call.settles (call : Call) : Bool :=
  match call.pc with
  | .closing _ (.updateStatus _ :: _) => true
  | _ => false

/-- Every write of a terminal status that was tried went through. -/
def Persisted (calls : List Call) : Prop :=
  ∀ call ∈ calls, call.settles = true → call.answer.fault = none

instance (calls : List Call) : Decidable (Persisted calls) :=
  inferInstanceAs (Decidable (∀ call ∈ calls, call.settles = true → call.answer.fault = none))

/-- The terminal status was written, or it was not and the old one is left. -/
def Written (msg : Message) (sh : Shared) (calls : List Call) : Prop :=
  Persisted calls ∧ (∃ status, Terminal status ∧ Holds sh.db msg.notificationID status) ∨
    ¬ Persisted calls ∧ Holds sh.db msg.notificationID .processing

/-- No terminal status has been tried yet. -/
def Untried (calls : List Call) : Prop := ∀ call ∈ calls, call.settles = false

/-- Where the stored status can be, by where the call stands and whatever has failed. -/
def Stage (msg : Message) (sh : Shared) (calls : List Call) : ProcessPc → Prop
  | .fetch => Untried calls
  | .markProcessing n => Untried calls ∧ n.id = msg.notificationID
  | .preference n | .rateLimit n | .render n | .send n _ | .backoff n _ =>
      Untried calls ∧ n.id = msg.notificationID ∧ Holds sh.db msg.notificationID .processing
  | .closing n todo =>
      n.id = msg.notificationID ∧
        ((∃ status, Terminal status ∧ closingStatuses todo = [status]) ∧ Untried calls ∧
            Holds sh.db msg.notificationID .processing ∨
          closingStatuses todo = [] ∧ Written msg sh calls)
  | .returned (some _) => Untried calls
  | .returned none => Written msg sh calls

section Stage

variable {sh sh' : Shared} {msg : Message} {n : Notification} {calls : List Call} {call : Call}
  {cfg : Config} {a : Answer} {pc : ProcessPc}

theorem Untried.onward (untried : Untried calls) (other : call.settles = false) :
    Untried (calls ++ [call]) :=
  List.forall_mem_append.mpr ⟨untried, List.forall_mem_singleton.mpr other⟩

theorem Untried.persisted (untried : Untried calls) : Persisted calls := by
  intro c member settles
  simp [untried c member] at settles

theorem persisted_append (calls : List Call) (call : Call) :
    Persisted (calls ++ [call]) ↔
      Persisted calls ∧ (call.settles = true → call.answer.fault = none) := by
  unfold Persisted
  rw [List.forall_mem_append, List.forall_mem_singleton]

theorem Written.onward (written : Written msg sh calls) (other : call.settles = false)
    (db : sh'.db = sh.db) : Written msg sh' (calls ++ [call]) := by
  have same : Persisted (calls ++ [call]) ↔ Persisted calls := by
    simp [persisted_append, other]
  unfold Written
  rw [same, db]
  exact written

/-- An exit begins with its terminal status unwritten. -/
theorem stage_exit {todo : List Closing} {status : NotificationStatus} (untried : Untried calls)
    (same : n.id = msg.notificationID) (holds : Holds sh.db msg.notificationID .processing)
    (terminal : Terminal status) (writes : closingStatuses todo = [status]) :
    Stage msg sh calls (.closing n todo) :=
  ⟨same, .inl ⟨⟨status, terminal, writes⟩, untried, holds⟩⟩

theorem stage_drop (untried : Untried calls) (same : n.id = msg.notificationID)
    (holds : Holds sh.db msg.notificationID .processing) (reason : String) :
    Stage msg sh calls (.closing n (dropClosing reason)) :=
  stage_exit untried same holds (.inr (.inr rfl)) rfl

theorem stage_fail (untried : Untried calls) (same : n.id = msg.notificationID)
    (holds : Holds sh.db msg.notificationID .processing) (reason errMsg : String) :
    Stage msg sh calls (.closing n (failClosing reason errMsg)) :=
  stage_exit untried same holds (.inr (.inl rfl)) rfl

theorem stage_deliver (untried : Untried calls) (same : n.id = msg.notificationID)
    (holds : Holds sh.db msg.notificationID .processing) (now : Time) :
    Stage msg sh calls (.closing n (deliverClosing now)) :=
  stage_exit untried same holds (.inl rfl) rfl

theorem stage_settle {status : NotificationStatus} {todo : List Closing}
    (stage : Stage msg sh calls (.closing n (.updateStatus status :: todo))) :
    Stage msg (closingStep cfg a msg n sh (.updateStatus status))
      (calls ++ [⟨.closing n (.updateStatus status :: todo), a⟩]) (.closing n todo) := by
  obtain ⟨same, ⟨⟨only, terminal, writes⟩, untried, holds⟩ | ⟨writes, _⟩⟩ := stage
  · obtain ⟨rfl, rest⟩ := List.cons.inj writes
    refine ⟨same, .inr ⟨rest, ?_⟩⟩
    unfold Written
    rw [persisted_append]
    cases fault : a.fault with
    | none =>
        have up : a.conn = .up := by simp [Answer.conn, fault]
        obtain ⟨result, db, updated⟩ := (same ▸ holds).updateStatus status a.now
        simp only [closingStep, up, updated]
        exact .inl ⟨⟨untried.persisted, fun _ => trivial⟩, status, terminal,
          same ▸ holds_of_updateStatus updated⟩
    | some f =>
        have down : a.conn = .down := by simp [Answer.conn, fault]
        simp only [closingStep, down, updateStatus, Conn.exec]
        exact .inr ⟨fun both => absurd (both.2 rfl) (by simp), holds⟩
  · simp [closingStatuses] at writes

/-- A closing call other than the status write. -/
theorem stage_close {act : Closing} {todo : List Closing}
    (stage : Stage msg sh calls (.closing n (act :: todo)))
    (other : closingStatuses (act :: todo) = closingStatuses todo)
    (unsettling : Call.settles ⟨.closing n (act :: todo), a⟩ = false)
    (db : (closingStep cfg a msg n sh act).db = sh.db) :
    Stage msg (closingStep cfg a msg n sh act) (calls ++ [⟨.closing n (act :: todo), a⟩])
      (.closing n todo) := by
  obtain ⟨same, pending | done⟩ := stage
  · obtain ⟨writes, untried, holds⟩ := pending
    exact ⟨same, .inl ⟨other ▸ writes, untried.onward unsettling, db ▸ holds⟩⟩
  · exact ⟨same, .inr ⟨other ▸ done.1, done.2.onward unsettling db⟩⟩

/-- One outside call of Process, whatever it answers. -/
theorem stage_onward {pc' : ProcessPc} (onward : Onward cfg a msg sh pc sh' pc')
    (stage : Stage msg sh calls pc) : Stage msg sh' (calls ++ [⟨pc, a⟩]) pc' := by
  cases onward with
  | unfetched => exact Untried.onward stage rfl
  | fetched found =>
      obtain ⟨row, _, same, _, rfl⟩ := getByID_ok found
      exact ⟨Untried.onward stage rfl, same⟩
  | unprocessed | unasked | uncounted => exact stage.1.onward rfl
  | processing updated =>
      exact ⟨stage.1.onward rfl, stage.2, stage.2 ▸ holds_of_updateStatus updated⟩
  | unwanted | limited => exact stage_drop (stage.1.onward rfl) stage.2.1 stage.2.2 _
  | wanted | unlimited | rendered | unsent | waited =>
      exact ⟨stage.1.onward rfl, stage.2.1, stage.2.2⟩
  | unsendable | gaveUp | interrupted =>
      exact stage_fail (stage.1.onward rfl) stage.2.1 stage.2.2 _ _
  | sent => exact stage_deliver (stage.1.onward rfl) stage.2.1 stage.2.2 _
  | closed =>
      obtain ⟨_, pending | done⟩ := stage
      · simp [closingStatuses] at pending
      · exact done.2.onward rfl rfl
  | @closing n act todo =>
      cases act with
      | updateStatus status => exact stage_settle stage
      | logDelivery | deadLetter | dispatchWebhook =>
          exact stage_close stage rfl rfl (closingStep_db_of_ne (by simp))

end Stage

theorem process_stage (cfg : Config) (msg : Message) (world : Nat → Answer) (sh : Shared) :
    Stage msg (process cfg msg world sh).shared (process cfg msg world sh).calls
      (process cfg msg world sh).pc :=
  process_invariant (fun o => Stage msg o.shared o.calls o.pc) (fun _ => by simp [begin])
    (fun _ _ inv running => stage_onward (processStep_onward _ _ _ _ (result_eq_none running)) inv)

/-! ## The write of the terminal status among the answers -/

/-- The exit that the answers lead to writes its status, and that call has an answer. -/
def StatusAnswered (cfg : Config) (msg : Message) (world : Nat → Answer) (sh : Shared) : Prop :=
  ∀ n exit, Reaches cfg msg world sh n exit → ∀ i status,
    (exit.closings world n)[i]? = some (.updateStatus status) → (world (exit.before + i)).fault = none

section Answers

variable {cfg : Config} {msg : Message} {world : Nat → Answer} {sh : Shared} {n : Notification}
  {exit : Exit}

/-- Every exit writes one status. -/
theorem Exit.status_once {i j : Nat} {status status' : NotificationStatus}
    (first : (exit.closings world n)[i]? = some (.updateStatus status))
    (second : (exit.closings world n)[j]? = some (.updateStatus status')) : i = j := by
  have drops : ∀ reason k status, (dropClosing reason)[k]? = some (.updateStatus status) → k = 1 := by
    rintro reason (_ | _ | _ | k) status found <;> simp_all [dropClosing]
  have fails : ∀ reason errMsg k status,
      (failClosing reason errMsg)[k]? = some (.updateStatus status) → k = 2 := by
    rintro reason errMsg (_ | _ | _ | _ | k) status found <;> simp_all [failClosing]
  have delivers : ∀ now k status,
      (deliverClosing now)[k]? = some (.updateStatus status) → k = 1 := by
    rintro now (_ | _ | _ | k) status found <;> simp_all [deliverClosing]
  cases exit with
  | unwanted | limited => exact (drops _ _ _ first).trans (drops _ _ _ second).symm
  | unrendered | unregistered => exact (fails _ _ _ _ first).trans (fails _ _ _ _ second).symm
  | tried j v =>
      cases v with
      | accepted => exact (delivers _ _ _ first).trans (delivers _ _ _ second).symm
      | permanent | exhausted | interrupted =>
          exact (fails _ _ _ _ first).trans (fails _ _ _ _ second).symm

/-- Which of the answers is that of a status write. -/
theorem answer_of_settles {call : Call} (made : call ∈ (process cfg msg world sh).calls)
    (settles : call.settles = true) :
    ∃ n exit i status, Reaches cfg msg world sh n exit ∧
      (exit.closings world n)[i]? = some (.updateStatus status) ∧
      call.answer = world (exit.before + i) := by
  obtain ⟨k, here, answer⟩ := moment_of_call made
  have course := course_at cfg msg world sh k
  unfold Call.settles at settles
  split at settles
  · rename_i n status todo pc
    unfold Course at course
    rw [here, pc] at course
    obtain ⟨exit, done, reaches, split, _, length⟩ := course
    refine ⟨n, exit, done.length, status, reaches, ?_, by rw [answer, length]⟩
    rw [← split, List.getElem?_append_right le_rfl, Nat.sub_self]
    rfl
  · cases settles

theorem persisted_iff_answered :
    Persisted (process cfg msg world sh).calls ↔ StatusAnswered cfg msg world sh := by
  constructor
  · intro persisted n exit reaches i status written
    rcases process_course cfg msg world sh with ⟨_, unanswered, _⟩ | ⟨_, m, other, reaches', made⟩
    · exact absurd reaches.answered unanswered
    · obtain ⟨rfl, rfl⟩ := reaches.unique reaches'
      have closed : (n, Closing.updateStatus status) ∈
          (process cfg msg world sh).calls.filterMap Call.closing := by
        rw [made.done]
        exact List.mem_map_of_mem (List.mem_of_getElem? written)
      obtain ⟨call, member, closing⟩ := List.mem_filterMap.mp closed
      have settles : call.settles = true := by
        unfold Call.closing at closing
        split at closing
        · rename_i pc
          obtain ⟨rfl, rfl⟩ := Prod.mk.inj (Option.some.inj closing)
          simp only [Call.settles, pc]
        · cases closing
      obtain ⟨_, _, j, _, reaches'', here, answer⟩ := answer_of_settles member settles
      obtain ⟨rfl, rfl⟩ := reaches.unique reaches''
      rw [Exit.status_once written here, ← answer]
      exact persisted call member settles
  · intro answered call member settles
    obtain ⟨n, exit, i, status, reaches, written, answer⟩ := answer_of_settles member settles
    rw [answer]
    exact answered n exit reaches i status written

end Answers

/-- A nil return leaves a terminal status behind if and only if the write of the
    terminal status, when the answers lead to it, reaches the database. -/
theorem settled_iff_persisted (cfg : Config) (msg : Message) (world : Nat → Answer) (sh : Shared) :
    ((process cfg msg world sh).result = some none →
        ∃ status, Terminal status ∧
          statusOf (process cfg msg world sh).shared.db msg.notificationID = some status) ↔
      StatusAnswered cfg msg world sh := by
  rw [← persisted_iff_answered]
  have stage := process_stage cfg msg world sh
  obtain ⟨err, returned⟩ := process_returns cfg msg world sh
  generalize process cfg msg world sh = o at stage returned ⊢
  obtain ⟨sh', pc, calls⟩ := o
  cases pc with
  | returned err =>
      cases err with
      | some e => exact ⟨fun _ => Untried.persisted stage, fun _ nil_ => by simp [Progress.result] at nil_⟩
      | none =>
          cases stage with
          | inl saved =>
              obtain ⟨persisted, status, terminal, holds⟩ := saved
              exact ⟨fun _ => persisted, fun _ _ => ⟨status, terminal, holds.statusOf⟩⟩
          | inr lost =>
              obtain ⟨unsaved, holds⟩ := lost
              refine ⟨fun settles => ?_, fun persisted => absurd persisted unsaved⟩
              obtain ⟨status, terminal, stored⟩ := settles rfl
              rw [holds.statusOf] at stored
              obtain rfl := Option.some.inj stored
              simp [Terminal] at terminal
  | fetch | markProcessing | preference | rateLimit | render | send | backoff | closing =>
      simp [Progress.result] at returned

/-- The database is away for the last status write of a delivery. -/
def lostWrite (call : Nat) : Answer := if call = 7 then { fault := some ⟨"down", false⟩ } else {}

/-- The message is done with, and the notification stays in processing. -/
theorem processing_after_nil :
    (process plain envelope lostWrite queued).result = some none ∧
      statusOf (process plain envelope lostWrite queued).shared.db envelope.notificationID =
        some .processing := by
  decide +kernel

end NotifyHub.Pipeline
