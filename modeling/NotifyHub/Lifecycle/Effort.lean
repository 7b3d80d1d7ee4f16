import NotifyHub.Lifecycle.Hands

/-! # How often a provider is called

The broker may deliver a message again and again, and a dead letter may be replayed. Each
Process call comes with a budget of provider calls, the same for all of them, and the budgets
of all calls together pay for every provider call of a run.
-/

namespace NotifyHub.Lifecycle

open Database NotificationRepository
open NotificationService hiding getByID list cancel

/-! ## The budget -/

/-- The provider calls that an envelope of this configuration allows. -/
def budget (cfg : Config) : Nat := max 1 cfg.maxRetries.toNat

/-- The Process calls for a notification. -/
def Thread.processes (id : UUID) : Thread → Bool
  | .process _ msg _ => msg.notificationID == id
  | _ => false

/-- The provider calls that a Process call may still make. -/
def ProcessPc.left (msg : Message) : ProcessPc → Nat
  | .fetch | .markProcessing _ | .preference _ | .rateLimit _ | .render _ =>
      (msg.maxAttempts - msg.attempt).toNat + 1
  | .send _ attempt => (msg.maxAttempts - attempt).toNat + 1
  | .backoff _ attempt => (msg.maxAttempts - attempt).toNat
  | .closing .. | .returned _ => 0

def Thread.left (id : UUID) : Thread → Nat
  | .process _ msg pc => if msg.notificationID = id then pc.left msg else 0
  | _ => 0

/-- A call that waits has an attempt left. -/
def Thread.Waiting : Thread → Prop
  | .process _ msg (.backoff _ attempt) => attempt < msg.maxAttempts
  | _ => True

structure Paced (cfg : Config) (s : State) : Prop where
  coherent : Coherent s
  envelopes : ∀ record ∈ s.shared.topics, record.publication.value.attempt = 1 ∧
    record.publication.value.maxAttempts = cfg.maxRetries
  waiting : ∀ t ∈ s.threads, t.Waiting
  spent : ∀ id, s.shared.providerSends.count id + (s.threads.map (Thread.left id)).sum ≤
    budget cfg * (s.threads.map fun t => (t.processes id).toNat).sum

section Step

variable {cfg : Config} {i : Nat} {a : Answer} {s s' : State} {sh sh' : Shared} {t t' : Thread}
  {id : UUID}

theorem closingStep_sends (msg : Message) (n : Notification) (act : Closing) :
    (closingStep cfg a msg n sh act).providerSends = sh.providerSends := by
  cases act with
  | logDelivery | deadLetter | updateStatus =>
      simp only [closingStep]
      split <;> rfl
  | dispatchWebhook => rfl

theorem count_called (n : Notification) :
    (sh.called n).providerSends.count id = sh.providerSends.count id + if n.id = id then 1 else 0 := by
  simp only [Shared.called, List.count_append, List.count_singleton, beq_iff_eq]

/-- A step of Process pays for the call it makes. -/
theorem Onward.pays (id : UUID) {msg : Message} {pc pc' : ProcessPc} {offset : Nat}
    (onward : Onward cfg a msg sh pc sh' pc') (waiting : (Thread.process offset msg pc).Waiting)
    (subject : ∀ n ∈ (Thread.process offset msg pc).copies, n.id = msg.notificationID) :
    sh'.providerSends.count id + (Thread.process offset msg pc').left id ≤
        sh.providerSends.count id + (Thread.process offset msg pc).left id ∧
      (Thread.process offset msg pc').Waiting := by
  cases onward with
  | unfetched | fetched | unprocessed | processing | unasked | unwanted | wanted | uncounted
  | limited | unlimited | unsendable | rendered | closed =>
      refine ⟨?_, trivial⟩
      simp only [Thread.left, ProcessPc.left]
      split <;> omega
  | sent | gaveUp =>
      refine ⟨?_, trivial⟩
      have same := subject _ (List.mem_singleton_self _)
      simp only [count_called, same, Thread.left, ProcessPc.left]
      split <;> omega
  | unsent failed left =>
      refine ⟨?_, left⟩
      have same := subject _ (List.mem_singleton_self _)
      simp only [count_called, same, Thread.left, ProcessPc.left]
      split <;> omega
  | interrupted =>
      refine ⟨?_, trivial⟩
      simp only [Thread.left, ProcessPc.left]
      split <;> omega
  | waited =>
      refine ⟨?_, trivial⟩
      simp only [Thread.Waiting] at waiting
      simp only [Thread.left, ProcessPc.left]
      split <;> omega
  | closing =>
      refine ⟨?_, trivial⟩
      rw [closingStep_sends]
      simp only [Thread.left, ProcessPc.left]
      split <;> omega

theorem Thread.Produces.idle (produces : t.Produces) (id : UUID) :
    t.left id = 0 ∧ t.processes id = false := by
  cases t with
  | send | tick => exact ⟨rfl, rfl⟩
  | process => exact produces.elim

theorem Thread.Produces.waiting (produces : t.Produces) : t.Waiting := by
  cases t with
  | send | tick => trivial
  | process => exact produces.elim

theorem Thread.step_pays (ok : ThreadOk sh t) (waiting : t.Waiting)
    (taken : t.step cfg i a sh = some (sh', t')) :
    (∀ id, sh'.providerSends.count id + t'.left id ≤ sh.providerSends.count id + t.left id ∧
      t'.processes id = t.processes id) ∧ t'.Waiting := by
  rcases Thread.step_cases taken with ⟨before, after, unworked⟩ | ⟨offset, msg, pc, pc', rfl, rfl, onward⟩
  · refine ⟨fun id => ?_, after.waiting⟩
    rw [unworked.sends, (before.idle id).1, (after.idle id).1, (before.idle id).2,
      (after.idle id).2]
    exact ⟨Nat.le_refl _, rfl⟩
  · have subject : ∀ n ∈ (Thread.process offset msg pc).copies, n.id = msg.notificationID :=
      fun n member => ((ok.message _ _ _ rfl).2.1 n member).1
    exact ⟨fun id => ⟨(onward.pays id waiting subject).1, rfl⟩,
      (onward.pays msg.notificationID waiting subject).2⟩

theorem Paced.moved (inv : Paced cfg s) (coherent : Coherent ⟨sh, s.threads.set i t'⟩)
    (running : s.threads[i]? = some t) (taken : t.step cfg i a s.shared = some (sh, t')) :
    Paced cfg ⟨sh, s.threads.set i t'⟩ := by
  have there := List.mem_of_getElem? running
  obtain ⟨pays, waiting⟩ :=
    Thread.step_pays (inv.coherent.threads t there) (inv.waiting t there) taken
  refine ⟨coherent, ?_, ?_, ?_⟩
  · intro record member
    cases Thread.step_move taken with
    | published | itemPublished =>
        rcases List.mem_append.mp member with old | new
        · exact inv.envelopes record old
        · obtain rfl := List.mem_singleton.mp new
          exact ⟨rfl, rfl⟩
    | working quiet => exact inv.envelopes record (quiet.topics ▸ member)
    | refused | hit | miss | created | later | due | unpublished | unmarked | queued
    | nextRecipient | unlisted | listed | itemUnpublished | itemUnmarked | itemQueued | unfetched
    | fetched | unprocessed | processing | settled => exact inv.envelopes record member
  · intro x member
    rcases Threads.mem_set member with rfl | old
    · exact waiting
    · exact inv.waiting x old
  · intro id
    obtain ⟨less, same⟩ := pays id
    have before := inv.spent id
    have left := Threads.sum_set t' (Thread.left id) running
    have calls := Threads.sum_set t' (fun t => (t.processes id).toNat) running
    simp only [same, Nat.add_right_cancel_iff] at calls
    simp only [calls]
    omega

theorem Paced.started (inv : Paced cfg s) (coherent : Coherent ⟨s.shared, s.threads ++ [t]⟩)
    (produces : t.Produces) : Paced cfg ⟨s.shared, s.threads ++ [t]⟩ := by
  refine ⟨coherent, inv.envelopes, ?_, ?_⟩
  · intro x member
    rcases List.mem_append.mp member with old | new
    · exact inv.waiting x old
    · exact List.mem_singleton.mp new ▸ produces.waiting
  · intro id
    have before := inv.spent id
    simp only [List.map_append, List.map_cons, List.map_nil, List.sum_append, List.sum_cons,
      List.sum_nil, (produces.idle id).1, (produces.idle id).2, Bool.toNat_false]
    exact before

theorem paced_step {label : Label} (inv : Paced cfg s) (taken : step cfg s label = some s') :
    Paced cfg s' := by
  have coherent := coherent_step inv.coherent taken
  cases step_steps taken with
  | stay => exact inv
  | start outside fresh =>
      refine inv.started coherent ?_
      cases fresh with
      | call | bulk | tick => trivial
  | @deliver offset record stored =>
      refine ⟨coherent, inv.envelopes, ?_, ?_⟩
      · intro x member
        rcases List.mem_append.mp member with old | new
        · exact inv.waiting x old
        · exact List.mem_singleton.mp new ▸ trivial
      · intro id
        have before := inv.spent id
        obtain ⟨first, last⟩ := inv.envelopes _ (List.mem_of_getElem? stored)
        have enough : (cfg.maxRetries - 1).toNat + 1 = budget cfg := by
          unfold budget
          omega
        have left : (Thread.process offset record.publication.value .fetch).left id =
            budget cfg *
              ((Thread.process offset record.publication.value .fetch).processes id).toNat := by
          simp only [Thread.left, ProcessPc.left, Thread.processes, first, last, enough]
          split
          · rename_i about
            simp [about]
          · rename_i other
            simp [beq_eq_false_iff_ne.mpr other]
        simp only [List.map_append, List.map_cons, List.map_nil, List.sum_append, List.sum_cons,
          List.sum_nil, left, Nat.mul_add]
        omega
  | cancelled => exact ⟨coherent, inv.envelopes, inv.waiting, inv.spent⟩
  | replayed stored =>
      refine ⟨coherent, ?_, inv.waiting, inv.spent⟩
      intro record member
      rcases List.mem_append.mp member with old | new
      · exact inv.envelopes record old
      · obtain rfl := List.mem_singleton.mp new
        exact ⟨rfl, rfl⟩
  | moved =>
      obtain ⟨t, sh, t', running, onward, same⟩ := step_thread taken
      rw [same] at coherent ⊢
      exact inv.moved coherent running onward

theorem sum_processes (id : UUID) (ts : List Thread) :
    (ts.map fun t => (t.processes id).toNat).sum = (ts.filter (Thread.processes id)).length := by
  induction ts with
  | nil => rfl
  | cons t rest ih => cases about : t.processes id <;> simp [about, ih, Nat.add_comm]

end Step

/-- However messages are delivered, again and again, and replayed: a provider is called for a
    notification no more than `max 1 MaxRetries` times for each Process call about it. -/
theorem effort_bounded (cfg : Config) (db : Database) (labels : List Label) (s : State)
    (finished : run cfg (initial db) labels = some s) (id : UUID) :
    s.shared.providerSends.count id ≤
      max 1 cfg.maxRetries.toNat * (s.threads.filter (Thread.processes id)).length := by
  have inv : Paced cfg s :=
    Transition.run_invariant (fun _ _ _ inv taken => paced_step inv taken)
      ⟨coherent_initial db, by simp [initial], by simp [initial], by simp [initial]⟩ finished
  have spent := inv.spent id
  rw [sum_processes] at spent
  exact (Nat.le_add_right _ _).trans spent

/-- A provider that is busy each time. -/
def busyRun : List Label :=
  [.call acme welcome] ++ steps 0 5 ++ [.deliver 0] ++ steps 1 5 ++
    [.step 1 { fault := some ⟨"busy", false⟩ }, .step 1 {},
      .step 1 { fault := some ⟨"busy", false⟩ }, .step 1 {},
      .step 1 { fault := some ⟨"busy", false⟩ }]

/-- The bound is reached. -/
theorem busy_effort :
    ∃ s ∈ run plain deployed busyRun, s.shared.providerSends.count 0 = 3 ∧
      s.shared.providerSends.count 0 ≤
        max 1 plain.maxRetries.toNat * (s.threads.filter (Thread.processes 0)).length := by
  obtain ⟨s, finished, three⟩ : ∃ s ∈ run plain deployed busyRun,
      s.shared.providerSends.count 0 = 3 := by decide +kernel
  exact ⟨s, finished, three, effort_bounded plain _ busyRun s finished 0⟩

end NotifyHub.Lifecycle
