import NotifyHub.Lifecycle.Coherence

/-! # Scheduled notifications are never early

API, workers and Postgres read one clock here, and it never goes back. Only two
publishers look at `scheduled_at`: Send compares it with the clock before it
publishes, and the scheduler lists what is due. Both may publish later than they
looked. A replay and a worker start from a message that is out already, so they
inherit the answer.
-/

namespace NotifyHub.Lifecycle

open Database NotificationRepository
open NotificationService hiding getByID list cancel

/-! ## The system under one clock -/

/-- `publishes` and `sends` are the notifications of the messages published and of the
    provider calls so far, each with the clock value at which it was made. -/
structure Timed where
  state : State
  clock : Time
  publishes : List (Time × UUID)
  sends : List (Time × UUID)

/-- The clock value at which the outside call of a label is made. -/
def Label.reading : Label → Option Time
  | .cancel _ _ a | .replay _ a | .step _ a => some a.now
  | .call _ _ | .callBulk _ _ | .tick | .deliver _ => none

def Timed.after (s : Timed) (now : Time) (next : State) : Timed :=
  { state := next
    clock := now
    publishes := s.publishes ++ (next.shared.topics.drop s.state.shared.topics.length).map
      fun record => (now, record.publication.value.notificationID)
    sends := s.sends ++
      (next.shared.providerSends.drop s.state.shared.providerSends.length).map fun id => (now, id) }

/-- A step of the system that does not set the clock back. -/
def timedStep (cfg : Config) (s : Timed) (label : Label) : Option Timed :=
  let now := label.reading.getD s.clock
  if s.clock ≤ now then (step cfg s.state label).map (s.after now) else none

def timedInitial (db : Database) (clock : Time) : Timed :=
  { state := initial db, clock := clock, publishes := [], sends := [] }

theorem timedStep_some {cfg : Config} {s s' : Timed} {label : Label}
    (taken : timedStep cfg s label = some s') :
    s.clock ≤ label.reading.getD s.clock ∧
      ∃ next, step cfg s.state label = some next ∧ s' = s.after (label.reading.getD s.clock) next := by
  simp only [timedStep] at taken
  split at taken
  · rename_i forward
    obtain ⟨next, stepped, rfl⟩ := Option.map_eq_some_iff.mp taken
    exact ⟨forward, next, stepped, rfl⟩
  · simp at taken

/-! ## What is due -/

/-- The notification is stored, and nothing holds it back at this time. -/
def Due (db : Database) (time : Time) (id : UUID) : Prop :=
  ∃ row ∈ db.notifications, row.id = id ∧ ∀ t, row.scheduledAt = some t → t ≤ time

/-- The same of a copy in the hands of a publisher. -/
def Ripe (time : Time) (n : Notification) : Prop :=
  ∀ t, n.scheduledAt = some t → t ≤ time

section Due

variable {db : Database} {time later : Time} {id : UUID} {n : Notification}

theorem Ripe.mono (ripe : Ripe time n) (forward : time ≤ later) : Ripe later n :=
  fun t same => le_trans (ripe t same) forward

theorem Due.mono (due : Due db time id) (forward : time ≤ later) : Due db later id := by
  obtain ⟨row, stored, same, free⟩ := due
  exact ⟨row, stored, same, fun t at_ => le_trans (free t at_) forward⟩

theorem Due.grows {old new : Shared} (grows : Grows old new) (due : Due old.db time id) :
    Due new.db time id := by
  obtain ⟨row, stored, same, free⟩ := due
  obtain ⟨status, stamped, after⟩ := grows.rows row stored
  exact ⟨_, after, same, free⟩

theorem Stored.due (stored : Stored db n) (ripe : Ripe time n) : Due db time n.id := by
  obtain ⟨row, member, copy⟩ := stored
  refine ⟨row, member, copy.id.symm, ?_⟩
  rw [← copy.scheduledAt]
  exact ripe

/-- Ids are unique, so it is the time of the stored row. -/
theorem Due.at_row {row : NotificationRow} {t : Time} (due : Due db time row.id)
    (stored : row ∈ db.notifications) (scheduled : row.scheduledAt = some t) : t ≤ time := by
  obtain ⟨other, member, same, free⟩ := due
  obtain rfl := notification_ext member stored same
  exact free t scheduled

end Due

/-! ## The invariant -/

/-- What a thread knows of the notifications it may still publish. -/
def Thread.Ready (time : Time) : Thread → Prop
  | .send _ req (.schedule n) _ => n.scheduledAt = req.scheduledAt
  | .send _ _ (.publish n) _ => Ripe time n
  | .tick (.enqueue n rest) => ∀ m ∈ n :: rest, Ripe time m
  | .tick (.markQueued _ rest) => ∀ m ∈ rest, Ripe time m
  | _ => True

structure Punctual (s : Timed) : Prop where
  coherent : Coherent s.state
  threads : ∀ t ∈ s.state.threads, t.Ready s.clock
  topics : ∀ record ∈ s.state.shared.topics,
    Due s.state.shared.db s.clock record.publication.value.notificationID
  publishes : ∀ entry ∈ s.publishes, Due s.state.shared.db entry.1 entry.2
  sends : ∀ entry ∈ s.sends, Due s.state.shared.db entry.1 entry.2

theorem punctual_initial (db : Database) (clock : Time) : Punctual (timedInitial db clock) where
  coherent := coherent_initial db
  threads := by simp [timedInitial, initial]
  topics := by simp [timedInitial, initial]
  publishes := by simp [timedInitial]
  sends := by simp [timedInitial]

section Step

variable {cfg : Config} {i : Nat} {a : Answer} {s : State} {sh sh' : Shared} {t t' : Thread}
  {time now : Time}

theorem Thread.Ready.mono (ready : t.Ready time) (forward : time ≤ now) : t.Ready now := by
  unfold Thread.Ready at ready ⊢
  split
  · exact ready
  · exact Ripe.mono ready forward
  · exact fun m member => (ready m member).mono forward
  · exact fun m member => (ready m member).mono forward
  · trivial

theorem ready_nextItem {rest : List Notification} (ripe : ∀ m ∈ rest, Ripe now m) :
    (Thread.tick (nextItem rest)).Ready now := by
  cases rest with
  | nil => trivial
  | cons n rest => exact ripe

theorem ripe_of_not_scheduledAfter {req : SendRequest} {n : Notification}
    (same : n.scheduledAt = req.scheduledAt) (ready : scheduledAfter req now = false) :
    Ripe now n := by
  intro t scheduled
  have asked : req.scheduledAt = some t := same.symm.trans scheduled
  simp only [scheduledAfter, asked, decide_eq_false_iff_not] at ready
  exact not_lt.mp ready

theorem ripe_of_due {row : NotificationRow} (chosen : due now row = true) :
    Ripe now (dbNotificationToDomain row) := by
  intro t scheduled
  have same : row.scheduledAt = some t := scheduled
  simp only [due, same, Bool.and_eq_true, decide_eq_true_eq] at chosen
  exact chosen.2

/-- The two places where `scheduled_at` is compared with the clock. -/
theorem Move.ready (move : Move cfg i a sh t sh' t') (before : t.Ready a.now) :
    t'.Ready a.now := by
  cases move with
  | created inserted =>
      obtain ⟨_, row, fits, rfl, _⟩ := create_ok inserted
      obtain ⟨_, _, _, _, scheduled, _⟩ := row_of_insertParams fits
      exact scheduled
  | due ready => exact ripe_of_not_scheduledAfter before ready
  | listed found =>
      obtain ⟨rows, rfl, listed, _⟩ := listDueScheduled_ok found
      refine ready_nextItem ?_
      intro m member
      obtain ⟨row, chosen, rfl⟩ := List.mem_map.mp member
      exact ripe_of_due (listed row chosen).2
  | itemPublished => exact fun m member => before m (List.mem_cons_of_mem _ member)
  | itemUnpublished => exact ready_nextItem fun m member => before m (List.mem_cons_of_mem _ member)
  | itemUnmarked | itemQueued => exact ready_nextItem before
  | refused | hit | miss | later | unpublished | published | unmarked | queued | nextRecipient
  | unlisted | unfetched | fetched | unprocessed | processing | working | settled => trivial

/-- What a step puts on a topic or hands to a provider is due at its time. -/
structure Emits (now : Time) (old new : Shared) : Prop where
  topics : ∃ more, new.topics = old.topics ++ more ∧
    ∀ record ∈ more, Due old.db now record.publication.value.notificationID
  sends : ∃ more, new.providerSends = old.providerSends ++ more ∧ ∀ id ∈ more, Due old.db now id

theorem Emits.nothing (topics : sh'.topics = sh.topics)
    (sends : sh'.providerSends = sh.providerSends) : Emits now sh sh' :=
  ⟨⟨[], by simp [topics], by simp⟩, ⟨[], by simp [sends], by simp⟩⟩

theorem Emits.publish {publication : Publication Message} {sender : Option Nat}
    (due : Due sh.db now publication.value.notificationID) :
    Emits now sh (sh.publish publication sender) :=
  ⟨⟨[⟨publication, sender⟩], rfl, by simpa using due⟩, ⟨[], by simp [Shared.publish], by simp⟩⟩

theorem Move.emits (move : Move cfg i a sh t sh' t') (ok : ThreadOk sh t)
    (ready : t.Ready a.now)
    (topics : ∀ record ∈ sh.topics, Due sh.db a.now record.publication.value.notificationID) :
    Emits a.now sh sh' := by
  cases move with
  | published => exact .publish ((ok.copies _ (List.mem_singleton_self _)).due ready)
  | itemPublished =>
      exact .publish ((ok.copies _ List.mem_cons_self).due (ready _ List.mem_cons_self))
  | @working _ offset msg n pc pc' quiet begun =>
      obtain ⟨⟨record, at_, value⟩, subject, _⟩ := ok.message _ _ _ rfl
      rw [copies_of_begun begun] at subject
      have same : n.id = msg.notificationID := (subject n (List.mem_singleton_self n)).1
      have due : Due sh.db a.now n.id := by
        rw [same, ← value]
        exact topics record (List.mem_of_getElem? at_)
      rcases quiet.sends with none_ | called
      · exact .nothing quiet.topics none_
      · exact ⟨⟨[], by simp [quiet.topics], by simp⟩, ⟨[n.id], called, by simpa using due⟩⟩
  | refused | hit | miss | created | later | due | unpublished | unmarked | queued | nextRecipient
  | unlisted | listed | itemUnpublished | itemUnmarked | itemQueued | unfetched | fetched
  | unprocessed | processing | settled => exact .nothing rfl rfl

theorem Steps.grows {s' : State} {label : Label} (stepped : Steps cfg s label s') :
    Grows s.shared s'.shared := by
  cases stepped with
  | stay | start | deliver => exact .of_eq rfl rfl
  | cancelled updated =>
      obtain ⟨_, _, _, _, rfl⟩ := cancel_ok updated
      exact .of_stamp rfl rfl
  | replayed => exact .of_publish _ _
  | moved running move => exact move.grows

theorem Punctual.emits {s : Timed} {s' : State} {label : Label} (inv : Punctual s)
    (forward : s.clock ≤ label.reading.getD s.clock) (stepped : Steps cfg s.state label s') :
    Emits (label.reading.getD s.clock) s.state.shared s'.shared := by
  cases stepped with
  | stay | start | deliver | cancelled => exact .nothing rfl rfl
  | replayed stored =>
      obtain ⟨_, record, member, same⟩ := inv.coherent.dlq _ (List.mem_of_getElem? stored)
      refine .publish ?_
      have due := (inv.topics record member).mono forward
      rwa [same] at due
  | moved running move =>
      have member := List.mem_of_getElem? running
      exact move.emits (inv.coherent.threads _ member) ((inv.threads _ member).mono forward)
        fun record out => (inv.topics record out).mono forward

theorem Punctual.ready {s : Timed} {s' : State} {label : Label} (inv : Punctual s)
    (forward : s.clock ≤ label.reading.getD s.clock) (stepped : Steps cfg s.state label s') :
    ∀ t ∈ s'.threads, t.Ready (label.reading.getD s.clock) := by
  have kept : ∀ t ∈ s.state.threads, t.Ready (label.reading.getD s.clock) :=
    fun t member => (inv.threads t member).mono forward
  intro t member
  cases stepped with
  | stay | cancelled | replayed => exact kept t member
  | start outside fresh =>
      rcases List.mem_append.mp member with old | new
      · exact kept t old
      · obtain rfl := List.mem_singleton.mp new
        cases fresh <;> trivial
  | deliver =>
      rcases List.mem_append.mp member with old | new
      · exact kept t old
      · obtain rfl := List.mem_singleton.mp new
        trivial
  | moved running move =>
      rcases Threads.mem_set member with rfl | old
      · exact move.ready (kept _ (List.mem_of_getElem? running))
      · exact kept t old

theorem punctual_step {s s' : Timed} {label : Label} (inv : Punctual s)
    (taken : timedStep cfg s label = some s') : Punctual s' := by
  obtain ⟨forward, next, stepped, rfl⟩ := timedStep_some taken
  have steps := step_steps stepped
  have grows := steps.grows
  obtain ⟨⟨published, topics, publishedDue⟩, ⟨sent, sends, sentDue⟩⟩ := inv.emits forward steps
  refine ⟨coherent_step inv.coherent stepped, inv.ready forward steps, ?_, ?_, ?_⟩
  · intro record member
    simp only [Timed.after, topics, List.mem_append] at member
    rcases member with old | new
    · exact ((inv.topics record old).mono forward).grows grows
    · exact (publishedDue record new).grows grows
  · intro entry member
    simp only [Timed.after, topics, List.drop_left, List.mem_append, List.mem_map] at member
    rcases member with old | ⟨record, new, rfl⟩
    · exact (inv.publishes entry old).grows grows
    · exact (publishedDue record new).grows grows
  · intro entry member
    simp only [Timed.after, sends, List.drop_left, List.mem_append, List.mem_map] at member
    rcases member with old | ⟨id, new, rfl⟩
    · exact (inv.sends entry old).grows grows
    · exact (sentDue id new).grows grows

end Step

/-- No message for a notification is published, and no provider is called for it, at a
    clock value before its `scheduled_at`. -/
theorem never_early (cfg : Config) (db : Database) (start : Time) (labels : List Label) (s : Timed)
    (finished : Transition.run (timedStep cfg) (timedInitial db start) labels = some s) :
    ∀ row ∈ s.state.shared.db.notifications, ∀ t, row.scheduledAt = some t →
      (∀ clock, (clock, row.id) ∈ s.publishes → t ≤ clock) ∧
        (∀ clock, (clock, row.id) ∈ s.sends → t ≤ clock) := by
  have inv : Punctual s :=
    Transition.run_invariant (fun _ _ _ inv taken => punctual_step inv taken)
      (punctual_initial db start) finished
  intro row stored t scheduled
  exact ⟨fun clock out => Due.at_row (inv.publishes _ out) stored scheduled,
    fun clock out => Due.at_row (inv.sends _ out) stored scheduled⟩

/-- `welcome`, asked for at time 50. -/
def invitation : SendRequest := { welcome with scheduledAt := some 50 }

/-- Two invitations: a Send at 10 leaves one to the scheduler, whose tick at 60 publishes
    it; a Send at 65 publishes the other itself, and a worker takes it to the provider. -/
def invitations : List Label :=
  [.call acme invitation] ++ List.replicate 3 (Label.step 0 { now := 10 }) ++
    [.tick] ++ List.replicate 3 (Label.step 1 { now := 60 }) ++
    [.call acme invitation] ++ List.replicate 5 (Label.step 2 { now := 65, id := 1 }) ++
    [.deliver 1] ++ List.replicate 6 (Label.step 3 { now := 70 })

theorem invitations_on_time :
    ∃ s, Transition.run (timedStep plain) (timedInitial (.ofTenants [acme]) 10) invitations =
        some s ∧
      s.publishes = [(60, 0), (65, 1)] ∧ s.sends = [(70, 1)] ∧
      ∀ row ∈ s.state.shared.db.notifications, ∀ t, row.scheduledAt = some t →
        (∀ clock, (clock, row.id) ∈ s.publishes → t ≤ clock) ∧
          (∀ clock, (clock, row.id) ∈ s.sends → t ≤ clock) := by
  have reached : (Transition.run (timedStep plain) (timedInitial (.ofTenants [acme]) 10)
      invitations).map (fun s => (s.publishes, s.sends)) =
        some ([(60, 0), (65, 1)], [(70, 1)]) := by
    decide +kernel
  obtain ⟨s, finished, seen⟩ := Option.map_eq_some_iff.mp reached
  obtain ⟨publishes, sends⟩ := Prod.mk.inj seen
  exact ⟨s, finished, publishes, sends, never_early _ _ _ _ s finished⟩

end NotifyHub.Lifecycle
