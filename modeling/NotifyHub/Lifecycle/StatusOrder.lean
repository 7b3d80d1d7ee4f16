import NotifyHub.Lifecycle.Hands

/-! # The order of statuses

The schema documents `pending -> queued -> processing -> {delivered, failed,
dropped}`. Processing and the terminal statuses are written by the one Process that
has the notification's message, in this order. The step that can go back is the
mark `queued`: it is written after the publish, when a worker may already be at
work, or done.
-/

namespace NotifyHub.Lifecycle

open Database NotificationRepository
open NotificationService hiding getByID list cancel

def rank : NotificationStatus → Nat
  | .pending => 0
  | .queued => 1
  | .processing => 2
  | .delivered | .failed | .dropped => 3

theorem terminal_iff_rank (status : NotificationStatus) : Terminal status ↔ rank status = 3 := by
  cases status <;> simp [Terminal, rank]

theorem early_iff_rank (status : NotificationStatus) :
    status = .pending ∨ status = .queued ↔ rank status ≤ 1 := by
  cases status <;> simp [rank]

/-- No status goes back in this step, and a row with a terminal status is not touched. -/
def Forward (cfg : Config) (s : State) (label : Label) : Prop :=
  ∀ next ∈ step cfg s label, ∀ row ∈ s.shared.db.notifications,
    ∃ row' ∈ next.shared.db.notifications, row'.id = row.id ∧
      rank row.status ≤ rank row'.status ∧ (rank row.status = 3 → row' = row)

instance (cfg : Config) (s : State) (label : Label) : Decidable (Forward cfg s label) :=
  inferInstanceAs (Decidable (∀ next ∈ step cfg s label, _))

/-- Every message is consumed once, nothing is replayed and nothing cancelled. -/
def SinglePass (s : State) : Label → Prop
  | .deliver offset => offset ∉ s.shared.deliveries
  | .cancel _ _ _ | .replay _ _ => False
  | .call _ _ | .callBulk _ _ | .tick | .step _ _ => True

instance (s : State) : ∀ label, Decidable (SinglePass s label)
  | .deliver offset => inferInstanceAs (Decidable (offset ∉ s.shared.deliveries))
  | .cancel _ _ _ | .replay _ _ => .isFalse id
  | .call _ _ | .callBulk _ _ | .tick | .step _ _ => .isTrue trivial

/-- What is published has not been published before. -/
def FirstPublish (s : State) : Label → Prop
  | .step i a =>
      ∀ t ∈ s.threads[i]?, ∀ n ∈ t.publishing, a.fault = none → n.id ∉ s.shared.enqueued
  | _ => True

instance (s : State) : ∀ label, Decidable (FirstPublish s label)
  | .step i _ => inferInstanceAs (Decidable (∀ t ∈ s.threads[i]?, _))
  | .call _ _ | .callBulk _ _ | .tick | .deliver _ | .cancel _ _ _ | .replay _ _ => .isTrue trivial

/-- The mark `queued` is written to a row that is still pending or queued. -/
def MarkInTime (s : State) : Label → Prop
  | .step i a =>
      ∀ t ∈ s.threads[i]?, ∀ n ∈ t.marking, a.fault = none →
        statusOf s.shared.db n.id = some .pending ∨ statusOf s.shared.db n.id = some .queued
  | _ => True

instance (s : State) : ∀ label, Decidable (MarkInTime s label)
  | .step i _ => inferInstanceAs (Decidable (∀ t ∈ s.threads[i]?, _))
  | .call _ _ | .callBulk _ _ | .tick | .deliver _ | .cancel _ _ _ | .replay _ _ => .isTrue trivial

/-! ## One Process for each notification -/

/-- A Process works on the message of the notification. -/
def Thread.Consumes (t : Thread) (id : UUID) : Prop :=
  ∃ offset msg pc, t = .process offset msg pc ∧ msg.notificationID = id

/-- Before its processing mark a Process leaves the row to the producers; until it has
    written a terminal status the row says processing. -/
structure ProcessPc.Fits (pc : ProcessPc) (status : NotificationStatus) : Prop where
  waiting : (pc = .fetch ∨ ∃ n, pc = .markProcessing n) → rank status ≤ 1
  working : pc.Unsettled → rank status = 2

structure Orderly (s : State) : Prop where
  once : s.shared.enqueued.Nodup
  offsets : ∀ offset msg pc, .process offset msg pc ∈ s.threads → offset ∈ s.shared.deliveries
  alone : Threads.Exclusive Thread.Consumes s.threads
  stages : ∀ offset msg pc, .process offset msg pc ∈ s.threads →
    ∀ row ∈ s.shared.db.notifications, row.id = msg.notificationID → pc.Fits row.status
  begun : ∀ row ∈ s.shared.db.notifications, 2 ≤ rank row.status →
    ∃ t ∈ s.threads, t.Consumes row.id

theorem orderly_initial (db : Database) : Orderly (initial db) where
  once := by simp [initial, Shared.enqueued]
  offsets := by simp [initial]
  alone := .empty
  stages := by simp [initial]
  begun := by simp [initial, withoutNotifications]

section Step

variable {cfg : Config} {s : State} {i : Nat} {a : Answer} {sh sh' : Shared} {t t' : Thread}

/-- A step keeps the message a Process works on. -/
theorem Move.consumes (move : Move cfg i a sh t sh' t') (id : UUID) :
    t'.Consumes id ↔ t.Consumes id := by
  cases move with
  | unfetched | fetched | unprocessed | processing | working | settled =>
      constructor <;> rintro ⟨_, _, _, same, about⟩ <;>
        obtain ⟨rfl, rfl, rfl⟩ := Thread.process.inj same <;> exact ⟨_, _, _, rfl, about⟩
  | refused | hit | miss | created | later | due | unpublished | published | unmarked | queued
  | nextRecipient | unlisted | listed | itemUnpublished | itemPublished | itemUnmarked
  | itemQueued => simp [Thread.Consumes]

theorem Move.process_origin {offset : Nat} {msg : Message} {pc : ProcessPc}
    (move : Move cfg i a sh t sh' (.process offset msg pc)) :
    ∃ before, t = .process offset msg before := by
  cases move <;> exact ⟨_, rfl⟩

theorem Move.deliveries (move : Move cfg i a sh t sh' t') : sh'.deliveries = sh.deliveries := by
  cases move with
  | working quiet => exact quiet.deliveries
  | refused | hit | miss | created | later | due | unpublished | published | unmarked | queued
  | nextRecipient | unlisted | listed | itemUnpublished | itemPublished | itemUnmarked | itemQueued
  | unfetched | fetched | unprocessed | processing | settled => rfl

theorem Thread.Writes.consumes {n : Notification} {status : NotificationStatus}
    (writes : Writes n status t) (ok : ThreadOk sh t) (later : status ≠ .queued) :
    t.Consumes n.id := by
  cases writes with
  | queued => exact absurd rfl later
  | processing | settled =>
      obtain ⟨_, subject, _⟩ := ok.message _ _ _ rfl
      exact ⟨_, _, _, rfl, (subject _ (List.mem_singleton_self _)).1.symm⟩

/-- Under the order kept so far, a write goes forward. -/
theorem Orderly.write_forward (inv : Coherent s) (ord : Orderly s)
    (inTime : MarkInTime s (.step i a)) (running : s.threads[i]? = some t) {n : Notification}
    {status : NotificationStatus} (writes : t.Writes n status) (up : a.fault = none)
    {row : NotificationRow} (stored : row ∈ s.shared.db.notifications) (same : row.id = n.id) :
    rank row.status < 3 ∧ rank row.status ≤ rank status := by
  have member := List.mem_of_getElem? running
  cases writes with
  | queued marking =>
      have early := inTime t running n marking up
      rw [← same, statusOf_of_mem stored] at early
      rcases early with early | early <;> rw [Option.some.inj early] <;> decide
  | processing =>
      obtain ⟨_, subject, _⟩ := (inv.threads _ member).message _ _ _ rfl
      have about := (subject n (List.mem_singleton_self _)).1
      have early := (ord.stages _ _ _ member row stored (same.trans about)).waiting
        (.inr ⟨n, rfl⟩)
      exact ⟨by omega, early.trans (by decide)⟩
  | settled =>
      obtain ⟨_, subject, _⟩ := (inv.threads _ member).message _ _ _ rfl
      have about := (subject n (List.mem_singleton_self _)).1
      have now := (ord.stages _ _ _ member row stored (same.trans about)).working
        (by simp [ProcessPc.Unsettled, closingStatuses])
      have last := (terminal_iff_rank status).mp (inv.threads _ member).settles.1
      omega

/-- A row before the step, after the step. -/
theorem Orderly.row_forward (inv : Coherent s) (ord : Orderly s)
    (inTime : MarkInTime s (.step i a)) (running : s.threads[i]? = some t)
    (move : Move cfg i a s.shared t sh t') {row : NotificationRow}
    (stored : row ∈ s.shared.db.notifications) :
    ∃ row' ∈ sh.db.notifications, row'.id = row.id ∧ rank row.status ≤ rank row'.status ∧
      (rank row.status = 3 → row' = row) := by
  rcases move.db_cases with same | ⟨_, _, _, added⟩ | ⟨n, status, writes, up, stamped⟩
  · exact ⟨row, same ▸ stored, rfl, le_rfl, fun _ => rfl⟩
  · refine ⟨row, ?_, rfl, le_rfl, fun _ => rfl⟩
    rw [added]
    exact List.mem_append_left _ stored
  · rw [stamped]
    by_cases hit : row.id = n.id
    · obtain ⟨open_, higher⟩ := ord.write_forward inv inTime running writes up stored hit
      refine ⟨stamp status a.now row, ?_, rfl, higher, fun last => by omega⟩
      exact Rows.mem_updateWhere.mpr ⟨row, stored, by simp [hit]⟩
    · refine ⟨row, ?_, rfl, le_rfl, fun _ => rfl⟩
      exact Rows.mem_updateWhere.mpr ⟨row, stored, by simp [hit]⟩

/-- The message of a Process is about a stored row. -/
theorem Coherent.subject_stored (inv : Coherent s) {offset : Nat} {msg : Message} {pc : ProcessPc}
    (member : .process offset msg pc ∈ s.threads) :
    msg.notificationID ∈ s.shared.db.notifications.map (·.id) := by
  obtain ⟨record, at_, rfl⟩ := (inv.threads _ member).record
  exact inv.enqueued_stored (List.mem_map.mpr ⟨record, List.mem_of_getElem? at_, rfl⟩)

/-- Steps of other threads leave a Process in its stage. -/
theorem Orderly.stage_kept (inv : Coherent s) (ord : Orderly s)
    (inTime : MarkInTime s (.step i a)) (running : s.threads[i]? = some t)
    (move : Move cfg i a s.shared t sh t') {j offset : Nat} {msg : Message} {pc : ProcessPc}
    (other : j ≠ i) (at_ : s.threads[j]? = some (.process offset msg pc)) :
    ∀ row ∈ sh.db.notifications, row.id = msg.notificationID → pc.Fits row.status := by
  intro row stored about
  have member := List.mem_of_getElem? at_
  rcases move.row_origin stored with old | ⟨inserts, _⟩ | ⟨n, status, old, writes, up, oldMem, hit, rfl⟩
  · exact ord.stages _ _ _ member row old about
  · exact absurd (about ▸ inv.subject_stored member) inserts.fresh
  · have before := ord.stages _ _ _ member old oldMem about
    by_cases queued : status = .queued
    · subst queued
      have low : rank old.status ≤ 1 :=
        (ord.write_forward inv inTime running writes up oldMem hit).2
      refine ⟨fun _ => le_of_eq rfl, fun busy => ?_⟩
      have high := before.working busy
      omega
    · -- only the Process of the message writes the later statuses
      have mine := writes.consumes (inv.threads t (List.mem_of_getElem? running)) queued
      exact absurd (ord.alone j i _ t n.id at_ running ⟨_, _, _, rfl, about.symm.trans hit⟩ mine)
        other

/-- A Process goes through its stages in order. -/
theorem Orderly.stage_moved (inv : Coherent s) (ord : Orderly s)
    (running : s.threads[i]? = some t) {offset : Nat} {msg : Message} {pc : ProcessPc}
    (move : Move cfg i a s.shared t sh (.process offset msg pc)) :
    ∀ row ∈ sh.db.notifications, row.id = msg.notificationID → pc.Fits row.status := by
  intro row stored about
  have member := List.mem_of_getElem? running
  have before := inv.threads t member
  cases move with
  | unfetched | unprocessed => exact ⟨by simp, fun busy => busy.elim⟩
  | fetched =>
      exact ⟨fun _ => (ord.stages _ _ _ member row stored about).waiting (.inl rfl),
        fun busy => busy.elim⟩
  | processing updated =>
      obtain ⟨_, _, _, _, rfl⟩ := updateStatus_ok updated
      obtain ⟨_, subject, _⟩ := before.message _ _ _ rfl
      obtain ⟨old, oldMem, rfl⟩ := Rows.mem_updateWhere.mp stored
      have hit : old.id = _ := Eq.trans (by split at about <;> exact about)
        (subject _ (List.mem_singleton_self _)).1.symm
      simp only [hit, beq_self_eq_true, if_true]
      exact ⟨by simp, fun _ => rfl⟩
  | working quiet begun onward unsettled =>
      have stage := ord.stages _ _ _ member row (quiet.db ▸ stored) about
      refine ⟨?_, fun busy => stage.working (unsettled busy)⟩
      rcases onward with onward | ⟨e, rfl⟩
      · cases onward <;> simp
      · simp
  | settled updated =>
      exact ⟨by simp, fun busy => absurd before.settles.2 busy⟩

theorem Orderly.begun_moved (inv : Coherent s) (ord : Orderly s)
    (running : s.threads[i]? = some t) (move : Move cfg i a s.shared t sh t') :
    ∀ row ∈ sh.db.notifications, 2 ≤ rank row.status →
      ∃ u ∈ s.threads.set i t', u.Consumes row.id := by
  intro row stored high
  have before := inv.threads t (List.mem_of_getElem? running)
  rcases move.row_origin stored with old | ⟨inserts, _⟩ | ⟨n, status, old, writes, _, _, hit, rfl⟩
  · obtain ⟨u, thread, consumes⟩ := ord.begun row old high
    by_cases self : u = t
    · subst self
      exact ⟨t', Threads.mem_set_self running, (move.consumes _).mpr consumes⟩
    · exact ⟨u, Threads.mem_set_of_ne running thread self, consumes⟩
  · simp [inserts.pending, rank] at high
  · have later : status ≠ .queued := by
      rintro rfl
      exact absurd high (by simp [stamp, rank])
    exact ⟨t', Threads.mem_set_self running,
      (move.consumes _).mpr (hit ▸ writes.consumes before later)⟩

theorem Orderly.moved (inv : Coherent s) (ord : Orderly s) (first : FirstPublish s (.step i a))
    (inTime : MarkInTime s (.step i a)) (running : s.threads[i]? = some t)
    (move : Move cfg i a s.shared t sh t') : Orderly ⟨sh, s.threads.set i t'⟩ where
  once := by
    rcases move.enqueued_cases with same | ⟨n, next, _, sent, more⟩
    · rw [same]
      exact ord.once
    · rw [more]
      refine List.Nodup.append ord.once (List.nodup_singleton _) ?_
      rw [List.disjoint_singleton]
      exact first t running n next sent
  offsets := by
    intro offset msg pc thread
    rw [move.deliveries]
    rcases Threads.mem_set thread with rfl | old
    · obtain ⟨before, rfl⟩ := move.process_origin
      exact ord.offsets _ _ _ (List.mem_of_getElem? running)
    · exact ord.offsets _ _ _ old
  alone := ord.alone.set running fun id held => .inl ((move.consumes id).mp held)
  stages := by
    intro offset msg pc thread
    obtain ⟨j, at_⟩ := List.mem_iff_getElem?.mp thread
    rcases Threads.at_set running at_ with ⟨_, rfl⟩ | ⟨other, old⟩
    · exact ord.stage_moved inv running move
    · exact ord.stage_kept inv inTime running move other old
  begun := ord.begun_moved inv running move

/-- A new thread that is no Process. -/
theorem Orderly.start (ord : Orderly s) (fresh : Starts s.shared t) :
    Orderly ⟨s.shared, s.threads ++ [t]⟩ := by
  have caller : ∀ offset msg pc, t ≠ .process offset msg pc := by cases fresh <;> simp
  have process : ∀ offset msg pc, .process offset msg pc ∈ s.threads ++ [t] →
      .process offset msg pc ∈ s.threads := by
    intro offset msg pc thread
    rcases List.mem_append.mp thread with old | new
    · exact old
    · exact absurd (List.mem_singleton.mp new).symm (caller _ _ _)
  refine ⟨ord.once, fun o m p thread => ord.offsets o m p (process o m p thread),
    ord.alone.append ?_, fun o m p thread => ord.stages o m p (process o m p thread), ?_⟩
  · rintro id ⟨offset, msg, pc, same, _⟩
    exact absurd same (caller _ _ _)
  · intro row stored high
    obtain ⟨u, thread, consumes⟩ := ord.begun row stored high
    exact ⟨u, List.mem_append_left _ thread, consumes⟩

/-- A message delivered for the first time finds no other Process of its notification. -/
theorem Orderly.unconsumed (inv : Coherent s) (ord : Orderly s) {offset : Nat} {record : Record}
    (at_ : s.shared.topics[offset]? = some record) (first : offset ∉ s.shared.deliveries) :
    ∀ u ∈ s.threads, ¬ u.Consumes record.publication.value.notificationID := by
  rintro u member ⟨offset', msg, pc, rfl, about⟩
  obtain ⟨record', at', rfl⟩ := (inv.threads _ member).record
  have same : offset' = offset := by
    have left : s.shared.enqueued[offset']? = some record'.publication.value.notificationID := by
      simp [Shared.enqueued, at']
    have right : s.shared.enqueued[offset]? = some record.publication.value.notificationID := by
      simp [Shared.enqueued, at_]
    rw [about] at left
    exact (List.getElem?_inj (List.getElem?_eq_some_iff.mp left).1 ord.once).mp
      (left.trans right.symm)
  exact first (same ▸ ord.offsets _ _ _ member)

theorem Orderly.deliver (inv : Coherent s) (ord : Orderly s) {offset : Nat} {record : Record}
    (at_ : s.shared.topics[offset]? = some record) (first : offset ∉ s.shared.deliveries) :
    Orderly ⟨{ s.shared with deliveries := s.shared.deliveries ++ [offset] },
      s.threads ++ [.process offset record.publication.value .fetch]⟩ := by
  have unconsumed := ord.unconsumed inv at_ first
  refine ⟨ord.once, ?_, ord.alone.append ?_, ?_, ?_⟩
  · intro offset' msg pc thread
    rcases List.mem_append.mp thread with old | new
    · exact List.mem_append_left _ (ord.offsets _ _ _ old)
    · obtain ⟨rfl, rfl, rfl⟩ := Thread.process.inj (List.mem_singleton.mp new)
      exact List.mem_append_right _ (List.mem_singleton_self _)
  · rintro id ⟨_, msg, _, same, about⟩
    obtain ⟨rfl, rfl, rfl⟩ := Thread.process.inj same
    exact about ▸ unconsumed
  · intro offset' msg pc thread row stored about
    rcases List.mem_append.mp thread with old | new
    · exact ord.stages _ _ _ old row stored about
    · obtain ⟨rfl, rfl, rfl⟩ := Thread.process.inj (List.mem_singleton.mp new)
      refine ⟨fun _ => ?_, fun busy => busy.elim⟩
      by_contra high
      obtain ⟨u, member, consumes⟩ := ord.begun row stored (by omega)
      exact unconsumed u member (about ▸ consumes)
  · intro row stored high
    obtain ⟨u, thread, consumes⟩ := ord.begun row stored high
    exact ⟨u, List.mem_append_left _ thread, consumes⟩

theorem orderly_step {s' : State} {label : Label} (inv : Coherent s) (ord : Orderly s)
    (single : SinglePass s label) (first : FirstPublish s label) (inTime : MarkInTime s label)
    (taken : step cfg s label = some s') : Orderly s' := by
  cases step_steps taken with
  | stay => exact ord
  | start outside fresh => exact ord.start fresh
  | deliver stored => exact ord.deliver inv stored single
  | cancelled | replayed => exact single.elim
  | moved running move => exact ord.moved inv first inTime running move

theorem step_of_marking (cfg : Config) (running : s.threads[i]? = some t) {n : Notification}
    (marking : n ∈ t.marking) {row : NotificationRow} (stored : row ∈ s.shared.db.notifications)
    (same : n.id = row.id) (up : a.fault = none) :
    ∃ next, step cfg s (.step i a) = some next ∧
      next.shared.db = s.shared.db.stampWhere (fun r => r.id == row.id) .queued a.now := by
  have conn : a.conn = .up := by simp [Answer.conn, up]
  unfold Thread.marking at marking
  split at marking
  · obtain rfl := Option.some.inj marking
    simp [step, running, Thread.step, sendStep, conn, same, updateStatus_of_mem stored]
  · obtain rfl := Option.some.inj marking
    simp [step, running, Thread.step, tickStep, conn, same, updateStatus_of_mem stored]
  · simp at marking

/-- A mark that is late takes the status back. -/
theorem markInTime_of_forward (inv : Coherent s) (forward : Forward cfg s (.step i a)) :
    MarkInTime s (.step i a) := by
  intro t running n marking up
  have copies := (inv.threads t (List.mem_of_getElem? running)).copies
  obtain ⟨row, stored, copy⟩ := copies n (active_sub_copies (held_sub_active
    (marking_sub_held marking)))
  obtain ⟨next, taken, db⟩ := step_of_marking cfg running marking stored copy.id up
  obtain ⟨row', stored', same, low, _⟩ := forward next taken row stored
  rw [db] at stored'
  obtain ⟨old, _, rfl⟩ := Rows.mem_updateWhere.mp stored'
  have hit : (old.id == row.id) = true := by
    rw [beq_iff_eq, ← same]
    split <;> rfl
  simp only [hit, if_true] at low
  rw [copy.id, statusOf_of_mem stored, Option.some.injEq, Option.some.injEq]
  exact (early_iff_rank row.status).mpr low

theorem forward_of_markInTime {label : Label} (inv : Coherent s) (ord : Orderly s)
    (single : SinglePass s label) (inTime : MarkInTime s label) : Forward cfg s label := by
  intro next taken row stored
  cases step_steps taken with
  | stay | start | deliver => exact ⟨row, stored, rfl, le_rfl, fun _ => rfl⟩
  | cancelled | replayed => exact single.elim
  | moved running move => exact ord.row_forward inv inTime running move stored

theorem forward_iff_markInTime (inv : Coherent s) (ord : Orderly s) (label : Label)
    (single : SinglePass s label) : Forward cfg s label ↔ MarkInTime s label := by
  refine ⟨fun forward => ?_, forward_of_markInTime inv ord single⟩
  cases label with
  | step i a => exact markInTime_of_forward inv forward
  | call | callBulk | tick | deliver | cancel | replay => trivial

end Step

/-- In runs in which every message is consumed once, nothing is replayed or cancelled
    and no notification is published twice, statuses only move forward exactly when
    the mark `queued` never comes after a worker has begun. -/
theorem status_forward_iff_markInTime (cfg : Config) (db : Database) (labels : List Label)
    (single : Guarded cfg SinglePass (initial db) labels)
    (first : Guarded cfg FirstPublish (initial db) labels) :
    Guarded cfg (Forward cfg) (initial db) labels ↔
      Guarded cfg MarkInTime (initial db) labels := by
  have keeps : ∀ s label next, (Coherent s ∧ Orderly s) →
      (SinglePass s label ∧ FirstPublish s label) → MarkInTime s label →
      step cfg s label = some next → Coherent next ∧ Orderly next := by
    intro s label next inv ok inTime taken
    exact ⟨coherent_step inv.1 taken, orderly_step inv.1 inv.2 ok.1 ok.2 inTime taken⟩
  exact Transition.guarded_congr_under keeps
    (fun s label inv ok => forward_iff_markInTime inv.1 inv.2 label ok.1)
    ⟨coherent_initial db, orderly_initial db⟩ (single.and first)

/-- A Send that finishes before the worker begins. -/
def inOrder : List Label :=
  [.call acme welcome] ++ steps 0 5 ++ [.deliver 0] ++ steps 1 9

theorem status_forward_in_order : Guarded plain (Forward plain) deployed inOrder :=
  (status_forward_iff_markInTime plain _ inOrder (by decide +kernel) (by decide +kernel)).mpr
    (by decide +kernel)

/-- The worker delivers between the publish of a Send and its mark. -/
def lateMark : List Label :=
  [.call acme welcome] ++ steps 0 4 ++ [.deliver 0] ++ steps 1 9 ++ steps 0 1

theorem delivered_back_to_queued :
    Guarded plain SinglePass deployed lateMark ∧
      ¬ Guarded plain (Forward plain) deployed lateMark ∧
      (run plain deployed lateMark).map (fun s => statusOf s.shared.db 0) =
        some (some .queued) := by
  decide +kernel

end NotifyHub.Lifecycle
