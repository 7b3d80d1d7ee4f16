import NotifyHub.Lifecycle.Hands

/-! # Enqueued at most once

Nothing claims a due row: a tick lists it, publishes it and only then marks it
queued. Until the mark is written the row looks untouched to every other ticker.
As long as no tick lists a row that someone still has in hand, a notification has
one holder at a time, the holder publishes it once, and its row has left `pending`
when the holder lets go.
-/

namespace NotifyHub.Lifecycle

open Database NotificationRepository
open NotificationService hiding getByID list cancel

/-- No call fails and nothing is replayed. -/
def Label.smooth : Label → Bool
  | .step _ a => a.fault.isNone
  | .replay _ _ => false
  | _ => true

/-- A tick lists its batch while no due row is in the hands of a Send or a tick. -/
def Undisputed (s : State) : Label → Prop
  | .step i a =>
      ∀ t ∈ s.threads[i]?, t.lists = true →
        ∀ row ∈ s.shared.db.notifications, NotifyHub.due a.now row = true →
          ∀ u ∈ s.threads, ∀ n ∈ u.held, n.id ≠ row.id
  | _ => True

instance (s : State) : ∀ label, Decidable (Undisputed s label)
  | .step i _ => inferInstanceAs (Decidable (∀ t ∈ s.threads[i]?, _))
  | .call _ _ | .callBulk _ _ | .tick | .deliver _ | .cancel _ _ _ | .replay _ _ => .isTrue trivial

def Thread.Holds (t : Thread) (id : UUID) : Prop := ∃ n ∈ t.held, n.id = id

structure Once (s : State) : Prop where
  alone : Threads.Exclusive Thread.Holds s.threads
  batch : ∀ t ∈ s.threads, (t.held.map (·.id)).Nodup
  unpublished : ∀ t ∈ s.threads, ∀ n ∈ t.unpublished, n.id ∉ s.shared.enqueued
  marking : ∀ row ∈ s.shared.db.notifications, row.status = .pending →
    row.id ∈ s.shared.enqueued → ∃ t ∈ s.threads, ∃ n ∈ t.marking, n.id = row.id
  once : s.shared.enqueued.Nodup

theorem once_initial (db : Database) : Once (initial db) where
  alone := .empty
  batch := by simp [initial]
  unpublished := by simp [initial]
  marking := by simp [initial, withoutNotifications]
  once := by simp [initial, Shared.enqueued]

section Step

variable {cfg : Config} {s : State} {i : Nat} {a : Answer} {sh sh' : Shared} {t t' : Thread}

/-- A Process holds nothing; for the other threads, holding is being active on. -/
theorem Move.held_of_active (move : Move cfg i a sh t sh' t') :
    t'.held = [] ∨
      t.held = t.active ∧ t'.held = t'.active ∧ ∀ offset msg pc, t ≠ .process offset msg pc := by
  cases move with
  | unfetched | fetched | unprocessed | processing | working | settled => exact .inl rfl
  | refused | hit | miss | created | later | due | unpublished | published | unmarked | queued
  | nextRecipient | unlisted | listed | itemUnpublished | itemPublished | itemUnmarked
  | itemQueued => exact .inr ⟨rfl, rfl, by simp⟩

/-- What a thread comes to hold is new to the table, or listed as due. -/
theorem Move.held_origin (move : Move cfg i a sh t sh' t') {n : Notification}
    (member : n ∈ t'.held) :
    n ∈ t.held ∨ (∃ row, t.Inserts a sh.db row ∧ n = dbNotificationToDomain row) ∨
      (t.lists = true ∧ ∃ row ∈ sh.db.notifications, row.id = n.id ∧
        NotifyHub.due a.now row = true) := by
  rcases move.held_of_active with none_ | ⟨before, after, caller⟩
  · simp [none_] at member
  · rw [after] at member
    rw [before]
    rcases move.active_origin member with old | fresh | ⟨rfl, row, listed⟩ | ⟨_, _, same, _⟩
    · exact .inl old
    · exact .inr (.inl fresh)
    · exact .inr (.inr ⟨rfl, row, listed⟩)
    · exact absurd same (caller _ _ _)

theorem Move.held_nodup (move : Move cfg i a sh t sh' t') (nodup : (t.held.map (·.id)).Nodup) :
    (t'.held.map (·.id)).Nodup := by
  cases move with
  | listed found =>
      obtain ⟨rows, rfl, _, ids⟩ := listDueScheduled_ok found
      have held : (Thread.tick (nextItem (rows.map dbNotificationToDomain))).held =
          rows.map dbNotificationToDomain := active_nextItem _
      rw [held, List.map_map]
      exact ids
  | itemUnpublished | itemUnmarked | itemQueued =>
      have held : ∀ rest, (Thread.tick (nextItem rest)).held = rest := active_nextItem
      rw [held]
      exact (List.nodup_cons.mp nodup).2
  | due | published | itemPublished => exact nodup
  | created => exact List.nodup_singleton _
  | refused | hit | miss | later | unpublished | unmarked | queued | nextRecipient | unlisted
  | unfetched | fetched | unprocessed | processing | working | settled => exact List.nodup_nil

/-- What a thread has just published it does not publish again. -/
theorem ne_of_marking (nodup : (t.held.map (·.id)).Nodup) {n m : Notification}
    (sent : n ∈ t.marking) (left : m ∈ t.unpublished) : m.id ≠ n.id := by
  unfold Thread.marking at sent
  split at sent
  · simp [Thread.unpublished] at left
  · obtain rfl := Option.some.inj sent
    intro same
    exact (List.nodup_cons.mp nodup).1 (List.mem_map.mpr ⟨m, left, same⟩)
  · simp at sent

/-- When no call fails, a thread lets go of what it published with the mark written. -/
theorem Move.marked (up : a.fault = none) (before : ThreadOk sh t)
    (move : Move cfg i a sh t sh' t') {n : Notification} (sent : n ∈ t.marking)
    {row : NotificationRow} (stored : row ∈ sh'.db.notifications) (pending : row.status = .pending) :
    row.id ≠ n.id := by
  have conn : a.conn = .up := by simp [Answer.conn, up]
  have writes : ∀ m ∈ t.copies, ∀ e, updateStatus a.conn sh.db m.id .queued a.now ≠ .error e := by
    intro m member e failed
    obtain ⟨other, otherMem, copy⟩ := before.copies m member
    rw [conn, copy.id, updateStatus_of_mem otherMem] at failed
    simp at failed
  cases move with
  | queued updated | itemQueued updated =>
      obtain rfl := Option.some.inj sent
      obtain ⟨_, _, _, _, rfl⟩ := updateStatus_ok updated
      simpa using (untouched_of_pending (by decide) pending stored).2
  | unmarked failed => exact absurd failed (writes _ (List.mem_singleton_self _) _)
  | itemUnmarked failed => exact absurd failed (writes _ List.mem_cons_self _)
  | refused early => rcases early with rfl | rfl <;> simp [Thread.marking] at sent
  | hit | miss | created | later | due | unpublished | published | nextRecipient | unlisted
  | listed | itemUnpublished | itemPublished | unfetched | fetched | unprocessed | processing
  | working | settled => simp [Thread.marking] at sent

/-- A due row nobody holds has not been published. -/
theorem Once.due_unpublished (once : Once s) {row : NotificationRow}
    (stored : row ∈ s.shared.db.notifications) (selected : NotifyHub.due a.now row = true)
    (free : ∀ u ∈ s.threads, ∀ n ∈ u.held, n.id ≠ row.id) : row.id ∉ s.shared.enqueued := by
  intro sent
  have pending : row.status = .pending := by
    simp only [due, Bool.and_eq_true, beq_iff_eq] at selected
    exact selected.1
  obtain ⟨u, member, n, marking, same⟩ := once.marking row stored pending sent
  exact free u member n (marking_sub_held marking) same

/-- What a step takes in hand nobody else holds. -/
theorem Once.alone_moved (inv : Coherent s) (once : Once s)
    (undisputed : Undisputed s (.step i a)) (running : s.threads[i]? = some t)
    (move : Move cfg i a s.shared t sh t') :
    Threads.Exclusive Thread.Holds (s.threads.set i t') := by
  refine once.alone.set running ?_
  rintro id ⟨n, held, rfl⟩
  rcases move.held_origin held with old | ⟨new, inserts, rfl⟩ | ⟨lists, row, stored, same, selected⟩
  · exact .inl ⟨n, old, rfl⟩
  · right
    rintro u thread ⟨m, other, about⟩
    obtain ⟨row, stored, copy⟩ :=
      (inv.threads u thread).copies m (active_sub_copies (held_sub_active other))
    exact inserts.fresh (List.mem_map.mpr ⟨row, stored, copy.id.symm.trans about⟩)
  · right
    rintro u thread ⟨m, other, about⟩
    exact undisputed t running lists row stored selected u thread m other (about.trans same.symm)

/-- What a thread still has to publish had not been published before the step. -/
theorem Once.unpublished_before (inv : Coherent s) (once : Once s)
    (undisputed : Undisputed s (.step i a)) (running : s.threads[i]? = some t)
    (move : Move cfg i a s.shared t sh t') :
    ∀ n ∈ t'.unpublished, n.id ∉ s.shared.enqueued := by
  intro n left sent
  rcases move.unpublished_origin left with old | ⟨new, inserts, rfl⟩ | ⟨lists, row, stored, same, selected⟩
  · exact once.unpublished t (List.mem_of_getElem? running) n old sent
  · exact inserts.fresh (inv.enqueued_stored sent)
  · exact once.due_unpublished stored selected (undisputed t running lists row stored selected)
      (same ▸ sent)

theorem Once.unpublished_moved (inv : Coherent s) (once : Once s)
    (undisputed : Undisputed s (.step i a)) (running : s.threads[i]? = some t)
    (move : Move cfg i a s.shared t sh t') :
    ∀ u ∈ s.threads.set i t', ∀ n ∈ u.unpublished, n.id ∉ sh.enqueued := by
  intro u thread n left sent
  have own := once.unpublished_before inv undisputed running move
  have nodup := move.held_nodup (once.batch t (List.mem_of_getElem? running))
  obtain ⟨j, at_⟩ := List.mem_iff_getElem?.mp thread
  rcases move.enqueued_cases with same | ⟨m, next, after, _, more⟩
  · rw [same] at sent
    rcases Threads.at_set running at_ with ⟨_, rfl⟩ | ⟨_, old⟩
    · exact own n left sent
    · exact once.unpublished u (List.mem_of_getElem? old) n left sent
  · rw [more, List.mem_append, List.mem_singleton] at sent
    rcases Threads.at_set running at_ with ⟨_, rfl⟩ | ⟨other, old⟩
    · exact sent.elim (own n left) (ne_of_marking nodup after left)
    · -- the thread that published it was its only holder
      refine sent.elim (once.unpublished u (List.mem_of_getElem? old) n left) fun same => other ?_
      exact once.alone j i u t n.id old running ⟨n, unpublished_sub_held left, rfl⟩
        ⟨m, unpublished_sub_held (publishing_sub_unpublished next), same.symm⟩

theorem Once.marking_moved (inv : Coherent s) (once : Once s) (up : a.fault = none)
    (running : s.threads[i]? = some t) (move : Move cfg i a s.shared t sh t') :
    ∀ row ∈ sh.db.notifications, row.status = .pending → row.id ∈ sh.enqueued →
      ∃ u ∈ s.threads.set i t', ∃ n ∈ u.marking, n.id = row.id := by
  intro row stored pending sent
  have before := inv.threads t (List.mem_of_getElem? running)
  have kept : row.id ∈ s.shared.enqueued →
      ∃ u ∈ s.threads.set i t', ∃ n ∈ u.marking, n.id = row.id := by
    intro earlier
    rcases move.pending_row before stored pending with old | ⟨inserts, _⟩
    · obtain ⟨u, thread, n, marking, same⟩ := once.marking row old pending earlier
      have other : u ≠ t := by
        rintro rfl
        exact move.marked up before marking stored pending same.symm
      exact ⟨u, Threads.mem_set_of_ne running thread other, n, marking, same⟩
    · exact absurd (inv.enqueued_stored earlier) inserts.fresh
  rcases move.enqueued_cases with same | ⟨m, _, after, _, more⟩
  · exact kept (same ▸ sent)
  · rw [more, List.mem_append, List.mem_singleton] at sent
    rcases sent with earlier | same
    · exact kept earlier
    · exact ⟨t', Threads.mem_set_self running, m, after, same.symm⟩

theorem Once.nodup_moved (once : Once s) (running : s.threads[i]? = some t)
    (move : Move cfg i a s.shared t sh t') : sh.enqueued.Nodup := by
  rcases move.enqueued_cases with same | ⟨m, next, _, _, more⟩
  · rw [same]
    exact once.once
  · rw [more]
    refine List.Nodup.append once.once (List.nodup_singleton _) ?_
    rw [List.disjoint_singleton]
    exact once.unpublished t (List.mem_of_getElem? running) m (publishing_sub_unpublished next)

theorem Once.moved (inv : Coherent s) (once : Once s) (up : a.fault = none)
    (undisputed : Undisputed s (.step i a)) (running : s.threads[i]? = some t)
    (move : Move cfg i a s.shared t sh t') : Once ⟨sh, s.threads.set i t'⟩ where
  alone := once.alone_moved inv undisputed running move
  batch := by
    intro u thread
    rcases Threads.mem_set thread with rfl | old
    · exact move.held_nodup (once.batch t (List.mem_of_getElem? running))
    · exact once.batch u old
  unpublished := once.unpublished_moved inv undisputed running move
  marking := once.marking_moved inv up running move
  once := once.nodup_moved running move

/-- A new thread holds nothing. -/
theorem Once.append (once : Once s) (topics : sh.topics = s.shared.topics)
    (db : sh.db = s.shared.db) (idle : t.held = []) : Once ⟨sh, s.threads ++ [t]⟩ := by
  have enqueued : sh.enqueued = s.shared.enqueued := by rw [Shared.enqueued, topics, Shared.enqueued]
  have split : ∀ u ∈ s.threads ++ [t], u ∈ s.threads ∨ u = t := by simp
  refine ⟨once.alone.append ?_, ?_, ?_, ?_, enqueued ▸ once.once⟩
  · rintro id ⟨n, held, _⟩
    simp [idle] at held
  · intro u thread
    rcases split u thread with old | rfl
    · exact once.batch u old
    · simp [idle]
  · intro u thread n left
    rcases split u thread with old | rfl
    · exact enqueued ▸ once.unpublished u old n left
    · have held := unpublished_sub_held left
      simp [idle] at held
  · intro row stored pending sent
    obtain ⟨u, thread, marks⟩ := once.marking row (db ▸ stored) pending (enqueued ▸ sent)
    exact ⟨u, List.mem_append_left _ thread, marks⟩

theorem once_step {s' : State} {label : Label} (inv : Coherent s) (once : Once s)
    (smooth : label.smooth = true) (undisputed : Undisputed s label)
    (taken : step cfg s label = some s') : Once s' := by
  cases step_steps taken with
  | stay => exact once
  | start outside fresh => exact once.append rfl rfl (by cases fresh <;> rfl)
  | deliver => exact once.append rfl rfl rfl
  | cancelled updated =>
      obtain ⟨_, _, _, _, rfl⟩ := cancel_ok updated
      refine ⟨once.alone, once.batch, once.unpublished, ?_, once.once⟩
      intro row stored pending sent
      exact once.marking row (untouched_of_pending (by decide) pending stored).1 pending sent
  | replayed => simp [Label.smooth] at smooth
  | moved running move =>
      exact once.moved inv (by simpa [Label.smooth] using smooth) undisputed running move

end Step

/-- In a run without failing calls, no notification is published twice if no tick lists
    its batch while a due row is in the hands of a Send or a tick. -/
theorem enqueued_at_most_once (cfg : Config) (db : Database) (labels : List Label) (s : State)
    (smooth : ∀ label ∈ labels, label.smooth = true)
    (undisputed : Guarded cfg Undisputed (initial db) labels)
    (finished : run cfg (initial db) labels = some s) : s.shared.enqueued.Nodup := by
  have keeps : ∀ s label next, (Coherent s ∧ Once s) →
      (label.smooth = true ∧ Undisputed s label) → step cfg s label = some next →
      Coherent next ∧ Once next := by
    intro s label next inv ok taken
    exact ⟨coherent_step inv.1 taken, once_step inv.1 inv.2 ok.1 ok.2 taken⟩
  obtain ⟨_, once⟩ := Transition.Guarded.invariant keeps
    ⟨coherent_initial db, once_initial db⟩ (undisputed.and_labels smooth) finished
  exact once.once

/-- One ticker enqueues what is due once, whatever Sends go on beside it. -/
theorem enqueued_once_by_one_ticker :
    ∃ s ∈ run plain deployed
        ([.call acme { welcome with scheduledAt := some 10 }] ++ steps 0 3 ++
          [.tick, .step 1 { now := 10 }, .call acme welcome] ++
          [.step 1 {}, .step 1 {}, .tick, .step 3 { now := 11 }]),
      s.shared.enqueued = [0] ∧ s.shared.enqueued.Nodup := by
  obtain ⟨s, finished, sent⟩ :
      ∃ s ∈ run plain deployed
          ([Label.call acme { welcome with scheduledAt := some 10 }] ++ steps 0 3 ++
            [Label.tick, Label.step 1 { now := 10 }, Label.call acme welcome] ++
            [Label.step 1 {}, Label.step 1 {}, Label.tick, Label.step 3 { now := 11 }]),
        s.shared.enqueued = [0] := by decide +kernel
  exact ⟨s, finished, sent,
    enqueued_at_most_once plain _ _ s (by decide +kernel) (by decide +kernel) finished⟩

/-- Two replicas tick at the same time: both list the due row and both publish it. -/
def twoTickers : List Label :=
  [Label.call acme { welcome with scheduledAt := some 10 }] ++ steps 0 3 ++
    [Label.tick, Label.tick, Label.step 1 { now := 10 }, Label.step 2 { now := 10 },
      Label.step 1 {}, Label.step 2 {}]

theorem two_tickers_enqueue_twice :
    (∀ label ∈ twoTickers, label.smooth = true) ∧
      ∃ s ∈ run plain deployed twoTickers,
        s.shared.enqueued = [0, 0] ∧ ¬ s.shared.enqueued.Nodup := by
  decide +kernel

end NotifyHub.Lifecycle
