import NotifyHub.Lifecycle.Hands

/-! # Cancellation

Cancel is a guarded UPDATE: it drops a row that is pending or queued. The other
writers do not look at the status they overwrite, so a cancellation lasts exactly
when nobody is left who could write: no Send or tick has the notification in
hand, and no message that a worker could fetch has been published for it.
-/

namespace NotifyHub.Lifecycle

open Database NotificationRepository
open NotificationService hiding getByID list cancel

def Label.isReplay : Label → Bool
  | .replay _ _ => true
  | _ => false

/-- In every replay-free continuation the status stays dropped and the provider is not
    called for the notification. -/
def StaysDropped (cfg : Config) (id : UUID) (s : State) : Prop :=
  ∀ after last, (∀ label ∈ after, label.isReplay = false) → run cfg s after = some last →
    statusOf last.shared.db id = some .dropped ∧
      last.shared.providerSends.count id = s.shared.providerSends.count id

/-- No message with the notification's tenant and id is on a topic, and no Send or
    tick has the notification in hand. -/
def Unclaimed (tenantID id : UUID) (s : State) : Prop :=
  (∀ record ∈ s.shared.topics, record.publication.value.notificationID = id →
    record.publication.value.tenantID ≠ tenantID) ∧
  ∀ t ∈ s.threads, ∀ n ∈ t.held, n.id ≠ id

instance (tenantID id : UUID) (s : State) : Decidable (Unclaimed tenantID id s) :=
  inferInstanceAs (Decidable (_ ∧ _))

/-! ## A cancellation nobody contests is final -/

structure Final (tenantID id : UUID) (s : State) : Prop where
  row : ∃ row ∈ s.shared.db.notifications, row.id = id ∧ row.tenantID = some tenantID ∧
    row.status = .dropped
  unfetchable : ∀ record ∈ s.shared.topics, record.publication.value.notificationID = id →
    record.publication.value.tenantID ≠ tenantID
  free : ∀ t ∈ s.threads, ∀ n ∈ t.active, n.id ≠ id

section Final

variable {cfg : Config} {s : State} {i : Nat} {a : Answer} {sh : Shared} {t t' : Thread}
  {tenantID id : UUID}

theorem Final.statusOf (final : Final tenantID id s) :
    statusOf s.shared.db id = some .dropped := by
  obtain ⟨row, stored, rfl, _, dropped⟩ := final.row
  rw [statusOf_of_mem stored, dropped]

theorem Final.owner (final : Final tenantID id s) {other : UUID}
    (own : Owned s.shared.db id other) : other = tenantID := by
  obtain ⟨row, stored, same, owner, _⟩ := final.row
  obtain ⟨row', stored', same', owner'⟩ := own
  obtain rfl := notification_ext stored' stored (same'.trans same.symm)
  exact Option.some.inj (owner'.symm.trans owner)

theorem Unclaimed.final (inv : Coherent s) (unclaimed : Unclaimed tenantID id s)
    {row : NotificationRow} (stored : row ∈ s.shared.db.notifications) (same : row.id = id)
    (owner : row.tenantID = some tenantID) (dropped : row.status = .dropped) :
    Final tenantID id s := by
  refine ⟨⟨row, stored, same, owner, dropped⟩, unclaimed.1, ?_⟩
  intro t member n act about
  cases t with
  | send | tick => exact unclaimed.2 _ member n act about
  | process offset msg pc =>
      -- a worker past its fetch works on a message that is on a topic
      obtain ⟨⟨record, at_, value⟩, subject, _⟩ := (inv.threads _ member).message _ _ _ rfl
      obtain ⟨id', other, otherMem, same', owner'⟩ := subject n (active_sub_copies act)
      obtain rfl := notification_ext otherMem stored (same'.trans (about.trans same.symm))
      refine unclaimed.1 record (List.mem_of_getElem? at_) ?_ ?_
      · rw [value, ← id', about]
      · rw [value]
        exact Option.some.inj (owner'.symm.trans owner)

theorem Final.moved (inv : Coherent s) (final : Final tenantID id s)
    (running : s.threads[i]? = some t) (move : Move cfg i a s.shared t sh t') :
    Final tenantID id ⟨sh, s.threads.set i t'⟩ := by
  have member := List.mem_of_getElem? running
  have free := final.free t member
  obtain ⟨row, stored, same, owner, dropped⟩ := final.row
  refine ⟨⟨row, move.frame stored (by rwa [same]), same, owner, dropped⟩, ?_, ?_⟩
  · intro record recorded about
    rcases move.topics_origin recorded with old | ⟨n, held, subject⟩
    · exact final.unfetchable record old about
    · exact absurd (subject.symm.trans about) (free n (held_sub_active held))
  · intro u thread n act about
    rcases Threads.mem_set thread with rfl | old
    · rcases move.active_origin act with before | ⟨new, inserts, rfl⟩ |
        ⟨_, other, listed, id', selected⟩ | ⟨offset, msg, rfl, subject, own⟩
      · exact free n before about
      · exact inserts.fresh (List.mem_map.mpr ⟨row, stored, same.trans about.symm⟩)
      · obtain rfl := notification_ext listed stored (id'.trans (about.trans same.symm))
        simp [due, dropped] at selected
      · -- the message fetched was on a topic, with the tenant of the row
        obtain ⟨record, at_, value⟩ := (inv.threads _ member).record
        refine final.unfetchable record (List.mem_of_getElem? at_) ?_ ?_
        · rw [value, ← subject, about]
        · rw [value]
          exact final.owner (about ▸ own)
    · exact final.free u old n act about

theorem Final.step {s' : State} {label : Label} (inv : Coherent s) (final : Final tenantID id s)
    (fresh : label.isReplay = false) (taken : step cfg s label = some s') :
    Final tenantID id s' ∧
      s'.shared.providerSends.count id = s.shared.providerSends.count id := by
  cases step_steps taken with
  | stay => exact ⟨final, rfl⟩
  | start outside begins =>
      refine ⟨⟨final.row, final.unfetchable, ?_⟩, rfl⟩
      intro u thread
      rcases List.mem_append.mp thread with old | new
      · exact final.free u old
      · obtain rfl := List.mem_singleton.mp new
        cases begins <;> simp [Thread.active, Thread.copies]
  | deliver =>
      refine ⟨⟨final.row, final.unfetchable, ?_⟩, rfl⟩
      intro u thread
      rcases List.mem_append.mp thread with old | new
      · exact final.free u old
      · obtain rfl := List.mem_singleton.mp new
        simp [Thread.active, Thread.copies]
  | cancelled updated =>
      obtain ⟨_, _, _, _, rfl⟩ := cancel_ok updated
      refine ⟨⟨?_, final.unfetchable, final.free⟩, rfl⟩
      obtain ⟨row, stored, same, owner, dropped⟩ := final.row
      refine ⟨_, Rows.mem_updateWhere.mpr ⟨row, stored, rfl⟩, ?_, ?_, ?_⟩ <;> split
      all_goals first | exact same | exact owner | exact dropped | rfl
  | replayed => simp [Label.isReplay] at fresh
  | moved running move =>
      exact ⟨final.moved inv running move,
        move.providerSends (final.free _ (List.mem_of_getElem? running))⟩

theorem Final.staysDropped (inv : Coherent s) (final : Final tenantID id s) :
    StaysDropped cfg id s := by
  intro after last
  induction after generalizing s with
  | nil =>
      intro _ finished
      obtain rfl := Option.some.inj finished
      exact ⟨final.statusOf, rfl⟩
  | cons label rest ih =>
      intro fresh finished
      obtain ⟨next, taken, onward⟩ := Transition.run_cons_inv finished
      obtain ⟨final', count⟩ := final.step inv (fresh label List.mem_cons_self) taken
      obtain ⟨dropped, same⟩ := ih (coherent_step inv taken) final'
        (fun l member => fresh l (List.mem_cons_of_mem _ member)) onward
      exact ⟨dropped, same.trans count⟩

end Final

/-! ## Whoever has a claim can undo it -/

/-- Some replay-free continuation overwrites the status. -/
def Breakable (cfg : Config) (id : UUID) (s : State) : Prop :=
  ∃ after last, (∀ label ∈ after, label.isReplay = false) ∧ run cfg s after = some last ∧
    statusOf last.shared.db id ≠ some .dropped

theorem Breakable.not_staysDropped {cfg : Config} {id : UUID} {s : State}
    (broken : Breakable cfg id s) : ¬ StaysDropped cfg id s := by
  obtain ⟨after, last, fresh, finished, overwritten⟩ := broken
  exact fun stays => overwritten (stays after last fresh finished).1

section Contested

variable {cfg : Config} {s s' : State} {i : Nat} {row : NotificationRow} {n : Notification}
  {tenantID : UUID} {req : SendRequest} {rest : List SendRequest}

theorem Breakable.before {id : UUID} {label : Label} (taken : Lifecycle.step cfg s label = some s')
    (fresh : label.isReplay = false) (broken : Breakable cfg id s') : Breakable cfg id s := by
  obtain ⟨after, last, all, finished, overwritten⟩ := broken
  refine ⟨label :: after, last, ?_, ?_, overwritten⟩
  · intro l member
    rcases List.mem_cons.mp member with rfl | later
    · exact fresh
    · exact all l later
  · exact (Transition.run_cons taken after).trans finished

theorem statusOf_stamped {db : Database} (stored : row ∈ db.notifications)
    (status : NotificationStatus) (time : Time) :
    statusOf (db.stampWhere (fun r => r.id == row.id) status time) row.id = some status := by
  have member : stamp status time row ∈
      (db.stampWhere (fun r => r.id == row.id) status time).notifications :=
    Rows.mem_updateWhere.mpr ⟨row, stored, by simp⟩
  exact statusOf_of_mem member

/-- One status write other than a drop. -/
theorem breakable_of_write {a : Answer} {threads : List Thread} {status : NotificationStatus}
    {time : Time} (stored : row ∈ s.shared.db.notifications)
    (taken : step cfg s (.step i a) = some ⟨{ s.shared with
      db := s.shared.db.stampWhere (fun r => r.id == row.id) status time }, threads⟩)
    (other : status ≠ .dropped) : Breakable cfg row.id s := by
  refine ⟨[.step i a], _, by simp [Label.isReplay], Transition.run_cons taken [], ?_⟩
  rw [statusOf_stamped stored]
  simpa using other

/-- From any call after its insert, a Send can go on to mark the row queued. -/
theorem breakable_of_sendMark (stored : row ∈ s.shared.db.notifications) (same : n.id = row.id)
    (running : s.threads[i]? = some (.send tenantID req (.markQueued n) rest)) :
    Breakable cfg row.id s := by
  have taken : step cfg s (.step i {}) = some
      ⟨{ s.shared with db := s.shared.db.stampWhere (fun r => r.id == row.id) .queued 0 },
        s.threads.set i (.send tenantID req
          (.returned (.ok (dbNotificationToDomain (stamp .queued 0 row)))) rest)⟩ := by
    simp only [step, running, Thread.step, sendStep, Answer.conn, same, updateStatus_of_mem stored]
  exact breakable_of_write stored taken (by decide)

theorem breakable_of_sendPublish (stored : row ∈ s.shared.db.notifications) (same : n.id = row.id)
    (running : s.threads[i]? = some (.send tenantID req (.publish n) rest)) :
    Breakable cfg row.id s := by
  have taken : step cfg s (.step i {}) = some
      ⟨s.shared.publish (NotificationService.enqueue cfg.maxRetries tenantID n 0) (some i),
        s.threads.set i (.send tenantID req (.markQueued n) rest)⟩ := by
    simp only [step, running, Thread.step, sendStep]
  exact .before taken rfl (breakable_of_sendMark stored same (Threads.set_self running))

theorem breakable_of_sendSchedule (stored : row ∈ s.shared.db.notifications)
    (same : n.id = row.id)
    (running : s.threads[i]? = some (.send tenantID req (.schedule n) rest)) :
    Breakable cfg row.id s := by
  -- at its scheduled time the request is no longer in the future
  have ready : scheduledAfter req (req.scheduledAt.getD 0) = false := by
    unfold scheduledAfter
    cases req.scheduledAt <;> simp
  have taken : step cfg s (.step i { now := req.scheduledAt.getD 0 }) = some
      ⟨s.shared, s.threads.set i (.send tenantID req (.publish n) rest)⟩ := by
    simp [step, running, Thread.step, sendStep, ready]
  exact .before taken rfl (breakable_of_sendPublish stored same (Threads.set_self running))

theorem breakable_of_tickMark {batch : List Notification}
    (stored : row ∈ s.shared.db.notifications) (same : n.id = row.id)
    (running : s.threads[i]? = some (.tick (.markQueued n batch))) : Breakable cfg row.id s := by
  have taken : step cfg s (.step i {}) = some
      ⟨{ s.shared with db := s.shared.db.stampWhere (fun r => r.id == row.id) .queued 0 },
        s.threads.set i (.tick (nextItem batch))⟩ := by
    simp only [step, running, Thread.step, tickStep, Answer.conn, same, updateStatus_of_mem stored]
  exact breakable_of_write stored taken (by decide)

/-- A tick can skip the items in front by failing to publish them. -/
theorem breakable_of_batch {batch : List Notification} (stored : row ∈ s.shared.db.notifications)
    (member : n ∈ batch) (same : n.id = row.id)
    (running : s.threads[i]? = some (.tick (nextItem batch))) : Breakable cfg row.id s := by
  induction batch generalizing s with
  | nil => simp at member
  | cons first batch ih =>
      rcases List.mem_cons.mp member with rfl | later
      · have taken : step cfg s (.step i {}) = some
            ⟨s.shared.publish (Scheduler.enqueue cfg.maxRetries n 0) (some i),
              s.threads.set i (.tick (.markQueued n batch))⟩ := by
          simp only [step, running, nextItem, Thread.step, tickStep]
        exact .before taken rfl (breakable_of_tickMark stored same (Threads.set_self running))
      · have taken : step cfg s (.step i { fault := some ⟨"", false⟩ }) = some
            ⟨s.shared, s.threads.set i (.tick (nextItem batch))⟩ := by
          simp only [step, running, nextItem, Thread.step, tickStep]
        exact .before taken rfl (ih stored later (Threads.set_self running))

theorem breakable_of_held {t : Thread} (stored : row ∈ s.shared.db.notifications)
    (running : s.threads[i]? = some t) (held : n ∈ t.held) (same : n.id = row.id) :
    Breakable cfg row.id s := by
  cases t with
  | process => simp [Thread.held] at held
  | send tenantID req pc rest =>
      cases pc with
      | schedule m =>
          obtain rfl := List.mem_singleton.mp held
          exact breakable_of_sendSchedule stored same running
      | publish m =>
          obtain rfl := List.mem_singleton.mp held
          exact breakable_of_sendPublish stored same running
      | markQueued m =>
          obtain rfl := List.mem_singleton.mp held
          exact breakable_of_sendMark stored same running
      | start | create | returned => simp [Thread.held, Thread.active, Thread.copies] at held
  | tick pc =>
      cases pc with
      | list | returned => simp [Thread.held, Thread.active, Thread.copies] at held
      | enqueue m batch =>
          have front : s.threads[i]? = some (.tick (nextItem (m :: batch))) := running
          exact breakable_of_batch stored held same front
      | markQueued m batch =>
          rcases List.mem_cons.mp held with rfl | later
          · exact breakable_of_tickMark stored same running
          · have taken : step cfg s (.step i { fault := some ⟨"", false⟩ }) = some
                ⟨s.shared, s.threads.set i (.tick (nextItem batch))⟩ := by
              simp only [step, running, Thread.step, tickStep, Answer.conn, updateStatus, Conn.exec]
            exact .before taken rfl
              (breakable_of_batch stored later same (Threads.set_self running))

theorem breakable_of_processMark {offset : Nat} {msg : Message}
    (stored : row ∈ s.shared.db.notifications) (same : n.id = row.id)
    (running : s.threads[i]? = some (.process offset msg (.markProcessing n))) :
    Breakable cfg row.id s := by
  have taken : step cfg s (.step i {}) = some
      ⟨{ s.shared with db := s.shared.db.stampWhere (fun r => r.id == row.id) .processing 0 },
        s.threads.set i (.process offset msg (.preference n))⟩ := by
    simp only [step, running, Thread.step, processStep, Answer.conn, same,
      updateStatus_of_mem stored]
  exact breakable_of_write stored taken (by decide)

theorem breakable_of_fetch {offset : Nat} {msg : Message}
    (stored : row ∈ s.shared.db.notifications) (about : msg.notificationID = row.id)
    (owner : row.tenantID = some msg.tenantID)
    (running : s.threads[i]? = some (.process offset msg .fetch)) : Breakable cfg row.id s := by
  have taken : step cfg s (.step i {}) = some ⟨s.shared, s.threads.set i
      (.process offset msg (.markProcessing (dbNotificationToDomain row)))⟩ := by
    simp only [step, running, Thread.step, processStep, Answer.conn, about,
      getByID_of_mem stored owner]
  exact .before taken rfl (breakable_of_processMark stored rfl (Threads.set_self running))

/-- A worker that gets the message fetches the row and marks it processing. -/
theorem breakable_of_record {record : Record} (stored : row ∈ s.shared.db.notifications)
    (member : record ∈ s.shared.topics)
    (about : record.publication.value.notificationID = row.id)
    (owner : row.tenantID = some record.publication.value.tenantID) : Breakable cfg row.id s := by
  obtain ⟨offset, at_⟩ := List.mem_iff_getElem?.mp member
  have taken : step cfg s (.deliver offset) = some
      ⟨{ s.shared with deliveries := s.shared.deliveries ++ [offset] },
        s.threads ++ [.process offset record.publication.value .fetch]⟩ := by
    simp only [step, at_]
  exact .before taken rfl (breakable_of_fetch stored about owner Threads.append_new)

theorem unclaimed_of_staysDropped {id : UUID} (stored : row ∈ s.shared.db.notifications)
    (same : row.id = id) (owner : row.tenantID = some tenantID) (stays : StaysDropped cfg id s) :
    Unclaimed tenantID id s := by
  subst same
  constructor
  · intro record member about same
    exact (breakable_of_record stored member about (same ▸ owner)).not_staysDropped stays
  · intro t member n held same
    obtain ⟨i, running⟩ := List.mem_iff_getElem?.mp member
    exact (breakable_of_held stored running held same).not_staysDropped stays

end Contested

/-- After a successful Cancel, in any reachable state: no replay-free continuation
    overwrites the dropped status or calls the provider exactly when no message a
    worker could fetch was out and no Send or tick had the notification in hand. -/
theorem cancel_final_iff_unclaimed (cfg : Config) (db : Database) (before : List Label)
    (s s' : State) (tenantID id : UUID) (a : Answer)
    (reached : run cfg (initial db) before = some s)
    (success : (cancel a.conn s.shared.db tenantID id a.now).isOk = true)
    (taken : step cfg s (.cancel tenantID id a) = some s') :
    StaysDropped cfg id s' ↔ Unclaimed tenantID id s := by
  have inv := coherent_step (coherent_run reached) taken
  cases cancelled : cancel a.conn s.shared.db tenantID id a.now with
  | error e => simp [cancelled, Except.isOk, Except.toBool] at success
  | ok result =>
      obtain ⟨row, stored, hit, _, dropped⟩ := cancel_ok cancelled
      have member : stamp .dropped a.now row ∈
          (s.shared.db.stampWhere (cancellable id tenantID) .dropped a.now).notifications :=
        Rows.mem_updateWhere.mpr ⟨row, stored, by simp [hit]⟩
      simp only [step, cancelled, dropped, Option.some.injEq] at taken
      subst taken
      simp only [cancellable, Bool.and_eq_true, beq_iff_eq] at hit
      obtain ⟨⟨rfl, owner⟩, _⟩ := hit
      have same : (stamp .dropped a.now row).id = row.id := rfl
      constructor
      · intro stays
        -- topics and threads are those before the step
        have unclaimed := unclaimed_of_staysDropped member same owner stays
        exact unclaimed
      · intro unclaimed
        exact (Unclaimed.final inv unclaimed member same owner rfl).staysDropped inv

/-- A notification for tomorrow, cancelled today, stays cancelled. -/
theorem cancel_final_tomorrow :
    ∃ s ∈ run plain deployed
        ([.call acme { welcome with scheduledAt := some 86400 }] ++ steps 0 3),
      ∃ s' ∈ step plain s (.cancel acme 0 {}), StaysDropped plain 0 s' := by
  obtain ⟨s, reached, success, unclaimed, s', taken⟩ :
      ∃ s ∈ run plain deployed
          ([.call acme { welcome with scheduledAt := some 86400 }] ++ steps 0 3),
        (cancel .up s.shared.db acme 0 0).isOk = true ∧ Unclaimed acme 0 s ∧
        ∃ s' ∈ step plain s (.cancel acme 0 {}), True := by decide +kernel
  exact ⟨s, reached, s', taken.1,
    (cancel_final_iff_unclaimed plain _ _ s s' acme 0 {} reached success taken.1).mpr unclaimed⟩

/-- A queued notification is cancelled with success; the worker that has its message
    delivers it all the same. -/
theorem cancelled_then_delivered :
    ∃ s ∈ run plain deployed ([.call acme welcome] ++ steps 0 5),
      (cancel .up s.shared.db acme 0 0).isOk = true ∧
      ∃ s' ∈ step plain s (.cancel acme 0 {}), statusOf s'.shared.db 0 = some .dropped ∧
        ∃ last ∈ run plain s' ([.deliver 0] ++ steps 1 8),
          statusOf last.shared.db 0 = some .delivered ∧ last.shared.providerSends = [0] := by
  decide +kernel

end NotifyHub.Lifecycle
