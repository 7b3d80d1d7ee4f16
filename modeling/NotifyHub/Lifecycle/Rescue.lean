import NotifyHub.Lifecycle.Hands

/-! # Pending notifications and the scheduler

The scheduler selects pending rows whose `scheduled_at` is set and has passed. A
row without `scheduled_at` is never selected, whatever the clock says; as long as
such a row is pending, only the Send that inserted it can bring it on its way.
-/

namespace NotifyHub.Lifecycle

open Database NotificationRepository
open NotificationService hiding getByID list cancel

/-- The notification of a Send that is about to publish or to mark it queued. -/
def Thread.committing : Thread → Option Notification
  | .send _ _ (.publish n) _ | .send _ _ (.markQueued n) _ => some n
  | _ => none

def Thread.inProgress : Thread → Bool
  | .send _ _ (.returned _) rest => !rest.isEmpty
  | .send _ _ _ _ => true
  | _ => false

/-- No publish and no status update of a Send fails while the notification is
    pending and has no `scheduled_at`. -/
def Persists (s : State) : Label → Prop
  | .step i a =>
      ∀ t ∈ s.threads[i]?, ∀ n ∈ t.committing, n.scheduledAt = none →
        statusOf s.shared.db n.id = some .pending → a.fault = none
  | _ => True

instance (s : State) : ∀ label, Decidable (Persists s label)
  | .step i _ => inferInstanceAs (Decidable (∀ t ∈ s.threads[i]?, _))
  | .call _ _ | .callBulk _ _ | .tick | .deliver _ | .cancel _ _ _ | .replay _ _ => .isTrue trivial

/-- The row is selected by the scheduler's query at or after any given instant. -/
def Rescuable (row : NotificationRow) : Prop :=
  ∀ now, ∃ later, now ≤ later ∧ due later row = true

theorem rescuable_iff (row : NotificationRow) (pending : row.status = .pending) :
    Rescuable row ↔ row.scheduledAt ≠ none := by
  constructor
  · intro rescued unscheduled
    obtain ⟨later, _, selected⟩ := rescued 0
    simp [due, unscheduled] at selected
  · intro scheduled now
    obtain ⟨at_, given⟩ := Option.ne_none_iff_exists'.mp scheduled
    exact ⟨max now at_, le_max_left _ _, by simp [due, pending, given]⟩

/-- Pending rows without `scheduled_at` are in the hands of the Send that made them. -/
structure Attended (s : State) : Prop where
  scheduled : ∀ tenantID req pc rest, .send tenantID req pc rest ∈ s.threads →
    ∀ n ∈ (Thread.send tenantID req pc rest).sending, n.scheduledAt = req.scheduledAt
  sender : ∀ row ∈ s.shared.db.notifications, row.status = .pending → row.scheduledAt = none →
    ∃ t ∈ s.threads, ∃ n ∈ t.sending, n.id = row.id

theorem attended_initial (db : Database) : Attended (initial db) where
  scheduled := by simp [initial]
  sender := by simp [initial, withoutNotifications]

section Step

variable {cfg : Config} {s : State} {i : Nat} {a : Answer} {sh : Shared} {t t' : Thread}

/-- A Send keeps an unscheduled notification in hand until it has left `pending`. -/
theorem Move.keeps_sending (inv : Coherent s) (att : Attended s) (persists : Persists s (.step i a))
    (running : s.threads[i]? = some t) (move : Move cfg i a s.shared t sh t')
    {row : NotificationRow} (stored : row ∈ s.shared.db.notifications)
    (still : row ∈ sh.db.notifications) (pending : row.status = .pending)
    (unscheduled : row.scheduledAt = none) {n : Notification} (held : n ∈ t.sending)
    (same : n.id = row.id) : n ∈ t'.sending := by
  have member := List.mem_of_getElem? running
  have copies := (inv.threads t member).copies
  have known : ∀ m ∈ t.copies, m.id = row.id → m.scheduledAt = none := by
    intro m carried id
    obtain ⟨other, otherMem, copy⟩ := copies m carried
    obtain rfl := notification_ext otherMem stored (copy.id.symm.trans id)
    exact copy.scheduledAt.trans unscheduled
  have status : statusOf s.shared.db n.id = some .pending := by
    rw [same, statusOf_of_mem stored, pending]
  cases move with
  | due | published => exact held
  | later future =>
      obtain rfl := Option.some.inj held
      have kept := att.scheduled _ _ _ _ member _ rfl
      rw [known _ (List.mem_singleton_self _) same] at kept
      simp [scheduledAfter, ← kept] at future
  | unpublished failed =>
      obtain rfl := Option.some.inj held
      have up := persists _ running _ rfl (known _ (List.mem_singleton_self _) same) status
      simp [up] at failed
  | unmarked failed =>
      obtain rfl := Option.some.inj held
      have up := persists _ running _ rfl (known _ (List.mem_singleton_self _) same) status
      simp [Answer.conn, up, same, updateStatus_of_mem stored] at failed
  | queued updated =>
      obtain rfl := Option.some.inj held
      obtain ⟨_, _, _, _, rfl⟩ := updateStatus_ok updated
      have left := (untouched_of_pending (by decide) pending still).2
      simp [same] at left
  | refused early => rcases early with rfl | rfl <;> simp [Thread.sending] at held
  | hit | miss | created | nextRecipient | unlisted | listed | itemUnpublished | itemPublished
  | itemUnmarked | itemQueued | unfetched | fetched | unprocessed | processing | working
  | settled => simp [Thread.sending] at held

/-- Whoever has not released the notification still has it. -/
theorem Attended.moved (inv : Coherent s) (att : Attended s) (persists : Persists s (.step i a))
    (running : s.threads[i]? = some t) (move : Move cfg i a s.shared t sh t') :
    Attended ⟨sh, s.threads.set i t'⟩ := by
  have member := List.mem_of_getElem? running
  constructor
  · intro tenantID req pc rest thread n held
    rcases Threads.mem_set thread with rfl | old
    · cases move with
      | created inserted =>
          obtain ⟨_, row, fits, rfl, _⟩ := create_ok inserted
          obtain ⟨_, _, _, _, scheduled, _⟩ := row_of_insertParams fits
          obtain rfl := Option.some.inj held
          exact scheduled
      | due | published => exact att.scheduled _ _ _ _ member n held
      | refused | hit | miss | later | unpublished | unmarked | queued | nextRecipient =>
          simp [Thread.sending] at held
    · exact att.scheduled _ _ _ _ old n held
  · intro row stored pending unscheduled
    rcases move.pending_row (inv.threads t member) stored pending with old | ⟨_, next⟩
    · obtain ⟨u, uMem, n, held, same⟩ := att.sender row old pending unscheduled
      by_cases self : u = t
      · subst self
        exact ⟨t', Threads.mem_set_self running, n,
          move.keeps_sending inv att persists running old stored pending unscheduled held same, same⟩
      · exact ⟨u, Threads.mem_set_of_ne running uMem self, n, held, same⟩
    · exact ⟨t', Threads.mem_set_self running, _, next, rfl⟩

theorem Attended.more {threads : List Thread} (att : Attended s)
    (rows : ∀ row ∈ sh.db.notifications, row.status = .pending → row ∈ s.shared.db.notifications)
    (old : ∀ x ∈ s.threads, x ∈ threads)
    (idle : ∀ x ∈ threads, x ∈ s.threads ∨ x.sending = none) : Attended ⟨sh, threads⟩ := by
  constructor
  · intro tenantID req pc rest thread n held
    rcases idle _ thread with before | none_
    · exact att.scheduled _ _ _ _ before n held
    · simp [none_] at held
  · intro row stored pending unscheduled
    obtain ⟨u, member, n, held, same⟩ :=
      att.sender row (rows row stored pending) pending unscheduled
    exact ⟨u, old u member, n, held, same⟩

theorem attended_step {s' : State} {label : Label} (inv : Coherent s) (att : Attended s)
    (persists : Persists s label) (taken : step cfg s label = some s') : Attended s' := by
  cases step_steps taken with
  | stay => exact att
  | start outside fresh =>
      refine att.more (fun row stored _ => stored) (fun x => List.mem_append_left _) ?_
      intro x member
      rcases List.mem_append.mp member with old | new
      · exact .inl old
      · obtain rfl := List.mem_singleton.mp new
        cases fresh <;> exact .inr rfl
  | deliver =>
      refine att.more (fun row stored _ => stored) (fun x => List.mem_append_left _) ?_
      intro x member
      rcases List.mem_append.mp member with old | new
      · exact .inl old
      · obtain rfl := List.mem_singleton.mp new
        exact .inr rfl
  | cancelled updated =>
      obtain ⟨_, _, _, _, rfl⟩ := cancel_ok updated
      exact att.more (fun row stored pending => (untouched_of_pending (by decide) pending stored).1)
        (fun x member => member) fun x member => .inl member
  | replayed =>
      exact att.more (fun row stored _ => stored) (fun x member => member)
        fun x member => .inl member
  | moved running move => exact att.moved inv persists running move

end Step

end NotifyHub.Lifecycle
