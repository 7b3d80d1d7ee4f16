import NotifyHub.Lifecycle.Coherence

/-! # Notifications in hand

A thread acts on the copies it has read: it publishes them, writes their status
or sends them to a provider. This module says where copies in hand come from and
that a step leaves alone every row and topic entry that is not in its hands.
-/

namespace NotifyHub.Lifecycle

open Database NotificationRepository
open NotificationService hiding getByID list cancel

/-- The copies a thread may still act on. -/
def Thread.active : Thread → List Notification
  | .send _ _ (.returned _) _ => []
  | t => t.copies

/-- Those that a Send or a tick still has to publish or to mark queued. -/
def Thread.held : Thread → List Notification
  | .process _ _ _ => []
  | t => t.active

/-- The notification of a Send between its insert and its last call. -/
def Thread.sending : Thread → Option Notification
  | .send _ _ (.schedule n) _ | .send _ _ (.publish n) _ | .send _ _ (.markQueued n) _ => some n
  | _ => none

/-- The tick is about to list its batch. -/
def Thread.lists : Thread → Bool
  | .tick .list => true
  | _ => false

/-- Those that are not published yet. -/
def Thread.unpublished : Thread → List Notification
  | .send _ _ (.schedule n) _ | .send _ _ (.publish n) _ => [n]
  | .tick (.enqueue n rest) => n :: rest
  | .tick (.markQueued _ rest) => rest
  | _ => []

/-- The one that its next call publishes. -/
def Thread.publishing : Thread → Option Notification
  | .send _ _ (.publish n) _ | .tick (.enqueue n _) => some n
  | _ => none

/-- The thread's next call writes `status` to the row of `n`. -/
inductive Thread.Writes (n : Notification) : NotificationStatus → Thread → Prop where
  | queued {t : Thread} (marking : n ∈ t.marking) : Writes n .queued t
  | processing {offset msg} : Writes n .processing (.process offset msg (.markProcessing n))
  | settled {offset msg status todo} :
      Writes n status (.process offset msg (.closing n (.updateStatus status :: todo)))

/-- The thread's next call is the insert of `row`. -/
structure Thread.Inserts (a : Answer) (db : Database) (row : NotificationRow) (t : Thread) :
    Prop where
  caller : ∃ tenantID req rest, t = .send tenantID req .create rest ∧
    (insertParams tenantID req).row a.id a.now = some row
  accepted : db.AcceptsNotification row

/-- The notifications published so far, in order. -/
def Shared.enqueued (sh : Shared) : List UUID :=
  sh.topics.map (·.publication.value.notificationID)

/-- Published notifications are stored. -/
theorem Coherent.enqueued_stored {s : State} (inv : Coherent s) {id : UUID}
    (sent : id ∈ s.shared.enqueued) : id ∈ s.shared.db.notifications.map (·.id) := by
  obtain ⟨record, member, rfl⟩ := List.mem_map.mp sent
  obtain ⟨row, stored, same, _⟩ := inv.topics record member
  exact List.mem_map.mpr ⟨row, stored, same.symm⟩

theorem active_sub_copies {t : Thread} {n : Notification} (member : n ∈ t.active) :
    n ∈ t.copies := by
  unfold Thread.active at member
  split at member
  · simp at member
  · exact member

theorem held_sub_active {t : Thread} {n : Notification} (member : n ∈ t.held) : n ∈ t.active := by
  unfold Thread.held at member
  split at member
  · simp at member
  · exact member

theorem active_nextItem (rest : List Notification) :
    (Thread.tick (nextItem rest)).active = rest := by
  cases rest <;> rfl

theorem active_of_begun {n : Notification} {pc : ProcessPc} (begun : pc.Begun n) (offset : Nat)
    (msg : Message) : (Thread.process offset msg pc).active = [n] := by
  cases begun <;> rfl

namespace Thread.Inserts

variable {a : Answer} {db : Database} {row : NotificationRow} {t : Thread}

theorem fresh (inserts : t.Inserts a db row) : row.id ∉ db.notifications.map (·.id) :=
  inserts.accepted.1

theorem pending (inserts : t.Inserts a db row) : row.status = .pending := by
  obtain ⟨_, _, _, _, fits⟩ := inserts.caller
  exact (row_of_insertParams fits).2.2.1

end Thread.Inserts

theorem unpublished_nextItem (rest : List Notification) :
    (Thread.tick (nextItem rest)).unpublished = rest := by
  cases rest <;> rfl

theorem unpublished_sub_held {t : Thread} {n : Notification} (member : n ∈ t.unpublished) :
    n ∈ t.held := by
  unfold Thread.unpublished at member
  split at member
  · exact member
  · exact member
  · exact member
  · exact List.mem_cons_of_mem _ member
  · simp at member

theorem marking_sub_held {t : Thread} {n : Notification} (member : n ∈ t.marking) :
    n ∈ t.held := by
  unfold Thread.marking at member
  split at member
  · obtain rfl := Option.some.inj member
    exact List.mem_singleton_self _
  · obtain rfl := Option.some.inj member
    exact List.mem_cons_self
  · simp at member

theorem publishing_sub_unpublished {t : Thread} {n : Notification} (member : n ∈ t.publishing) :
    n ∈ t.unpublished := by
  unfold Thread.publishing at member
  split at member
  · obtain rfl := Option.some.inj member
    exact List.mem_singleton_self _
  · obtain rfl := Option.some.inj member
    exact List.mem_cons_self
  · simp at member

theorem Thread.Writes.active {t : Thread} {n : Notification} {status : NotificationStatus}
    (writes : Writes n status t) : n ∈ t.active := by
  cases writes with
  | queued marking => exact held_sub_active (marking_sub_held marking)
  | processing | settled => exact List.mem_singleton_self _

section Step

variable {cfg : Config} {i : Nat} {a : Answer} {sh sh' : Shared} {t t' : Thread}

/-- A copy in hand was there before, or it is new: just inserted, listed as due, or
    fetched for a message. -/
theorem Move.active_origin (move : Move cfg i a sh t sh' t') {n : Notification}
    (member : n ∈ t'.active) :
    n ∈ t.active ∨ (∃ row, t.Inserts a sh.db row ∧ n = dbNotificationToDomain row) ∨
      (t = .tick .list ∧ ∃ row ∈ sh.db.notifications, row.id = n.id ∧
        NotifyHub.due a.now row = true) ∨
      (∃ offset msg, t = .process offset msg .fetch ∧ n.id = msg.notificationID ∧
        Owned sh.db n.id msg.tenantID) := by
  cases move with
  | created inserted =>
      obtain ⟨_, row, fits, rfl, accepted, rfl⟩ := create_ok inserted
      obtain rfl := List.mem_singleton.mp member
      exact .inr (.inl ⟨row, ⟨⟨_, _, _, rfl, fits⟩, accepted⟩, rfl⟩)
  | listed found =>
      obtain ⟨rows, rfl, listed, _⟩ := listDueScheduled_ok found
      rw [active_nextItem] at member
      obtain ⟨row, chosen, rfl⟩ := List.mem_map.mp member
      exact .inr (.inr (.inl ⟨rfl, row, (listed row chosen).1, rfl, (listed row chosen).2⟩))
  | fetched found =>
      obtain ⟨row, stored, same, owner, rfl⟩ := getByID_ok found
      obtain rfl := List.mem_singleton.mp member
      exact .inr (.inr (.inr ⟨_, _, rfl, same, row, stored, rfl, owner⟩))
  | itemUnpublished | itemUnmarked | itemQueued =>
      rw [active_nextItem] at member
      exact .inl (List.mem_cons_of_mem _ member)
  | working quiet begun onward =>
      rcases onward with onward | ⟨e, rfl⟩
      · rw [active_of_begun onward] at member
        rw [active_of_begun begun]
        exact .inl member
      · simp [Thread.active, Thread.copies] at member
  | due | published | itemPublished | processing | settled => exact .inl member
  | refused | hit | miss | later | unpublished | unmarked | queued | nextRecipient | unlisted
  | unfetched | unprocessed => simp [Thread.active, Thread.copies] at member

/-- A thread that still has to publish had to before, or took a notification nobody
    has published. -/
theorem Move.unpublished_origin (move : Move cfg i a sh t sh' t') {n : Notification}
    (member : n ∈ t'.unpublished) :
    n ∈ t.unpublished ∨ (∃ row, t.Inserts a sh.db row ∧ n = dbNotificationToDomain row) ∨
      (t.lists = true ∧ ∃ row ∈ sh.db.notifications, row.id = n.id ∧
        NotifyHub.due a.now row = true) := by
  cases move with
  | created inserted =>
      obtain ⟨_, row, fits, rfl, accepted, rfl⟩ := create_ok inserted
      obtain rfl := List.mem_singleton.mp member
      exact .inr (.inl ⟨row, ⟨⟨_, _, _, rfl, fits⟩, accepted⟩, rfl⟩)
  | listed found =>
      obtain ⟨rows, rfl, listed, _⟩ := listDueScheduled_ok found
      rw [unpublished_nextItem] at member
      obtain ⟨row, chosen, rfl⟩ := List.mem_map.mp member
      exact .inr (.inr ⟨rfl, row, (listed row chosen).1, rfl, (listed row chosen).2⟩)
  | itemUnpublished =>
      rw [unpublished_nextItem] at member
      exact .inl (List.mem_cons_of_mem _ member)
  | itemUnmarked | itemQueued =>
      rw [unpublished_nextItem] at member
      exact .inl member
  | due => exact .inl member
  | itemPublished => exact .inl (List.mem_cons_of_mem _ member)
  | refused | hit | miss | later | unpublished | published | unmarked | queued | nextRecipient
  | unlisted | unfetched | fetched | unprocessed | processing | working | settled =>
      simp [Thread.unpublished] at member

theorem fault_none_of_up {conn : Conn} (same : a.conn = conn) (up : conn = .up) :
    a.fault = none := by
  unfold Answer.conn at same
  split at same
  · assumption
  · exact absurd (same.trans up) (by decide)

/-- The table changes by one insert or by one status write. -/
theorem Move.db_cases (move : Move cfg i a sh t sh' t') :
    sh'.db = sh.db ∨
      (∃ row, ∃ inserts : t.Inserts a sh.db row,
        t'.sending = some (dbNotificationToDomain row) ∧
        sh'.db = sh.db.addNotification row inserts.accepted) ∨
      ∃ n status, t.Writes n status ∧ a.fault = none ∧
        sh'.db = sh.db.stampWhere (fun r => r.id == n.id) status a.now := by
  have write : ∀ {n status result db}, t.Writes n status →
      updateStatus a.conn sh.db n.id status a.now = .ok (result, db) →
      ∃ n status, t.Writes n status ∧ a.fault = none ∧
        db = sh.db.stampWhere (fun r => r.id == n.id) status a.now := by
    intro n status result db writes updated
    obtain ⟨_, _, _, _, rfl⟩ := updateStatus_ok updated
    exact ⟨n, status, writes, fault_none_of_up rfl (up_of_updateStatus updated), rfl⟩
  cases move with
  | created inserted =>
      obtain ⟨_, row, fits, rfl, accepted, rfl⟩ := create_ok inserted
      exact .inr (.inl ⟨row, ⟨⟨_, _, _, rfl, fits⟩, accepted⟩, rfl, rfl⟩)
  | queued updated | itemQueued updated => exact .inr (.inr (write (.queued rfl) updated))
  | processing updated => exact .inr (.inr (write .processing updated))
  | settled updated => exact .inr (.inr (write .settled updated))
  | working quiet => exact .inl quiet.db
  | refused | hit | miss | later | due | unpublished | published | unmarked | nextRecipient
  | unlisted | listed | itemUnpublished | itemPublished | itemUnmarked | unfetched | fetched
  | unprocessed => exact .inl rfl

/-- A row not in hand is left as it is. -/
theorem Move.frame (move : Move cfg i a sh t sh' t') {row : NotificationRow}
    (stored : row ∈ sh.db.notifications) (free : ∀ n ∈ t.active, n.id ≠ row.id) :
    row ∈ sh'.db.notifications := by
  rcases move.db_cases with same | ⟨new, inserts, _, added⟩ | ⟨n, status, writes, _, stamped⟩
  · rw [same]
    exact stored
  · rw [added]
    exact List.mem_append_left _ stored
  · rw [stamped]
    have other : (row.id == n.id) = false :=
      beq_eq_false_iff_ne.mpr (free n writes.active).symm
    exact Rows.mem_updateWhere.mpr ⟨row, stored, by simp [other]⟩

/-- A row after the step: as before, new, or just written. -/
theorem Move.row_origin (move : Move cfg i a sh t sh' t') {row : NotificationRow}
    (stored : row ∈ sh'.db.notifications) :
    row ∈ sh.db.notifications ∨
      (t.Inserts a sh.db row ∧ t'.sending = some (dbNotificationToDomain row)) ∨
      ∃ n status old, t.Writes n status ∧ a.fault = none ∧ old ∈ sh.db.notifications ∧
        old.id = n.id ∧ row = stamp status a.now old := by
  rcases move.db_cases with same | ⟨new, inserts, next, added⟩ | ⟨n, status, writes, up, stamped⟩
  · exact .inl (same ▸ stored)
  · rw [added] at stored
    rcases List.mem_append.mp stored with old | fresh
    · exact .inl old
    · obtain rfl := List.mem_singleton.mp fresh
      exact .inr (.inl ⟨inserts, next⟩)
  · rw [stamped] at stored
    obtain ⟨old, oldMem, rfl⟩ := Rows.mem_updateWhere.mp stored
    by_cases hit : old.id = n.id
    · exact .inr (.inr ⟨n, status, old, writes, up, oldMem, hit, by simp [hit]⟩)
    · exact .inl (by simpa [hit] using oldMem)

theorem Thread.Writes.ne_pending {n : Notification} {status : NotificationStatus}
    (writes : Writes n status t) (ok : ThreadOk sh t) : status ≠ .pending := by
  cases writes with
  | queued | processing => decide
  | settled => exact ok.settles.1.ne_pending

/-- A pending row was there before, or is the one this step inserts. -/
theorem Move.pending_row (before : ThreadOk sh t) (move : Move cfg i a sh t sh' t')
    {row : NotificationRow} (stored : row ∈ sh'.db.notifications) (pending : row.status = .pending) :
    row ∈ sh.db.notifications ∨
      t.Inserts a sh.db row ∧ t'.sending = some (dbNotificationToDomain row) := by
  rcases move.row_origin stored with old | inserts | ⟨n, status, old, writes, _, _, _, rfl⟩
  · exact .inl old
  · exact .inr inserts
  · exact absurd pending (writes.ne_pending before)

/-- Threads publish what they hold, and go on to mark it queued. -/
theorem Move.topics_cases (move : Move cfg i a sh t sh' t') :
    sh'.topics = sh.topics ∨
      ∃ n publication, n ∈ t.publishing ∧ n ∈ t'.marking ∧ a.fault = none ∧
        publication.value.notificationID = n.id ∧ sh' = sh.publish publication (some i) := by
  cases move with
  | published sent | itemPublished sent => exact .inr ⟨_, _, rfl, rfl, sent, rfl, rfl⟩
  | working quiet => exact .inl quiet.topics
  | refused | hit | miss | created | later | due | unpublished | unmarked | queued | nextRecipient
  | unlisted | listed | itemUnpublished | itemUnmarked | itemQueued | unfetched | fetched
  | unprocessed | processing | settled => exact .inl rfl

theorem Move.topics_origin (move : Move cfg i a sh t sh' t') {record : Record}
    (member : record ∈ sh'.topics) :
    record ∈ sh.topics ∨ ∃ n ∈ t.held, record.publication.value.notificationID = n.id := by
  rcases move.topics_cases with same | ⟨n, publication, next, _, _, about, rfl⟩
  · exact .inl (same ▸ member)
  · rcases List.mem_append.mp member with old | new
    · exact .inl old
    · obtain rfl := List.mem_singleton.mp new
      exact .inr ⟨n, unpublished_sub_held (publishing_sub_unpublished next), about⟩

theorem Move.enqueued_cases (move : Move cfg i a sh t sh' t') :
    sh'.enqueued = sh.enqueued ∨
      ∃ n, n ∈ t.publishing ∧ n ∈ t'.marking ∧ a.fault = none ∧
        sh'.enqueued = sh.enqueued ++ [n.id] := by
  rcases move.topics_cases with same | ⟨n, publication, before, after, sent, about, rfl⟩
  · exact .inl (by rw [Shared.enqueued, same, Shared.enqueued])
  · exact .inr ⟨n, before, after, sent, by simp [Shared.enqueued, Shared.publish, about]⟩

/-- The provider is called for what is in hand only. -/
theorem Move.providerSends (move : Move cfg i a sh t sh' t') {id : UUID}
    (free : ∀ n ∈ t.active, n.id ≠ id) :
    sh'.providerSends.count id = sh.providerSends.count id := by
  cases move with
  | working quiet begun =>
      rcases quiet.sends with same | called
      · rw [same]
      · rw [active_of_begun begun] at free
        have other := free _ (List.mem_singleton_self _)
        rw [called, List.count_append, List.count_singleton, beq_eq_false_iff_ne.mpr other]
        rfl
  | refused | hit | miss | created | later | due | unpublished | published | unmarked | queued
  | nextRecipient | unlisted | listed | itemUnpublished | itemPublished | itemUnmarked | itemQueued
  | unfetched | fetched | unprocessed | processing | settled => rfl

end Step

end NotifyHub.Lifecycle
