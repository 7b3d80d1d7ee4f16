import NotifyHub.Lib.Threads
import NotifyHub.Lifecycle.Moves

/-! # Coherence: what holds in every reachable state

Rows are never deleted and change in `status` and `updated_at` only, topics only
grow, and every copy, message and dead letter in flight belongs to a stored row.
From this follows the fact the later modules build on: a notification that is no
longer pending was published to its channel's topic, or cancelled.
-/

namespace NotifyHub.Lifecycle

open Database NotificationRepository
open NotificationService hiding getByID list cancel

/-! ## Copies of rows -/

/-- `n` was read from `row`, possibly at another time. -/
def CopyOf (n : Notification) (row : NotificationRow) : Prop :=
  ∃ status time, n = dbNotificationToDomain (stamp status time row)

namespace CopyOf

variable {n : Notification} {row : NotificationRow}

theorem self (row : NotificationRow) : CopyOf (dbNotificationToDomain row) row :=
  ⟨row.status, row.updatedAt, rfl⟩

theorem stamped (status : NotificationStatus) (time : Time) (row : NotificationRow) :
    CopyOf (dbNotificationToDomain (stamp status time row)) row :=
  ⟨status, time, rfl⟩

theorem restamp (copy : CopyOf n row) (status : NotificationStatus) (time : Time) :
    CopyOf n (stamp status time row) := by
  obtain ⟨status', time', rfl⟩ := copy
  exact ⟨status', time', rfl⟩

theorem id (copy : CopyOf n row) : n.id = row.id := by
  obtain ⟨_, _, rfl⟩ := copy
  rfl

theorem channel (copy : CopyOf n row) : n.channel = row.channel := by
  obtain ⟨_, _, rfl⟩ := copy
  rfl

theorem scheduledAt (copy : CopyOf n row) : n.scheduledAt = row.scheduledAt := by
  obtain ⟨_, _, rfl⟩ := copy
  rfl

end CopyOf

def Stored (db : Database) (n : Notification) : Prop :=
  ∃ row ∈ db.notifications, CopyOf n row

def Owned (db : Database) (id tenantID : UUID) : Prop :=
  ∃ row ∈ db.notifications, row.id = id ∧ row.tenantID = some tenantID

/-- A message for the notification has reached the topic of the channel. -/
def Published (sh : Shared) (id : UUID) (ch : Channel) : Prop :=
  ∃ record ∈ sh.topics,
    record.publication.value.notificationID = id ∧ record.publication.topic = topicForChannel ch

instance (sh : Shared) (id : UUID) (ch : Channel) : Decidable (Published sh id ch) :=
  inferInstanceAs (Decidable (∃ record ∈ sh.topics, _ ∧ _))

/-- Id, channel and topic of an envelope are those of a stored row. -/
def Addressed (db : Database) (id : UUID) (ch : Channel) (topic : String) : Prop :=
  ∃ row ∈ db.notifications, id = row.id ∧ ch = row.channel ∧ topic = topicForChannel row.channel

/-! ## Growth of the shared state -/

/-- Rows persist up to their status, and topics are append-only. -/
structure Grows (old new : Shared) : Prop where
  rows : ∀ row ∈ old.db.notifications,
    ∃ status time, stamp status time row ∈ new.db.notifications
  topics : ∃ more, new.topics = old.topics ++ more

namespace Grows

variable {old new : Shared}

theorem of_eq (db : new.db = old.db) (topics : new.topics = old.topics) : Grows old new :=
  ⟨fun row stored => ⟨row.status, row.updatedAt, db ▸ stored⟩, [], by simp [topics]⟩

theorem of_add {row : NotificationRow} {accepted : old.db.AcceptsNotification row}
    (db : new.db = old.db.addNotification row accepted) (topics : new.topics = old.topics) :
    Grows old new := by
  refine ⟨fun other stored => ⟨other.status, other.updatedAt, ?_⟩, [], by simp [topics]⟩
  rw [db]
  exact List.mem_append_left [row] stored

theorem of_stamp {cond : NotificationRow → Bool} {status : NotificationStatus} {time : Time}
    (db : new.db = old.db.stampWhere cond status time) (topics : new.topics = old.topics) :
    Grows old new := by
  refine ⟨fun row stored => ?_, [], by simp [topics]⟩
  by_cases hit : cond row = true
  · refine ⟨status, time, ?_⟩
    rw [db]
    exact Rows.mem_updateWhere.mpr ⟨row, stored, by simp [hit]⟩
  · refine ⟨row.status, row.updatedAt, ?_⟩
    rw [db]
    exact Rows.mem_updateWhere.mpr ⟨row, stored, by simp only [hit]; rfl⟩

theorem of_publish (publication : Publication Message) (sender : Option Nat) :
    Grows old (old.publish publication sender) :=
  ⟨fun row stored => ⟨row.status, row.updatedAt, stored⟩, [⟨publication, sender⟩], rfl⟩

theorem stored (grows : Grows old new) {n : Notification} (kept : Stored old.db n) :
    Stored new.db n := by
  obtain ⟨row, member, copy⟩ := kept
  obtain ⟨status, time, later⟩ := grows.rows row member
  exact ⟨_, later, copy.restamp status time⟩

theorem owned (grows : Grows old new) {id tenantID : UUID} (own : Owned old.db id tenantID) :
    Owned new.db id tenantID := by
  obtain ⟨row, member, facts⟩ := own
  obtain ⟨status, time, later⟩ := grows.rows row member
  exact ⟨_, later, facts⟩

theorem published (grows : Grows old new) {id : UUID} {ch : Channel}
    (sent : Published old id ch) : Published new id ch := by
  obtain ⟨record, member, facts⟩ := sent
  obtain ⟨more, same⟩ := grows.topics
  exact ⟨record, same ▸ List.mem_append_left more member, facts⟩

theorem record (grows : Grows old new) {offset : Nat} {record : Record}
    (at_ : old.topics[offset]? = some record) : new.topics[offset]? = some record := by
  obtain ⟨more, same⟩ := grows.topics
  rw [same, List.getElem?_append_left (List.getElem?_eq_some_iff.mp at_).1]
  exact at_

theorem addressed (grows : Grows old new) {id : UUID} {ch : Channel} {topic : String}
    (known : Addressed old.db id ch topic) : Addressed new.db id ch topic := by
  obtain ⟨row, member, facts⟩ := known
  obtain ⟨status, time, later⟩ := grows.rows row member
  exact ⟨_, later, facts⟩

end Grows

/-! ## What a thread carries -/

/-- The copies of rows a thread holds. -/
def Thread.copies : Thread → List Notification
  | .send _ _ (.schedule n) _ | .send _ _ (.publish n) _ | .send _ _ (.markQueued n) _
  | .send _ _ (.returned (.ok n)) _ => [n]
  | .tick (.enqueue n rest) | .tick (.markQueued n rest) => n :: rest
  | .process _ _ (.markProcessing n) | .process _ _ (.preference n)
  | .process _ _ (.rateLimit n) | .process _ _ (.render n) | .process _ _ (.send n _)
  | .process _ _ (.backoff n _) | .process _ _ (.closing n _) => [n]
  | _ => []

/-- The notification a thread has published and not yet marked queued. -/
def Thread.marking : Thread → Option Notification
  | .send _ _ (.markQueued n) _ | .tick (.markQueued n _) => some n
  | _ => none

structure ThreadOk (sh : Shared) (t : Thread) : Prop where
  copies : ∀ n ∈ t.copies, Stored sh.db n
  marking : ∀ n ∈ t.marking, Published sh n.id n.channel
  message : ∀ offset msg pc, t = .process offset msg pc →
    (∃ record, sh.topics[offset]? = some record ∧ record.publication.value = msg) ∧
    (∀ n ∈ t.copies, n.id = msg.notificationID ∧ Owned sh.db n.id msg.tenantID) ∧ pc.Tidy

theorem ThreadOk.mono {old new : Shared} {t : Thread} (grows : Grows old new)
    (ok : ThreadOk old t) : ThreadOk new t where
  copies n member := grows.stored (ok.copies n member)
  marking n member := grows.published (ok.marking n member)
  message offset msg pc same := by
    obtain ⟨⟨record, at_, value⟩, subject, tidy⟩ := ok.message offset msg pc same
    exact ⟨⟨record, grows.record at_, value⟩,
      fun n member => ⟨(subject n member).1, grows.owned (subject n member).2⟩, tidy⟩

theorem copies_nextItem (rest : List Notification) :
    (Thread.tick (nextItem rest)).copies = rest := by
  cases rest <;> rfl

theorem marking_nextItem (rest : List Notification) :
    (Thread.tick (nextItem rest)).marking = none := by
  cases rest <;> rfl

theorem copies_of_begun {n : Notification} {pc : ProcessPc} (begun : pc.Begun n) (offset : Nat)
    (msg : Message) : (Thread.process offset msg pc).copies = [n] := by
  cases begun <;> rfl

/-! ## The invariant -/

structure Coherent (s : State) : Prop where
  threads : ∀ t ∈ s.threads, ThreadOk s.shared t
  topics : ∀ record ∈ s.shared.topics,
    Addressed s.shared.db record.publication.value.notificationID
      record.publication.value.channel record.publication.topic
  dlq : ∀ d ∈ s.shared.dlq,
    Addressed s.shared.db d.original.notificationID d.original.channel d.originalTopic ∧
    ∃ record ∈ s.shared.topics,
      record.publication.value.notificationID = d.original.notificationID
  statuses : ∀ row ∈ s.shared.db.notifications, row.status ≠ .pending →
    row.id ∈ s.shared.cancelled ∨ Published s.shared row.id row.channel
  cancelled : ∀ id ∈ s.shared.cancelled, ∃ row ∈ s.shared.db.notifications, row.id = id
  settled : ∀ row ∈ s.shared.db.notifications, row.id ∈ s.shared.cancelled → row.status ≠ .pending

theorem coherent_initial (db : Database) : Coherent (initial db) where
  threads := by simp [initial]
  topics := by simp [initial]
  dlq := by simp [initial]
  statuses := by simp [initial, withoutNotifications]
  cancelled := by simp [initial]
  settled := by simp [initial]

section Step

variable {cfg : Config} {i : Nat} {a : Answer} {s : State} {sh sh' : Shared} {t t' : Thread}

theorem Move.grows (move : Move cfg i a sh t sh' t') : Grows sh sh' := by
  cases move with
  | created inserted =>
      obtain ⟨_, row, _, _, accepted, rfl⟩ := create_ok inserted
      exact @Grows.of_add _ _ row accepted rfl rfl
  | published | itemPublished => exact .of_publish _ _
  | queued updated | itemQueued updated | processing updated | settled updated =>
      obtain ⟨_, _, _, _, rfl⟩ := updateStatus_ok updated
      exact .of_stamp rfl rfl
  | working quiet => exact .of_eq quiet.db quiet.topics
  | refused | hit | miss | later | due | unpublished | unmarked | nextRecipient | unlisted | listed
  | itemUnpublished | itemUnmarked | unfetched | fetched | unprocessed => exact .of_eq rfl rfl

theorem published_of_publish (sh : Shared) (publication : Publication Message)
    (sender : Option Nat) {ch : Channel} (topic : publication.topic = topicForChannel ch) :
    Published (sh.publish publication sender) publication.value.notificationID ch :=
  ⟨⟨publication, sender⟩, List.mem_append_right _ (List.mem_singleton_self _), rfl, topic⟩

theorem ThreadOk.of_send {tenantID : UUID} {req : SendRequest} {pc : SendPc}
    {rest : List SendRequest}
    (copies : ∀ n ∈ (Thread.send tenantID req pc rest).copies, Stored sh.db n)
    (marking : ∀ n ∈ (Thread.send tenantID req pc rest).marking, Published sh n.id n.channel) :
    ThreadOk sh (.send tenantID req pc rest) :=
  ⟨copies, marking, fun _ _ _ same => nomatch same⟩

theorem ThreadOk.of_tick {pc : TickPc}
    (copies : ∀ n ∈ (Thread.tick pc).copies, Stored sh.db n)
    (marking : ∀ n ∈ (Thread.tick pc).marking, Published sh n.id n.channel) :
    ThreadOk sh (.tick pc) :=
  ⟨copies, marking, fun _ _ _ same => nomatch same⟩

theorem ThreadOk.of_nextItem {rest : List Notification} (stored : ∀ n ∈ rest, Stored sh.db n) :
    ThreadOk sh (.tick (nextItem rest)) :=
  .of_tick (by rwa [copies_nextItem]) (by simp [marking_nextItem])

theorem ThreadOk.of_process {offset : Nat} {msg : Message} {pc : ProcessPc} {record : Record}
    (at_ : sh.topics[offset]? = some record) (value : record.publication.value = msg)
    (copies : ∀ n ∈ (Thread.process offset msg pc).copies,
      Stored sh.db n ∧ n.id = msg.notificationID ∧ Owned sh.db n.id msg.tenantID)
    (tidy : pc.Tidy) : ThreadOk sh (.process offset msg pc) where
  copies n member := (copies n member).1
  marking n member := by simp [Thread.marking] at member
  message offset' msg' pc' same := by
    obtain ⟨rfl, rfl, rfl⟩ := Thread.process.inj same
    exact ⟨⟨record, at_, value⟩, fun n member => (copies n member).2, tidy⟩

/-- The message of a Process is on a topic. -/
theorem ThreadOk.record {offset : Nat} {msg : Message} {pc : ProcessPc}
    (ok : ThreadOk sh (.process offset msg pc)) :
    ∃ record, sh.topics[offset]? = some record ∧ record.publication.value = msg :=
  (ok.message offset msg pc rfl).1

/-- The status a pipeline is about to write is terminal, and its last. -/
theorem ThreadOk.settles {offset : Nat} {msg : Message} {n : Notification}
    {status : NotificationStatus} {todo : List Closing}
    (ok : ThreadOk sh (.process offset msg (.closing n (.updateStatus status :: todo)))) :
    Terminal status ∧ closingStatuses todo = [] := by
  obtain ⟨_, _, tidy⟩ := ok.message _ _ _ rfl
  simp only [ProcessPc.Tidy, closingStatuses, List.cons.injEq, reduceCtorEq, false_or] at tidy
  obtain ⟨_, terminal, rfl, last⟩ := tidy
  exact ⟨terminal, last⟩

theorem Terminal.ne_pending {status : NotificationStatus} (terminal : Terminal status) :
    status ≠ .pending := by
  rcases terminal with rfl | rfl | rfl <;> decide

/-- A thread in order stays in order. -/
theorem Move.threadOk (move : Move cfg i a sh t sh' t') (before : ThreadOk sh t) :
    ThreadOk sh' t' := by
  have grows := move.grows
  have ok := before.mono grows
  cases move with
  | refused | miss | unpublished | unmarked | nextRecipient =>
      exact .of_send (by simp [Thread.copies]) (by simp [Thread.marking])
  | hit valid found =>
      obtain ⟨_, row, _, _, stored, _, _, rfl⟩ := findExisting_some found
      refine .of_send ?_ (by simp [Thread.marking])
      simpa [Thread.copies] using ⟨row, stored, CopyOf.self row⟩
  | created inserted =>
      obtain ⟨_, row, _, rfl, accepted, rfl⟩ := create_ok inserted
      refine .of_send ?_ (by simp [Thread.marking])
      simpa [Thread.copies] using
        ⟨row, List.mem_append_right _ (List.mem_singleton_self row), CopyOf.self row⟩
  | later | due => exact .of_send ok.copies (by simp [Thread.marking])
  | published =>
      refine .of_send ok.copies ?_
      rintro n ⟨rfl⟩
      exact published_of_publish _ _ _ rfl
  | queued updated =>
      obtain ⟨row, stored, _, rfl, rfl⟩ := updateStatus_ok updated
      refine .of_send ?_ (by simp [Thread.marking])
      simpa [Thread.copies] using grows.stored ⟨row, stored, CopyOf.stamped _ _ row⟩
  | unlisted => exact .of_tick (by simp [Thread.copies]) (by simp [Thread.marking])
  | listed found =>
      obtain ⟨rows, rfl, listed, _⟩ := listDueScheduled_ok found
      refine .of_nextItem ?_
      intro n member
      obtain ⟨row, chosen, rfl⟩ := List.mem_map.mp member
      exact ⟨row, (listed row chosen).1, CopyOf.self row⟩
  | itemUnpublished | itemUnmarked | itemQueued =>
      exact .of_nextItem fun n member => ok.copies n (List.mem_cons_of_mem _ member)
  | itemPublished =>
      refine .of_tick ok.copies ?_
      rintro n ⟨rfl⟩
      exact published_of_publish _ _ _ rfl
  | unfetched | unprocessed =>
      obtain ⟨record, at_, value⟩ := ok.record
      exact .of_process at_ value (by simp [Thread.copies]) trivial
  | fetched found =>
      obtain ⟨record, at_, value⟩ := ok.record
      obtain ⟨row, stored, same, owner, rfl⟩ := getByID_ok found
      refine .of_process at_ value ?_ trivial
      simpa [Thread.copies] using ⟨⟨row, stored, CopyOf.self row⟩, same, row, stored, rfl, owner⟩
  | processing updated =>
      obtain ⟨⟨record, at_, value⟩, same, _⟩ := ok.message _ _ _ rfl
      exact .of_process at_ value (fun n member => ⟨ok.copies n member, same n member⟩) trivial
  | working quiet begun onward unsettled tidy =>
      obtain ⟨⟨record, at_, value⟩, same, before⟩ := ok.message _ _ _ rfl
      refine .of_process at_ value ?_ (tidy before)
      intro n member
      rcases onward with onward | ⟨e, rfl⟩
      · rw [copies_of_begun onward] at member
        rw [← copies_of_begun begun] at member
        exact ⟨ok.copies n member, same n member⟩
      · simp [Thread.copies] at member
  | settled updated =>
      obtain ⟨⟨record, at_, value⟩, same, _⟩ := ok.message _ _ _ rfl
      exact .of_process at_ value (fun n member => ⟨ok.copies n member, same n member⟩)
        (.inl ok.settles.2)

theorem Coherent.threads_set (inv : Coherent s) (grows : Grows s.shared sh)
    (ok : ThreadOk sh t') : ∀ x ∈ s.threads.set i t', ThreadOk sh x := by
  intro x member
  rcases Threads.mem_set member with rfl | old
  · exact ok
  · exact (inv.threads x old).mono grows

theorem Coherent.threads_append (inv : Coherent s) (grows : Grows s.shared sh)
    (ok : ThreadOk sh t') : ∀ x ∈ s.threads ++ [t'], ThreadOk sh x := by
  intro x member
  rcases List.mem_append.mp member with old | new
  · exact (inv.threads x old).mono grows
  · obtain rfl := List.mem_singleton.mp new
    exact ok

/-! The four kinds of step: nothing stored changes, a row is inserted, a message is
appended, a status is written. -/

theorem Coherent.keep {threads : List Thread} (inv : Coherent s) (db : sh.db = s.shared.db)
    (topics : sh.topics = s.shared.topics) (cancelled : sh.cancelled = s.shared.cancelled)
    (dlq : ∀ d ∈ sh.dlq, d ∈ s.shared.dlq ∨
      ∃ record ∈ s.shared.topics, d.original = record.publication.value ∧
        d.originalTopic = topicForChannel record.publication.value.channel)
    (ok : ∀ x ∈ threads, ThreadOk sh x) : Coherent ⟨sh, threads⟩ where
  threads := ok
  topics := by
    rw [topics, db]
    exact inv.topics
  dlq := by
    intro d member
    simp only [topics, db]
    rcases dlq d member with old | ⟨record, stored, value, topic⟩
    · exact inv.dlq d old
    · obtain ⟨row, rowMem, id, ch, _⟩ := inv.topics record stored
      rw [value, topic]
      exact ⟨⟨row, rowMem, id, ch, by rw [ch]⟩, record, stored, rfl⟩
  statuses := by
    simp only [Published, topics, db, cancelled]
    exact inv.statuses
  cancelled := by
    rw [cancelled, db]
    exact inv.cancelled
  settled := by
    rw [cancelled, db]
    exact inv.settled

theorem Coherent.insert {threads : List Thread} {row : NotificationRow} (inv : Coherent s)
    (accepted : s.shared.db.AcceptsNotification row) (pending : row.status = .pending)
    (ok : ∀ x ∈ threads,
      ThreadOk { s.shared with db := s.shared.db.addNotification row accepted } x) :
    Coherent ⟨{ s.shared with db := s.shared.db.addNotification row accepted }, threads⟩ := by
  have grows : Grows s.shared { s.shared with db := s.shared.db.addNotification row accepted } :=
    @Grows.of_add _ _ row accepted rfl rfl
  have split : ∀ r ∈ s.shared.db.notifications ++ [row],
      r ∈ s.shared.db.notifications ∨ r = row := by simp
  refine ⟨ok, fun record stored => grows.addressed (inv.topics record stored), ?_, ?_, ?_, ?_⟩
  · intro d member
    exact ⟨grows.addressed (inv.dlq d member).1, (inv.dlq d member).2⟩
  · intro r member moved
    rcases split r member with old | rfl
    · exact inv.statuses r old moved
    · exact absurd pending moved
  · intro id member
    obtain ⟨r, stored, same⟩ := inv.cancelled id member
    exact ⟨r, List.mem_append_left _ stored, same⟩
  · intro r member dropped
    rcases split r member with old | rfl
    · exact inv.settled r old dropped
    · obtain ⟨other, stored, same⟩ := inv.cancelled r.id dropped
      exact absurd (List.mem_map.mpr ⟨other, stored, same⟩) accepted.1

theorem Coherent.append {threads : List Thread} {publication : Publication Message}
    {sender : Option Nat} (inv : Coherent s)
    (known : Addressed s.shared.db publication.value.notificationID publication.value.channel
      publication.topic)
    (ok : ∀ x ∈ threads, ThreadOk (s.shared.publish publication sender) x) :
    Coherent ⟨s.shared.publish publication sender, threads⟩ := by
  have grows : Grows s.shared (s.shared.publish publication sender) := .of_publish _ _
  refine ⟨ok, ?_, ?_, ?_, inv.cancelled, inv.settled⟩
  · intro record member
    rcases List.mem_append.mp member with old | new
    · exact inv.topics record old
    · obtain rfl := List.mem_singleton.mp new
      exact known
  · intro d member
    obtain ⟨address, record, stored, same⟩ := inv.dlq d member
    exact ⟨address, record, List.mem_append_left _ stored, same⟩
  · intro row member moved
    exact (inv.statuses row member moved).imp_right grows.published

theorem Coherent.stamp {threads : List Thread} {cond : NotificationRow → Bool}
    {status : NotificationStatus} {time : Time} {cancelled : List UUID} (inv : Coherent s)
    (moves : status ≠ .pending)
    (extends_ : ∀ id ∈ cancelled, id ∈ s.shared.cancelled ∨
      ∃ row ∈ s.shared.db.notifications, row.id = id ∧ cond row = true)
    (kept : ∀ id ∈ s.shared.cancelled, id ∈ cancelled)
    (reason : ∀ row ∈ s.shared.db.notifications, cond row = true →
      row.id ∈ cancelled ∨ Published s.shared row.id row.channel)
    (ok : ∀ x ∈ threads, ThreadOk { s.shared with
      db := s.shared.db.stampWhere cond status time, cancelled := cancelled } x) :
    Coherent ⟨{ s.shared with
      db := s.shared.db.stampWhere cond status time, cancelled := cancelled }, threads⟩ := by
  have grows : Grows s.shared { s.shared with
      db := s.shared.db.stampWhere cond status time, cancelled := cancelled } := .of_stamp rfl rfl
  refine ⟨ok, fun record stored => grows.addressed (inv.topics record stored), ?_, ?_, ?_, ?_⟩
  · intro d member
    exact ⟨grows.addressed (inv.dlq d member).1, (inv.dlq d member).2⟩
  · intro row member moved
    obtain ⟨old, stored, rfl⟩ := Rows.mem_updateWhere.mp member
    by_cases hit : cond old = true
    · simp only [hit, if_true]
      exact reason old stored hit
    · simp only [hit, Bool.false_eq_true, if_false] at moved ⊢
      exact (inv.statuses old stored moved).imp_left (kept old.id)
  · intro id member
    have known : ∃ row ∈ s.shared.db.notifications, row.id = id := by
      rcases extends_ id member with old | ⟨row, stored, same, _⟩
      · exact inv.cancelled id old
      · exact ⟨row, stored, same⟩
    obtain ⟨row, stored, rfl⟩ := known
    obtain ⟨status', time', later⟩ := grows.rows row stored
    exact ⟨_, later, rfl⟩
  · intro row member dropped
    obtain ⟨old, stored, rfl⟩ := Rows.mem_updateWhere.mp member
    by_cases hit : cond old = true
    · simp only [hit, if_true]
      exact moves
    · simp only [hit, Bool.false_eq_true, if_false] at dropped ⊢
      rcases extends_ old.id dropped with before | ⟨other, otherMem, same, otherHit⟩
      · exact inv.settled old stored before
      · obtain rfl := notification_ext otherMem stored same
        exact absurd otherHit hit

/-- A status written by id, for a notification that has been published. -/
theorem Coherent.mark {threads : List Thread} {conn : Conn} {id : UUID}
    {status : NotificationStatus} {time : Time} {result : Notification} {db : Database}
    (inv : Coherent s) (moves : status ≠ .pending)
    (updated : updateStatus conn s.shared.db id status time = .ok (result, db))
    (sent : ∀ row ∈ s.shared.db.notifications, row.id = id → Published s.shared row.id row.channel)
    (ok : ∀ x ∈ threads, ThreadOk { s.shared with db := db } x) :
    Coherent ⟨{ s.shared with db := db }, threads⟩ := by
  obtain ⟨_, _, _, _, rfl⟩ := updateStatus_ok updated
  refine inv.stamp moves (fun id member => .inl member) (fun id member => member) ?_ ok
  intro row stored hit
  exact .inr (sent row stored (beq_iff_eq.mp hit))

theorem Stored.published {n : Notification} (stored : Stored sh.db n)
    (sent : Published sh n.id n.channel) :
    ∀ row ∈ sh.db.notifications, row.id = n.id → Published sh row.id row.channel := by
  intro row member same
  obtain ⟨other, otherMem, copy⟩ := stored
  obtain rfl := notification_ext otherMem member (copy.id.symm.trans same.symm)
  rwa [← copy.id, ← copy.channel]

theorem Stored.addressed {db : Database} {n : Notification} (stored : Stored db n) :
    Addressed db n.id n.channel (topicForChannel n.channel) := by
  obtain ⟨row, member, copy⟩ := stored
  exact ⟨row, member, copy.id, copy.channel, by rw [copy.channel]⟩

/-- Messages carry the channel of their row, so a consumed message was published to
    the topic of its notification's channel. -/
theorem Coherent.consumed (inv : Coherent s) {record : Record} (member : record ∈ s.shared.topics) :
    ∀ row ∈ s.shared.db.notifications, row.id = record.publication.value.notificationID →
      Published s.shared row.id row.channel := by
  intro row stored same
  obtain ⟨other, otherMem, id, _, topic⟩ := inv.topics record member
  obtain rfl := notification_ext otherMem stored (id.symm.trans same.symm)
  exact ⟨record, member, id, topic⟩

theorem Coherent.moved (inv : Coherent s) (running : s.threads[i]? = some t)
    (move : Move cfg i a s.shared t sh t') : Coherent ⟨sh, s.threads.set i t'⟩ := by
  have before := inv.threads t (List.mem_of_getElem? running)
  have ok := inv.threads_set (i := i) move.grows (move.threadOk before)
  cases move with
  | created inserted =>
      obtain ⟨_, row, fits, _, accepted, rfl⟩ := create_ok inserted
      obtain ⟨_, _, pending, _⟩ := row_of_insertParams fits
      exact inv.insert accepted pending ok
  | published => exact inv.append (before.copies _ (List.mem_singleton_self _)).addressed ok
  | itemPublished => exact inv.append (before.copies _ List.mem_cons_self).addressed ok
  | queued updated =>
      exact inv.mark (by decide) updated
        ((before.copies _ (List.mem_singleton_self _)).published (before.marking _ rfl)) ok
  | itemQueued updated =>
      exact inv.mark (by decide) updated
        ((before.copies _ List.mem_cons_self).published (before.marking _ rfl)) ok
  | processing updated =>
      obtain ⟨⟨record, at_, value⟩, same, _⟩ := before.message _ _ _ rfl
      refine inv.mark (by decide) updated ?_ ok
      intro row stored hit
      refine inv.consumed (List.mem_of_getElem? at_) row stored ?_
      rw [hit, value]
      exact (same _ (List.mem_singleton_self _)).1
  | settled updated =>
      obtain ⟨⟨record, at_, value⟩, same, _⟩ := before.message _ _ _ rfl
      refine inv.mark before.settles.1.ne_pending updated ?_ ok
      intro row stored hit
      refine inv.consumed (List.mem_of_getElem? at_) row stored ?_
      rw [hit, value]
      exact (same _ (List.mem_singleton_self _)).1
  | working quiet =>
      obtain ⟨record, at_, value⟩ := before.record
      refine inv.keep quiet.db quiet.topics quiet.cancelled ?_ ok
      intro d member
      rcases quiet.dlq with same | ⟨entry, same, original, topic⟩
      · exact .inl (same ▸ member)
      · rw [same, List.mem_append, List.mem_singleton] at member
        rcases member with old | rfl
        · exact .inl old
        · refine .inr ⟨record, List.mem_of_getElem? at_, ?_, ?_⟩
          · rw [original, value]
          · rw [topic, value]
  | refused | hit | miss | later | due | unpublished | unmarked | nextRecipient | unlisted | listed
  | itemUnpublished | itemUnmarked | unfetched | fetched | unprocessed =>
      exact inv.keep rfl rfl rfl (fun d member => .inl member) ok

theorem coherent_step {s' : State} {label : Label} (inv : Coherent s)
    (taken : step cfg s label = some s') : Coherent s' := by
  cases step_steps taken with
  | stay => exact inv
  | start outside fresh =>
      refine inv.keep rfl rfl rfl (fun d member => .inl member)
        (inv.threads_append (.of_eq rfl rfl) ?_)
      cases fresh with
      | call | bulk => exact .of_send (by simp [Thread.copies]) (by simp [Thread.marking])
      | tick => exact .of_tick (by simp [Thread.copies]) (by simp [Thread.marking])
  | deliver stored =>
      exact inv.keep rfl rfl rfl (fun d member => .inl member)
        (inv.threads_append (.of_eq rfl rfl)
          (.of_process stored rfl (by simp [Thread.copies]) trivial))
  | cancelled updated =>
      obtain ⟨row, stored, hit, _, rfl⟩ := cancel_ok updated
      refine inv.stamp (by decide) ?_ (fun id member => List.mem_append_left _ member) ?_ ?_
      · intro id member
        rcases List.mem_append.mp member with old | new
        · exact .inl old
        · obtain rfl := List.mem_singleton.mp new
          exact .inr ⟨row, stored, id_of_cancellable hit, hit⟩
      · intro other _ chosen
        exact .inl (List.mem_append_right _ (List.mem_singleton.mpr (id_of_cancellable chosen)))
      · exact fun x member => (inv.threads x member).mono (.of_stamp rfl rfl)
  | replayed stored =>
      exact inv.append (inv.dlq _ (List.mem_of_getElem? stored)).1
        fun x member => (inv.threads x member).mono (.of_publish _ _)
  | moved running move => exact inv.moved running move

theorem coherent_run {db : Database} {labels : List Label}
    (finished : run cfg (initial db) labels = some s) : Coherent s :=
  Transition.run_invariant (fun _ _ _ inv taken => coherent_step inv taken)
    (coherent_initial db) finished

end Step

end NotifyHub.Lifecycle
