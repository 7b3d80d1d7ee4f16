import NotifyHub.Lifecycle.Hands

/-! # Idempotent sends

The lookup of the key and the insert are separate calls, so any number of Sends
may get past the lookup together. The UNIQUE constraint lets one insert through;
only the Send behind it goes on to publish, and whoever succeeds later has found
that one row. Other tenants' rows with the same key make the insert fail, which
does not hurt here.
-/

namespace NotifyHub.Lifecycle

open Database NotificationRepository
open NotificationService hiding getByID list cancel

/-- A Send of the tenant that carries the key. -/
def Thread.keyed (tenantID : UUID) (key : String) : Thread → Bool
  | .send owner req _ _ => owner == tenantID && req.idempotencyKey == some key
  | .tick _ | .process _ _ _ => false

/-- The rows with the key, as the column stores it. -/
def keyRows (db : Database) (key : String) : List NotificationRow :=
  match varchar 255 key with
  | none => []
  | some stored => db.notifications.filter (fun row => row.idempotencyKey == some stored)

/-- The message was published by a Send of the tenant that carries the key. -/
def sentWithKey (threads : List Thread) (tenantID : UUID) (key : String) (record : Record) : Bool :=
  record.sender.any fun i => (threads[i]?).any (·.keyed tenantID key)

def State.keyMessages (s : State) (tenantID : UUID) (key : String) : List Record :=
  s.shared.topics.filter (sentWithKey s.threads tenantID key)

/-- The id a Send has returned with success. -/
def Thread.success : Thread → Option UUID
  | .send _ _ (.returned (.ok n)) _ => some n.id
  | _ => none

/-- The row of the key has this id. -/
def KeyRow (db : Database) (key : String) (id : UUID) : Prop :=
  ∃ row ∈ keyRows db key, row.id = id

theorem mem_keyRows {db : Database} {key stored : String} {row : NotificationRow}
    (fits : varchar 255 key = some stored) :
    row ∈ keyRows db key ↔ row ∈ db.notifications ∧ row.idempotencyKey = some stored := by
  simp [keyRows, fits]

theorem stored_of_keyRows {db : Database} {key : String} {row : NotificationRow}
    (member : row ∈ keyRows db key) :
    ∃ stored, varchar 255 key = some stored ∧ row ∈ db.notifications ∧
      row.idempotencyKey = some stored := by
  cases fits : varchar 255 key with
  | none => simp [keyRows, fits] at member
  | some stored => exact ⟨stored, rfl, (mem_keyRows fits).mp member⟩

theorem length_keyRows_le (db : Database) (key : String) : (keyRows db key).length ≤ 1 := by
  unfold keyRows
  cases varchar 255 key with
  | none => simp
  | some stored => exact db.notifications_idempotency_key_key.length_filter_le stored

theorem KeyRow.unique {db : Database} {key : String} {left right : UUID}
    (one : KeyRow db key left) (other : KeyRow db key right) : left = right := by
  obtain ⟨row, member, rfl⟩ := one
  obtain ⟨row', member', rfl⟩ := other
  have few := length_keyRows_le db key
  match rows : keyRows db key with
  | [] => simp [rows] at member
  | [only] =>
      rw [rows, List.mem_singleton] at member member'
      rw [member, member']
  | _ :: _ :: _ => simp [rows] at few

theorem Grows.keyRow {old new : Shared} (grows : Grows old new) {key : String} {id : UUID}
    (kept : KeyRow old.db key id) : KeyRow new.db key id := by
  obtain ⟨row, member, rfl⟩ := kept
  obtain ⟨stored, fits, rowMem, same⟩ := stored_of_keyRows member
  obtain ⟨status, time, later⟩ := grows.rows row rowMem
  exact ⟨_, (mem_keyRows fits).mpr ⟨later, same⟩, rfl⟩

/-- The requests that follow in a SendBulk, and the one before them, have no key. -/
def Thread.Plain : Thread → Prop
  | .send _ req _ rest => (∀ r ∈ rest, r.idempotencyKey = none) ∧ (rest ≠ [] → req.idempotencyKey = none)
  | _ => True

structure Keyed (tenantID : UUID) (key : String) (s : State) : Prop where
  widths : ∀ row ∈ s.shared.db.notifications, ∀ k ∈ row.idempotencyKey, varchar 255 k = some k
  plain : ∀ t ∈ s.threads, t.Plain
  senders : ∀ record ∈ s.shared.topics, ∀ i ∈ record.sender, i < s.threads.length
  rows : ∀ t ∈ s.threads, t.keyed tenantID key = true → ∀ n ∈ t.copies, KeyRow s.shared.db key n.id
  alone : Threads.Exclusive (fun t (_ : Unit) => t.keyed tenantID key = true ∧ t.sending ≠ none)
    s.threads
  sent : ∀ record ∈ s.keyMessages tenantID key, (∃ id, KeyRow s.shared.db key id) ∧
    ∀ t ∈ s.threads, t.keyed tenantID key = true → t.unpublished = []
  once : (s.keyMessages tenantID key).length ≤ 1

theorem keyed_initial (tenantID : UUID) (key : String) (db : Database) :
    Keyed tenantID key (initial db) where
  widths := by simp [initial, withoutNotifications]
  plain := by simp [initial]
  senders := by simp [initial]
  rows := by simp [initial]
  alone := .empty
  sent := by simp [initial, State.keyMessages]
  once := by simp [initial, State.keyMessages]

section Step

variable {cfg : Config} {s : State} {i : Nat} {a : Answer} {sh sh' : Shared} {t t' : Thread}
  {tenantID : UUID} {key : String}

theorem Move.plain (move : Move cfg i a sh t sh' t') (before : t.Plain) : t'.Plain := by
  cases move with
  | nextRecipient =>
      have later := before.1
      refine ⟨fun r member => later r (List.mem_cons_of_mem _ member), fun _ => ?_⟩
      exact later _ List.mem_cons_self
  | refused | hit | miss | created | later | due | unpublished | published | unmarked | queued =>
      exact before
  | unlisted | listed | itemUnpublished | itemPublished | itemUnmarked | itemQueued | unfetched
  | fetched | unprocessed | processing | working | settled => trivial

/-- A thread keeps its key. -/
theorem Move.keyed (tenantID : UUID) (key : String) (move : Move cfg i a sh t sh' t')
    (before : t.Plain) :
    t'.keyed tenantID key = t.keyed tenantID key := by
  cases move with
  | nextRecipient =>
      have first := before.2 (by simp)
      have next := before.1 _ List.mem_cons_self
      simp [Thread.keyed, first, next]
  | refused | hit | miss | created | later | due | unpublished | published | unmarked | queued
  | unlisted | listed | itemUnpublished | itemPublished | itemUnmarked | itemQueued | unfetched
  | fetched | unprocessed | processing | working | settled => rfl

theorem stored_key_of_keyed {db : Database} {row : NotificationRow} (inserts : t.Inserts a db row)
    (mine : t.keyed tenantID key = true) :
    ∃ stored, varchar 255 key = some stored ∧ row.idempotencyKey = some stored := by
  obtain ⟨owner, req, rest, rfl, fits⟩ := inserts.caller
  simp only [Thread.keyed, Bool.and_eq_true, beq_iff_eq] at mine
  obtain ⟨_, _, _, _, _, _, width⟩ := row_of_insertParams fits
  rw [mine.2] at width
  obtain ⟨stored, fits', same⟩ := Option.map_eq_some_iff.mp width
  exact ⟨stored, fits', same.symm⟩

/-- An insert with the key goes through only if the key has no row yet. -/
theorem no_keyRow_of_inserts {row : NotificationRow} (inserts : t.Inserts a sh.db row)
    (mine : t.keyed tenantID key = true) (id : UUID) : ¬ KeyRow sh.db key id := by
  obtain ⟨stored, fits, same⟩ := stored_key_of_keyed inserts mine
  rintro ⟨other, member, _⟩
  obtain ⟨_, fits', otherMem, same'⟩ := stored_of_keyRows member
  obtain rfl := Option.some.inj (fits'.symm.trans fits)
  exact inserts.accepted.2.1 _ same (List.mem_filterMap.mpr ⟨other, otherMem, same'⟩)

theorem Keyed.widths_moved (keyed : Keyed tenantID key s) (move : Move cfg i a s.shared t sh t') :
    ∀ row ∈ sh.db.notifications, ∀ k ∈ row.idempotencyKey, varchar 255 k = some k := by
  intro row stored k given
  rcases move.row_origin stored with old | ⟨inserts, _⟩ | ⟨n, status, old, _, _, oldMem, _, rfl⟩
  · exact keyed.widths row old k given
  · obtain ⟨owner, req, rest, _, fits⟩ := inserts.caller
    obtain ⟨_, _, _, _, _, _, width⟩ := row_of_insertParams fits
    rw [Option.mem_def.mp given] at width
    cases requested : req.idempotencyKey with
    | none => simp [requested, varcharOpt] at width
    | some k' =>
        simp only [requested, varcharOpt, Option.map_eq_some_iff, Option.some.injEq] at width
        obtain ⟨_, fits', rfl⟩ := width
        exact varchar_stored fits'
  · exact keyed.widths old oldMem k given

/-- What a keyed Send has in hand, or returned, is the row of the key. -/
theorem Keyed.rows_moved (keyed : Keyed tenantID key s) (running : s.threads[i]? = some t)
    (move : Move cfg i a s.shared t sh t') (mine : t'.keyed tenantID key = true) :
    ∀ n ∈ t'.copies, KeyRow sh.db key n.id := by
  intro n member
  have old := keyed.rows t (List.mem_of_getElem? running)
  rw [move.keyed tenantID key (keyed.plain t (List.mem_of_getElem? running))] at mine
  have grows := move.grows
  cases move with
  | hit valid found =>
      obtain ⟨k, row, given, _, stored, same, _, rfl⟩ := findExisting_some found
      obtain rfl := List.mem_singleton.mp member
      simp only [Thread.keyed, Bool.and_eq_true, beq_iff_eq, given, Option.some.injEq] at mine
      obtain ⟨_, rfl⟩ := mine
      exact ⟨row, (mem_keyRows (keyed.widths row stored _ same)).mpr ⟨stored, same⟩, rfl⟩
  | created inserted =>
      obtain ⟨_, row, fits, rfl, accepted, rfl⟩ := create_ok inserted
      obtain rfl := List.mem_singleton.mp member
      obtain ⟨stored, fits', same⟩ :=
        stored_key_of_keyed ⟨⟨_, _, _, rfl, fits⟩, accepted⟩ mine
      exact ⟨row, (mem_keyRows fits').mpr
        ⟨List.mem_append_right _ (List.mem_singleton_self _), same⟩, rfl⟩
  | later | due | published => exact grows.keyRow (old mine n member)
  | queued updated =>
      obtain ⟨row, _, same, rfl, _⟩ := updateStatus_ok updated
      obtain rfl := List.mem_singleton.mp member
      have kept := grows.keyRow (old mine _ (List.mem_singleton_self _))
      rwa [← same] at kept
  | refused | miss | unpublished | unmarked | nextRecipient => simp [Thread.copies] at member
  | unlisted | listed | itemUnpublished | itemPublished | itemUnmarked | itemQueued | unfetched
  | fetched | unprocessed | processing | working | settled => simp [Thread.keyed] at mine

theorem sending_sub_copies {n : Notification} (held : n ∈ t.sending) : n ∈ t.copies := by
  unfold Thread.sending at held
  split at held
  all_goals first
    | (obtain rfl := Option.some.inj held; exact List.mem_singleton_self _)
    | simp at held

/-- A Send gets to work on a row by inserting it. -/
theorem Move.sending_origin (move : Move cfg i a sh t sh' t') (busy : t'.sending ≠ none) :
    t.sending ≠ none ∨ ∃ row, t.Inserts a sh.db row := by
  cases move with
  | created inserted =>
      obtain ⟨_, row, fits, _, accepted, _⟩ := create_ok inserted
      exact .inr ⟨row, ⟨_, _, _, rfl, fits⟩, accepted⟩
  | due | published => exact .inl nofun
  | refused | hit | miss | later | unpublished | unmarked | queued | nextRecipient | unlisted
  | listed | itemUnpublished | itemPublished | itemUnmarked | itemQueued | unfetched | fetched
  | unprocessed | processing | working | settled => exact absurd rfl busy

theorem Keyed.alone_moved (keyed : Keyed tenantID key s) (running : s.threads[i]? = some t)
    (move : Move cfg i a s.shared t sh t') :
    Threads.Exclusive (fun t (_ : Unit) => t.keyed tenantID key = true ∧ t.sending ≠ none)
      (s.threads.set i t') := by
  refine keyed.alone.set running ?_
  rintro _ ⟨mine, busy⟩
  rw [move.keyed tenantID key (keyed.plain t (List.mem_of_getElem? running))] at mine
  rcases move.sending_origin busy with before | ⟨row, inserts⟩
  · exact .inl ⟨mine, before⟩
  · right
    rintro u member ⟨mine', busy'⟩
    obtain ⟨n, held⟩ := Option.ne_none_iff_exists'.mp busy'
    exact no_keyRow_of_inserts inserts mine n.id
      (keyed.rows u member mine' n (sending_sub_copies held))

theorem Keyed.sentWithKey_moved (keyed : Keyed tenantID key s) (running : s.threads[i]? = some t)
    (move : Move cfg i a s.shared t sh t') (record : Record) :
    sentWithKey (s.threads.set i t') tenantID key record =
      sentWithKey s.threads tenantID key record := by
  have kept := move.keyed tenantID key
    (keyed.plain t (List.mem_of_getElem? running))
  unfold sentWithKey
  cases record.sender with
  | none => rfl
  | some j =>
      simp only [Option.any_some]
      by_cases self : j = i
      · subst self
        rw [Threads.set_self running, running, Option.any_some, Option.any_some, kept]
      · rw [List.getElem?_set_ne (Ne.symm self)]

/-- A step adds to the messages of the key only if its Send publishes. -/
theorem Keyed.messages_moved (keyed : Keyed tenantID key s) (running : s.threads[i]? = some t)
    (move : Move cfg i a s.shared t sh t') :
    State.keyMessages ⟨sh, s.threads.set i t'⟩ tenantID key = s.keyMessages tenantID key ∨
      t.keyed tenantID key = true ∧ (∃ n, n ∈ t.publishing ∧ n ∈ t'.marking) ∧
        ∃ record, State.keyMessages ⟨sh, s.threads.set i t'⟩ tenantID key =
          s.keyMessages tenantID key ++ [record] := by
  have same : sentWithKey (s.threads.set i t') tenantID key =
      sentWithKey s.threads tenantID key := funext (keyed.sentWithKey_moved running move)
  simp only [State.keyMessages, same]
  rcases move.topics_cases with topics | ⟨n, publication, before, after, _, _, rfl⟩
  · exact .inl (by rw [topics])
  · have new : sentWithKey s.threads tenantID key ⟨publication, some i⟩ =
        t.keyed tenantID key := by
      simp [sentWithKey, running]
    simp only [Shared.publish, List.filter_append, List.filter_singleton, new]
    cases mine : t.keyed tenantID key with
    | false => exact .inl (by simp)
    | true => exact .inr ⟨rfl, ⟨n, before, after⟩, ⟨publication, some i⟩, by simp⟩

theorem sending_of_unpublished (mine : t.keyed tenantID key = true) (left : t.unpublished ≠ []) :
    t.sending ≠ none := by
  cases t with
  | send owner req pc rest =>
      cases pc <;> simp_all [Thread.unpublished, Thread.sending]
  | tick | process => simp [Thread.keyed] at mine

theorem unpublished_of_marking {n : Notification} (mine : t.keyed tenantID key = true)
    (marking : n ∈ t.marking) : t.unpublished = [] := by
  cases t with
  | send owner req pc rest =>
      cases pc <;> simp_all [Thread.unpublished, Thread.marking]
  | tick | process => simp [Thread.keyed] at mine

/-- Once the key has a row, no Send with the key gets to publish anew. -/
theorem Move.unpublished_keyed (move : Move cfg i a sh t sh' t') {id : UUID}
    (row : KeyRow sh.db key id) (mine : t.keyed tenantID key = true) (done : t.unpublished = []) : t'.unpublished = [] := by
  rw [List.eq_nil_iff_forall_not_mem]
  intro n left
  rcases move.unpublished_origin left with old | ⟨_, inserts, _⟩ | ⟨lists, _⟩
  · simp [done] at old
  · exact no_keyRow_of_inserts inserts mine id row
  · cases t with
    | tick => simp [Thread.keyed] at mine
    | send | process => simp [Thread.lists] at lists

theorem Keyed.sent_moved (keyed : Keyed tenantID key s) (running : s.threads[i]? = some t)
    (move : Move cfg i a s.shared t sh t') :
    ∀ record ∈ State.keyMessages ⟨sh, s.threads.set i t'⟩ tenantID key,
      (∃ id, KeyRow sh.db key id) ∧
      ∀ u ∈ s.threads.set i t', u.keyed tenantID key = true → u.unpublished = [] := by
  intro record recorded
  have member := List.mem_of_getElem? running
  have kept := move.keyed tenantID key (keyed.plain t member)
  rcases keyed.messages_moved running move with same | ⟨mine, ⟨n, before, after⟩, _, _⟩
  · obtain ⟨⟨id, row⟩, done⟩ := keyed.sent record (same ▸ recorded)
    refine ⟨⟨id, move.grows.keyRow row⟩, fun u thread mine => ?_⟩
    rcases Threads.mem_set thread with rfl | old
    · rw [kept] at mine
      exact move.unpublished_keyed row mine (done t member mine)
    · exact done u old mine
  · have busy := publishing_sub_unpublished before
    have row := keyed.rows t member mine n
      (active_sub_copies (held_sub_active (unpublished_sub_held busy)))
    refine ⟨⟨n.id, move.grows.keyRow row⟩, fun u thread mine' => ?_⟩
    obtain ⟨j, at_⟩ := List.mem_iff_getElem?.mp thread
    rcases Threads.at_set running at_ with ⟨_, rfl⟩ | ⟨other, old⟩
    · exact unpublished_of_marking mine' after
    · -- another keyed Send with a row in hand would be a second inserter
      by_contra left
      exact other (keyed.alone j i u t () old running ⟨mine', sending_of_unpublished mine' left⟩
        ⟨mine, sending_of_unpublished mine (List.ne_nil_of_mem busy)⟩)

theorem Keyed.once_moved (keyed : Keyed tenantID key s) (running : s.threads[i]? = some t)
    (move : Move cfg i a s.shared t sh t') :
    (State.keyMessages ⟨sh, s.threads.set i t'⟩ tenantID key).length ≤ 1 := by
  rcases keyed.messages_moved running move with same | ⟨mine, ⟨n, before, _⟩, record, more⟩
  · rw [same]
    exact keyed.once
  · have none_ : s.keyMessages tenantID key = [] := by
      rw [List.eq_nil_iff_forall_not_mem]
      intro earlier recorded
      have done := (keyed.sent earlier recorded).2 t (List.mem_of_getElem? running) mine
      simpa [done] using publishing_sub_unpublished before
    simp [more, none_]

theorem Keyed.moved (keyed : Keyed tenantID key s) (running : s.threads[i]? = some t)
    (move : Move cfg i a s.shared t sh t') : Keyed tenantID key ⟨sh, s.threads.set i t'⟩ where
  widths := keyed.widths_moved move
  plain := by
    intro u thread
    rcases Threads.mem_set thread with rfl | old
    · exact move.plain (keyed.plain t (List.mem_of_getElem? running))
    · exact keyed.plain u old
  senders := by
    intro record recorded j sender
    rw [List.length_set]
    rcases move.topics_cases with same | ⟨n, publication, _, _, _, _, rfl⟩
    · exact keyed.senders record (same ▸ recorded) j sender
    · rcases List.mem_append.mp recorded with old | new
      · exact keyed.senders record old j sender
      · obtain rfl := List.mem_singleton.mp new
        obtain rfl := Option.some.inj sender
        exact (List.getElem?_eq_some_iff.mp running).1
  rows := by
    intro u thread mine
    rcases Threads.mem_set thread with rfl | old
    · exact keyed.rows_moved running move mine
    · exact fun n member => move.grows.keyRow (keyed.rows u old mine n member)
  alone := keyed.alone_moved running move
  sent := keyed.sent_moved running move
  once := keyed.once_moved running move

/-- A new thread holds nothing yet, and no message is its own. -/
theorem Keyed.append (keyed : Keyed tenantID key s) (db : sh.db = s.shared.db)
    (topics : sh.topics = s.shared.topics) (plain : t.Plain) (copies : t.copies = [])
    (sending : t.sending = none) (unpublished : t.unpublished = []) :
    Keyed tenantID key ⟨sh, s.threads ++ [t]⟩ := by
  have split : ∀ u ∈ s.threads ++ [t], u ∈ s.threads ∨ u = t := by simp
  have messages : State.keyMessages ⟨sh, s.threads ++ [t]⟩ tenantID key =
      s.keyMessages tenantID key := by
    simp only [State.keyMessages, topics]
    apply List.filter_congr
    intro record recorded
    unfold sentWithKey
    cases sender : record.sender with
    | none => rfl
    | some j =>
        simp only [Option.any_some]
        rw [List.getElem?_append_left (keyed.senders record recorded j sender)]
  refine ⟨db ▸ keyed.widths, ?_, ?_, ?_, keyed.alone.append ?_, ?_, messages ▸ keyed.once⟩
  · intro u thread
    rcases split u thread with old | rfl
    · exact keyed.plain u old
    · exact plain
  · intro record recorded j sender
    have bound := keyed.senders record (topics ▸ recorded) j sender
    simp only [List.length_append, List.length_singleton]
    omega
  · intro u thread mine
    rcases split u thread with old | rfl
    · exact db ▸ keyed.rows u old mine
    · simp [copies]
  · rintro _ ⟨_, busy⟩
    exact absurd sending busy
  · intro record recorded
    obtain ⟨row, done⟩ := keyed.sent record (messages ▸ recorded)
    refine ⟨db ▸ row, fun u thread mine => ?_⟩
    rcases split u thread with old | rfl
    · exact done u old mine
    · exact unpublished

theorem Keyed.stamped (keyed : Keyed tenantID key s) {cond : NotificationRow → Bool}
    {status : NotificationStatus} {time : Time}
    (db : sh.db = s.shared.db.stampWhere cond status time)
    (topics : sh.topics = s.shared.topics) : Keyed tenantID key ⟨sh, s.threads⟩ := by
  have grows : Grows s.shared sh := .of_stamp db topics
  have messages : State.keyMessages ⟨sh, s.threads⟩ tenantID key = s.keyMessages tenantID key := by
    simp only [State.keyMessages, topics]
  refine ⟨?_, keyed.plain, topics ▸ keyed.senders, ?_, keyed.alone, ?_, messages ▸ keyed.once⟩
  · intro row stored k given
    rw [db] at stored
    obtain ⟨old, oldMem, rfl⟩ := Rows.mem_updateWhere.mp stored
    refine keyed.widths old oldMem k ?_
    split at given <;> exact given
  · exact fun t member mine n copy => grows.keyRow (keyed.rows t member mine n copy)
  · intro record recorded
    obtain ⟨⟨id, row⟩, done⟩ := keyed.sent record (messages ▸ recorded)
    exact ⟨⟨id, grows.keyRow row⟩, done⟩

/-- A replay has no sender among the threads. -/
theorem Keyed.replayed (keyed : Keyed tenantID key s) (publication : Publication Message) :
    Keyed tenantID key ⟨s.shared.publish publication none, s.threads⟩ := by
  have messages : State.keyMessages ⟨s.shared.publish publication none, s.threads⟩ tenantID key =
      s.keyMessages tenantID key := by
    simp [State.keyMessages, Shared.publish, List.filter_append, sentWithKey]
  refine ⟨keyed.widths, keyed.plain, ?_, keyed.rows, keyed.alone, messages ▸ keyed.sent,
    messages ▸ keyed.once⟩
  intro record recorded j sender
  rcases List.mem_append.mp recorded with old | new
  · exact keyed.senders record old j sender
  · obtain rfl := List.mem_singleton.mp new
    simp at sender

theorem keyed_step {s' : State} {label : Label} (keyed : Keyed tenantID key s)
    (taken : step cfg s label = some s') : Keyed tenantID key s' := by
  cases step_steps taken with
  | stay => exact keyed
  | start outside fresh =>
      refine keyed.append rfl rfl ?_ ?_ ?_ ?_
      · cases fresh with
        | call => exact ⟨by simp, by simp⟩
        | bulk keyless =>
            exact ⟨fun r member => keyless r (List.mem_cons_of_mem _ member),
              fun _ => keyless _ List.mem_cons_self⟩
        | tick => trivial
      all_goals cases fresh <;> rfl
  | deliver => exact keyed.append rfl rfl trivial rfl rfl rfl
  | cancelled updated =>
      obtain ⟨_, _, _, _, rfl⟩ := cancel_ok updated
      exact keyed.stamped rfl rfl
  | replayed => exact keyed.replayed _
  | moved running move => exact keyed.moved running move

end Step

/-- For every tenant and key, in every interleaving with every pattern of failures: the
    key has at most one row, the Sends that carry it publish at most one message, and
    those that succeed return one id. -/
theorem idempotent_send (cfg : Config) (db : Database) (labels : List Label) (s : State)
    (tenantID : UUID) (key : String) (finished : run cfg (initial db) labels = some s) :
    (keyRows s.shared.db key).length ≤ 1 ∧ (s.keyMessages tenantID key).length ≤ 1 ∧
      ∀ t ∈ s.threads, ∀ u ∈ s.threads, t.keyed tenantID key = true →
        u.keyed tenantID key = true → ∀ x ∈ t.success, ∀ y ∈ u.success, x = y := by
  have keyed : Keyed tenantID key s :=
    Transition.run_invariant (fun _ _ _ inv taken => keyed_step inv taken)
      (keyed_initial tenantID key db) finished
  refine ⟨length_keyRows_le _ _, keyed.once, ?_⟩
  have row : ∀ t ∈ s.threads, t.keyed tenantID key = true → ∀ x ∈ t.success,
      KeyRow s.shared.db key x := by
    intro t member mine x success
    unfold Thread.success at success
    split at success
    · obtain rfl := Option.some.inj success
      exact keyed.rows _ member mine _ (List.mem_singleton_self _)
    · simp at success
  intro t member u member' mine mine' x success y success'
  exact (row t member mine x success).unique (row u member' mine' y success')

/-- Two Sends with one key race past the lookup; a third comes when all is done. -/
def race : List Label :=
  let keyed := { welcome with idempotencyKey := some "order-7" }
  [.call acme keyed, .call acme keyed] ++ steps 0 1 ++ steps 1 2 ++ steps 0 1 ++ steps 1 3 ++
    [.call acme keyed] ++ steps 2 1

theorem idempotent_send_race :
    ∃ s ∈ run plain deployed race,
      (s.threads.filterMap Thread.success = [0, 0] ∧ s.shared.topics.length = 1) ∧
      (keyRows s.shared.db "order-7").length ≤ 1 ∧
      (s.keyMessages acme "order-7").length ≤ 1 ∧
      ∀ t ∈ s.threads, ∀ u ∈ s.threads, t.keyed acme "order-7" = true →
        u.keyed acme "order-7" = true → ∀ x ∈ t.success, ∀ y ∈ u.success, x = y := by
  obtain ⟨s, finished, facts⟩ : ∃ s ∈ run plain deployed race,
      s.threads.filterMap Thread.success = [0, 0] ∧ s.shared.topics.length = 1 := by
    decide +kernel
  exact ⟨s, finished, facts, idempotent_send plain _ race s acme "order-7" finished⟩

end NotifyHub.Lifecycle
