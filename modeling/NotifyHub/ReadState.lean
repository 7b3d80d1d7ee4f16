import NotifyHub.InboxPages
import NotifyHub.PageArithmetic

/-! # What is read and what is not

`read_at` over whole histories of the inbox table: Insert, MarkRead and MarkAllRead, of any
tenants and recipients. The two updates, the two listings and the count each have a copy of
the condition `read_at IS NULL` and of the owner's columns.
-/

namespace NotifyHub

open Rows

/-- A call that writes messages. The id of an Insert is the one that the database picks. -/
inductive InboxCall where
  | insert (conn : Conn) (msg : InAppMessage) (id : UUID) (now : Time)
  | markRead (conn : Conn) (tenantID id : UUID) (recipientID : String) (now : Time)
  | markAllRead (conn : Conn) (tenantID : UUID) (recipientID : String) (now : Time)

namespace InboxCall

def tenantID : InboxCall → UUID
  | .insert _ msg _ _ => msg.tenantID
  | .markRead _ tenantID _ _ _ => tenantID
  | .markAllRead _ tenantID _ _ => tenantID

def recipientID : InboxCall → String
  | .insert _ msg _ _ => msg.recipientID
  | .markRead _ _ _ recipientID _ => recipientID
  | .markAllRead _ _ recipientID _ => recipientID

def now : InboxCall → Time
  | .insert _ _ _ now => now
  | .markRead _ _ _ _ now => now
  | .markAllRead _ _ _ now => now

/-- The state after a call, which is as before if the call fails. -/
def perform (s : Storage) : InboxCall → Storage
  | .insert conn msg id now =>
      match InAppRepository.insert conn s msg id now with
      | .ok (_, s') => s'
      | .error _ => s
  | .markRead conn tenantID id recipientID now =>
      match InAppRepository.markRead conn s tenantID id recipientID now with
      | .ok s' => s'
      | .error _ => s
  | .markAllRead conn tenantID recipientID now =>
      match InAppRepository.markAllRead conn s tenantID recipientID now with
      | .ok s' => s'
      | .error _ => s

/-- What a call stores anew: the row of an Insert that succeeds. -/
def added (s : Storage) : InboxCall → List InAppRow
  | .insert conn msg id now =>
      match InAppRepository.insert conn s msg id now with
      | .ok _ => [(InAppRepository.insertParams msg).row id now]
      | .error _ => []
  | .markRead .. => []
  | .markAllRead .. => []

end InboxCall

/-- The state after some calls. -/
def performAll (s : Storage) (calls : List InboxCall) : Storage := calls.foldl InboxCall.perform s

/-- An unread message of the tenant and the recipient. -/
def Unread (tenantID : UUID) (recipientID : String) (m : InAppRow) : Prop :=
  m.tenantID = tenantID ∧ m.recipientID = recipientID ∧ m.readAt = none

/-- Rows change one by one, and only unread ones of the call's inbox, to read. What is new is
    unread in that inbox. -/
structure Touches (call : InboxCall) (rows rows' : List InAppRow) (change : InAppRow → InAppRow)
    (added : List InAppRow) : Prop where
  rows : rows' = rows.map change ++ added
  changed : ∀ m, change m = m ∨
    Unread call.tenantID call.recipientID m ∧ change m = { m with readAt := some call.now }
  new : ∀ m ∈ added, Unread call.tenantID call.recipientID m

section Calls

variable {s : Storage} {call : InboxCall} {rows : List InAppRow} {tenantID : UUID}
  {recipientID : String}

theorem unread_of_inInbox {m : InAppRow}
    (here : (inInbox tenantID recipientID m && m.readAt.isNone) = true) :
    Unread tenantID recipientID m := by
  simp only [inInbox, Bool.and_eq_true, beq_iff_eq, Option.isNone_iff_eq_none] at here
  exact ⟨here.1.1, here.1.2, here.2⟩

theorem Touches.nothing (call : InboxCall) (rows : List InAppRow) :
    Touches call rows rows (fun m => m) [] where
  rows := by simp
  changed := fun m => .inl rfl
  new := by simp

theorem Touches.stamp (call : InboxCall) {cond : InAppRow → Bool}
    (unread : ∀ m, cond m = true → Unread call.tenantID call.recipientID m) :
    Touches call rows (updateWhere cond (fun m => { m with readAt := some call.now }) rows)
      (fun m => if cond m then { m with readAt := some call.now } else m) [] where
  rows := by rw [List.append_nil, updateWhere]
  changed := by
    intro m
    by_cases hit : cond m = true
    · rw [if_pos hit]
      exact .inr ⟨unread m hit, rfl⟩
    · rw [if_neg hit]
      exact .inl rfl
  new := by simp

theorem perform_touches (s : Storage) (call : InboxCall) :
    ∃ change, Touches call s.inapp.rows (call.perform s).inapp.rows change (call.added s) := by
  cases call with
  | insert conn msg id now =>
      simp only [InboxCall.perform, InboxCall.added]
      cases done : InAppRepository.insert conn s msg id now with
      | error e => exact ⟨_, .nothing _ _⟩
      | ok answer =>
          obtain ⟨saved, s'⟩ := answer
          obtain ⟨_, _, grown⟩ := InAppRepository.insert_stored done
          refine ⟨fun m => m, by simpa using grown, fun m => .inl rfl, ?_⟩
          intro m member
          obtain rfl := List.mem_singleton.mp member
          exact ⟨rfl, rfl, rfl⟩
  | markRead conn tenantID id recipientID now =>
      cases conn with
      | down => exact ⟨_, .nothing _ _⟩
      | up =>
          refine ⟨_, .stamp (.markRead .up tenantID id recipientID now) ?_⟩
          intro m hit
          rw [Bool.and_assoc, Bool.and_eq_true] at hit
          exact unread_of_inInbox hit.2
  | markAllRead conn tenantID recipientID now =>
      cases conn with
      | down => exact ⟨_, .nothing _ _⟩
      | up =>
          exact ⟨_, .stamp (.markAllRead .up tenantID recipientID now)
            fun m hit => unread_of_inInbox hit⟩

/-- After an Insert that succeeded, the same message under another id is one more row. -/
theorem insert_twice {conn : Conn} {s' : Storage} {msg saved : InAppMessage} {id id' : UUID}
    {now later : Time} (done : InAppRepository.insert conn s msg id now = .ok (saved, s'))
    (new : id' ∉ s'.inapp.rows.map (·.id)) :
    (performAll s [.insert conn msg id now, .insert .up msg id' later]).inapp.rows =
      s.inapp.rows ++ [(InAppRepository.insertParams msg).row id now,
        (InAppRepository.insertParams msg).row id' later] := by
  obtain ⟨_, _, grown⟩ := InAppRepository.insert_stored done
  have once : performAll s [.insert conn msg id now] = s' := by
    simp only [performAll, List.foldl_cons, List.foldl_nil, InboxCall.perform, done]
  -- the references of the first row are those of the second
  have valid := s'.inapp.valid ((InAppRepository.insertParams msg).row id now) (by simp [grown])
  have accepted : s'.inapp.Accepts ((InAppRepository.insertParams msg).row id' later) :=
    ⟨new, by simp [noKey], valid⟩
  obtain ⟨answer, again⟩ : ∃ answer, InAppRepository.insert .up s' msg id' later = .ok answer := by
    simp only [InAppRepository.insert, Conn.exec, insertInAppMessage, insertRow, accepted,
      dite_true, wrapError]
    exact ⟨_, rfl⟩
  have twice : performAll s [.insert conn msg id now, .insert .up msg id' later] = answer.2 := by
    change (InboxCall.insert .up msg id' later).perform (performAll s [.insert conn msg id now]) = _
    simp only [once, InboxCall.perform, again]
  rw [twice, (InAppRepository.insert_stored again).2.2, grown, List.append_assoc]
  rfl

/-- A message that is read stays as it is. -/
theorem Touches.kept {rows' : List InAppRow} {change : InAppRow → InAppRow} {added : List InAppRow}
    (touches : Touches call rows rows' change added) {m : InAppRow} (stored : m ∈ rows)
    (read : m.readAt ≠ none) : m ∈ rows' := by
  rw [touches.rows]
  apply List.mem_append_left
  rcases touches.changed m with same | ⟨unread, _⟩
  · exact List.mem_map.mpr ⟨m, stored, same⟩
  · exact absurd unread.2.2 read

theorem performAll_kept {m : InAppRow} (calls : List InboxCall) (stored : m ∈ s.inapp.rows)
    (read : m.readAt ≠ none) : m ∈ (performAll s calls).inapp.rows := by
  induction calls generalizing s with
  | nil => exact stored
  | cons call rest ih =>
      obtain ⟨_, touches⟩ := perform_touches s call
      exact ih (touches.kept stored read)

/-- A mark that succeeded, and the same one once more. -/
inductive Repeats : InboxCall → InboxCall → Prop where
  | markRead (conn : Conn) (tenantID id : UUID) (recipientID : String) (now later : Time) :
      Repeats (.markRead .up tenantID id recipientID now)
        (.markRead conn tenantID id recipientID later)
  | markAllRead (conn : Conn) (tenantID : UUID) (recipientID : String) (now later : Time) :
      Repeats (.markAllRead .up tenantID recipientID now)
        (.markAllRead conn tenantID recipientID later)

theorem Repeats.settled {again : InboxCall} (repeats : Repeats call again) (s : Storage) :
    (again.perform (call.perform s)).inapp.rows = (call.perform s).inapp.rows := by
  cases repeats with
  | markRead conn =>
      cases conn with
      | down => rfl
      | up => exact updateWhere_again fun _ => Bool.and_false _
  | markAllRead conn =>
      cases conn with
      | down => rfl
      | up => exact updateWhere_again fun _ => Bool.and_false _

/-! ## Counting -/

/-- The query for unread messages only. -/
def unreadQuery (tenantID : UUID) (recipientID : String) (limit offset : Int) : InboxQuery :=
  { firstQuery tenantID recipientID true limit with offset := offset }

/-- The count and the listing have the same condition. -/
theorem countUnread_eq_length (s : Storage) (tenantID : UUID) (recipientID : String)
    (limit offset : Int) :
    InAppRepository.countUnread .up s tenantID recipientID =
      .ok (InAppRepository.listed s (unreadQuery tenantID recipientID limit offset)).length := by
  have count : NotifyHub.countUnread s.inapp.rows tenantID recipientID =
      (InAppRepository.listed s (unreadQuery tenantID recipientID limit offset)).length := by
    rw [InAppRepository.listed, List.length_insertionSort]
    rfl
  rw [← count]
  rfl

theorem mem_listed_unread {limit offset : Int} {m : InAppRow} :
    m ∈ InAppRepository.listed s (unreadQuery tenantID recipientID limit offset) ↔
      m ∈ s.inapp.rows ∧ Unread tenantID recipientID m := by
  rw [InAppRepository.listed, List.mem_insertionSort, mem_matching]
  simp only [unreadQuery, firstQuery, listedInInbox, inInbox, Unread, Bool.not_true, Bool.false_or,
    Bool.and_eq_true, beq_iff_eq, Option.isNone_iff_eq_none, and_assoc]

theorem list_unread {limit offset : Int} (positive : 1 ≤ limit) (fits : limit < 2 ^ 31)
    (natural : 0 ≤ offset) (offsetFits : offset < 2 ^ 31) :
    InAppRepository.ListsFrom s (unreadQuery tenantID recipientID limit offset) := by
  have narrow : InAppRepository.OffsetFits s (unreadQuery tenantID recipientID limit offset) :=
    narrowable_of_lt (by change offset.toNat < _; omega) (by change limit.toNat < _; omega)
  exact (InAppRepository.listsFrom_iff rfl natural positive).mpr narrow

/-- The listing with a cursor has the messages of the other listing that come after it. -/
theorem list_unread_after {limit offset : Int} (positive : 1 ≤ limit) (fits : limit < 2 ^ 31)
    {cursor : InAppRow} (stored : cursor ∈ s.inapp.rows) (owner : cursor.tenantID = tenantID) :
    ∃ later : List InAppRow,
      later.Perm ((InAppRepository.listed s (unreadQuery tenantID recipientID limit offset)).filter
        fun m => decide (Earlier m cursor)) ∧
      InAppRepository.list .up .up s
          { unreadQuery tenantID recipientID limit offset with afterID := some cursor.id } =
        .ok ((later.take limit.toNat).map fromDBInApp) := by
  have effective : effectiveLimit limit = limit := by
    simp only [effectiveLimit, if_neg (show ¬limit ≤ 0 by omega)]
    exact (int32_eq_self_iff positive).mpr fits
  have found : getInAppMessage s.inapp.rows cursor.id tenantID = .ok cursor :=
    owner ▸ getInAppMessage_of_mem stored
  refine ⟨Cursor.below Earlier (matching s (unreadQuery tenantID recipientID limit offset)) cursor,
    ?_, ?_⟩
  · have sorted := (List.perm_insertionSort (fun a b : InAppRow => b.createdAt ≤ a.createdAt)
      (matching s (unreadQuery tenantID recipientID limit offset))).symm
    exact (List.perm_insertionSort _ _).trans (sorted.filter _)
  · have listed := list_after_cursor (q := unreadQuery tenantID recipientID limit offset) found
      (by change 0 ≤ effectiveLimit limit; omega)
    rw [listed]
    change Except.ok (((Cursor.below _ _ _).take (effectiveLimit limit).toNat).map _) = _
    rw [effective]

theorem countUnread_markAllRead (s : Storage) (tenantID : UUID) (recipientID : String)
    (now : Time) :
    InAppRepository.countUnread .up
        ((InboxCall.markAllRead .up tenantID recipientID now).perform s) tenantID recipientID =
      .ok 0 := by
  have cleared : ∀ m ∈ ((InboxCall.markAllRead .up tenantID recipientID now).perform s).inapp.rows,
      (inInbox tenantID recipientID m && m.readAt.isNone) = false :=
    updateWhere_cleared fun _ => Bool.and_false _
  have none_ : NotifyHub.countUnread
      ((InboxCall.markAllRead .up tenantID recipientID now).perform s).inapp.rows
        tenantID recipientID = 0 := by
    rw [NotifyHub.countUnread, List.length_eq_zero_iff, List.filter_eq_nil_iff]
    intro m member
    simp only [cleared m member, Bool.false_eq_true, not_false_eq_true]
  rw [← none_]
  rfl

end Calls

/-- For every history of calls, from any content. What is read stays as it is, a call changes
    unread messages of its own inbox only, and it adds one message if it is an Insert that
    succeeds and none otherwise. A mark changes nothing when it is repeated; an Insert adds
    another message. The count is that of the messages in the listings of unread ones, and it is
    zero after MarkAllRead. -/
theorem readState_consistent (s : Storage) (calls : List InboxCall) :
    (∀ later, ∀ m ∈ (performAll s calls).inapp.rows, m.readAt ≠ none →
      m ∈ (performAll s (calls ++ later)).inapp.rows ∧
      ∀ m' ∈ (performAll s (calls ++ later)).inapp.rows, m'.id = m.id → m' = m) ∧
    (∀ call, ∃ change, Touches call (performAll s calls).inapp.rows
      (performAll s (calls ++ [call])).inapp.rows change (call.added (performAll s calls))) ∧
    (∀ call again, Repeats call again →
      (performAll s (calls ++ [call, again])).inapp.rows =
        (performAll s (calls ++ [call])).inapp.rows) ∧
    (∀ conn msg id now saved s',
      InAppRepository.insert conn (performAll s calls) msg id now = .ok (saved, s') →
        (performAll s (calls ++ [.insert conn msg id now])).inapp.rows =
            (performAll s calls).inapp.rows ++ [(InAppRepository.insertParams msg).row id now] ∧
          ∀ id' later, id' ∉ s'.inapp.rows.map (·.id) →
            (performAll s (calls ++
                [.insert conn msg id now, .insert .up msg id' later])).inapp.rows =
              (performAll s calls).inapp.rows ++
                [(InAppRepository.insertParams msg).row id now,
                  (InAppRepository.insertParams msg).row id' later]) ∧
    (∀ tenantID recipientID limit offset, 1 ≤ limit → limit < 2 ^ 31 → 0 ≤ offset →
      offset < 2 ^ 31 →
        InAppRepository.countUnread .up (performAll s calls) tenantID recipientID =
          .ok (InAppRepository.listed (performAll s calls)
            (unreadQuery tenantID recipientID limit offset)).length ∧
        (∀ m, m ∈ InAppRepository.listed (performAll s calls)
            (unreadQuery tenantID recipientID limit offset) ↔
          m ∈ (performAll s calls).inapp.rows ∧ Unread tenantID recipientID m) ∧
        InAppRepository.ListsFrom (performAll s calls)
          (unreadQuery tenantID recipientID limit offset) ∧
        ∀ cursor ∈ (performAll s calls).inapp.rows, cursor.tenantID = tenantID →
          ∃ later : List InAppRow,
            later.Perm ((InAppRepository.listed (performAll s calls)
              (unreadQuery tenantID recipientID limit offset)).filter
                fun m => decide (Earlier m cursor)) ∧
            InAppRepository.list .up .up (performAll s calls)
                { unreadQuery tenantID recipientID limit offset with
                  afterID := some cursor.id } =
              .ok ((later.take limit.toNat).map fromDBInApp)) ∧
    ∀ tenantID recipientID now,
      InAppRepository.countUnread .up
          (performAll s (calls ++ [.markAllRead .up tenantID recipientID now]))
          tenantID recipientID = .ok 0 := by
  have onward : ∀ later, performAll s (calls ++ later) = performAll (performAll s calls) later :=
    fun later => List.foldl_append
  refine ⟨?_, ?_, ?_, ?_, ?_, ?_⟩
  · intro later m stored read
    rw [onward]
    have kept := performAll_kept later stored read
    exact ⟨kept, fun m' there same => inapp_ext there kept same⟩
  · intro call
    rw [onward]
    exact perform_touches _ call
  · intro call again repeats
    rw [onward, onward]
    exact repeats.settled _
  · intro conn msg id now saved s' done
    rw [onward]
    refine ⟨?_, fun id' later new => ?_⟩
    · obtain ⟨_, _, grown⟩ := InAppRepository.insert_stored done
      rw [← grown]
      simp only [performAll, List.foldl_cons, List.foldl_nil, InboxCall.perform] at done ⊢
      rw [done]
    · rw [onward]
      exact insert_twice done new
  · intro tenantID recipientID limit offset positive fits natural offsetFits
    exact ⟨countUnread_eq_length _ _ _ _ _, fun m => mem_listed_unread,
      list_unread positive fits natural offsetFits,
      fun cursor stored owner => list_unread_after positive fits stored owner⟩
  · intro tenantID recipientID now
    rw [onward]
    exact countUnread_markAllRead _ tenantID recipientID now

/-! ## Two users -/

def greeting (recipientID : String) : InAppMessage :=
  { id := UUID.zero
    tenantID := 7
    notificationID := none
    recipientID := recipientID
    title := "Hello"
    body := "Welcome"
    payload := none
    readAt := none
    createdAt := 0 }

/-- An Insert adds another message each time. -/
theorem insert_again_adds :
    (performAll (.ofCore (.ofTenants [7]))
        [.insert .up (greeting "ann") 1 5, .insert .up (greeting "ann") 2 5]).inapp.rows ≠
      (performAll (.ofCore (.ofTenants [7])) [.insert .up (greeting "ann") 1 5]).inapp.rows := by
  decide +kernel

/-- Two messages for one user, of which the older one is read, and one for another. -/
def threeGreetings : List InboxCall :=
  [.insert .up (greeting "ann") 1 5, .insert .up (greeting "ann") 2 6,
    .insert .up (greeting "bob") 3 6, .markRead .up 7 1 "ann" 8]

theorem threeGreetings_consistent :
    (∃ m ∈ (performAll (.ofCore (.ofTenants [7])) threeGreetings).inapp.rows, m.id = 1 ∧
      m.readAt = some 8 ∧
      m ∈ (performAll (.ofCore (.ofTenants [7]))
        (threeGreetings ++ [.markAllRead .up 7 "ann" 9])).inapp.rows) ∧
    InAppRepository.countUnread .up (performAll (.ofCore (.ofTenants [7])) threeGreetings) 7 "ann" =
      .ok 1 ∧
    InAppRepository.ListsFrom (performAll (.ofCore (.ofTenants [7])) threeGreetings)
      (unreadQuery 7 "ann" 10 0) ∧
    (performAll (.ofCore (.ofTenants [7]))
        (threeGreetings ++ [.markAllRead .up 7 "ann" 9, .markAllRead .up 7 "ann" 10])).inapp.rows =
      (performAll (.ofCore (.ofTenants [7]))
        (threeGreetings ++ [.markAllRead .up 7 "ann" 9])).inapp.rows := by
  obtain ⟨once, _, settled, _, counted, _⟩ :=
    readState_consistent (.ofCore (.ofTenants [7])) threeGreetings
  have first : ∃ m ∈ (performAll (.ofCore (.ofTenants [7])) threeGreetings).inapp.rows,
      m.id = 1 ∧ m.readAt = some 8 := by decide +kernel
  obtain ⟨m, stored, id, read⟩ := first
  have stays := (once [.markAllRead .up 7 "ann" 9] m stored (by simp [read])).1
  obtain ⟨_, _, lists, _⟩ := counted 7 "ann" 10 0 (by decide) (by decide) (by decide) (by decide)
  exact ⟨⟨m, stored, id, read, stays⟩, by decide +kernel, lists,
    settled _ _ (.markAllRead .up 7 "ann" 9 10)⟩

end NotifyHub
