import Mathlib.Data.Prod.Lex
import NotifyHub.Lib.Cursor
import NotifyHub.Stores.InAppRepository

/-! # Reading an inbox page by page

`InboxHandler.List` gives the first page without a cursor, from ListInbox. The client goes
on with `after_id`, the id of the last message it got, and these pages are those of
ListInboxAfterCursor. The first statement sorts by `created_at` only and leaves the order
of messages of one instant to the database. The second one compares `(created_at, id)`.
-/

namespace NotifyHub

open Cursor

/-- The messages of the tenant and the recipient, or the unread ones of them. -/
def matching (s : Storage) (q : InboxQuery) : List InAppRow :=
  s.inapp.rows.filter (listedInInbox q.tenantID q.recipientID q.unreadOnly)

/-- The limit that List passes to the statements. -/
def effectiveLimit (limit : Int) : Int := int32 (if limit ≤ 0 then 50 else limit)

/-- List without a cursor, for one of the orders that `ORDER BY created_at DESC` allows. -/
def listFirst (ordered : List InAppRow) (q : InboxQuery) : Except Err (List InAppMessage) := do
  let rows ← wrapError "list inbox" (page (effectiveLimit q.limit) (int32 q.offset) ordered)
  return rows.map fromDBInApp

/-- With a page read, following `after_id` until a page is empty gives `all`. -/
inductive Reads (s : Storage) (q : InboxQuery) : List InAppMessage → List InAppMessage → Prop where
  | empty : Reads s q [] []
  | after {page next all last} (ends : page.getLast? = some last)
      (listed : InAppRepository.list .up .up s { q with afterID := some last.id } = .ok next)
      (rest : Reads s q next all) : Reads s q page (page ++ all)

/-- Whatever order the first page comes in, every message is read once. -/
def ReadsAll (s : Storage) (q : InboxQuery) : Prop :=
  ∀ ordered, Sorting InAppRow.createdAt (matching s q) ordered →
    ∃ first all, listFirst ordered q = .ok first ∧ Reads s q first all ∧
      all.Perm ((matching s q).map fromDBInApp)

/-! ## The statements as pages -/

section Pages

variable {s : Storage} {q : InboxQuery}

/-- The model of List takes one of these orders. -/
theorem list_eq_listFirst (cursorConn : Conn) (s : Storage) (q : InboxQuery)
    (without : q.afterID = none) :
    ∃ ordered, Sorting InAppRow.createdAt (matching s q) ordered ∧
      InAppRepository.list .up cursorConn s q = listFirst ordered q := by
  have total : Std.Total fun a b : InAppRow => b.createdAt ≤ a.createdAt :=
    ⟨fun a b => le_total b.createdAt a.createdAt⟩
  have trans : IsTrans InAppRow fun a b => b.createdAt ≤ a.createdAt :=
    ⟨fun _ _ _ first second => le_trans second first⟩
  refine ⟨(matching s q).insertionSort fun a b => b.createdAt ≤ a.createdAt,
    ⟨List.perm_insertionSort _ _, List.pairwise_insertionSort _ _⟩, ?_⟩
  simp only [InAppRepository.list, without]
  rfl

theorem inapp_ext {a b : InAppRow} (here : a ∈ s.inapp.rows) (there : b ∈ s.inapp.rows)
    (same : a.id = b.id) : a = b :=
  s.inapp.pkey.eq_of_mem here there rfl (congrArg some same.symm)

theorem mem_matching {m : InAppRow} :
    m ∈ matching s q ↔
      m ∈ s.inapp.rows ∧ listedInInbox q.tenantID q.recipientID q.unreadOnly m = true :=
  List.mem_filter

/-- `(created_at, id)`. -/
def rank (m : InAppRow) : Int ×ₗ Nat := toLex (m.createdAt, BitVec.toNat m.id)

theorem earlier_iff {a b : InAppRow} : Earlier a b ↔ rank a < rank b := by
  rw [rank, rank, Prod.Lex.toLex_lt_toLex]
  rfl

/-- The rank tells the messages apart. -/
theorem ranked_matching (s : Storage) (q : InboxQuery) : Ranked Earlier (matching s q) where
  asymm := by
    intro a b
    rw [earlier_iff, earlier_iff]
    exact lt_asymm
  negTrans := by
    intro a b c
    rw [earlier_iff, earlier_iff, earlier_iff, not_lt, not_lt, not_lt]
    exact fun first second => le_trans second first
  distinct := by
    intro a here b there
    rw [earlier_iff, earlier_iff, not_lt, not_lt]
    intro first second
    have same : (a.createdAt, BitVec.toNat a.id) = (b.createdAt, BitVec.toNat b.id) :=
      toLex.injective (le_antisymm second first)
    exact inapp_ext (mem_matching.mp here).1 (mem_matching.mp there).1
      (BitVec.eq_of_toNat_eq (Prod.mk.inj same).2)
  nodup := s.inapp.nodup.filter _

theorem coarsens_createdAt : Coarsens Earlier InAppRow.createdAt where
  less := .inl
  le := by
    rintro a b (less | ⟨same, _⟩)
    · exact le_of_lt less
    · exact le_of_eq same

theorem getInAppMessage_of_mem {m : InAppRow} (stored : m ∈ s.inapp.rows) :
    getInAppMessage s.inapp.rows m.id m.tenantID = .ok m := by
  unfold getInAppMessage
  cases found : s.inapp.rows.find? (inappAt m.id m.tenantID) with
  | none =>
      have missed := List.find?_eq_none.mp found m stored
      simp [inappAt] at missed
  | some row =>
      have hit := List.find?_some found
      simp only [inappAt, Bool.and_eq_true, beq_iff_eq] at hit
      rw [inapp_ext (List.mem_of_find?_eq_some found) stored hit.1]

theorem listInboxAfterCursor_eq (s : Storage) (cursor : InAppRow)
    (natural : 0 ≤ effectiveLimit q.limit) :
    listInboxAfterCursor s.inapp.rows q.tenantID q.recipientID q.unreadOnly cursor
      (effectiveLimit q.limit) =
        .ok ((below Earlier (matching s q) cursor).take (effectiveLimit q.limit).toNat) := by
  have same : (s.inapp.rows.filter fun m =>
      listedInInbox q.tenantID q.recipientID q.unreadOnly m && decide (Earlier m cursor)) =
        (matching s q).filter fun m => decide (Earlier m cursor) := by
    rw [matching, List.filter_filter]
    exact List.filter_congr fun m _ => Bool.and_comm _ _
  simp [listInboxAfterCursor, page, natural.not_gt, same, below]

theorem owner_of_mem_matching {m : InAppRow} (member : m ∈ matching s q) :
    m.tenantID = q.tenantID ∧ m.recipientID = q.recipientID := by
  obtain ⟨_, listed⟩ := mem_matching.mp member
  simp only [listedInInbox, inInbox, Bool.and_eq_true, beq_iff_eq] at listed
  exact listed.1

theorem list_after_cursor {afterID : UUID} {cursor : InAppRow}
    (found : getInAppMessage s.inapp.rows afterID q.tenantID = .ok cursor)
    (natural : 0 ≤ effectiveLimit q.limit) :
    InAppRepository.list .up .up s { q with afterID := some afterID } =
      .ok (((below Earlier (matching s q) cursor).take (effectiveLimit q.limit).toNat).map
        fromDBInApp) := by
  have limit : int32 (if q.limit ≤ 0 then 50 else q.limit) = effectiveLimit q.limit := rfl
  simp only [InAppRepository.list, Conn.exec, found, limit, wrapError, bind, Except.bind,
    listInboxAfterCursor_eq s cursor natural]
  rfl

/-- List with a matching message as the cursor. -/
theorem list_after {last : InAppRow} (member : last ∈ matching s q)
    (natural : 0 ≤ effectiveLimit q.limit) :
    InAppRepository.list .up .up s { q with afterID := some last.id } =
      .ok (((below Earlier (matching s q) last).take (effectiveLimit q.limit).toNat).map
        fromDBInApp) := by
  have cursor : getInAppMessage s.inapp.rows last.id q.tenantID = .ok last :=
    (owner_of_mem_matching member).1 ▸ getInAppMessage_of_mem (mem_matching.mp member).1
  exact list_after_cursor cursor natural

theorem fromDBInApp_injective : Function.Injective fromDBInApp := by
  intro a b same
  cases a
  cases b
  simp_all [fromDBInApp]

theorem getLast?_map_fromDBInApp {rows : List InAppRow} {last : InAppMessage}
    (ends : (rows.map fromDBInApp).getLast? = some last) :
    ∃ row, rows.getLast? = some row ∧ last = fromDBInApp row := by
  rw [List.getLast?_map] at ends
  obtain ⟨row, found, same⟩ := Option.map_eq_some_iff.mp ends
  exact ⟨row, found, same.symm⟩

/-- The pages that a client follows are those of the cursor. -/
theorem reads_iff_follows (natural : 0 ≤ effectiveLimit q.limit) {first : List InAppRow}
    (known : ∀ m ∈ first, m ∈ matching s q) {all : List InAppMessage} :
    Reads s q (first.map fromDBInApp) all ↔
      ∃ rows, Follows Earlier (matching s q) (effectiveLimit q.limit).toNat first rows ∧
        all = rows.map fromDBInApp := by
  have next_known : ∀ last, ∀ m ∈ (below Earlier (matching s q) last).take
      (effectiveLimit q.limit).toNat, m ∈ matching s q :=
    fun last m member => (mem_below.mp (List.mem_of_mem_take member)).1
  constructor
  · intro reads
    generalize given : first.map fromDBInApp = messages at reads
    induction reads generalizing first with
    | empty =>
        obtain rfl := List.map_eq_nil_iff.mp given
        exact ⟨[], .done, rfl⟩
    | @after messages next all last ends listed _ ih =>
        obtain rfl := given
        obtain ⟨row, rowEnds, rfl⟩ := getLast?_map_fromDBInApp ends
        have member : row ∈ matching s q := known row (List.mem_of_getLast? rowEnds)
        have answer := (list_after member natural).symm.trans listed
        obtain ⟨rows, follows, rfl⟩ := ih (next_known row) (Except.ok.inj answer)
        exact ⟨first ++ rows, .more rowEnds follows, by simp⟩
  · rintro ⟨rows, follows, rfl⟩
    induction follows with
    | done => exact .empty
    | @more first all last ends _ ih =>
        have member : last ∈ matching s q := known last (List.mem_of_getLast? ends)
        have mapped : (first.map fromDBInApp).getLast? = some (fromDBInApp last) := by
          rw [List.getLast?_map, ends]
          rfl
        rw [List.map_append]
        exact .after mapped (list_after member natural) (ih (next_known last))

end Pages

/-! ## The whole inbox -/

/-- The query of a first page. -/
def firstQuery (tenantID : UUID) (recipientID : String) (unreadOnly : Bool) (limit : Int) :
    InboxQuery :=
  { tenantID := tenantID
    recipientID := recipientID
    unreadOnly := unreadOnly
    limit := limit
    offset := 0
    afterID := none }

theorem listFirst_eq (ordered : List InAppRow) {q : InboxQuery} (start : q.offset = 0)
    (natural : 0 ≤ effectiveLimit q.limit) :
    listFirst ordered q =
      .ok ((ordered.take (effectiveLimit q.limit).toNat).map fromDBInApp) := by
  have zero : int32 0 = 0 := by decide
  simp only [listFirst, start, zero, page, natural.not_gt, if_false, lt_irrefl, Int.toNat_zero,
    List.drop_zero, wrapError]
  rfl

theorem listFirst_negative (ordered : List InAppRow) {q : InboxQuery}
    (negative : effectiveLimit q.limit < 0) (first : List InAppMessage) :
    listFirst ordered q ≠ .ok first := by
  simp only [listFirst, page, negative, if_true, wrapError]
  intro answered
  cases answered

theorem readsAll_iff_complete {s : Storage} {q : InboxQuery} (start : q.offset = 0)
    (natural : 0 ≤ effectiveLimit q.limit) :
    ReadsAll s q ↔ ∀ ordered, Sorting InAppRow.createdAt (matching s q) ordered →
      Complete Earlier (matching s q) (effectiveLimit q.limit).toNat
        (ordered.take (effectiveLimit q.limit).toNat) := by
  refine forall₂_congr fun ordered sorting => ?_
  have known : ∀ m ∈ ordered.take (effectiveLimit q.limit).toNat, m ∈ matching s q :=
    fun m member => sorting.perm.mem_iff.mp (List.mem_of_mem_take member)
  rw [listFirst_eq ordered start natural]
  constructor
  · rintro ⟨first, all, answer, reads, perm⟩
    obtain rfl := Except.ok.inj answer
    obtain ⟨rows, follows, rfl⟩ := (reads_iff_follows natural known).mp reads
    exact ⟨rows, follows, (List.map_perm_map_iff fromDBInApp_injective).mp perm⟩
  · rintro ⟨rows, follows, perm⟩
    exact ⟨_, _, rfl, (reads_iff_follows natural known).mpr ⟨rows, follows, rfl⟩,
      perm.map fromDBInApp⟩

/-- An inbox is read completely, page by page, if and only if the limit is one that the
    statements take and the message that ends the first page shares its `created_at` with no
    other, or there is nothing to read. -/
theorem inbox_read_completely_iff (s : Storage) (tenantID : UUID) (recipientID : String)
    (unreadOnly : Bool) (limit : Int) :
    ReadsAll s (firstQuery tenantID recipientID unreadOnly limit) ↔
      0 ≤ effectiveLimit limit ∧
        (matching s (firstQuery tenantID recipientID unreadOnly limit) = [] ∨
          0 < effectiveLimit limit ∧
            Untied InAppRow.createdAt (matching s (firstQuery tenantID recipientID unreadOnly limit))
              (min (effectiveLimit limit).toNat
                (matching s (firstQuery tenantID recipientID unreadOnly limit)).length)) := by
  by_cases natural : 0 ≤ effectiveLimit limit
  · have complete := readsAll_iff_complete (s := s)
      (q := firstQuery tenantID recipientID unreadOnly limit) rfl natural
    have passed : (firstQuery tenantID recipientID unreadOnly limit).limit = limit := rfl
    rw [complete, (ranked_matching s _).complete_iff coarsens_createdAt, passed, Int.lt_toNat]
    simp only [natural, true_and, Int.ofNat_zero]
  · refine iff_of_false ?_ fun fine => natural fine.1
    intro reads
    obtain ⟨ordered, sorting⟩ := sorting_exists InAppRow.createdAt
      (matching s (firstQuery tenantID recipientID unreadOnly limit))
    obtain ⟨first, _, answer, _⟩ := reads ordered sorting
    have negative : effectiveLimit (firstQuery tenantID recipientID unreadOnly limit).limit < 0 :=
      not_le.mp natural
    exact listFirst_negative ordered negative first answer

def twin (id : UUID) : InAppRow :=
  { id := id
    tenantID := 7
    notificationID := none
    recipientID := "u1"
    title := "hello"
    body := ""
    payload := []
    readAt := none
    createdAt := 0 }

/-- An inbox with two messages of the same instant. -/
def twins : Storage :=
  { Storage.ofCore (.ofTenants [7]) with
    inapp := (Rows.Table.empty.insert (twin 1) (by decide)).insert (twin 2) (by decide) }

/-- In pages of one, message 1 is listed first and nothing is below it: message 2 is never
    listed. -/
theorem second_twin_never_listed :
    (matching twins (firstQuery 7 "u1" false 1)).map (·.id) = [1, 2] ∧
      ((InAppRepository.list .up .up twins (firstQuery 7 "u1" false 1)).toOption.map
        fun messages => messages.map (·.id)) = some [1] ∧
      ((InAppRepository.list .up .up twins
        { firstQuery 7 "u1" false 1 with afterID := some 1 }).toOption.map
        fun messages => messages.map (·.id)) = some [] ∧
      ¬ReadsAll twins (firstQuery 7 "u1" false 1) := by
  refine ⟨by decide +kernel, by decide +kernel, by decide +kernel, ?_⟩
  intro reads
  have complete := (readsAll_iff_complete (s := twins) (q := firstQuery 7 "u1" false 1) rfl
    (by decide)).mp reads
  have both : matching twins (firstQuery 7 "u1" false 1) = [twin 1, twin 2] := by decide +kernel
  rcases ((ranked_matching _ _).complete_iff coarsens_createdAt).mp complete with none_ | ⟨_, untied⟩
  · simp [both] at none_
  · rw [both] at untied
    revert untied
    decide +kernel

/-! ## The requests -/

/-- The parameters of the URL. Numbers and ids are what `strconv.Atoi` and `uuid.Parse` make of
    them, and `none` without a value or with one that does not parse. -/
structure InboxParams where
  unread : String
  limit : Option Int
  afterID : Option UUID
  offset : Option Int
  deriving Repr, DecidableEq

/-- The query that `InboxHandler.List` makes of a request. -/
def InboxHandler.query (tenantID : UUID) (recipientID : String) (params : InboxParams) :
    InboxQuery :=
  { tenantID := tenantID
    recipientID := recipientID
    unreadOnly := params.unread == "true"
    limit :=
      match params.limit with
      | some n => if 0 < n ∧ n ≤ 200 then n else 50
      | none => 50
    offset :=
      match params.afterID, params.offset with
      | none, some n => if 0 ≤ n then n else 0
      | _, _ => 0
    afterID := params.afterID }

theorem InboxHandler.effectiveLimit_query (tenantID : UUID) (recipientID : String)
    (params : InboxParams) :
    0 < effectiveLimit (InboxHandler.query tenantID recipientID params).limit := by
  have inRange : 0 < (InboxHandler.query tenantID recipientID params).limit ∧
      (InboxHandler.query tenantID recipientID params).limit ≤ 200 := by
    simp only [InboxHandler.query]
    split
    · split
      · assumption
      · decide
    · decide
  simp only [effectiveLimit, inRange.1.not_ge, if_false, int32, Int.bmod_def]
  omega

/-- Requests that follow the first one differ from it in `after_id` only. For these the limit is
    always one that the statements take, so that a tie is all that can go wrong. -/
theorem InboxHandler.requests_read_completely_iff (s : Storage) (tenantID : UUID)
    (recipientID unread : String) (limit : Option Int) :
    (∀ id, InboxHandler.query tenantID recipientID ⟨unread, limit, some id, none⟩ =
        { InboxHandler.query tenantID recipientID ⟨unread, limit, none, none⟩ with
          afterID := some id }) ∧
      (ReadsAll s (InboxHandler.query tenantID recipientID ⟨unread, limit, none, none⟩) ↔
        matching s (InboxHandler.query tenantID recipientID ⟨unread, limit, none, none⟩) = [] ∨
          Untied InAppRow.createdAt
            (matching s (InboxHandler.query tenantID recipientID ⟨unread, limit, none, none⟩))
            (min (effectiveLimit
                (InboxHandler.query tenantID recipientID ⟨unread, limit, none, none⟩).limit).toNat
              (matching s
                (InboxHandler.query tenantID recipientID ⟨unread, limit, none, none⟩)).length)) := by
  have positive := InboxHandler.effectiveLimit_query tenantID recipientID ⟨unread, limit, none, none⟩
  have complete := readsAll_iff_complete (s := s)
    (q := InboxHandler.query tenantID recipientID ⟨unread, limit, none, none⟩) rfl positive.le
  refine ⟨fun _ => rfl, ?_⟩
  rw [complete, (ranked_matching s _).complete_iff coarsens_createdAt, Int.lt_toNat]
  simp only [Int.ofNat_zero, positive, true_and]

end NotifyHub
