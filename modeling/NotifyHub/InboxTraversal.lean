import NotifyHub.InboxPages

/-! # Following a cursor while the inbox changes

A client follows `after_id` from some stored message on. Between its requests, and between
the two statements of one of them, messages are inserted and marked as read. A stored message
keeps its id, its inbox and its `created_at`, so it keeps its place in the order.
-/

namespace NotifyHub

open Cursor

/-- `(created_at, id)`. -/
def InAppMessage.place (m : InAppMessage) : Int ×ₗ Nat := toLex (m.createdAt, BitVec.toNat m.id)

/-- What others do to the inboxes: insert messages newer than the start, and mark some as read. -/
inductive Activity (start : InAppRow) : Storage → Storage → Prop where
  | idle {s} : Activity start s s
  | insert {conn s s' msg saved id now}
      (done : InAppRepository.insert conn s msg id now = .ok (saved, s'))
      (newer : rank start < saved.place) : Activity start s s'
  | markRead {conn s s' tenantID id recipientID now}
      (done : InAppRepository.markRead conn s tenantID id recipientID now = .ok s') :
      Activity start s s'
  | markAllRead {conn s s' tenantID recipientID now}
      (done : InAppRepository.markAllRead conn s tenantID recipientID now = .ok s') :
      Activity start s s'

/-- The storage at each moment. -/
structure History (start : InAppRow) where
  state : Nat → Storage
  step : ∀ k, Activity start (state k) (state (k + 1))

/-- The moments at which the two statements of request `n` run. -/
structure Schedule where
  lookup : Nat → Nat
  listing : Nat → Nat
  inOrder : ∀ n, lookup n ≤ listing n
  oneByOne : ∀ n, listing n ≤ lookup (n + 1)

/-- List with its two statements in different states. -/
def InAppRepository.listBetween (atLookup atListing : Storage) (q : InboxQuery) :
    Except Err (List InAppMessage) :=
  match q.afterID with
  | some afterID => do
      let cursor ← wrapError "list inbox cursor lookup"
        (getInAppMessage atLookup.inapp.rows afterID q.tenantID)
      let rows ← wrapError "list inbox after cursor"
        (listInboxAfterCursor atListing.inapp.rows q.tenantID q.recipientID q.unreadOnly cursor
          (effectiveLimit q.limit))
      return rows.map fromDBInApp
  | none => InAppRepository.list .up .up atListing q

theorem InAppRepository.listBetween_self (s : Storage) (q : InboxQuery) :
    listBetween s s q = list .up .up s q := by
  unfold listBetween
  split
  · rename_i afterID cursor
    simp only [list, cursor]
    rfl
  · rfl

/-- Requests `n` to `m`, of which the last one gives an empty page. -/
inductive Traversal (state : Nat → Storage) (moments : Schedule) (request : UUID → InboxQuery) :
    Nat → UUID → List InAppMessage → Nat → Prop where
  | done {n afterID}
      (empty : InAppRepository.listBetween (state (moments.lookup n)) (state (moments.listing n))
        (request afterID) = .ok []) : Traversal state moments request n afterID [] n
  | more {n m afterID page last all}
      (listed : InAppRepository.listBetween (state (moments.lookup n)) (state (moments.listing n))
        (request afterID) = .ok page)
      (ends : page.getLast? = some last)
      (rest : Traversal state moments request (n + 1) last.id all m) :
      Traversal state moments request n afterID (page ++ all) m

/-! ## What stays -/

section Stays

variable {start : InAppRow} {s s' : Storage}

/-- What no statement changes of a message. -/
def InAppRow.fixed (m : InAppRow) : UUID × UUID × String × Time :=
  (m.id, m.tenantID, m.recipientID, m.createdAt)

theorem rank_eq_of_fixed {a b : InAppRow} (same : a.fixed = b.fixed) : rank a = rank b := by
  simp only [InAppRow.fixed, Prod.mk.injEq] at same
  simp only [rank, same]

/-- Messages stay as they are but for `read_at`, and what is added is newer than the start. -/
def Extends (start : InAppRow) (s s' : Storage) : Prop :=
  ∃ added : List InAppRow, s'.inapp.rows.map InAppRow.fixed =
      s.inapp.rows.map InAppRow.fixed ++ added.map InAppRow.fixed ∧
    ∀ m ∈ added, rank start < rank m

theorem Extends.of_fixed (start : InAppRow)
    (same : s'.inapp.rows.map InAppRow.fixed = s.inapp.rows.map InAppRow.fixed) :
    Extends start s s' :=
  ⟨[], by simp [same], by simp⟩

theorem Extends.refl (start : InAppRow) (s : Storage) : Extends start s s :=
  .of_fixed start rfl

theorem Extends.trans {s'' : Storage} (first : Extends start s s') (second : Extends start s' s'') :
    Extends start s s'' := by
  obtain ⟨added, rows, newer⟩ := first
  obtain ⟨added', rows', newer'⟩ := second
  refine ⟨added ++ added', ?_, ?_⟩
  · rw [rows', rows, List.map_append, List.append_assoc]
  · intro m member
    rcases List.mem_append.mp member with before | after
    · exact newer m before
    · exact newer' m after

theorem Activity.extends (activity : Activity start s s') : Extends start s s' := by
  cases activity with
  | idle => exact .refl start s
  | insert done newer =>
      obtain ⟨row, rfl, _, _, _, rows⟩ := InAppRepository.insert_ok done
      refine ⟨[row], ?_, ?_⟩
      · rw [rows, List.map_append]
      · intro m member
        rwa [List.mem_singleton.mp member]
  | @markRead conn _ _ _ _ _ _ done =>
      cases conn with
      | down => cases done
      | up =>
          obtain rfl := Except.ok.inj done
          exact .of_fixed start (Rows.map_updateWhere fun _ => rfl)
  | @markAllRead conn _ _ _ _ _ done =>
      cases conn with
      | down => cases done
      | up =>
          obtain rfl := Except.ok.inj done
          exact .of_fixed start (Rows.map_updateWhere fun _ => rfl)

theorem History.extends (history : History start) {i k : Nat} (later : i ≤ k) :
    Extends start (history.state i) (history.state k) := by
  induction k, later using Nat.le_induction with
  | base => exact .refl start _
  | succ k _ ih => exact ih.trans (history.step k).extends

theorem Extends.kept (onward : Extends start s s') {m : InAppRow} (stored : m ∈ s.inapp.rows) :
    ∃ m' ∈ s'.inapp.rows, m'.fixed = m.fixed := by
  obtain ⟨added, rows, _⟩ := onward
  have listed : m.fixed ∈ s'.inapp.rows.map InAppRow.fixed := by
    rw [rows]
    exact List.mem_append_left _ (List.mem_map_of_mem stored)
  exact List.mem_map.mp listed

/-- A message below the start was there before. -/
theorem Extends.known (onward : Extends start s s') {m : InAppRow} (stored : m ∈ s'.inapp.rows)
    (under : rank m < rank start) : ∃ m' ∈ s.inapp.rows, m'.fixed = m.fixed := by
  obtain ⟨added, rows, newer⟩ := onward
  have listed : m.fixed ∈ s'.inapp.rows.map InAppRow.fixed := List.mem_map_of_mem stored
  rw [rows] at listed
  rcases List.mem_append.mp listed with before | after
  · exact List.mem_map.mp before
  · obtain ⟨m', member, same⟩ := List.mem_map.mp after
    have above := newer m' member
    rw [rank_eq_of_fixed same] at above
    exact absurd above (lt_asymm under)

end Stays

/-! ## The pages -/

section Pages

variable {start cursor : InAppRow} {moments : Schedule} {q : InboxQuery}

theorem tied_of_rank_eq {a b : InAppRow} (same : rank a = rank b) : Tied Earlier a b := by
  simp only [Tied, earlier_iff, same, lt_irrefl, not_false_iff, and_self]

/-- The inbox as the listing of request `n` finds it. -/
def listedAt (state : Nat → Storage) (moments : Schedule) (q : InboxQuery) (n : Nat) :
    List InAppRow :=
  matching (state (moments.listing n)) q

/-- A message of the tenant that was stored before the request is a cursor that the lookup finds,
    in the place that it had. -/
theorem History.listBetween_eq (history : History start) {k n : Nat}
    (stored : cursor ∈ (history.state k).inapp.rows) (before : k ≤ moments.lookup n)
    (owned : cursor.tenantID = q.tenantID) (natural : 0 ≤ effectiveLimit q.limit) :
    InAppRepository.listBetween (history.state (moments.lookup n))
        (history.state (moments.listing n)) { q with afterID := some cursor.id } =
      .ok (((below Earlier (listedAt history.state moments q n) cursor).take
        (effectiveLimit q.limit).toNat).map fromDBInApp) := by
  obtain ⟨found, there, same⟩ := (history.extends before).kept stored
  have place : rank found = rank cursor := rank_eq_of_fixed same
  simp only [InAppRow.fixed, Prod.mk.injEq] at same
  have lookup : getInAppMessage (history.state (moments.lookup n)).inapp.rows cursor.id q.tenantID =
      .ok found := by
    rw [← same.1, ← owned, ← same.2.1]
    exact getInAppMessage_of_mem there
  have below_ := (ranked_matching (history.state (moments.listing n)) q).below_tied
    (tied_of_rank_eq place)
  simp only [InAppRepository.listBetween, lookup, wrapError, bind, Except.bind,
    listInboxAfterCursor_eq _ found natural, below_]
  rfl

/-- The requests read what the cursor walks over. -/
theorem History.traversal_iff_walks (history : History start) {k n : Nat}
    (stored : cursor ∈ (history.state k).inapp.rows) (before : k ≤ moments.lookup n)
    (owned : cursor.tenantID = q.tenantID) (natural : 0 ≤ effectiveLimit q.limit)
    {all : List InAppMessage} {m : Nat} :
    Traversal history.state moments (fun id => { q with afterID := some id }) n cursor.id all m ↔
      ∃ rows, Walks Earlier (listedAt history.state moments q) (effectiveLimit q.limit).toNat n
        cursor rows m ∧ all = rows.map fromDBInApp := by
  -- the last message of a page is the next cursor
  have next_stored : ∀ {n : Nat} {cursor last : InAppRow},
      ((below Earlier (listedAt history.state moments q n) cursor).take
        (effectiveLimit q.limit).toNat).getLast? = some last →
      last ∈ (history.state (moments.listing n)).inapp.rows ∧ last.tenantID = q.tenantID := by
    intro n cursor last ends
    have member := (lt_of_mem_page (List.mem_of_getLast? ends)).1
    exact ⟨(mem_matching.mp member).1, (owner_of_mem_matching member).1⟩
  constructor
  · intro traversal
    generalize given : cursor.id = afterID at traversal
    induction traversal generalizing cursor k with
    | @done n _ empty =>
        obtain rfl := given
        have page := (history.listBetween_eq stored before owned natural).symm.trans empty
        exact ⟨[], .done (List.map_eq_nil_iff.mp (Except.ok.inj page)), rfl⟩
    | @more n m _ page last all listed ends rest ih =>
        obtain rfl := given
        have answer := (history.listBetween_eq stored before owned natural).symm.trans listed
        obtain rfl := Except.ok.inj answer
        obtain ⟨row, rowEnds, rfl⟩ := getLast?_map_fromDBInApp ends
        obtain ⟨there, owned'⟩ := next_stored rowEnds
        obtain ⟨rows, walks, rfl⟩ := ih there (moments.oneByOne n) owned' rfl
        exact ⟨_, .more rowEnds walks, by rw [List.map_append]⟩
  · rintro ⟨rows, walks, rfl⟩
    induction walks generalizing k with
    | @done n cursor empty =>
        refine .done ?_
        rw [history.listBetween_eq stored before owned natural, empty]
        rfl
    | @more n m cursor last all ends rest ih =>
        obtain ⟨there, owned'⟩ := next_stored ends
        have mapped : (((below Earlier (listedAt history.state moments q n) cursor).take
            (effectiveLimit q.limit).toNat).map fromDBInApp).getLast? = some (fromDBInApp last) := by
          rw [List.getLast?_map, ends]
          rfl
        rw [List.map_append]
        exact .more (history.listBetween_eq stored before owned natural) mapped
          (ih there (moments.oneByOne n) owned')

end Pages

/-! ## The whole traversal -/

/-- What a traversal from the start has to give when requests 0 to `finish` read `all`. -/
structure ReadsStably (state : Nat → Storage) (moments : Schedule) (q : InboxQuery)
    (start : InAppRow) (all : List InAppMessage) (finish : Nat) : Prop where
  descending : all.Pairwise fun a b => b.place < a.place
  once : (all.map (·.id)).Nodup
  inside : ∀ m ∈ all, m.tenantID = q.tenantID ∧ m.recipientID = q.recipientID ∧
    m.place < rank start ∧
      ∃ n ≤ finish, ∃ row ∈ matching (state (moments.listing n)) q, m = fromDBInApp row
  complete : ∀ id, (∀ k, moments.lookup 0 ≤ k → k ≤ moments.listing finish →
      ∃ row ∈ matching (state k) q, row.id = id ∧ rank row < rank start) → id ∈ all.map (·.id)

section Whole

variable {start : InAppRow} {moments : Schedule} {q : InboxQuery}

theorem Schedule.listing_mono (moments : Schedule) : Monotone moments.listing :=
  monotone_nat_of_le_succ fun n => le_trans (moments.oneByOne n) (moments.inOrder (n + 1))

theorem Schedule.lookup_le_listing (moments : Schedule) (n : Nat) :
    moments.lookup 0 ≤ moments.listing n :=
  le_trans (moments.inOrder 0) (moments.listing_mono (Nat.zero_le n))

theorem id_eq_of_tied {a b : InAppRow} (tied : Tied Earlier a b) : a.id = b.id := by
  simp only [Tied, earlier_iff, not_lt] at tied
  have same : (a.createdAt, BitVec.toNat a.id) = (b.createdAt, BitVec.toNat b.id) :=
    toLex.injective (le_antisymm tied.2 tied.1)
  exact BitVec.eq_of_toNat_eq (Prod.mk.inj same).2

/-- Messages of two moments with one id have one rank. -/
theorem History.rank_eq (history : History start) {i k : Nat} {a b : InAppRow}
    (here : a ∈ (history.state i).inapp.rows) (there : b ∈ (history.state k).inapp.rows)
    (same : a.id = b.id) : rank a = rank b := by
  wlog later : i ≤ k generalizing i k a b
  · exact (this there here same.symm (le_of_not_ge later)).symm
  obtain ⟨kept, stored, fixed⟩ := (history.extends later).kept here
  have id := (Prod.mk.inj fixed).1
  obtain rfl := inapp_ext stored there (id.trans same)
  exact (rank_eq_of_fixed fixed).symm

theorem History.readsStably_of_walks (history : History start) (positive : 0 < effectiveLimit q.limit)
    {rows : List InAppRow} {finish : Nat}
    (walks : Walks Earlier (listedAt history.state moments q) (effectiveLimit q.limit).toNat 0 start
      rows finish) :
    ReadsStably history.state moments q start (rows.map fromDBInApp) finish := by
  have ranked : ∀ n, Ranked Earlier (listedAt history.state moments q n) :=
    fun n => ranked_matching (history.state (moments.listing n)) q
  obtain ⟨under, descending⟩ := walks.descending ranked
  refine ⟨?_, ?_, ?_, ?_⟩
  · rw [List.pairwise_map]
    exact descending.imp fun earlier => earlier_iff.mp earlier
  · rw [List.map_map]
    refine List.pairwise_map.mpr (descending.imp_of_mem ?_)
    intro a b first second earlier same
    obtain ⟨_, _, here⟩ := walks.listed a first
    obtain ⟨_, _, there⟩ := walks.listed b second
    have place := history.rank_eq (mem_matching.mp here).1 (mem_matching.mp there).1 same
    exact (earlier_iff.mp earlier).ne' place
  · intro m member
    obtain ⟨row, read, rfl⟩ := List.mem_map.mp member
    obtain ⟨n, upTo, listed⟩ := walks.listed row read
    obtain ⟨tenant, recipient⟩ := owner_of_mem_matching listed
    exact ⟨tenant, recipient, earlier_iff.mp (under row read), n, upTo, row, listed, rfl⟩
  · intro id throughout
    obtain ⟨x, listed, rfl, below_⟩ := throughout (moments.lookup 0) le_rfl
      (moments.lookup_le_listing finish)
    have present : ∀ i, 0 ≤ i → i ≤ finish →
        ∃ y ∈ listedAt history.state moments q i, Tied Earlier y x := by
      intro i _ upTo
      obtain ⟨y, there, same, _⟩ := throughout (moments.listing i) (moments.lookup_le_listing i)
        (moments.listing_mono upTo)
      have place := history.rank_eq (mem_matching.mp there).1 (mem_matching.mp listed).1 same
      exact ⟨y, there, tied_of_rank_eq place⟩
    obtain ⟨y, read, tied⟩ := walks.complete ranked (by omega) (earlier_iff.mpr below_) present
    exact List.mem_map.mpr ⟨fromDBInApp y, List.mem_map_of_mem read, id_eq_of_tied tied⟩

/-- From a stored message of the tenant on, List reads stably whatever happens meanwhile. -/
theorem History.readsStably (history : History start) (moments : Schedule)
    (stored : start ∈ (history.state 0).inapp.rows) (owned : start.tenantID = q.tenantID)
    (positive : 0 < effectiveLimit q.limit) :
    ∃ all finish,
      (∀ all' finish', Traversal history.state moments (fun id => { q with afterID := some id }) 0
        start.id all' finish' ↔ all' = all ∧ finish' = finish) ∧
      ReadsStably history.state moments q start all finish := by
  have ranked : ∀ n, Ranked Earlier (listedAt history.state moments q n) :=
    fun n => ranked_matching (history.state (moments.listing n)) q
  have known : ∀ n, ∀ m ∈ listedAt history.state moments q n, Earlier m start →
      ∃ m' ∈ (history.state 0).inapp.rows, Tied Earlier m' m := by
    intro n m listed under
    obtain ⟨m', there, same⟩ := (history.extends (Nat.zero_le (moments.listing n))).known
      (mem_matching.mp listed).1 (earlier_iff.mp under)
    exact ⟨m', there, tied_of_rank_eq (rank_eq_of_fixed same)⟩
  obtain ⟨rows, finish, walks⟩ :
      ∃ rows finish, Walks Earlier (listedAt history.state moments q) (effectiveLimit q.limit).toNat 0
        start rows finish := walks_exists ranked known 0
  refine ⟨rows.map fromDBInApp, finish, ?_, history.readsStably_of_walks positive walks⟩
  intro all' finish'
  rw [history.traversal_iff_walks stored (Nat.zero_le _) owned positive.le]
  constructor
  · rintro ⟨rows', walks', rfl⟩
    obtain ⟨rfl, rfl⟩ := walks.unique walks'
    exact ⟨rfl, rfl⟩
  · rintro ⟨rfl, rfl⟩
    exact ⟨rows, walks, rfl⟩

end Whole

/-- A client that goes on with `after_id` from a stored message of its tenant, until a page is
    empty, reads stably: for every limit and both settings of `unread`, whatever is inserted above
    the start or marked as read meanwhile. -/
theorem InboxHandler.traversal_reads_stably (start : InAppRow) (history : History start)
    (moments : Schedule) (recipientID : String) (params : InboxParams)
    (stored : start ∈ (history.state 0).inapp.rows) :
    ∃ all finish,
      (∀ all' finish', Traversal history.state moments
        (fun id => InboxHandler.query start.tenantID recipientID { params with afterID := some id })
        0 start.id all' finish' ↔ all' = all ∧ finish' = finish) ∧
      ReadsStably history.state moments
        (InboxHandler.query start.tenantID recipientID { params with afterID := some start.id })
        start all finish :=
  history.readsStably moments stored rfl
    (InboxHandler.effectiveLimit_query start.tenantID recipientID
      { params with afterID := some start.id })

/-- A message comes in, then all are marked as read. -/
def arrival : InAppMessage := fromDBInApp { twin 3 with createdAt := 1 }

def twinsAndOne : Storage :=
  { twins with inapp := twins.inapp.insert ((InAppRepository.insertParams arrival).row 3 1) (by decide) }

def arrivalThenRead : History (twin 2) where
  state
    | 0 => twins
    | 1 => twinsAndOne
    | _ => markAllInAppMessagesRead twinsAndOne 7 "u1" 2
  step
    | 0 => @Activity.insert _ .up _ _ arrival arrival 3 1 rfl (by decide)
    | 1 => @Activity.markAllRead _ .up _ _ 7 "u1" 2 rfl
    | _ + 2 => .idle

def oneMomentEach : Schedule where
  lookup n := n
  listing n := n
  inOrder _ := le_rfl
  oneByOne n := Nat.le_succ n

theorem InboxHandler.traversal_reads_stably_during_arrival :
    twin 2 ∈ (arrivalThenRead.state 0).inapp.rows ∧
    ∃ all finish,
      (∀ all' finish', Traversal arrivalThenRead.state oneMomentEach
        (fun id => InboxHandler.query 7 "u1" ⟨"true", some 1, some id, none⟩)
        0 2 all' finish' ↔ all' = all ∧ finish' = finish) ∧
      ReadsStably arrivalThenRead.state oneMomentEach
        (InboxHandler.query 7 "u1" ⟨"true", some 1, some 2, none⟩) (twin 2) all finish := by
  have stored : twin 2 ∈ (arrivalThenRead.state 0).inapp.rows := by decide +kernel
  exact ⟨stored, InboxHandler.traversal_reads_stably (twin 2) arrivalThenRead oneMomentEach "u1"
    ⟨"true", some 1, none, none⟩ stored⟩

end NotifyHub
