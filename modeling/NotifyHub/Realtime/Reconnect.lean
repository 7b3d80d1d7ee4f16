import NotifyHub.Realtime.Delivery

/-! # What a reconnecting client gets to see

The history query and the subscription overlap: a message that was stored before the
query is in its answer, one that was published after the subscription is on its way
through the hub. The answer is cut at 200 messages, though, and those it leaves out
are seen only if they are still on their way when the query is made.
-/

namespace NotifyHub.Stream

/-! ## The answer to the query -/

/-- `(created_at, id)` above the cursor's. -/
def Above (cursor : InAppRow) (m : InAppMessage) : Prop :=
  cursor.createdAt < m.createdAt ∨
    cursor.createdAt = m.createdAt ∧ BitVec.toNat cursor.id < BitVec.toNat m.id

theorem fromDBInApp_injective : Function.Injective fromDBInApp := by
  intro a b same
  cases a
  cases b
  simpa [fromDBInApp] using same

section Query

variable {c : Session} {cursor : InAppRow} {m : InAppMessage} {store : Storage} {sinceID : UUID}

/-- What the query is meant to find. -/
def newer (c : Session) (cursor : InAppRow) (store : Storage) : List InAppMessage :=
  (newerThan store.inapp.rows c.tenantID c.recipientID cursor).map fromDBInApp

theorem mem_newer :
    m ∈ newer c cursor store ↔
      m ∈ store.inapp.rows.map fromDBInApp ∧ c.Owns m ∧ Above cursor m := by
  simp only [newer, newerThan, List.mem_map, List.mem_insertionSort, List.mem_filter, inInbox,
    Bool.and_eq_true, beq_iff_eq, decide_eq_true_eq]
  constructor
  · intro ⟨row, ⟨stored, owned, above⟩, same⟩
    subst same
    exact ⟨⟨row, stored, rfl⟩, owned, above⟩
  · intro ⟨⟨row, stored, same⟩, owned, above⟩
    subst same
    exact ⟨row, ⟨stored, owned, above⟩, rfl⟩

theorem newer_nodup (c : Session) (cursor : InAppRow) (store : Storage) :
    (newer c cursor store).Nodup := by
  apply List.Nodup.map fromDBInApp_injective
  exact (List.perm_insertionSort _ _).nodup_iff.mpr (store.inapp.nodup.filter _)

/-- What LIMIT 200 leaves out. -/
def cutOff (c : Session) (cursor : InAppRow) (s : State) : List InAppMessage :=
  (newer c cursor s.store).drop 200

theorem cutOff_eq_nil {s : State} (few : s.store.inapp.rows.length ≤ 200) :
    cutOff c cursor s = [] := by
  apply List.drop_eq_nil_of_le
  simp only [newer, newerThan, List.length_map, List.length_insertionSort]
  exact Nat.le_trans (List.length_filter_le _ _) few

/-- The cursor is found, and 200 messages after it. -/
theorem missed_eq (since : c.sinceID = some sinceID)
    (found : getInAppMessage store.inapp.rows sinceID c.tenantID = .ok cursor) :
    missed c store .up .up = (newer c cursor store).take 200 := by
  simp only [missed, since, InAppRepository.listSince, Conn.exec, found, wrapError]
  rw [newer, ← List.map_take]
  rfl

theorem cursor_kept {rows more : List InAppRow} {tenantID : UUID}
    (found : getInAppMessage rows sinceID tenantID = .ok cursor) :
    getInAppMessage (rows ++ more) sinceID tenantID = .ok cursor := by
  unfold getInAppMessage at found ⊢
  cases hit : rows.find? (inappAt sinceID tenantID) with
  | none => simp [hit] at found
  | some row => simpa [List.find?_append, hit] using found

end Query

/-! ## The history query of a run -/

/-- The run makes its history query in `q`. -/
def Queries (c : Session) (start : State) (labels : List Action) (q : State) : Prop :=
  ∃ before conn cursorConn after,
    labels = before ++ .history conn cursorConn :: after ∧ run c start before = some q

/-- The run publishes the message while the connection is subscribed. -/
def PublishesLive (c : Session) (start : State) (labels : List Action) (m : InAppMessage) : Prop :=
  ∃ before p ok after q address,
    labels = before ++ .publish p ok :: after ∧ run c start before = some q ∧
      q.stage ≠ .accepted ∧ q.calls[p]? = some (.publishing address m)

/-- A message that the client has a right to see: above the cursor, and stored before the
    query or published after the subscription. -/
def Required (c : Session) (cursor : InAppRow) (start : State) (labels : List Action)
    (m : InAppMessage) : Prop :=
  c.Owns m ∧ Above cursor m ∧
    ((∃ q, Queries c start labels q ∧ m ∈ q.store.inapp.rows.map fromDBInApp) ∨
      PublishesLive c start labels m)

section Runs

variable {c : Session} {cursor : InAppRow} {start s q : State} {labels : List Action}
  {sinceID : UUID}

/-- The run around its query. -/
structure Around (c : Session) (q s : State) (answer : List InAppMessage) : Prop where
  inv : Inv c q
  subscribed : ∃ ch, q.stage = .subscribed ch
  flow : ∃ after, Flow q after answer [] ∧ Inv c after ∧ after.Streaming ∧
    after.store = q.store ∧
    ∃ rest, Transition.Guarded (step c) Sound after rest ∧ run c after rest = some s

theorem around (inv : Inv c start) (since : c.sinceID = some sinceID)
    (stored : getInAppMessage start.store.inapp.rows sinceID c.tenantID = .ok cursor)
    (sound : Transition.Guarded (step c) Sound start labels)
    (finished : run c start labels = some s) (queries : Queries c start labels q) :
    Around c q s ((newer c cursor q.store).take 200) := by
  obtain ⟨before, conn, cursorConn, after, rfl, reached⟩ := queries
  have onward : run c q (.history conn cursorConn :: after) = some s :=
    (Transition.run_append reached _).symm.trans finished
  obtain ⟨next, taken, rest⟩ := Transition.run_cons_inv onward
  have soundAfter := sound.after reached
  have invQ : Inv c q := inv.run sound.before reached
  obtain ⟨rfl, rfl⟩ : conn = .up ∧ cursorConn = .up := soundAfter.1
  have invNext := invQ.step soundAfter.1 taken
  obtain ⟨more, grown⟩ := stored_run reached
  have found : getInAppMessage q.store.inapp.rows sinceID c.tenantID = .ok cursor := by
    rw [grown]
    exact cursor_kept stored
  cases step_move taken with
  | @queried _ _ ch here =>
      have flow := flow_queried (missed c q.store .up .up) here
      rw [missed_eq since found] at flow invNext taken rest
      exact ⟨invQ, ⟨ch, here⟩, _, flow, invNext, ⟨ch, _, rfl⟩, rfl, after, soundAfter.tail taken,
        rest⟩
  | writeFailed failed => simp at failed

/-- In flight at the query, or in its answer: either way it comes. -/
theorem Around.written {m : InAppMessage} {answer : List InAppMessage}
    (around : Around c q s answer) (settled : s.Settled) (owns : c.Owns m)
    (coming : m ∈ q.inFlight ∨ m ∈ answer) : m ∈ s.written := by
  obtain ⟨after, flow, inv, ⟨ch, left, here⟩, _, rest, sound, finished⟩ := around.flow
  have there : m ∈ after.content := by
    have before : m ∈ q.content ∨ m ∈ answer := by
      cases coming with
      | inl flying => exact .inl (by simp [State.content, flying])
      | inr answered => exact .inr answered
    simpa using (flow m).mp before
  have joined : after.stage ≠ .accepted := by simp [here]
  rw [← settled.content_eq]
  exact content_run inv joined owns sound finished there

/-- Neither in flight at the query nor in its answer: it never comes. -/
theorem Around.absent {m : InAppMessage} {answer : List InAppMessage}
    (around : Around c q s answer) (stored : m.id ∈ q.store.inapp.rows.map (·.id))
    (grounded : m ∉ q.inFlight) (missing : m ∉ answer) : m ∉ s.written := by
  obtain ⟨after, flow, inv, streaming, store, rest, sound, finished⟩ := around.flow
  obtain ⟨ch, here⟩ := around.subscribed
  have unwritten : q.written = [] := by
    have wired := around.inv.wired
    rw [here] at wired
    simp [State.written, wired.2.1]
  have unlisted : q.left = [] := by simp [State.left, here]
  have absent : m ∉ after.content := by
    intro there
    have before := (flow m).mpr (.inl there)
    simp [State.content, unwritten, unlisted, grounded, missing] at before
  intro written
  refine absent_run inv streaming (store ▸ stored) sound finished absent ?_
  simp [State.content, written]

theorem stored_le_of_queries (finished : run c start labels = some s)
    (queries : Queries c start labels q) :
    q.store.inapp.rows.length ≤ s.store.inapp.rows.length := by
  obtain ⟨before, conn, cursorConn, after, rfl, reached⟩ := queries
  rw [run, Transition.run_append reached] at finished
  obtain ⟨more, grown⟩ := stored_run finished
  rw [grown, List.length_append]
  omega

end Runs

/-! ## The guarantee -/

/-- The parties can always finish what they have begun, and when they have, the client
    has seen all it has a right to if and only if what the LIMIT cut off was still in
    flight at the query. -/
theorem reconnect_complete_iff (tenantID : UUID) (recipientID : String) (sinceID : UUID)
    (store : Storage) (bufSize : Int) (cursor : InAppRow) (labels : List Action) (s : State)
    (stored : getInAppMessage store.inapp.rows sinceID tenantID = .ok cursor)
    (finished : run ⟨tenantID, recipientID, some sinceID⟩ (initial store bufSize) labels = some s)
    (sound : Transition.Guarded (step ⟨tenantID, recipientID, some sinceID⟩) Sound
      (initial store bufSize) labels) :
    (∃ rest last,
      Transition.Guarded (step ⟨tenantID, recipientID, some sinceID⟩) Finishing s rest ∧
        run ⟨tenantID, recipientID, some sinceID⟩ s rest = some last ∧ last.Settled) ∧
    (s.Settled →
      ((∀ m, Required ⟨tenantID, recipientID, some sinceID⟩ cursor (initial store bufSize) labels m →
          m ∈ s.written) ↔
        ∀ q, Queries ⟨tenantID, recipientID, some sinceID⟩ (initial store bufSize) labels q →
          ∀ m ∈ cutOff ⟨tenantID, recipientID, some sinceID⟩ cursor q, m ∈ q.inFlight)) := by
  have inv := Inv.initial ⟨tenantID, recipientID, some sinceID⟩ store bufSize
  refine ⟨settles (inv.run sound finished), ?_⟩
  intro settled
  constructor
  · intro all q queries m cut
    have near := around inv rfl stored sound finished queries
    have wanted := mem_newer.mp (List.mem_of_mem_drop cut)
    have seen : m ∈ s.written := all m ⟨wanted.2.1, wanted.2.2, .inl ⟨q, queries, wanted.1⟩⟩
    by_contra grounded
    have missing : m ∉ (newer ⟨tenantID, recipientID, some sinceID⟩ cursor q.store).take 200 := by
      intro answered
      have apart := newer_nodup ⟨tenantID, recipientID, some sinceID⟩ cursor q.store
      rw [← List.take_append_drop 200 (newer _ _ _)] at apart
      exact List.disjoint_of_nodup_append apart answered cut
    have known : m.id ∈ q.store.inapp.rows.map (·.id) := by
      obtain ⟨row, member, rfl⟩ := List.mem_map.mp wanted.1
      exact List.mem_map.mpr ⟨row, member, rfl⟩
    exact near.absent known grounded missing seen
  · intro flying m required
    obtain ⟨owns, above, cause⟩ := required
    cases cause with
    | inl before =>
        obtain ⟨q, queries, known⟩ := before
        have near := around inv rfl stored sound finished queries
        have wanted := mem_newer.mpr ⟨known, owns, above⟩
        rw [← List.take_append_drop 200 (newer _ _ _)] at wanted
        apply near.written settled owns
        cases List.mem_append.mp wanted with
        | inl answered => exact .inr answered
        | inr cut => exact .inl (flying q queries m cut)
    | inr live =>
        obtain ⟨before, p, ok, after, q, address, rfl, reached, joined, calling⟩ := live
        have onward : run ⟨tenantID, recipientID, some sinceID⟩ q (.publish p ok :: after) = some s :=
          (Transition.run_append reached _).symm.trans finished
        have there : m ∈ q.content := by
          have unpublished : m ∈ q.unpublished :=
            List.mem_flatMap.mpr ⟨_, List.mem_of_getElem? calling, List.mem_singleton.mpr rfl⟩
          simp [State.content, State.inFlight, unpublished]
        rw [← settled.content_eq]
        exact content_run (inv.run sound.before reached) joined owns (sound.after reached) onward
          there

/-! ## A short and a long absence -/

def acme : UUID := 1

/-- The order that the messages are about. -/
def order : NotificationRow :=
  { id := 7
    tenantID := some acme
    idempotencyKey := none
    type := "order"
    channel := .inapp
    recipientID := "alice"
    recipientAddress := none
    templateID := none
    payload := [("title", .str "Order"), ("body", .str "On its way")]
    priority := 5
    status := .processing
    scheduledAt := none
    createdAt := 0
    updatedAt := 0 }

/-- The same as the provider gets it. -/
def notice : Notification :=
  { id := order.id
    tenantID := acme
    idempotencyKey := none
    type := order.type
    channel := order.channel
    recipientID := order.recipientID
    recipientAddress := ""
    templateID := none
    payload := order.payload
    priority := order.priority
    status := order.status
    scheduledAt := none
    createdAt := order.createdAt
    updatedAt := order.updatedAt }

def shopFloor : Database := (Database.ofTenants [acme]).addNotification order (by decide)

/-- Message number `k`, stored at time `k`. -/
def letter (k : Nat) : InAppRow :=
  { id := BitVec.ofNat 128 k
    tenantID := acme
    notificationID := none
    recipientID := "alice"
    title := "Order"
    body := "On its way"
    payload := []
    readAt := none
    createdAt := k }

theorem letter_ids {n : Nat} (small : n ≤ 2 ^ 128) :
    Rows.UniqueOn (fun row : InAppRow => some row.id) ((List.range n).map letter) := by
  rw [Rows.uniqueOn_some, List.map_map]
  exact UUID.nodup_numbered small

/-- The letters 0 to `n - 1` are stored. -/
def inboxOf (n : Nat) (small : n ≤ 2 ^ 128) : Storage :=
  { Storage.ofCore shopFloor with
    inapp :=
      { rows := (List.range n).map letter
        pkey := letter_ids small
        unique := .of_null fun _ _ => rfl
        valid := by
          intro row member
          obtain ⟨k, _, rfl⟩ := List.mem_map.mp member
          exact ⟨List.mem_singleton.mpr rfl, nofun⟩ } }

def alice : Session := ⟨acme, "alice", some 0⟩

/-- A message comes while the history is being written. -/
def shortVisit : List Action :=
  [.subscribe, .history .up .up, .insert .up notice 50 10, .publish 0 true,
    .forward, .hub (.range 0), .writeHistory true, .hub (.pick 0 0), .hub (.send 0),
    .hub (.finish 0), .writeHistory true, .receive true]

theorem short_absence_complete :
    ∃ s, run alice (initial (inboxOf 3 (by decide)) 0) shortVisit = some s ∧ s.Settled ∧
      ∀ m, Required alice (letter 0) (initial (inboxOf 3 (by decide)) 0) shortVisit m →
        m ∈ s.written := by
  have ends : (run alice (initial (inboxOf 3 (by decide)) 0) shortVisit).map (fun s =>
      decide (s.Settled ∧ s.store.inapp.rows.length ≤ 200)) = some true := by decide +kernel
  obtain ⟨s, finished, reached⟩ := Option.map_eq_some_iff.mp ends
  obtain ⟨settled, few⟩ := of_decide_eq_true reached
  refine ⟨s, finished, settled, ?_⟩
  apply ((reconnect_complete_iff acme "alice" 0 (inboxOf 3 (by decide)) 0 (letter 0) shortVisit s
    rfl finished (by decide +kernel)).2 settled).mpr
  intro q queries m cut
  rw [cutOff_eq_nil (Nat.le_trans (stored_le_of_queries finished queries) few)] at cut
  cases cut

/-- 201 messages are waiting. -/
def longVisit : List Action :=
  .subscribe :: .history .up .up :: List.replicate 200 (.writeHistory true)

/-- The newest of 201 messages is in no frame, and no longer on its way. -/
theorem long_absence_loses :
    ∃ s, run alice (initial (inboxOf 202 (by decide)) 0) longVisit = some s ∧ s.Settled ∧
      Transition.Guarded (step alice) Sound (initial (inboxOf 202 (by decide)) 0) longVisit ∧
      getInAppMessage (inboxOf 202 (by decide)).inapp.rows 0 acme = .ok (letter 0) ∧
      Required alice (letter 0) (initial (inboxOf 202 (by decide)) 0) longVisit
        (fromDBInApp (letter 201)) ∧
      fromDBInApp (letter 201) ∉ s.written := by
  have ends : (run alice (initial (inboxOf 202 (by decide)) 0) longVisit).map (fun s =>
      decide (s.Settled ∧ fromDBInApp (letter 201) ∉ s.written)) = some true := by decide +kernel
  obtain ⟨s, finished, reached⟩ := Option.map_eq_some_iff.mp ends
  obtain ⟨settled, lost⟩ := of_decide_eq_true reached
  have known : fromDBInApp (letter 201) ∈
      (inboxOf 202 (by decide)).inapp.rows.map fromDBInApp :=
    List.mem_map.mpr ⟨letter 201, List.mem_map.mpr ⟨201, List.mem_range.mpr (by decide), rfl⟩, rfl⟩
  have queried : ∃ q, Queries alice (initial (inboxOf 202 (by decide)) 0) longVisit q ∧
      q.store = inboxOf 202 (by decide) :=
    ⟨_, ⟨[.subscribe], .up, .up, List.replicate 200 (.writeHistory true), rfl, rfl⟩, rfl⟩
  obtain ⟨q, queries, store⟩ := queried
  refine ⟨s, finished, settled, by decide +kernel, by decide +kernel, ?_, lost⟩
  exact ⟨⟨rfl, rfl⟩, .inl (by decide), .inl ⟨q, queries, by rw [store]; exact known⟩⟩

end NotifyHub.Stream
