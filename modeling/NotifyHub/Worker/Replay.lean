import NotifyHub.Lifecycle.System
import NotifyHub.Stores.DeadLetterRepository
import NotifyHub.Wire
import NotifyHub.Worker.CommitOrder

/-! # Dead letters and their replay

A message that fails for good leaves the Processor in an envelope, goes over the DLQ
topic into `dead_letter_messages` and comes back with `DLQHandler.Replay`. The message
is encoded three times on the way and its topic and ids are kept twice, in the envelope
and in columns of the row.
-/

namespace NotifyHub

open Lifecycle (Config Answer Shared closingStep replayed)

def dlqTopicForChannel (ch : Channel) : String := topicForChannel ch ++ ".dlq"

def Producer.publishDLQ (msg : DLQMessage) : Option (Publication String) :=
  msg.marshal.map fun payload =>
    { topic := dlqTopicForChannel msg.original.channel
      key := msg.original.recipientID
      value := payload }

/-- Falls back to an error payload, with the time of the failure. -/
def mustMarshal (dlq : DLQMessage) (now : Time) : String :=
  dlq.marshal.getD ("\x7b\"error\":\"marshal failed\",\"ts\":\"" ++
    String.ofList ((Calendar.write (now / second * second)).getD []) ++ "\"\x7d")

/-- The literal of `DLQConsumer.Run`; what it leaves out has its zero value. -/
def DLQConsumer.domainMsg (dlq : DLQMessage) (now : Time) : DeadLetterMessage :=
  { id := UUID.zero
    tenantID := dlq.original.tenantID
    notificationID := dlq.original.notificationID
    channel := dlq.original.channel
    originalTopic := dlq.originalTopic
    payload := mustMarshal dlq now
    failureReason := dlq.failureReason
    errorMessage := dlq.errorMessage
    attempts := dlq.lastAttempt
    replayedAt := none
    createdAt := zeroTime }

/-- One iteration of `DLQConsumer.Run` on a raw message, at one reading of the clock. On an
    error the offset is not committed; a message that does not decode is committed and skipped. -/
def DLQConsumer.handle (conn : Conn) (s : Storage) (raw : String) (id : UUID) (now : Time) :
    Except Err (Option DeadLetterMessage × Storage) :=
  match DLQMessage.unmarshal raw with
  | none => .ok (none, s)
  | some dlq =>
      match DeadLetterRepository.create conn s (DLQConsumer.domainMsg dlq now) id now with
      | .error e => .error e
      | .ok (record, s') => .ok (some record, s')

/-! ## `DLQHandler.Replay` -/

/-- `errors.As(err, &appErr)`. -/
def Err.asApp : Err → Option AppError
  | .app e => some e
  | .plain _ => none
  | .wrap _ inner => inner.asApp

def toAppError (err : Err) : AppError :=
  err.asApp.getD (newInternalError "an unexpected error occurred")

/-- `err.Error()`. -/
def Err.text : Err → String
  | .app e => e.message
  | .plain msg => msg
  | .wrap context inner => context ++ ": " ++ inner.text

inductive ReplayResponse where
  | refused (e : AppError)
  | replayed (warning : Option String)
  deriving Repr, DecidableEq

/-- What the calls of a Replay meet: the lookup, the clock, the publish, and the mark. -/
structure ReplayCalls where
  lookup : Conn
  now : Time
  broker : Option String
  mark : Conn
  markedAt : Time
  deriving Repr, DecidableEq

/-- The message that is published again. -/
def DLQHandler.original (maxAttempts : Int) (dlqMsg : DLQMessage) (now : Time) : Message :=
  { dlqMsg.original with attempt := 1, maxAttempts := maxAttempts, enqueuedAt := now }

/-- The response, what was published, and the storage after the call. -/
def DLQHandler.replay (maxAttempts : Int) (calls : ReplayCalls) (s : Storage) (tenantID id : UUID) :
    ReplayResponse × List (Publication String) × Storage :=
  match DeadLetterRepository.getByID calls.lookup s tenantID id with
  | .error e => (.refused (toAppError e), [], s)
  | .ok msg =>
      match DLQMessage.unmarshal msg.payload with
      | none => (.refused (newInternalError "failed to parse dlq payload"), [], s)
      | some dlqMsg =>
          let original := DLQHandler.original maxAttempts dlqMsg calls.now
          match original.marshal, calls.broker with
          | none, _ => (.refused (newInternalError "failed to marshal replay message"), [], s)
          | some _, some _ => (.refused (newInternalError "failed to publish replay"), [], s)
          | some payload, none =>
              let published : Publication String :=
                { topic := dlqMsg.originalTopic
                  key := original.recipientID
                  value := payload }
              match DeadLetterRepository.markReplayed calls.mark s tenantID id calls.markedAt with
              | .error e =>
                  (.replayed (some ("mark_replayed failed: " ++ e.text)), [published], s)
              | .ok s' => (.replayed none, [published], s')

namespace Replay

/-! ## The table between the two -/

/-- Other consumers, replays and deletions, of any tenants. -/
inductive Label where
  | consume (raw : String) (conn : Conn) (id : UUID) (now : Time)
  | replay (tenantID id : UUID) (calls : ReplayCalls)
  | delete (tenantID id : UUID) (conn : Conn)

def step (maxAttempts : Int) (s : Storage) : Label → Option Storage
  | .consume raw conn id now =>
      match DLQConsumer.handle conn s raw id now with
      | .error _ => some s
      | .ok (_, s') => some s'
  | .replay tenantID id calls => some (DLQHandler.replay maxAttempts calls s tenantID id).2.2
  | .delete tenantID id conn =>
      match DeadLetterRepository.delete conn s tenantID id with
      | .error _ => some s
      | .ok s' => some s'

/-- The record is stored, except perhaps for the time of its last replay. -/
def Kept (record : DeadLetterMessage) (s : Storage) : Prop :=
  ∃ row ∈ s.deadLetters.rows,
    fromDBDeadLetter row = { record with replayedAt := row.replayedAt }

section Steps

variable {maxAttempts : Int} {s s' : Storage} {record : DeadLetterMessage}
  {tenantID id : UUID} {conn : Conn} {now : Time}

theorem create_stores {msg : DeadLetterMessage}
    (created : DeadLetterRepository.create conn s msg id now = .ok (record, s')) :
    ∃ payload, Json.jsonbText msg.payload = some payload ∧
      record = fromDBDeadLetter (deadLetterRow { msg with payload := payload } id now) ∧
      s'.deadLetters.rows =
        s.deadLetters.rows ++ [deadLetterRow { msg with payload := payload } id now] := by
  cases conn with
  | down => simp [DeadLetterRepository.create, Conn.exec, wrapError] at created
  | up =>
      simp only [DeadLetterRepository.create, Conn.exec, createDeadLetter, insertRow] at created
      cases storable : Json.jsonbText msg.payload with
      | none => simp [storable, wrapError] at created
      | some payload =>
          by_cases accepted :
              s.deadLetters.Accepts (deadLetterRow { msg with payload := payload } id now)
          · simp only [storable, accepted, dif_pos, wrapError, Except.ok.injEq, Prod.mk.injEq]
              at created
            obtain ⟨rfl, rfl⟩ := created
            exact ⟨payload, rfl, rfl, rfl⟩
          · simp [storable, accepted, wrapError] at created

/-- What one iteration of the consumer does to the table. -/
theorem handle_stores {raw : String} {found : Option DeadLetterMessage}
    (handled : DLQConsumer.handle conn s raw id now = .ok (found, s')) :
    found = none ∧ s' = s ∨
      ∃ dlq payload, DLQMessage.unmarshal raw = some dlq ∧
        Json.jsonbText (mustMarshal dlq now) = some payload ∧
        found = some (fromDBDeadLetter
          (deadLetterRow { DLQConsumer.domainMsg dlq now with payload := payload } id now)) ∧
        s'.deadLetters.rows = s.deadLetters.rows ++
          [deadLetterRow { DLQConsumer.domainMsg dlq now with payload := payload } id now] := by
  unfold DLQConsumer.handle at handled
  cases decoded : DLQMessage.unmarshal raw with
  | none =>
      simp only [decoded, Except.ok.injEq, Prod.mk.injEq] at handled
      exact .inl ⟨handled.1.symm, handled.2.symm⟩
  | some dlq =>
      simp only [decoded] at handled
      cases created : DeadLetterRepository.create conn s (DLQConsumer.domainMsg dlq now) id now with
      | error e => simp [created] at handled
      | ok result =>
          obtain ⟨payload, storable, same, rows⟩ := create_stores created
          simp only [created, Except.ok.injEq, Prod.mk.injEq] at handled
          obtain ⟨rfl, rfl⟩ := handled
          exact .inr ⟨dlq, payload, rfl, storable, congrArg some same, rows⟩

theorem handle_of_accepts {raw payload : String} {dlq : DLQMessage}
    (decoded : DLQMessage.unmarshal raw = some dlq)
    (storable : Json.jsonbText (mustMarshal dlq now) = some payload)
    (accepted : s.deadLetters.Accepts
      (deadLetterRow { DLQConsumer.domainMsg dlq now with payload := payload } id now)) :
    ∃ s', DLQConsumer.handle .up s raw id now = .ok (some (fromDBDeadLetter
      (deadLetterRow { DLQConsumer.domainMsg dlq now with payload := payload } id now)), s') := by
  have column : Json.jsonbText (DLQConsumer.domainMsg dlq now).payload = some payload := storable
  simp only [DLQConsumer.handle, decoded, DeadLetterRepository.create, Conn.exec, createDeadLetter,
    column, insertRow, accepted, dif_pos, wrapError]
  exact ⟨_, rfl⟩

/-- A replay is refused and does nothing, or it publishes one message and tries to stamp the row. -/
theorem replay_cases (maxAttempts : Int) (calls : ReplayCalls) (s : Storage) (tenantID id : UUID) :
    (∃ e, DLQHandler.replay maxAttempts calls s tenantID id = (.refused e, [], s)) ∨
      ∃ out, (∃ warning,
          DLQHandler.replay maxAttempts calls s tenantID id = (.replayed (some warning), [out], s)) ∨
        ∃ s', DeadLetterRepository.markReplayed calls.mark s tenantID id calls.markedAt = .ok s' ∧
          DLQHandler.replay maxAttempts calls s tenantID id = (.replayed none, [out], s') := by
  unfold DLQHandler.replay
  split
  · exact .inl ⟨_, rfl⟩
  · split
    · exact .inl ⟨_, rfl⟩
    · rename_i dlq _
      dsimp only
      cases (DLQHandler.original maxAttempts dlq calls.now).marshal with
      | none => exact .inl ⟨_, rfl⟩
      | some payload =>
          cases calls.broker with
          | some down => exact .inl ⟨_, rfl⟩
          | none =>
              cases DeadLetterRepository.markReplayed calls.mark s tenantID id calls.markedAt with
              | error e => exact .inr ⟨_, .inl ⟨_, rfl⟩⟩
              | ok s' => exact .inr ⟨_, .inr ⟨s', rfl, rfl⟩⟩

/-- A replay stamps the row it is about, or changes nothing. -/
theorem replay_storage (calls : ReplayCalls) :
    (DLQHandler.replay maxAttempts calls s tenantID id).2.2 = s ∨
      (DLQHandler.replay maxAttempts calls s tenantID id).2.2 =
        markDeadLetterReplayed s id tenantID calls.markedAt := by
  rcases replay_cases maxAttempts calls s tenantID id with
    ⟨e, same⟩ | ⟨out, ⟨warning, same⟩ | ⟨s', marked, same⟩⟩
  · exact .inl (congrArg (·.2.2) same)
  · exact .inl (congrArg (·.2.2) same)
  · cases up : calls.mark with
    | down => simp [DeadLetterRepository.markReplayed, up, Conn.exec, wrapError] at marked
    | up =>
        rw [up] at marked
        exact .inr ((congrArg (·.2.2) same).trans (Except.ok.inj marked).symm)

theorem Kept.mark (kept : Kept record s) : Kept record (markDeadLetterReplayed s id tenantID now) := by
  obtain ⟨row, stored, same⟩ := kept
  by_cases hit : deadLetterAt id tenantID row = true
  · refine ⟨{ row with replayedAt := some now }, ?_, ?_⟩
    · exact Rows.mem_updateWhere.mpr ⟨row, stored, by simp only [hit, if_true]; rfl⟩
    · have stamped := congrArg (fun m => { m with replayedAt := some now }) same
      exact stamped
  · exact ⟨row, Rows.mem_updateWhere.mpr ⟨row, stored, by simp [hit]⟩, same⟩

theorem kept_step {label : Label} (kept : Kept record s)
    (spared : ∀ conn, label ≠ .delete record.tenantID record.id conn)
    (taken : step maxAttempts s label = some s') : Kept record s' := by
  cases label with
  | consume raw conn id now =>
      simp only [step] at taken
      cases handled : DLQConsumer.handle conn s raw id now with
      | error e =>
          simp only [handled, Option.some.injEq] at taken
          exact taken ▸ kept
      | ok result =>
          simp only [handled, Option.some.injEq] at taken
          subst taken
          rcases handle_stores handled with ⟨_, same⟩ | ⟨dlq, payload, _, _, _, rows⟩
          · exact same ▸ kept
          · obtain ⟨row, stored, same⟩ := kept
            exact ⟨row, rows ▸ List.mem_append_left _ stored, same⟩
  | replay tenantID id calls =>
      obtain rfl := Option.some.inj taken
      rcases replay_storage calls with same | marked
      · exact same ▸ kept
      · exact marked ▸ kept.mark
  | delete tenantID id conn =>
      cases conn with
      | down =>
          obtain rfl := Option.some.inj taken
          exact kept
      | up =>
          obtain rfl := Option.some.inj taken
          obtain ⟨row, stored, same⟩ := kept
          refine ⟨row, List.mem_filter.mpr ⟨stored, ?_⟩, same⟩
          -- the row has the record's id and tenant, which this deletion is not about
          have rowID : row.id = record.id := congrArg DeadLetterMessage.id same
          have rowTenant : row.tenantID = record.tenantID := congrArg DeadLetterMessage.tenantID same
          simp only [deadLetterAt, rowID, rowTenant, Bool.not_eq_true', Bool.and_eq_false_iff,
            beq_eq_false_iff_ne]
          by_contra both
          simp only [not_or, not_not] at both
          obtain ⟨rfl, rfl⟩ := both
          exact spared .up rfl

/-- The lookup of a kept record finds it. -/
theorem Kept.lookup (kept : Kept record s) :
    ∃ at_, DeadLetterRepository.getByID .up s record.tenantID record.id =
      .ok { record with replayedAt := at_ } := by
  obtain ⟨row, stored, same⟩ := kept
  have rowID : row.id = record.id := congrArg DeadLetterMessage.id same
  have rowTenant : row.tenantID = record.tenantID := congrArg DeadLetterMessage.tenantID same
  have found : s.deadLetters.rows.find? (deadLetterAt record.id record.tenantID) = some row := by
    cases found : s.deadLetters.rows.find? (deadLetterAt record.id record.tenantID) with
    | none =>
        have missed := List.find?_eq_none.mp found row stored
        simp [deadLetterAt, rowID, rowTenant] at missed
    | some other =>
        have hit := List.find?_some found
        simp only [deadLetterAt, Bool.and_eq_true, beq_iff_eq] at hit
        have unique := s.deadLetters.pkey.eq_of_mem (List.mem_of_find?_eq_some found) stored rfl
          (congrArg some (rowID.trans hit.1.symm))
        rw [unique]
  refine ⟨row.replayedAt, ?_⟩
  simp only [DeadLetterRepository.getByID, Conn.exec, getDeadLetterByID, found, wrapError, same]

/-- A replay of a kept record publishes its message, if anything. -/
theorem replay_publishes (maxAttempts : Int) (calls : ReplayCalls) {dlq : DLQMessage}
    (kept : Kept record s)
    (payload : DLQMessage.unmarshal record.payload = some dlq) :
    (∀ out ∈ (DLQHandler.replay maxAttempts calls s record.tenantID record.id).2.1,
      out.topic = dlq.originalTopic ∧ out.key = dlq.original.recipientID ∧
        (DLQHandler.original maxAttempts dlq calls.now).marshal = some out.value) ∧
      (calls.lookup = .up → calls.broker = none →
        (DLQHandler.original maxAttempts dlq calls.now).marshal.isSome = true →
        ∃ warning out, (DLQHandler.replay maxAttempts calls s record.tenantID record.id).1 =
            .replayed warning ∧
          (DLQHandler.replay maxAttempts calls s record.tenantID record.id).2.1 = [out]) := by
  cases up : calls.lookup with
  | down => simp [DLQHandler.replay, DeadLetterRepository.getByID, up, Conn.exec, wrapError]
  | up =>
      obtain ⟨at_, found⟩ := kept.lookup
      simp only [DLQHandler.replay, up, found, payload]
      cases (DLQHandler.original maxAttempts dlq calls.now).marshal with
      | none => simp
      | some value =>
          cases calls.broker with
          | some down => simp
          | none =>
              cases DeadLetterRepository.markReplayed calls.mark s record.tenantID record.id
                  calls.markedAt <;>
                simp [DLQHandler.original]

/-- What the Processor puts into the DLQ. -/
theorem deadLetter_publishes {cfg : Config} {a : Answer} {m : Message} {n : Notification}
    {sh : Shared} {reason errMsg : String} {dlq : DLQMessage}
    (published : (closingStep cfg a m n sh (.deadLetter reason errMsg)).dlq = sh.dlq ++ [dlq]) :
    m = dlq.original ∧ dlq.originalTopic = topicForChannel m.channel ∧ dlq.lastAttempt = m.attempt := by
  simp only [closingStep] at published
  split at published
  · obtain rfl := List.singleton_inj.mp (List.append_cancel_left published)
    exact ⟨rfl, rfl, rfl⟩
  · simp at published

end Steps

/-- A message that the Processor dead-letters and the consumer stores comes back from a
    replay as it was, for any number of attempts from the first, whatever other dead
    letters were stored, replayed and deleted in between. Of the encodings only those of the
    values in the payload are assumed to lose nothing. -/
theorem dead_letter_round_trip (maxAttempts : Int) (limit : -2 ^ 63 ≤ maxAttempts ∧ maxAttempts < 2 ^ 63)
    (cfg : Config) (a : Answer) (m : Message) (valid : m.channel.isValid = true)
    (payload : m.payload.RoundTrips) (fits : m.Fits) (n : Notification) (sh : Shared)
    (reason errMsg : String) (dlq : DLQMessage)
    (lettered : (closingStep cfg a m n sh (.deadLetter reason errMsg)).dlq = sh.dlq ++ [dlq])
    (publication : Publication String) (published : Producer.publishDLQ dlq = some publication)
    (conn : Conn) (storage storage' : Storage) (id : UUID) (created : Time)
    (record : DeadLetterMessage)
    (persisted : DLQConsumer.handle conn storage publication.value id created =
      .ok (some record, storage'))
    (labels : List Label) (later : Storage)
    (elapsed : Transition.run (step maxAttempts) storage' labels = some later)
    (spared : ∀ label ∈ labels, ∀ conn, label ≠ .delete record.tenantID record.id conn)
    (calls : ReplayCalls) :
    (∃ row ∈ storage'.deadLetters.rows, fromDBDeadLetter row = record) ∧
      record.tenantID = m.tenantID ∧ record.notificationID = m.notificationID ∧
      record.channel = m.channel ∧
      (∀ out ∈ (DLQHandler.replay maxAttempts calls later record.tenantID record.id).2.1,
        out.topic = topicForChannel m.channel ∧ out.key = m.recipientID ∧
          Message.unmarshal out.value =
            some { m with attempt := 1, maxAttempts := maxAttempts, enqueuedAt := calls.now }) ∧
      (calls.lookup = .up → calls.broker = none → (Calendar.write calls.now).isSome = true →
        ∃ warning out,
          (DLQHandler.replay maxAttempts calls later record.tenantID record.id).1 =
            .replayed warning ∧
          (DLQHandler.replay maxAttempts calls later record.tenantID record.id).2.1 = [out]) := by
  obtain ⟨original, topic, attempt⟩ := deadLetter_publishes lettered
  obtain ⟨text, written, rfl⟩ := Option.map_eq_some_iff.mp published
  subst original
  have attempts : -2 ^ 63 ≤ dlq.lastAttempt ∧ dlq.lastAttempt < 2 ^ 63 := attempt ▸ fits.2.1
  obtain ⟨back, stored⟩ := dlq_unmarshal_marshal valid payload fits attempts written
  rcases handle_stores persisted with ⟨missing, _⟩ | ⟨other, column, decoded, storable, same, rows⟩
  · simp at missing
  · rw [back] at decoded
    obtain rfl := Option.some.inj decoded
    obtain rfl := Option.some.inj same
    rw [mustMarshal, written, Option.getD_some] at storable
    let row := deadLetterRow { DLQConsumer.domainMsg dlq created with payload := column } id created
    have there : row ∈ storage'.deadLetters.rows := by simp [row, rows]
    have kept : Kept (fromDBDeadLetter row) later :=
      Transition.Guarded.invariant
        (fun _ _ _ kept spared taken => kept_step kept spared.1 taken)
        ⟨_, there, rfl⟩
        (Transition.Guarded.and_labels spared (Transition.guarded_true labels storage')) elapsed
    obtain ⟨sent, answered⟩ := replay_publishes maxAttempts calls kept (stored column storable)
    refine ⟨⟨row, there, rfl⟩, rfl, rfl, rfl, ?_, ?_⟩
    · intro out member
      obtain ⟨sentTo, key, value⟩ := sent out member
      refine ⟨sentTo.trans topic, key, ?_⟩
      have whole : (DLQHandler.original maxAttempts dlq calls.now).Fits :=
        ⟨fits.1, by simp [DLQHandler.original], limit⟩
      exact message_unmarshal_marshal (m := DLQHandler.original maxAttempts dlq calls.now) valid
        payload whole value
    · intro reads writes inRange
      have encodable := (isSome_marshal.mp (isSome_original written)).1
      exact answered reads writes (isSome_marshal.mpr ⟨encodable, inRange⟩)

def greeting : Notification :=
  { id := 1
    tenantID := 1
    idempotencyKey := none
    type := "welcome"
    channel := .email
    recipientID := "u1"
    recipientAddress := "u1@example.com"
    templateID := none
    payload := []
    priority := 5
    status := .processing
    scheduledAt := none
    createdAt := 0
    updatedAt := 0 }

/-- `12.5`. -/
def amount : Json := .num ⟨['1', '2', '.', '5'], by decide, by decide⟩

def items : Json := .arr [.str "<tea>", .null]

/-- With a number, a list and texts that have to be escaped. -/
def order : Message :=
  { CommitOrder.hello with
    payload := [("amount", .other "12.5"), ("items", .other "[\"\\u003ctea\\u003e\",null]"),
      ("name", .str "Zoë")]
    templateID := some 9 }

def bounced : DLQMessage :=
  { original := order
    originalTopic := topicForChannel .email
    failureReason := "permanent"
    errorMessage := "mailbox \"unknown\""
    lastAttempt := 1
    deadLetteredAt := 0 }

theorem order_roundTrips : order.payload.RoundTrips where
  ordered := by decide +kernel
  values := by
    have spelled : Json.goStyle.text amount = "12.5" ∧
        Json.goStyle.text items = "[\"\\u003ctea\\u003e\",null]" := by
      decide +kernel
    have number : (Value.other "12.5").RoundTrips := by
      rw [← spelled.1]
      exact Value.roundTrips_other (fun i via => Json.via_num via) (by decide +kernel) nofun
    have list : (Value.other "[\"\\u003ctea\\u003e\",null]").RoundTrips := by
      rw [← spelled.2]
      refine Value.roundTrips_other (fun i via => ?_) (by decide +kernel) nofun
      rcases via with same | stored
      · exact same
      · have kept : items.jsonb = some items := rfl
        exact Option.some.inj (stored.symm.trans kept)
    simp only [order, List.forall_mem_cons]
    exact ⟨number, list, Value.roundTrips_str _, by simp⟩

theorem bounced_storable : ((dlqRecord.encode bounced).bind Json.jsonb).isSome = true := by
  decide +kernel

/-- A permanent failure, stored, replayed by somebody, and replayed again. -/
theorem hello_again :
    ∃ (record : DeadLetterMessage) (later : Storage) (out : Publication String),
      record.tenantID = 1 ∧
      (DLQHandler.replay 3 ⟨.up, 90, none, .up, 91⟩ later record.tenantID record.id).2.1 = [out] ∧
      out.topic = topicForChannel .email ∧ out.key = "u1" ∧
      Message.unmarshal out.value =
        some { order with attempt := 1, maxAttempts := 3, enqueuedAt := 90 } := by
  let sh := Lifecycle.deployed.shared
  have lettered : (closingStep Lifecycle.plain {} order greeting sh
      (.deadLetter "permanent" "mailbox \"unknown\"")).dlq = sh.dlq ++ [bounced] := rfl
  obtain ⟨i, kept⟩ := Option.isSome_iff_exists.mp bounced_storable
  obtain ⟨j, encoded, normal⟩ := Option.bind_eq_some_iff.mp kept
  have written : bounced.marshal = some (Json.goStyle.text j) := by
    rw [DLQMessage.marshal, encoded, Option.map_some]
  have fits : order.Fits := by decide
  obtain ⟨decoded, _⟩ := dlq_unmarshal_marshal (d := bounced) rfl order_roundTrips fits (by decide) written
  have storable : Json.jsonbText (mustMarshal bounced 0) = some (Json.postgresStyle.text i) := by
    rw [mustMarshal, written, Option.getD_some, Json.jsonbText, Json.parse_text, Option.bind_some,
      normal, Option.map_some]
  have known : (1 : UUID) ∈ (Database.ofTenants [1]).tenants := by decide
  obtain ⟨storage, persisted⟩ := handle_of_accepts (s := Storage.ofCore (.ofTenants [1])) decoded storable
    ⟨by simp [Storage.ofCore, Rows.Table.empty], by simp [noKey], known⟩
  obtain ⟨_, tenant, _, _, sent, answered⟩ :=
    dead_letter_round_trip 3 (by decide) Lifecycle.plain {} order rfl order_roundTrips fits greeting sh
      "permanent" "mailbox \"unknown\"" bounced lettered _ (congrArg (Option.map _) written) .up _ _ 7 0 _
      persisted [.replay 1 7 ⟨.up, 60, none, .up, 61⟩] _ rfl (by simp) ⟨.up, 90, none, .up, 91⟩
  obtain ⟨_, out, _, alone⟩ := answered rfl rfl (by decide +kernel)
  exact ⟨_, _, out, tenant, alone, sent out (by rw [alone]; exact List.mem_singleton_self out)⟩

end Replay

end NotifyHub
