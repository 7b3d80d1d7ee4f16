import NotifyHub.Lib.Calendar
import NotifyHub.Lib.JsonObjects
import NotifyHub.Queue

/-! # Envelopes as JSON

`queue.Message` and `queue.DLQMessage` under their tags, as `encoding/json` writes and reads
them. A payload is a map; it is listed in the order of its keys, and a nil one as an empty one.
Its numbers stay as they are written, where Go has float64. Instants are written in UTC, and a
document may be nested as deeply as it likes.
-/

namespace NotifyHub

open Json (Via goStyle)

/-! ## Scalars -/

theorem hexDigits_eq_fixed (n k : Nat) : hexDigits n k = Digits.fixed 16 n k := by
  induction k generalizing n with
  | zero => rfl
  | succ k ih => rw [hexDigits, Digits.fixed, ih]

namespace UUID

/-- Five groups of digits, whatever comes after them. -/
def grouped (cs : List Char) : Option UUID := do
  let (first, cs) ← Digits.read 16 8 cs
  let cs ← Digits.expect ['-'] cs
  let (second, cs) ← Digits.read 16 4 cs
  let cs ← Digits.expect ['-'] cs
  let (third, cs) ← Digits.read 16 4 cs
  let cs ← Digits.expect ['-'] cs
  let (fourth, cs) ← Digits.read 16 4 cs
  let cs ← Digits.expect ['-'] cs
  let (fifth, _) ← Digits.read 16 12 cs
  return BitVec.ofNat 128 (first * 16 ^ 24 + second * 16 ^ 20 + third * 16 ^ 16 + fourth * 16 ^ 12 +
    fifth)

/-- `uuid.Parse`: also as a URN, between any two characters, or as digits only. -/
def parse (text : String) : Option UUID :=
  let cs := text.toList
  if cs.length = 36 then grouped cs
  else if cs.length = 45 then
    if Json.foldName (String.ofList (cs.take 9)) = Json.foldName "urn:uuid:" then grouped (cs.drop 9)
    else none
  else if cs.length = 38 then grouped (cs.drop 1)
  else if cs.length = 32 then (Digits.number 16 cs).map fun n => BitVec.ofNat 128 n
  else none

/-- The groups together are the number. -/
theorem joined {n : Nat} (bound : n < 2 ^ 128) :
    (BitVec.ofNat 128 (n / 16 ^ 24 % 16 ^ 8 * 16 ^ 24 + n / 16 ^ 20 % 16 ^ 4 * 16 ^ 20 +
      n / 16 ^ 16 % 16 ^ 4 * 16 ^ 16 + n / 16 ^ 12 % 16 ^ 4 * 16 ^ 12 + n % 16 ^ 12)).toNat = n := by
  rw [BitVec.toNat_ofNat]
  omega

theorem parse_text (id : UUID) : parse id.text = some id := by
  have width : id.text.toList.length = 36 := id.length_text
  rw [parse, if_pos width]
  have dash : ∀ left, Digits.expect ['-'] ('-' :: left) = some left := fun left =>
    Digits.expect_cons (List.mem_singleton.mpr rfl) left
  have group : ∀ n k left, Digits.read 16 k (Digits.fixed 16 n k ++ left) = some (n % 16 ^ k, left) :=
    Digits.read_fixed (by decide) (by decide)
  have last : ∀ n k, Digits.read 16 k (Digits.fixed 16 n k) = some (n % 16 ^ k, []) := by
    intro n k
    simpa using group n k []
  simp only [text, String.toList_ofList, hexDigits_eq_fixed, List.append_assoc, List.cons_append,
    grouped, group, last, dash, Option.bind_eq_bind, Option.bind_some, Option.pure_def]
  exact congrArg some (BitVec.eq_of_toNat_eq (joined (BitVec.isLt id)))

end UUID

/-- The zero value of `time.Time`: the first of January of the year one. -/
def zeroTime : Time := -62135596800 * second

def timeJson (t : Time) : Option Json := (Calendar.write t).map fun cs => .str (String.ofList cs)

def stringOf : Json → Option String
  | .str s => some s
  | _ => none

/-- A Go `int`. -/
def intOf : Json → Option Int
  | .num n =>
      match n.asInt with
      | some i => if -2 ^ 63 ≤ i ∧ i < 2 ^ 63 then some i else none
      | none => none
  | _ => none

def uuidOf (j : Json) : Option UUID := (stringOf j).bind UUID.parse

def timeOf (j : Json) : Option Time :=
  (stringOf j).bind fun s => Calendar.read Calendar.goTime s.toList

def channelOf (j : Json) : Option Channel := (stringOf j).map Channel.ofText

/-- A JSON null leaves a field alone that has no null of its own. -/
def readInto {α β : Type} (of : Json → Option β) (a : α) (set : β → α) : Json → Option α
  | .null => some a
  | j => (of j).map set

section Scalars

variable {α : Type} {a : α} {i : Json}

theorem readInto_str {β : Type} {of : Json → Option β} {set : β → α} {s : String}
    (via : Via (.str s) i) : readInto of a set i = (of (.str s)).map set := by
  rw [Json.via_str via]
  rfl

theorem readInto_uuid {id : UUID} {set : UUID → α} (via : Via (.str id.text) i) :
    readInto uuidOf a set i = some (set id) := by
  rw [readInto_str via]
  simp [uuidOf, stringOf, UUID.parse_text]

theorem readInto_channel {ch : Channel} (valid : ch.isValid = true) {set : Channel → α}
    (via : Via (.str ch.text) i) : readInto channelOf a set i = some (set ch) := by
  rw [readInto_str via]
  cases ch with
  | other => cases valid
  | email | push | sms | inapp => rfl

theorem readInto_int {n : Int} (fits : -2 ^ 63 ≤ n ∧ n < 2 ^ 63) {set : Int → α}
    (via : Via (.num (.ofInt n)) i) : readInto intOf a set i = some (set n) := by
  rw [Json.via_num via]
  simp only [readInto, intOf, JsonNumber.asInt_ofInt, if_pos fits, Option.map_some]

theorem readInto_time {t : Time} {j : Json} (written : timeJson t = some j) {set : Time → α}
    (via : Via j i) : readInto timeOf a set i = some (set t) := by
  obtain ⟨cs, spelled, rfl⟩ := Option.map_eq_some_iff.mp written
  have back := Calendar.read_write Calendar.goTime (by decide) (by decide) (by decide) spelled
  rw [readInto_str via]
  simp [timeOf, stringOf, back]

end Scalars

/-! ## Payloads -/

namespace Value

def json : Value → Option Json
  | .str s => some (.str s)
  | .other text => Json.parse text

/-- A value of type `any`; a number beyond float64 is an error. -/
def ofJson (j : Json) : Option Value :=
  if j.floats then
    match j with
    | .str s => some (.str s)
    | j => some (.other (goStyle.text j))
  else none

/-- The value survives its encodings. -/
def RoundTrips (v : Value) : Prop := ∀ j i, v.json = some j → Via j i → ofJson i = some v

theorem roundTrips_str (s : String) : (Value.str s).RoundTrips := by
  rintro j i written via
  obtain rfl := Option.some.inj written
  rw [Json.via_str via]
  rfl

/-- A document that JSONB leaves alone. -/
theorem roundTrips_other {j : Json} (still : ∀ i, Via j i → i = j) (range : j.floats = true)
    (other : ∀ s, j ≠ .str s) : (Value.other (goStyle.text j)).RoundTrips := by
  rintro j' i written via
  rw [json, Json.parse_text] at written
  obtain rfl := Option.some.inj written
  rw [still i via, ofJson, if_pos range]
  exact other

end Value

namespace JSONMap

def writeEntries : JSONMap → Option (List (String × Json))
  | [] => some []
  | (k, v) :: rest =>
      match v.json, writeEntries rest with
      | some j, some ms => some ((k, j) :: ms)
      | _, _ => none

def readEntries : List (String × Json) → Option JSONMap
  | [] => some []
  | (k, j) :: ms =>
      match Value.ofJson j, readEntries ms with
      | some v, some rest => some ((k, v) :: rest)
      | _, _ => none

theorem isSome_readEntries (ms : List (String × Json)) :
    (readEntries ms).isSome = Json.floatsMembers ms := by
  induction ms with
  | nil => rfl
  | cons m ms ih =>
      have value : (Value.ofJson m.2).isSome = m.2.floats := by
        unfold Value.ofJson
        split
        · rename_i range
          split <;> exact range.symm
        · rename_i range
          simpa using range
      simp only [readEntries, Json.floatsMembers, ← ih, ← value]
      cases Value.ofJson m.2 <;> cases readEntries ms <;> rfl

/-- `encoding/json` sorts the keys of a map. -/
def json (payload : JSONMap) : Option Json := (writeEntries (Json.entries payload)).map .obj

/-- Members are added to a map that is there already. -/
def readInto (payload : JSONMap) : Json → Option JSONMap
  | .null => some []
  | .obj ms => (readEntries ms).map fun added => Json.entries (payload ++ added)
  | _ => none

/-- A map in the order of its keys, whose values survive their encodings. -/
structure RoundTrips (payload : JSONMap) : Prop where
  ordered : payload.Pairwise fun a b => a.1 < b.1
  values : ∀ entry ∈ payload, entry.2.RoundTrips

theorem names_writeEntries {payload : JSONMap} {ms : List (String × Json)}
    (written : writeEntries payload = some ms) : ms.map Prod.fst = payload.map Prod.fst := by
  induction payload generalizing ms with
  | nil =>
      obtain rfl := Option.some.inj written
      rfl
  | cons entry rest ih =>
      rw [writeEntries] at written
      split at written
      · rename_i j others value more
        obtain rfl := Option.some.inj written
        rw [List.map_cons, List.map_cons, ih more]
      · cases written

theorem readEntries_of_same {payload : JSONMap} {ms kept : List (String × Json)}
    (written : writeEntries payload = some ms) (same : Json.SameMembers ms kept)
    (values : ∀ entry ∈ payload, entry.2.RoundTrips) : readEntries kept = some payload := by
  induction payload generalizing ms kept with
  | nil =>
      obtain rfl := Option.some.inj written
      obtain rfl := List.forall₂_nil_left_iff.mp same
      rfl
  | cons entry rest ih =>
      rw [writeEntries] at written
      split at written
      · rename_i j others value more
        obtain rfl := Option.some.inj written
        obtain ⟨m', kept, ⟨name, via⟩, tail, rfl⟩ := List.forall₂_cons_left_iff.mp same
        have first := values entry List.mem_cons_self j m'.2 value via
        have later := ih more tail fun e member => values e (List.mem_cons_of_mem _ member)
        rw [readEntries, first, later, name]
      · cases written

/-- Reading is member by member. -/
theorem readEntries_perm {ms ms' : List (String × Json)} (perm : ms'.Perm ms) {payload : JSONMap}
    (read : readEntries ms = some payload) :
    ∃ payload', readEntries ms' = some payload' ∧ payload'.Perm payload := by
  have each : ∀ ms payload, readEntries ms = some payload ↔
      List.Forall₂ (fun m e => e.1 = m.1 ∧ Value.ofJson m.2 = some e.2) ms payload := by
    intro ms
    induction ms with
    | nil => simp [readEntries, eq_comm]
    | cons m ms ih =>
        intro payload
        rw [readEntries, List.forall₂_cons_left_iff]
        cases value : Value.ofJson m.2 with
        | none => simp
        | some v =>
            cases more : readEntries ms with
            | none => simp [← ih, more]
            | some rest =>
                constructor
                · rintro same
                  obtain rfl := Option.some.inj same
                  exact ⟨(m.1, v), rest, ⟨rfl, rfl⟩, (ih rest).mp more, rfl⟩
                · rintro ⟨⟨k, w⟩, others, ⟨rfl, here⟩, matched, rfl⟩
                  obtain rfl := Option.some.inj here
                  have tail := (ih others).mpr matched
                  rw [more] at tail
                  rw [Option.some.inj tail]
  obtain ⟨payload', matched, shuffled⟩ := List.perm_comp_forall₂ perm ((each ms payload).mp read)
  exact ⟨payload', (each ms' payload').mpr matched, shuffled⟩

theorem readInto_json {payload : JSONMap} (kept : payload.RoundTrips) {j i : Json}
    (written : payload.json = some j) (via : Via j i) : readInto [] i = some payload := by
  obtain ⟨ms, entries, rfl⟩ := Option.map_eq_some_iff.mp written
  rw [Json.entries_of_perm kept.ordered (.refl payload)] at entries
  have distinct : (ms.map Prod.fst).Nodup := by
    rw [names_writeEntries entries]
    exact (List.pairwise_map.mpr kept.ordered).imp fun less => less.ne
  obtain ⟨ms', kept', rfl, perm, same⟩ := Json.via_obj distinct via
  obtain ⟨payload', read, shuffled⟩ :=
    readEntries_perm perm (readEntries_of_same entries same kept.values)
  simp only [readInto, read, Option.map_some, List.nil_append,
    Json.entries_of_perm kept.ordered shuffled]

end JSONMap

/-! ## `queue.Message` -/

inductive MessageField where
  | notificationID
  | tenantID
  | channel
  | recipientID
  | recipientAddress
  | templateID
  | payload
  | priority
  | attempt
  | maxAttempts
  | enqueuedAt
  deriving Repr, DecidableEq

namespace MessageField

def tag : MessageField → String
  | .notificationID => "notification_id"
  | .tenantID => "tenant_id"
  | .channel => "channel"
  | .recipientID => "recipient_id"
  | .recipientAddress => "recipient_address"
  | .templateID => "template_id"
  | .payload => "payload"
  | .priority => "priority"
  | .attempt => "attempt"
  | .maxAttempts => "max_attempts"
  | .enqueuedAt => "enqueued_at"

/-- Only `template_id` has `omitempty`. -/
def write (f : MessageField) (m : Message) : Option (Option Json) :=
  match f with
  | .notificationID => some (some (.str m.notificationID.text))
  | .tenantID => some (some (.str m.tenantID.text))
  | .channel => some (some (.str m.channel.text))
  | .recipientID => some (some (.str m.recipientID))
  | .recipientAddress => some (some (.str m.recipientAddress))
  | .templateID => some (m.templateID.map fun id => .str id.text)
  | .payload => m.payload.json.map some
  | .priority => some (some (.num (.ofInt m.priority)))
  | .attempt => some (some (.num (.ofInt m.attempt)))
  | .maxAttempts => some (some (.num (.ofInt m.maxAttempts)))
  | .enqueuedAt => (timeJson m.enqueuedAt).map some

/-- A null template is none, and a null payload is empty. -/
def read (f : MessageField) (j : Json) (m : Message) : Option Message :=
  match f with
  | .notificationID => readInto uuidOf m (fun v => { m with notificationID := v }) j
  | .tenantID => readInto uuidOf m (fun v => { m with tenantID := v }) j
  | .channel => readInto channelOf m (fun v => { m with channel := v }) j
  | .recipientID => readInto stringOf m (fun v => { m with recipientID := v }) j
  | .recipientAddress => readInto stringOf m (fun v => { m with recipientAddress := v }) j
  | .templateID =>
      readInto uuidOf { m with templateID := none } (fun v => { m with templateID := some v }) j
  | .payload => (m.payload.readInto j).map fun v => { m with payload := v }
  | .priority => readInto intOf m (fun v => { m with priority := v }) j
  | .attempt => readInto intOf m (fun v => { m with attempt := v }) j
  | .maxAttempts => readInto intOf m (fun v => { m with maxAttempts := v }) j
  | .enqueuedAt => readInto timeOf m (fun v => { m with enqueuedAt := v }) j

def copy (f : MessageField) (x m : Message) : Message :=
  match f with
  | .notificationID => { m with notificationID := x.notificationID }
  | .tenantID => { m with tenantID := x.tenantID }
  | .channel => { m with channel := x.channel }
  | .recipientID => { m with recipientID := x.recipientID }
  | .recipientAddress => { m with recipientAddress := x.recipientAddress }
  | .templateID => { m with templateID := x.templateID }
  | .payload => { m with payload := x.payload }
  | .priority => { m with priority := x.priority }
  | .attempt => { m with attempt := x.attempt }
  | .maxAttempts => { m with maxAttempts := x.maxAttempts }
  | .enqueuedAt => { m with enqueuedAt := x.enqueuedAt }

end MessageField

def messageRecord : Json.Record MessageField Message where
  fields := [.notificationID, .tenantID, .channel, .recipientID, .recipientAddress, .templateID,
    .payload, .priority, .attempt, .maxAttempts, .enqueuedAt]
  tag := MessageField.tag
  write := MessageField.write
  read := MessageField.read

def messageCopies : messageRecord.Copies where
  copy := MessageField.copy
  commute := by
    intro f g apart x y m
    cases f <;> cases g <;> first | rfl | exact absurd rfl apart
  named := by
    intro f
    cases f <;> decide +kernel

def Message.zero : Message :=
  { notificationID := UUID.zero
    tenantID := UUID.zero
    channel := .other ""
    recipientID := ""
    recipientAddress := ""
    templateID := none
    payload := []
    priority := 0
    attempt := 0
    maxAttempts := 0
    enqueuedAt := zeroTime }

/-- Go's `int` fields. -/
def Message.Fits (m : Message) : Prop :=
  (-2 ^ 63 ≤ m.priority ∧ m.priority < 2 ^ 63) ∧ (-2 ^ 63 ≤ m.attempt ∧ m.attempt < 2 ^ 63) ∧
    -2 ^ 63 ≤ m.maxAttempts ∧ m.maxAttempts < 2 ^ 63

instance (m : Message) : Decidable m.Fits := inferInstanceAs (Decidable (_ ∧ _))

def Message.marshal (m : Message) : Option String := (messageRecord.encode m).map goStyle.text

def Message.unmarshal (text : String) : Option Message :=
  (Json.parse text).bind fun j => messageRecord.decode j .zero

section Messages

variable {m : Message}

theorem message_gives (valid : m.channel.isValid = true) (payload : m.payload.RoundTrips)
    (fits : m.Fits) {f : MessageField} {j i : Json}
    (written : messageRecord.write f m = some (some j)) (via : Via j i) :
    messageCopies.Gives m .zero f i := by
  intro a fresh
  cases f with
  | notificationID | tenantID =>
      obtain rfl := Option.some.inj (Option.some.inj written)
      exact readInto_uuid via
  | channel =>
      obtain rfl := Option.some.inj (Option.some.inj written)
      exact readInto_channel valid via
  | recipientID | recipientAddress =>
      obtain rfl := Option.some.inj (Option.some.inj written)
      exact readInto_str via
  | templateID =>
      obtain ⟨id, there, rfl⟩ := Option.map_eq_some_iff.mp (Option.some.inj written)
      exact (readInto_uuid via).trans (by simp [messageCopies, MessageField.copy, there])
  | payload =>
      obtain ⟨document, encoded, same⟩ := Option.map_eq_some_iff.mp written
      obtain rfl := Option.some.inj same
      have empty : a.payload = [] := (congrArg Message.payload fresh).symm
      have back := JSONMap.readInto_json payload encoded via
      rw [← empty] at back
      exact congrArg (Option.map fun v => { a with payload := v }) back
  | priority =>
      obtain rfl := Option.some.inj (Option.some.inj written)
      exact readInto_int fits.1 via
  | attempt =>
      obtain rfl := Option.some.inj (Option.some.inj written)
      exact readInto_int fits.2.1 via
  | maxAttempts =>
      obtain rfl := Option.some.inj (Option.some.inj written)
      exact readInto_int fits.2.2 via
  | enqueuedAt =>
      obtain ⟨document, encoded, same⟩ := Option.map_eq_some_iff.mp written
      obtain rfl := Option.some.inj same
      exact readInto_time encoded via

theorem message_writes (m : Message) (f : MessageField) :
    messageRecord.writes m f = (f != .templateID || m.templateID.isSome) := by
  cases f with
  | templateID => cases there : m.templateID <;> simp [Json.Record.writes, messageRecord, MessageField.write, there]
  | payload =>
      simp only [Json.Record.writes, messageRecord, MessageField.write]
      cases m.payload.json <;> rfl
  | enqueuedAt =>
      simp only [Json.Record.writes, messageRecord, MessageField.write]
      cases timeJson m.enqueuedAt <;> rfl
  | _ => rfl

/-- A template that was left out is one that was not there. -/
theorem message_rebuilt (m : Message) :
    messageCopies.all m (messageRecord.fields.filter fun f =>
      f != .templateID || m.templateID.isSome) .zero = m := by
  obtain ⟨_, _, _, _, _, templateID, _, _, _, _, _⟩ := m
  cases templateID <;> rfl

/-- Every field comes back, as written or from a JSONB column. -/
theorem message_decode (valid : m.channel.isValid = true) (payload : m.payload.RoundTrips)
    (fits : m.Fits) {j i : Json} (encoded : messageRecord.encode m = some j) (via : Via j i) :
    messageRecord.decode i .zero = some m := by
  refine messageCopies.decode_via (by decide) encoded via
    (fun f j i => message_gives valid payload fits) (fun f => by cases f <;> rfl) ?_
  rw [List.filter_congr fun f _ => message_writes m f]
  exact message_rebuilt m

theorem message_unmarshal_marshal (valid : m.channel.isValid = true) (payload : m.payload.RoundTrips)
    (fits : m.Fits) {text : String} (written : m.marshal = some text) :
    Message.unmarshal text = some m := by
  obtain ⟨j, encoded, rfl⟩ := Option.map_eq_some_iff.mp written
  rw [Message.unmarshal, Json.parse_text, Option.bind_some]
  exact message_decode valid payload fits encoded (.inl rfl)

/-- Beside the payload it is the clock that may keep a message from being written. -/
theorem isSome_marshal :
    m.marshal.isSome = true ↔
      m.payload.json.isSome = true ∧ (Calendar.write m.enqueuedAt).isSome = true := by
  rw [Message.marshal, Option.isSome_map, messageRecord.isSome_encode]
  simp [messageRecord, MessageField.write, timeJson]

end Messages

/-! ## `queue.DLQMessage` -/

inductive DLQField where
  | original
  | originalTopic
  | failureReason
  | errorMessage
  | lastAttempt
  | deadLetteredAt
  deriving Repr, DecidableEq

namespace DLQField

def tag : DLQField → String
  | .original => "original"
  | .originalTopic => "original_topic"
  | .failureReason => "failure_reason"
  | .errorMessage => "error_message"
  | .lastAttempt => "last_attempt"
  | .deadLetteredAt => "dead_lettered_at"

def write (f : DLQField) (d : DLQMessage) : Option (Option Json) :=
  match f with
  | .original => (messageRecord.encode d.original).map some
  | .originalTopic => some (some (.str d.originalTopic))
  | .failureReason => some (some (.str d.failureReason))
  | .errorMessage => some (some (.str d.errorMessage))
  | .lastAttempt => some (some (.num (.ofInt d.lastAttempt)))
  | .deadLetteredAt => (timeJson d.deadLetteredAt).map some

def read (f : DLQField) (j : Json) (d : DLQMessage) : Option DLQMessage :=
  match f with
  | .original => (messageRecord.decode j d.original).map fun v => { d with original := v }
  | .originalTopic => readInto stringOf d (fun v => { d with originalTopic := v }) j
  | .failureReason => readInto stringOf d (fun v => { d with failureReason := v }) j
  | .errorMessage => readInto stringOf d (fun v => { d with errorMessage := v }) j
  | .lastAttempt => readInto intOf d (fun v => { d with lastAttempt := v }) j
  | .deadLetteredAt => readInto timeOf d (fun v => { d with deadLetteredAt := v }) j

def copy (f : DLQField) (x d : DLQMessage) : DLQMessage :=
  match f with
  | .original => { d with original := x.original }
  | .originalTopic => { d with originalTopic := x.originalTopic }
  | .failureReason => { d with failureReason := x.failureReason }
  | .errorMessage => { d with errorMessage := x.errorMessage }
  | .lastAttempt => { d with lastAttempt := x.lastAttempt }
  | .deadLetteredAt => { d with deadLetteredAt := x.deadLetteredAt }

end DLQField

def dlqRecord : Json.Record DLQField DLQMessage where
  fields := [.original, .originalTopic, .failureReason, .errorMessage, .lastAttempt, .deadLetteredAt]
  tag := DLQField.tag
  write := DLQField.write
  read := DLQField.read

def dlqCopies : dlqRecord.Copies where
  copy := DLQField.copy
  commute := by
    intro f g apart x y d
    cases f <;> cases g <;> first | rfl | exact absurd rfl apart
  named := by
    intro f
    cases f <;> decide +kernel

def DLQMessage.zero : DLQMessage :=
  { original := .zero
    originalTopic := ""
    failureReason := ""
    errorMessage := ""
    lastAttempt := 0
    deadLetteredAt := zeroTime }

def DLQMessage.marshal (d : DLQMessage) : Option String := (dlqRecord.encode d).map goStyle.text

def DLQMessage.unmarshal (text : String) : Option DLQMessage :=
  (Json.parse text).bind fun j => dlqRecord.decode j .zero

section DeadLetters

variable {d : DLQMessage}

theorem dlq_gives (valid : d.original.channel.isValid = true) (payload : d.original.payload.RoundTrips)
    (fits : d.original.Fits) (attempts : -2 ^ 63 ≤ d.lastAttempt ∧ d.lastAttempt < 2 ^ 63)
    {f : DLQField} {j i : Json} (written : dlqRecord.write f d = some (some j)) (via : Via j i) :
    dlqCopies.Gives d .zero f i := by
  intro a fresh
  cases f with
  | original =>
      obtain ⟨document, encoded, same⟩ := Option.map_eq_some_iff.mp written
      obtain rfl := Option.some.inj same
      have untouched : a.original = .zero := (congrArg DLQMessage.original fresh).symm
      have back := message_decode valid payload fits encoded via
      rw [← untouched] at back
      exact congrArg (Option.map fun v => { a with original := v }) back
  | originalTopic | failureReason | errorMessage =>
      obtain rfl := Option.some.inj (Option.some.inj written)
      exact readInto_str via
  | lastAttempt =>
      obtain rfl := Option.some.inj (Option.some.inj written)
      exact readInto_int attempts via
  | deadLetteredAt =>
      obtain ⟨document, encoded, same⟩ := Option.map_eq_some_iff.mp written
      obtain rfl := Option.some.inj same
      exact readInto_time encoded via

theorem dlq_writes (d : DLQMessage) (f : DLQField) : dlqRecord.writes d f = true := by
  cases f with
  | original =>
      simp only [Json.Record.writes, dlqRecord, DLQField.write]
      cases messageRecord.encode d.original <;> rfl
  | deadLetteredAt =>
      simp only [Json.Record.writes, dlqRecord, DLQField.write]
      cases timeJson d.deadLetteredAt <;> rfl
  | _ => rfl

theorem dlq_decode (valid : d.original.channel.isValid = true)
    (payload : d.original.payload.RoundTrips) (fits : d.original.Fits)
    (attempts : -2 ^ 63 ≤ d.lastAttempt ∧ d.lastAttempt < 2 ^ 63) {j i : Json}
    (encoded : dlqRecord.encode d = some j) (via : Via j i) : dlqRecord.decode i .zero = some d := by
  refine dlqCopies.decode_via (by decide) encoded via
    (fun f j i => dlq_gives valid payload fits attempts) (fun f => by cases f <;> rfl) ?_
  rw [List.filter_eq_self.mpr fun f _ => dlq_writes d f]
  rfl

theorem isSome_original {text : String} (written : d.marshal = some text) :
    d.original.marshal.isSome = true := by
  have encoded : (dlqRecord.encode d).isSome = true := by
    rw [← Option.isSome_map, ← DLQMessage.marshal, written]
    rfl
  have original := dlqRecord.isSome_encode.mp encoded .original (by decide)
  simpa [dlqRecord, DLQField.write, Message.marshal] using original

theorem dlq_unmarshal_marshal (valid : d.original.channel.isValid = true)
    (payload : d.original.payload.RoundTrips) (fits : d.original.Fits)
    (attempts : -2 ^ 63 ≤ d.lastAttempt ∧ d.lastAttempt < 2 ^ 63) {text : String}
    (written : d.marshal = some text) :
    DLQMessage.unmarshal text = some d ∧
      ∀ stored, Json.jsonbText text = some stored → DLQMessage.unmarshal stored = some d := by
  obtain ⟨j, encoded, rfl⟩ := Option.map_eq_some_iff.mp written
  refine ⟨?_, ?_⟩
  · rw [DLQMessage.unmarshal, Json.parse_text, Option.bind_some]
    exact dlq_decode valid payload fits attempts encoded (.inl rfl)
  · intro stored kept
    rw [Json.jsonbText, Json.parse_text, Option.bind_some] at kept
    obtain ⟨i, normal, rfl⟩ := Option.map_eq_some_iff.mp kept
    rw [DLQMessage.unmarshal, Json.parse_text, Option.bind_some]
    exact dlq_decode valid payload fits attempts encoded (.inr normal)

end DeadLetters

end NotifyHub
