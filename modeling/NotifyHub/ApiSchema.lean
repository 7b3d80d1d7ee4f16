import NotifyHub.NotificationService
import NotifyHub.Wire

/-! # The published request schema against decoding and validation

`docs/api.yaml` describes what a client may send, `DecodeJSON` and the validator tags
what the server takes, and `Create` which priority it stores when none is given.

A body is a JSON object whose members have the types of the schema: an absent member
is `none`. Numbers, times and the documents of a payload are kept as they are spelled, since
the decoder does not take every spelling. The members that the schema does not name are in
`others`; it does not forbid them. `encoding/json` finds fields by names in any letter case, so a
body with one more member of a field's name in another case, or of the same name, is one
that the two read differently: there is none here. `size` counts the bytes up to the closing brace.
-/

namespace NotifyHub.ApiSchema

open NotificationService

abbrev Members := List (String × Json)

/-- Members that no field of these names takes. -/
structure Others (tags : List String) where
  members : Members
  unmatched : ∀ m ∈ members, ∀ tag ∈ tags, Json.foldName m.1 ≠ Json.foldName tag

/-- A string, and whether it is spelled with an escape. -/
structure Spelled where
  value : String
  escaped : Bool

structure SendBody where
  type : Option String
  channel : Option Channel
  recipientID : Option String
  recipientAddress : Option String
  templateID : Option UUID
  payload : Option Members
  priority : Option JsonNumber
  idempotencyKey : Option String
  scheduledAt : Option Spelled
  others : Others ["type", "channel", "recipient_id", "recipient_address", "template_id", "payload",
    "priority", "idempotency_key", "scheduled_at"]
  size : Nat

structure RecipientBody where
  recipientID : Option String
  recipientAddress : Option String
  payload : Option Members
  others : Others ["recipient_id", "recipient_address", "payload"]

structure BulkBody where
  type : Option String
  channel : Option Channel
  templateID : Option UUID
  payload : Option Members
  priority : Option JsonNumber
  recipients : Option (List RecipientBody)
  others : Others ["type", "channel", "template_id", "payload", "priority", "recipients"]
  size : Nat

/-! ## The schema -/

/-- A required string, and not an empty one. -/
def Text (member : Option String) : Prop := ∃ text, member = some text ∧ text ≠ ""

def OneOfFour (member : Option Channel) : Prop := ∃ ch, member = some ch ∧ ch.isValid

/-- An integer with `minimum: 1, maximum: 10`, and not required. -/
def OneToTen (member : Option JsonNumber) : Prop :=
  ∀ n ∈ member, ∃ p, n.Equals p ∧ 1 ≤ p ∧ p ≤ 10

/-- `format: date-time`. -/
def DateTime (member : Option Spelled) : Prop :=
  ∀ s ∈ member, (Calendar.read Calendar.rfc3339 s.value.toList).isSome

structure SendBody.Conforms (b : SendBody) : Prop where
  type : Text b.type
  channel : OneOfFour b.channel
  recipientID : Text b.recipientID
  recipientAddress : Text b.recipientAddress
  priority : OneToTen b.priority
  scheduledAt : DateTime b.scheduledAt

structure RecipientBody.Conforms (r : RecipientBody) : Prop where
  recipientID : Text r.recipientID
  recipientAddress : Text r.recipientAddress

structure BulkBody.Conforms (b : BulkBody) : Prop where
  type : Text b.type
  channel : OneOfFour b.channel
  priority : OneToTen b.priority
  recipients : ∃ rs, b.recipients = some rs ∧ 1 ≤ rs.length ∧ rs.length ≤ 1000 ∧
    ∀ r ∈ rs, r.Conforms

/-! ## Decoding -/

/-- What `encoding/json` finds wrong with a body. -/
inductive Fault where
  | tooLarge
  | tooDeep
  | unknownField (name : String)
  | number (field goType : String)
  | time (text : String)
  deriving Repr, DecidableEq

/-- Without the character, the literal or the part of the time that the message names too. -/
def Fault.text : Fault → String
  | .tooLarge => "http: request body too large"
  | .tooDeep => "exceeded max depth"
  | .unknownField name => "json: unknown field " ++ name.quote
  | .number field goType =>
      "json: cannot unmarshal number into Go struct field " ++ field ++ " of type " ++ goType
  | .time text => "parsing time " ++ text.quote

/-- The limit of `http.MaxBytesReader`. -/
def maxBytes : Nat := 2 ^ 20

/-- `maxNestingDepth` of `encoding/json`. -/
def maxDepth : Nat := 10000

/-- `response.DecodeJSON` of an object: the whole of it is read before its members are looked at.
    With several faults the message is about the first in the text, here in the order of the
    fields. -/
def decodeJSON {α : Type} (size depth : Nat) (faults : List Fault) (value : α) :
    Except AppError α :=
  let invalid (fault : Fault) := .error (newValidationError ("invalid JSON: " ++ fault.text) [])
  if maxBytes < size then invalid .tooLarge
  else if maxDepth < depth then invalid .tooDeep
  else
    match faults with
    | fault :: _ => invalid fault
    | [] => .ok value

/-- The faults of a member that is there, if it does not decode. -/
def faultOf {α β : Type} (decode : α → Option β) (fault : α → Fault) : Option α → List Fault
  | none => []
  | some a => if (decode a).isSome then [] else [fault a]

/-- `DisallowUnknownFields`. -/
def Others.faults {tags : List String} (others : Others tags) : List Fault :=
  others.members.map fun m => .unknownField m.1

def decodePayload (ms : Members) : Option JSONMap := JSONMap.readInto [] (.obj ms)

def decodePriority (n : JsonNumber) : Option Int := intOf (.num n)

/-- `UnmarshalJSON` of a time does not undo escapes, and no time has a backslash in it. -/
def decodeTime (s : Spelled) : Option Time :=
  if s.escaped then none else Calendar.read Calendar.goTime s.value.toList

def payloadDepth (payload : Option Members) : Nat := (payload.map fun ms => Json.depth (.obj ms)).getD 0

def SendBody.depth (b : SendBody) : Nat :=
  max (payloadDepth b.payload) (Json.depthMembers b.others.members) + 1

def SendBody.faults (b : SendBody) : List Fault :=
  b.others.faults ++ faultOf decodePayload (fun _ => .number "SendRequest.payload" "float64") b.payload ++
    faultOf decodePriority (fun _ => .number "SendRequest.priority" "domain.Priority") b.priority ++
    faultOf decodeTime (fun s => .time s.value) b.scheduledAt

/-- An absent member leaves the zero value of its field. -/
def SendBody.decode (b : SendBody) : Except AppError SendRequest :=
  decodeJSON b.size b.depth b.faults
    { type := b.type.getD ""
      channel := b.channel.getD (.other "")
      recipientID := b.recipientID.getD ""
      recipientAddress := b.recipientAddress.getD ""
      templateID := b.templateID
      payload := b.payload.bind decodePayload
      priority := (b.priority.bind decodePriority).getD 0
      idempotencyKey := b.idempotencyKey
      scheduledAt := b.scheduledAt.bind decodeTime }

def RecipientBody.recipient (r : RecipientBody) : Recipient :=
  { recipientID := r.recipientID.getD ""
    recipientAddress := r.recipientAddress.getD ""
    payload := r.payload.bind decodePayload }

def RecipientBody.depth (r : RecipientBody) : Nat :=
  max (payloadDepth r.payload) (Json.depthMembers r.others.members) + 1

def RecipientBody.faults (r : RecipientBody) : List Fault :=
  r.others.faults ++
    faultOf decodePayload (fun _ => .number "BulkSendRequest.recipients.payload" "float64") r.payload

def BulkBody.depth (b : BulkBody) : Nat :=
  let recipients := b.recipients.map fun rs => (rs.map RecipientBody.depth).foldr max 0 + 1
  max (max (payloadDepth b.payload) (recipients.getD 0)) (Json.depthMembers b.others.members) + 1

def BulkBody.faults (b : BulkBody) : List Fault :=
  b.others.faults ++
    faultOf decodePayload (fun _ => .number "BulkSendRequest.payload" "float64") b.payload ++
    faultOf decodePriority (fun _ => .number "BulkSendRequest.priority" "domain.Priority") b.priority ++
    (b.recipients.getD []).flatMap RecipientBody.faults

def BulkBody.decode (b : BulkBody) : Except AppError BulkSendRequest :=
  decodeJSON b.size b.depth b.faults
    { type := b.type.getD ""
      channel := b.channel.getD (.other "")
      templateID := b.templateID
      payload := b.payload.bind decodePayload
      priority := (b.priority.bind decodePriority).getD 0
      recipients := b.recipients.map (·.map RecipientBody.recipient) }

/-- The request the service goes on with. -/
def accept {α : Type} (decoded : Except AppError α) (validate : α → Except AppError Unit) :
    Except AppError α :=
  match decoded with
  | .error e => .error e
  | .ok req =>
      match validate req with
      | .error e => .error e
      | .ok () => .ok req

def SendBody.accept (b : SendBody) : Except AppError SendRequest :=
  ApiSchema.accept b.decode validateSend

def BulkBody.accept (b : BulkBody) : Except AppError BulkSendRequest :=
  ApiSchema.accept b.decode validateSendBulk

/-! ## The property -/

/-- Whenever Create inserts the request, it is with this priority. -/
def StoredWith (priority : Int) (req : SendRequest) : Prop :=
  ∀ conn db tenantID id now n db',
    NotificationRepository.create conn db tenantID req id now = .ok (n, db') →
      n.priority = priority

/-- The body is accepted, and an omitted priority is stored as the default of the schema. -/
def SendBody.Served (b : SendBody) : Prop :=
  ∃ req, b.accept = .ok req ∧ (b.priority = none → StoredWith priorityNormal req)

/-- The same of a bulk body and of the Send of each of its recipients. -/
def BulkBody.Served (b : BulkBody) : Prop :=
  ∃ req, b.accept = .ok req ∧ ∀ r ∈ req.recipients.getD [],
    validateSend (single req r) = .ok () ∧
      (b.priority = none → StoredWith priorityNormal (single req r))

/-! ## What decoding and validation take -/

theorem decodeJSON_ok {α : Type} {size depth : Nat} {faults : List Fault} {value decoded : α} :
    decodeJSON size depth faults value = .ok decoded ↔
      size ≤ maxBytes ∧ depth ≤ maxDepth ∧ faults = [] ∧ value = decoded := by
  unfold decodeJSON
  by_cases large : maxBytes < size
  · rw [if_pos large]
    simp [Nat.not_le.mpr large]
  · rw [if_neg large]
    by_cases deep : maxDepth < depth
    · rw [if_pos deep]
      simp [Nat.not_le.mpr deep]
    · rw [if_neg deep]
      cases faults with
      | nil => simp [Nat.not_lt.mp large, Nat.not_lt.mp deep]
      | cons fault faults => simp

theorem faultOf_eq_nil {α β : Type} {decode : α → Option β} {fault : α → Fault} {member : Option α} :
    faultOf decode fault member = [] ↔ ∀ a ∈ member, (decode a).isSome := by
  cases member with
  | none => simp [faultOf]
  | some a => simp [faultOf, Option.isSome_iff_ne_none]

theorem Others.faults_eq_nil {tags : List String} {others : Others tags} :
    others.faults = [] ↔ others.members = [] := by
  simp [faults]

theorem isSome_decodePayload (ms : Members) : (decodePayload ms).isSome = Json.floatsMembers ms := by
  rw [← JSONMap.isSome_readEntries, decodePayload, JSONMap.readInto, Option.isSome_map]

/-- In range, an integer decodes if it is spelled as one. -/
theorem decodePriority_of_equals {n : JsonNumber} {p : Int} (value : n.Equals p)
    (range : 1 ≤ p ∧ p ≤ 10) : decodePriority n = n.asInt.map fun _ => p := by
  cases plain : n.asInt with
  | none => simp [decodePriority, intOf, plain]
  | some q =>
      obtain rfl := (JsonNumber.equals_of_asInt plain).mp value
      have fits : -2 ^ 63 ≤ p ∧ p < 2 ^ 63 := by omega
      simp only [decodePriority, intOf, plain, if_pos fits, Option.map_some]

/-- Spelled without escapes, with the letters `T` and `Z` if any, and not in a leap second. -/
structure Spelled.Plain (s : Spelled) : Prop where
  escaped : s.escaped = false
  time : s.value.toList[10]? = some 'T'
  zone : s.value.toList.getLast? ≠ some 'z'
  second : (s.value.toList.drop 17).take 2 ≠ ['6', '0']

theorem isSome_decodeTime {s : Spelled}
    (conforms : (Calendar.read Calendar.rfc3339 s.value.toList).isSome) :
    (decodeTime s).isSome ↔ s.Plain := by
  obtain ⟨t, read⟩ := Option.isSome_iff_exists.mp conforms
  unfold decodeTime
  cases escaped : s.escaped with
  | true =>
      simp only [if_true, Option.isSome_none, Bool.false_eq_true, false_iff]
      intro plain
      rw [plain.escaped] at escaped
      cases escaped
  | false =>
      simp only [Bool.false_eq_true, if_false]
      rw [Calendar.isSome_read_goTime read]
      exact ⟨fun ⟨time, zone, second⟩ => ⟨escaped, time, zone, second⟩,
        fun plain => ⟨plain.time, plain.zone, plain.second⟩⟩

theorem toValidationError_ok {details : List (String × String)} :
    toValidationError details = .ok () ↔ details = [] := by
  cases details with
  | nil => simp [toValidationError]
  | cons detail details => simp [toValidationError]

theorem required_eq_nil {field value : String} : required field value = [] ↔ value ≠ "" := by
  simp [required]

theorem channelRule_eq_nil {ch : Channel} : channelRule ch = [] ↔ ch.text ≠ "" ∧ ch.isValid := by
  unfold channelRule
  by_cases empty : ch.text = ""
  · simp [empty]
  · by_cases known : ch.isValid = true
    · simp [empty, known]
    · simp [empty, known]

theorem priorityRule_eq_nil {p : Int} : priorityRule p = [] ↔ 1 ≤ p ∧ p ≤ 10 := by
  unfold priorityRule
  by_cases low : p < 1
  · simp only [if_pos low]
    simp
    omega
  · by_cases high : 10 < p
    · simp only [if_neg low, if_pos high]
      simp
      omega
    · simp only [if_neg low, if_neg high]
      simp
      omega

theorem recipientsRule_eq_nil {recipients : Option (List Recipient)} :
    recipientsRule recipients = [] ↔
      ∃ rs, recipients = some rs ∧ 1 ≤ rs.length ∧ rs.length ≤ 1000 := by
  cases recipients with
  | none => simp [recipientsRule]
  | some rs =>
      simp only [recipientsRule, Option.some.injEq, exists_eq_left']
      by_cases none : rs.length < 1
      · simp only [if_pos none]
        simp
        omega
      · by_cases many : 1000 < rs.length
        · simp only [if_neg none, if_pos many]
          simp
          omega
        · simp only [if_neg none, if_neg many]
          simp
          omega

theorem validateSend_ok {req : SendRequest} :
    validateSend req = .ok () ↔ req.type ≠ "" ∧ (req.channel.text ≠ "" ∧ req.channel.isValid) ∧
      req.recipientID ≠ "" ∧ req.recipientAddress ≠ "" ∧ 1 ≤ req.priority ∧ req.priority ≤ 10 := by
  simp only [validateSend, toValidationError_ok, List.append_eq_nil_iff, required_eq_nil,
    channelRule_eq_nil, priorityRule_eq_nil, and_assoc]

theorem validateSendBulk_ok {req : BulkSendRequest} :
    validateSendBulk req = .ok () ↔ req.type ≠ "" ∧
      (req.channel.text ≠ "" ∧ req.channel.isValid) ∧ (1 ≤ req.priority ∧ req.priority ≤ 10) ∧
      ∃ rs, req.recipients = some rs ∧ 1 ≤ rs.length ∧ rs.length ≤ 1000 := by
  simp only [validateSendBulk, toValidationError_ok, List.append_eq_nil_iff, required_eq_nil,
    channelRule_eq_nil, priorityRule_eq_nil, recipientsRule_eq_nil, and_assoc]

/-- A request that has passed validation is stored with its own priority: the default of
    Create is for a value that validation does not let through. -/
theorem storedWith_own {req : SendRequest} (valid : validateSend req = .ok ()) :
    StoredWith req.priority req := by
  intro conn db tenantID id now n db' created
  obtain ⟨_, _, _, _, low, high⟩ := validateSend_ok.mp valid
  obtain ⟨_, row, fits, rfl, _⟩ := NotificationRepository.create_ok created
  have given : req.priority ≠ 0 := by omega
  have stored : row.priority = int32 req.priority := by
    simp only [InsertNotificationParams.row, NotificationRepository.insertParams,
      Option.bind_eq_bind, Option.bind_eq_some_iff, if_neg given] at fits
    obtain ⟨_, _, _, _, _, _, _, _, made⟩ := fits
    obtain rfl := Option.some.inj made
    rfl
  have small : int32 req.priority = req.priority := (int32_eq_self_iff low).mpr (by omega)
  exact stored.trans small

theorem Text.getD {member : Option String} (text : Text member) : member.getD "" ≠ "" := by
  obtain ⟨value, rfl, filled⟩ := text
  exact filled

theorem OneOfFour.getD {member : Option Channel} (oneOf : OneOfFour member) :
    (member.getD (.other "")).text ≠ "" ∧ (member.getD (.other "")).isValid := by
  obtain ⟨ch, rfl, known⟩ := oneOf
  refine ⟨?_, known⟩
  cases ch with
  | email | push | sms | inapp => decide
  | other text => simp [Channel.isValid] at known

/-- All numbers of the payload are within float64. -/
def InRange (payload : Option Members) : Prop := ∀ ms ∈ payload, Json.floatsMembers ms = true

/-- The priority is stated, without fraction and exponent. -/
def Stated (priority : Option JsonNumber) : Prop := ∃ n, priority = some n ∧ n.asInt.isSome

/-- The zero value is no priority. -/
theorem getD_priority {member : Option JsonNumber} (range : OneToTen member) :
    (∀ n ∈ member, (decodePriority n).isSome) ∧
        (1 ≤ (member.bind decodePriority).getD 0 ∧ (member.bind decodePriority).getD 0 ≤ 10) ↔
      Stated member := by
  cases member with
  | none => simp [Stated]
  | some n =>
      obtain ⟨p, value, bounds⟩ := range n rfl
      have decoded := decodePriority_of_equals value bounds
      cases plain : n.asInt with
      | none => simp [Stated, decoded, plain]
      | some q => simp [Stated, decoded, plain, bounds]

theorem inRange_iff {payload : Option Members} :
    (∀ ms ∈ payload, (decodePayload ms).isSome) ↔ InRange payload := by
  simp only [isSome_decodePayload, InRange]

theorem accept_ok {α : Type} {decoded : Except AppError α} {validate : α → Except AppError Unit}
    {req : α} :
    accept decoded validate = .ok req ↔ decoded = .ok req ∧ validate req = .ok () := by
  cases decoded with
  | error e => simp [accept]
  | ok other =>
      simp only [accept, Except.ok.injEq]
      constructor
      · intro accepted
        cases valid : validate other with
        | error e => simp [valid] at accepted
        | ok =>
            simp only [valid, Except.ok.injEq] at accepted
            exact ⟨accepted, accepted ▸ valid⟩
      · rintro ⟨rfl, valid⟩
        simp only [valid]

/-! ## Where the three descriptions agree -/

/-- What a body has to keep to for the decoder and the validator, beside the schema. -/
structure SendBody.Kept (b : SendBody) : Prop where
  priority : Stated b.priority
  others : b.others.members = []
  payload : InRange b.payload
  scheduledAt : ∀ s ∈ b.scheduledAt, s.Plain
  size : b.size ≤ maxBytes
  depth : b.depth ≤ maxDepth

structure BulkBody.Kept (b : BulkBody) : Prop where
  priority : Stated b.priority
  others : b.others.members = []
  payload : InRange b.payload
  recipients : ∀ r ∈ b.recipients.getD [], r.others.members = [] ∧ InRange r.payload
  size : b.size ≤ maxBytes
  depth : b.depth ≤ maxDepth

theorem SendBody.faults_eq_nil {b : SendBody} (conforms : b.Conforms) :
    b.faults = [] ↔ b.others.members = [] ∧ InRange b.payload ∧
      (∀ n ∈ b.priority, (decodePriority n).isSome) ∧ ∀ s ∈ b.scheduledAt, s.Plain := by
  have times : (∀ s ∈ b.scheduledAt, (decodeTime s).isSome) ↔ ∀ s ∈ b.scheduledAt, s.Plain :=
    forall₂_congr fun s member => isSome_decodeTime (conforms.scheduledAt s member)
  simp only [faults, List.append_eq_nil_iff, Others.faults_eq_nil, faultOf_eq_nil, inRange_iff, times,
    and_assoc]

theorem BulkBody.faults_eq_nil {b : BulkBody} :
    b.faults = [] ↔ b.others.members = [] ∧ InRange b.payload ∧
      (∀ n ∈ b.priority, (decodePriority n).isSome) ∧
      ∀ r ∈ b.recipients.getD [], r.others.members = [] ∧ InRange r.payload := by
  simp only [faults, RecipientBody.faults, List.append_eq_nil_iff, Others.faults_eq_nil,
    faultOf_eq_nil, inRange_iff, List.flatMap_eq_nil_iff, and_assoc]

theorem SendBody.Conforms.served_iff {b : SendBody} (conforms : b.Conforms) : b.Served ↔ b.Kept := by
  have stated := getD_priority conforms.priority
  constructor
  · rintro ⟨req, accepted, _⟩
    obtain ⟨decoded, valid⟩ := accept_ok.mp accepted
    obtain ⟨small, flat, clean, rfl⟩ := decodeJSON_ok.mp decoded
    obtain ⟨others, payload, plain, times⟩ := (faults_eq_nil conforms).mp clean
    obtain ⟨_, _, _, _, range⟩ := validateSend_ok.mp valid
    exact ⟨stated.mp ⟨plain, range⟩, others, payload, times, small, flat⟩
  · intro kept
    obtain ⟨plain, range⟩ := stated.mpr kept.priority
    have clean := (faults_eq_nil conforms).mpr ⟨kept.others, kept.payload, plain, kept.scheduledAt⟩
    have decoded : b.decode = .ok _ := decodeJSON_ok.mpr ⟨kept.size, kept.depth, clean, rfl⟩
    obtain ⟨n, given, _⟩ := kept.priority
    refine ⟨_, accept_ok.mpr ⟨decoded, ?_⟩, fun none => ?_⟩
    · exact validateSend_ok.mpr ⟨conforms.type.getD, conforms.channel.getD,
        conforms.recipientID.getD, conforms.recipientAddress.getD, range⟩
    · rw [given] at none
      cases none

theorem BulkBody.Conforms.served_iff {b : BulkBody} (conforms : b.Conforms) : b.Served ↔ b.Kept := by
  have stated := getD_priority conforms.priority
  constructor
  · rintro ⟨req, accepted, _⟩
    obtain ⟨decoded, valid⟩ := accept_ok.mp accepted
    obtain ⟨small, flat, clean, rfl⟩ := decodeJSON_ok.mp decoded
    obtain ⟨others, payload, plain, each⟩ := faults_eq_nil.mp clean
    obtain ⟨_, _, range, _⟩ := validateSendBulk_ok.mp valid
    exact ⟨stated.mp ⟨plain, range⟩, others, payload, each, small, flat⟩
  · intro kept
    obtain ⟨plain, range⟩ := stated.mpr kept.priority
    have clean := faults_eq_nil.mpr ⟨kept.others, kept.payload, plain, kept.recipients⟩
    have decoded : b.decode = .ok _ := decodeJSON_ok.mpr ⟨kept.size, kept.depth, clean, rfl⟩
    obtain ⟨n, given, _⟩ := kept.priority
    obtain ⟨rs, listed, some, few, each⟩ := conforms.recipients
    refine ⟨_, accept_ok.mpr ⟨decoded, ?_⟩, ?_⟩
    · refine validateSendBulk_ok.mpr ⟨conforms.type.getD, conforms.channel.getD, range,
        rs.map RecipientBody.recipient, ?_, ?_, ?_⟩
      · rw [listed]
        rfl
      · rwa [List.length_map]
      · rwa [List.length_map]
    · intro recipient member
      simp only [listed, Option.map_some, Option.getD_some] at member
      obtain ⟨r, asked, rfl⟩ := List.mem_map.mp member
      refine ⟨?_, fun none => ?_⟩
      · exact validateSend_ok.mpr ⟨conforms.type.getD, conforms.channel.getD,
          (each r asked).recipientID.getD, (each r asked).recipientAddress.getD, range⟩
      · rw [given] at none
        cases none

/-- A request of the schema is served exactly when it states a priority and keeps to what the
    decoder takes. -/
theorem served_iff_priority_stated (b : SendBody) (bulk : BulkBody) :
    (b.Conforms → (b.Served ↔ b.Kept)) ∧ (bulk.Conforms → (bulk.Served ↔ bulk.Kept)) :=
  ⟨fun conforms => conforms.served_iff, fun conforms => conforms.served_iff⟩

/-- An order confirmation that leaves the priority to the default. -/
def confirmation : SendBody :=
  { type := some "order_confirmation"
    channel := some .email
    recipientID := some "u1"
    recipientAddress := some "u1@example.com"
    templateID := none
    payload := none
    priority := none
    idempotencyKey := none
    scheduledAt := none
    others := ⟨[], by simp⟩
    size := 105 }

theorem confirmation_conforms : confirmation.Conforms := by
  refine ⟨⟨_, rfl, by decide⟩, ⟨_, rfl, rfl⟩, ⟨_, rfl, by decide⟩, ⟨_, rfl, by decide⟩, ?_, ?_⟩
  · simp [OneToTen, confirmation]
  · simp [DateTime, confirmation]

theorem confirmation_rejected :
    confirmation.Conforms ∧ ¬confirmation.Served ∧
      confirmation.accept =
        .error (newValidationError "validation failed" [("Priority", "min")]) := by
  have rejected : confirmation.accept =
      .error (newValidationError "validation failed" [("Priority", "min")]) := by decide +kernel
  refine ⟨confirmation_conforms, ?_, rejected⟩
  rintro ⟨req, accepted, _⟩
  rw [rejected] at accepted
  cases accepted

/-- With a priority, a time and an amount. -/
def scheduled : SendBody :=
  { confirmation with
    payload := some [("amount", .num (.ofInt 42))]
    priority := some (.ofInt 5)
    scheduledAt := some ⟨"2026-01-01T09:00:00.5+02:00", false⟩ }

/-- The same for several recipients. -/
def confirmations : BulkBody :=
  { type := confirmation.type
    channel := confirmation.channel
    templateID := none
    payload := none
    priority := some (.ofInt 5)
    recipients := some [⟨confirmation.recipientID, confirmation.recipientAddress, none, ⟨[], by simp⟩⟩]
    others := ⟨[], by simp⟩
    size := 140 }

theorem prioritised_served : scheduled.Served ∧ confirmations.Served := by
  have rest := confirmation_conforms
  have five : OneToTen (some (.ofInt 5)) := by
    intro n same
    obtain rfl := Option.some.inj same
    exact ⟨5, (JsonNumber.equals_of_asInt (JsonNumber.asInt_ofInt 5)).mpr rfl, by decide⟩
  have stated : Stated (some (.ofInt 5)) := ⟨_, rfl, by rw [JsonNumber.asInt_ofInt]; rfl⟩
  have conforms : scheduled.Conforms := by
    refine ⟨rest.type, rest.channel, rest.recipientID, rest.recipientAddress, five, ?_⟩
    intro s same
    obtain rfl := Option.some.inj same
    decide +kernel
  have bulk : confirmations.Conforms := by
    refine ⟨rest.type, rest.channel, five, _, rfl, by decide, by decide, ?_⟩
    intro r member
    obtain rfl := List.mem_singleton.mp member
    exact ⟨rest.recipientID, rest.recipientAddress⟩
  have kept : scheduled.Kept := by
    refine ⟨stated, rfl, ?_, ?_, by decide, by decide +kernel⟩
    · intro ms same
      obtain rfl := Option.some.inj same
      decide +kernel
    · intro s same
      obtain rfl := Option.some.inj same
      exact ⟨rfl, by decide +kernel, by decide +kernel, by decide +kernel⟩
  have keptBulk : confirmations.Kept := by
    refine ⟨stated, rfl, by simp [InRange, confirmations], ?_, by decide, by decide +kernel⟩
    intro r member
    obtain rfl := List.mem_singleton.mp member
    exact ⟨rfl, by simp [InRange]⟩
  obtain ⟨served, servedBulk⟩ := served_iff_priority_stated scheduled confirmations
  exact ⟨(served conforms).mpr kept, (servedBulk bulk).mpr keptBulk⟩

end NotifyHub.ApiSchema
