import NotifyHub.Lib.Maps
import NotifyHub.NotificationService
import NotifyHub.Realtime.Stream

/-! # What the providers make of a payload

`deliver` copies the payload of the notification, writes the rendered texts under two
reserved keys of the copy, and hands a notification with the copy to the provider. Each
provider looks for its texts under a list of keys of its own.

A provider is followed up to the call of its client. How `%v` prints a value that is
not a string is a parameter.
-/

namespace NotifyHub.Providers

open Maps NotifyHub.Stream

/-! ## The payload that `deliver` hands over -/

def subjectKey : String := "_subject"
def bodyKey : String := "_body"

/-- The copy, with its reference; `rendered` is what the template gave, if there is one. -/
def deliverPayload (maps : Heap String Value) (stored : Option Nat)
    (rendered : Option (String × String)) : Nat × Heap String Value :=
  let payload := maps.length
  let made := maps.make
  let copied := made.copy payload stored
  match rendered with
  | none => (payload, copied)
  | some (subject, body) =>
      (payload, (copied.assign payload subjectKey (.str subject)).assign payload bodyKey (.str body))

/-- `notification := *n` with the new payload. -/
def handed (maps : Heap String Value) (n : Notification) (payload : Nat) : Notification :=
  { n with payload := (maps.read (some payload)).entries }

/-- `deliverPayload` on values. -/
def payloadOf (payload : JSONMap) : Option (String × String) → JSONMap
  | none => NotificationService.copy [] (some payload)
  | some (subject, body) =>
      NotificationService.assign
        (NotificationService.assign (NotificationService.copy [] (some payload))
          subjectKey (.str subject)) bodyKey (.str body)

/-! ## Extraction -/

/-- The first of the keys with a string that is not empty. -/
def firstString (m : JSONMap) : List String → String
  | [] => ""
  | key :: keys =>
      match stringAt m key with
      | some text => if text ≠ "" then text else firstString m keys
      | none => firstString m keys

/-- `strings.Contains`. -/
def contains (text part : String) : Bool := decide (part.toList <:+: text.toList)

/-- `strings.ToLower`, as far as the search for `<html` can tell: no character beyond ASCII
    has one of its letters as its lower case. -/
def toLower (text : String) : String := .ofList (text.toList.map Char.toLower)

namespace SES

def extractContent (payload : JSONMap) : String × String × Bool :=
  let subject := firstString payload ["_subject", "subject"]
  let body := firstString payload ["_body", "body", "html", "text"]
  let isHTML := contains (toLower body) "<html" || contains body "<!DOCTYPE"
  (subject, body, if payload.lookup "html" = some (.str body) then true else isHTML)

inductive Body where
  | html (data : String)
  | text (data : String)
  deriving Repr, DecidableEq

def Body.data : Body → String
  | .html data | .text data => data

def buildBody (body : String) (isHTML : Bool) : Body :=
  if isHTML then .html body else .text body

/-- The input of `SendEmail`. -/
structure Input where
  fromEmailAddress : String
  toAddresses : List String
  subject : String
  body : Body
  deriving Repr, DecidableEq

def sendInput (fromEmail : String) (n : Notification) : Except DeliveryError Input :=
  let (subject, body, isHTML) := extractContent n.payload
  if body = "" then .error (.permanent (.plain "ses: empty body"))
  else if n.recipientAddress = "" then .error (.permanent (.plain "ses: missing recipient address"))
  else
    .ok
      { fromEmailAddress := fromEmail
        toAddresses := [n.recipientAddress]
        subject := subject
        body := buildBody body isHTML }

end SES

namespace Twilio

def extractBody (payload : JSONMap) : String :=
  firstString payload ["_body", "body", "text", "message"]

inductive Sender where
  | messagingService (sid : String)
  | number (phone : String)
  deriving Repr, DecidableEq

/-- The parameters of `CreateMessage`. -/
structure Params where
  recipient : String
  body : String
  sender : Sender
  deriving Repr, DecidableEq

def sendParams (fromNumber messagingSvcID : String) (n : Notification) :
    Except DeliveryError Params :=
  let body := extractBody n.payload
  if body = "" then .error (.permanent (.plain "twilio: empty body"))
  else if n.recipientAddress = "" then
    .error (.permanent (.plain "twilio: missing recipient address"))
  else
    .ok
      { recipient := n.recipientAddress
        body := body
        sender := if messagingSvcID ≠ "" then .messagingService messagingSvcID
          else .number fromNumber }

end Twilio

namespace FCM

def extractContent (payload : JSONMap) : String × String :=
  (firstString payload ["_subject", "title", "subject"],
    firstString payload ["_body", "body", "message"])

/-- `flattenPayload`; `sprint` is `%v`. -/
def flattenPayload (sprint : String → String) (payload : JSONMap) : List (String × String) :=
  (payload.filter fun kv => kv.1 ≠ "_subject" ∧ kv.1 ≠ "_body").map fun kv =>
    match kv.2 with
    | .str text => (kv.1, text)
    | .other json => (kv.1, sprint json)

structure Message where
  token : String
  title : String
  body : String
  data : List (String × String)
  deriving Repr, DecidableEq

def sendMessage (sprint : String → String) (n : Notification) : Except DeliveryError Message :=
  let (title, body) := extractContent n.payload
  if body = "" then .error (.permanent (.plain "fcm: empty body"))
  else if n.recipientAddress = "" then
    .error (.permanent (.plain "fcm: missing recipient address (token)"))
  else
    .ok
      { token := n.recipientAddress
        title := title
        body := body
        data := flattenPayload sprint n.payload }

end FCM

/-! ## The copy -/

section Copy

variable {maps : Heap String Value} {stored : Option Nat} {subject body : String}

theorem deliverPayload_rendered (allocated : maps.Allocated stored) (subject body : String) :
    ∃ m : GoMap String Value,
      deliverPayload maps stored (some (subject, body)) = (maps.length, maps ++ [m]) ∧
        m.entries = payloadOf (maps.read stored).entries (some (subject, body)) := by
  have copied : (maps.make).copy maps.length stored =
      maps ++ [GoMap.empty.copy (maps.read stored)] := Heap.copy_last allocated .empty
  simp only [deliverPayload, copied, Heap.assign_last]
  exact ⟨_, rfl, rfl⟩

/-- The two reserved keys are written last. -/
theorem lookup_payloadOf {payload : JSONMap} (unique : (payload.map Prod.fst).Nodup)
    (subject body key : String) :
    (payloadOf payload (some (subject, body))).lookup key =
      if key = "_body" then some (.str body)
      else if key = "_subject" then some (.str subject)
      else payload.lookup key := by
  have copied : (Maps.copy [] payload).lookup key = payload.lookup key := by
    rw [lookup_copy [] unique, List.lookup_nil, Option.or_none]
  have written : (payloadOf payload (some (subject, body))).lookup key =
      (Maps.set (Maps.set (Maps.copy [] payload) subjectKey (.str subject)) bodyKey
        (.str body)).lookup key := rfl
  rw [written, lookup_set, lookup_set, copied]
  simp only [beq_iff_eq, subjectKey, bodyKey]

end Copy

/-! ## Reading the reserved keys -/

section Reading

variable {m : JSONMap} {key text : String} {keys : List String}

theorem stringAt_of_lookup (found : m.lookup key = some (.str text)) :
    stringAt m key = some text := by
  simp only [stringAt, found]

/-- A text under the first key is taken whatever stands under the others. -/
theorem firstString_cons (found : m.lookup key = some (.str text)) (filled : text ≠ "") :
    firstString m (key :: keys) = text := by
  simp only [firstString, stringAt_of_lookup found, if_pos filled]

theorem extractText_rendered {plain : String} (found : m.lookup key = some (.str text))
    (filled : text ≠ "") : extractText m key plain = text := by
  simp only [extractText, stringAt_of_lookup found, if_pos filled]

theorem flattenPayload_reserved {sprint : String → String} {kv : String × String}
    (member : kv ∈ FCM.flattenPayload sprint m) : kv.1 ≠ "_subject" ∧ kv.1 ≠ "_body" := by
  obtain ⟨⟨key, value⟩, kept, rfl⟩ := List.mem_map.mp member
  have other : key ≠ "_subject" ∧ key ≠ "_body" := by simpa using (List.mem_filter.mp kept).2
  cases value with
  | str text => exact other
  | other json => exact other

end Reading

/-- The texts the four providers take from a payload are the rendered ones. -/
structure Wins (subject body : String) (payload : JSONMap) : Prop where
  sesBody : (SES.extractContent payload).2.1 = body
  sesSubject : subject ≠ "" → (SES.extractContent payload).1 = subject
  twilioBody : Twilio.extractBody payload = body
  fcmBody : (FCM.extractContent payload).2 = body
  fcmTitle : subject ≠ "" → (FCM.extractContent payload).1 = subject
  inappBody : (extractTitleBody payload).2 = body
  inappTitle : subject ≠ "" → (extractTitleBody payload).1 = subject

theorem wins_of_reserved {payload : JSONMap} {subject body : String}
    (atSubject : payload.lookup "_subject" = some (.str subject))
    (atBody : payload.lookup "_body" = some (.str body)) (filled : body ≠ "") :
    Wins subject body payload where
  sesBody := firstString_cons atBody filled
  sesSubject := firstString_cons atSubject
  twilioBody := firstString_cons atBody filled
  fcmBody := firstString_cons atBody filled
  fcmTitle := firstString_cons atSubject
  inappBody := extractText_rendered atBody filled
  inappTitle := extractText_rendered atSubject

/-- The same in what reaches the client of a provider. -/
structure Sent (fromEmail fromNumber messagingSvcID : String) (sprint : String → String)
    (subject body : String) (n : Notification) : Prop where
  ses : ∃ input, SES.sendInput fromEmail n = .ok input ∧ input.body.data = body ∧
    (subject ≠ "" → input.subject = subject)
  twilio : ∃ params, Twilio.sendParams fromNumber messagingSvcID n = .ok params ∧
    params.body = body
  fcm : ∃ msg, FCM.sendMessage sprint n = .ok msg ∧ msg.body = body ∧
    (subject ≠ "" → msg.title = subject) ∧
    ∀ kv ∈ msg.data, kv.1 ≠ "_subject" ∧ kv.1 ≠ "_body"

theorem Wins.sent {subject body : String} {n : Notification} (wins : Wins subject body n.payload)
    (filled : body ≠ "") (addressed : n.recipientAddress ≠ "")
    (fromEmail fromNumber messagingSvcID : String) (sprint : String → String) :
    Sent fromEmail fromNumber messagingSvcID sprint subject body n := by
  have sesFilled : (SES.extractContent n.payload).2.1 ≠ "" := wins.sesBody.symm ▸ filled
  have twilioFilled : Twilio.extractBody n.payload ≠ "" := wins.twilioBody.symm ▸ filled
  have fcmFilled : (FCM.extractContent n.payload).2 ≠ "" := wins.fcmBody.symm ▸ filled
  constructor
  · refine ⟨_, by simp only [SES.sendInput, if_neg sesFilled, if_neg addressed]; rfl, ?_,
      wins.sesSubject⟩
    refine Eq.trans ?_ wins.sesBody
    unfold SES.buildBody
    split
    · rfl
    · rfl
  · exact ⟨_, by simp only [Twilio.sendParams, if_neg twilioFilled, if_neg addressed]; rfl,
      wins.twilioBody⟩
  · exact ⟨_, by simp only [FCM.sendMessage, if_neg fcmFilled, if_neg addressed]; rfl,
      wins.fcmBody, wins.fcmTitle, fun _ member => flattenPayload_reserved member⟩

/-- What `deliver` hands over after a template was rendered: the stored payload with the
    rendered texts in place of its own reserved keys. Every provider takes these texts, and
    no map that was there before is changed. -/
theorem rendered_wins (maps : Heap String Value) (stored : Option Nat)
    (allocated : maps.Allocated stored) (n : Notification) (subject body : String)
    (filled : body ≠ "") :
    let out := deliverPayload maps stored (some (subject, body))
    let notification := handed out.2 n out.1
    Wins subject body notification.payload ∧
    (n.recipientAddress ≠ "" → ∀ fromEmail fromNumber messagingSvcID sprint,
      Sent fromEmail fromNumber messagingSvcID sprint subject body notification) ∧
    (∀ key, notification.payload.lookup key =
      if key = "_body" then some (.str body)
      else if key = "_subject" then some (.str subject)
      else (maps.read stored).entries.lookup key) ∧
    ∀ ref < maps.length, out.2[ref]? = maps[ref]? := by
  obtain ⟨m, made, entries⟩ := deliverPayload_rendered allocated subject body
  have payload : (handed (maps ++ [m]) n maps.length).payload =
      payloadOf (maps.read stored).entries (some (subject, body)) := by
    rw [handed, Heap.read_last, entries]
  have keys := lookup_payloadOf (maps.read stored).unique subject body
  have wins : Wins subject body (handed (maps ++ [m]) n maps.length).payload := by
    rw [payload]
    apply wins_of_reserved _ _ filled
    · rw [keys, if_neg (by decide), if_pos rfl]
    · rw [keys, if_pos rfl]
  simp only [made]
  refine ⟨wins, fun addressed => wins.sent filled addressed, ?_, ?_⟩
  · rw [payload]
    exact keys
  · intro ref inside
    rw [List.getElem?_append_left inside]

/-- A stored payload that brings reserved keys and texts of its own. -/
def crowded : Heap String Value :=
  [⟨[("_subject", .str "spoof"), ("_body", .str "spoof"), ("html", .str "<b>no</b>"),
      ("title", .other "7"), ("text", .str "no")], by decide⟩]

def greeting : Notification :=
  { id := 0
    tenantID := 1
    idempotencyKey := none
    type := "greeting"
    channel := .email
    recipientID := "u1"
    recipientAddress := "u1@example.com"
    templateID := some 2
    payload := []
    priority := 5
    status := .processing
    scheduledAt := none
    createdAt := 0
    updatedAt := 0 }

theorem crowded_wins :
    let out := deliverPayload crowded (some 0) (some ("Hello", "Hi Ann"))
    Wins "Hello" "Hi Ann" (handed out.2 greeting out.1).payload ∧
      SES.sendInput "noreply@example.com" (handed out.2 greeting out.1) =
        .ok ⟨"noreply@example.com", ["u1@example.com"], "Hello", .text "Hi Ann"⟩ := by
  have allocated : crowded.Allocated (some 0) := by simp [Heap.Allocated, crowded]
  refine ⟨(rendered_wins crowded (some 0) allocated greeting "Hello" "Hi Ann" (by decide)).1, ?_⟩
  decide +kernel

end NotifyHub.Providers
