import NotifyHub.Lib.Maps
import NotifyHub.NotificationService

/-! # SendBulk and the payloads it merges

Payloads are Go maps, so a request holds references: the base payload is shared by
all the recipients of a request, and a write to it would be seen by each of them.
Here SendBulk works on a heap of maps and keeps a record of the Sends it makes.
`NotificationService.sendBulk` is the same function on values.
-/

namespace NotifyHub.BulkSend

open Maps NotificationService

structure RecipientRef where
  recipientID : String
  recipientAddress : String
  payload : Option Nat

structure RequestRef where
  type : String
  channel : Channel
  templateID : Option UUID
  payload : Option Nat
  priority : Int
  recipients : Option (List RecipientRef)

/-- The payload behind a reference. -/
def payloadAt (maps : Heap String Value) (ref : Option Nat) : Option JSONMap :=
  ref.map fun r => (maps.read (some r)).entries

def RecipientRef.read (maps : Heap String Value) (r : RecipientRef) : Recipient :=
  { recipientID := r.recipientID
    recipientAddress := r.recipientAddress
    payload := payloadAt maps r.payload }

def RequestRef.read (maps : Heap String Value) (req : RequestRef) : BulkSendRequest :=
  { type := req.type
    channel := req.channel
    templateID := req.templateID
    payload := payloadAt maps req.payload
    priority := req.priority
    recipients := req.recipients.map (·.map (·.read maps)) }

/-- The references of a request are nil or those of maps. -/
structure RequestRef.Allocated (maps : Heap String Value) (req : RequestRef) : Prop where
  base : maps.Allocated req.payload
  overrides : ∀ r ∈ req.recipients.getD [], maps.Allocated r.payload

structure Call where
  request : SendRequest
  result : Except Err Notification

/-- The heap and the world, the Sends made, and the two slices that are returned. -/
structure Loop where
  maps : Heap String Value
  world : World
  calls : List Call
  results : List Notification
  errs : List Err

/-- `merged`, with its reference. -/
def merge (maps : Heap String Value) (base override : Option Nat) : Nat × Heap String Value :=
  let merged := maps.length
  let made := maps.make
  let based := made.copy merged base
  (merged, based.copy merged override)

def single (req : RequestRef) (r : RecipientRef) (payload : JSONMap) : SendRequest :=
  { type := req.type
    channel := req.channel
    recipientID := r.recipientID
    recipientAddress := r.recipientAddress
    templateID := req.templateID
    payload := some payload
    priority := req.priority
    idempotencyKey := none
    scheduledAt := none }

def Call.notification (call : Call) : Option Notification :=
  match call.result with
  | .ok n => some n
  | .error _ => none

/-- The error SendBulk returns for a recipient, if its Send has failed. -/
def failure (r : RecipientRef) (call : Call) : Option Err :=
  match call.result with
  | .ok _ => none
  | .error e => some (.wrap ("recipient " ++ r.recipientID) e)

section Loop

variable (maxRetries : Int) (envs : Nat → SendEnv) (tenantID : UUID)

/-- One round; `envs k` answers the `k`-th Send. -/
def Loop.next (req : RequestRef) (l : Loop) (r : RecipientRef) : Loop :=
  let (merged, maps) := merge l.maps req.payload r.payload
  let request := single req r (maps.read (some merged)).entries
  let (result, world) := send maxRetries (envs l.calls.length) tenantID request l.world
  let calls := l.calls ++ [⟨request, result⟩]
  match result with
  | .error e =>
      { l with
        maps := maps
        world := world
        calls := calls
        errs := l.errs ++ [.wrap ("recipient " ++ r.recipientID) e] }
  | .ok n => { l with maps := maps, world := world, calls := calls, results := l.results ++ [n] }

def sendBulk (req : RequestRef) (maps : Heap String Value) (w : World) : Loop :=
  match validateSendBulk (req.read maps) with
  | .error e => ⟨maps, w, [], [], [.app e]⟩
  | .ok () =>
      (req.recipients.getD []).foldl (Loop.next maxRetries envs tenantID req) ⟨maps, w, [], [], []⟩

/-! ## One round -/

theorem merge_eq {maps : Heap String Value} {base override : Option Nat}
    (shared : maps.Allocated base) (own : maps.Allocated override) :
    merge maps base override =
      (maps.length, maps ++ [(GoMap.empty.copy (maps.read base)).copy (maps.read override)]) := by
  have made : merge maps base override = (maps.length,
      Heap.copy (Heap.copy (maps ++ [GoMap.empty]) maps.length base) maps.length override) := rfl
  rw [made, Heap.copy_last shared, Heap.copy_last own]

/-- The merged payload is the one of the value-level function. -/
theorem single_eq (req : RequestRef) (r : RecipientRef) (maps : Heap String Value) :
    single req r ((GoMap.empty.copy (maps.read req.payload)).copy (maps.read r.payload)).entries =
      NotificationService.single (req.read maps) (r.read maps) := by
  have behind : ∀ (m : JSONMap) (ref : Option Nat),
      Maps.copy m (maps.read ref).entries = NotificationService.copy m (payloadAt maps ref) := by
    intro m ref
    cases ref with
    | none => rfl
    | some r => rfl
  simp only [single, NotificationService.single, RequestRef.read, RecipientRef.read, GoMap.copy,
    behind]
  rfl

/-- The base and the override are read from the heap that the request came with. -/
theorem next_eq {maps : Heap String Value} {req : RequestRef} {r : RecipientRef} {l : Loop}
    (kept : maps <+: l.maps) (base : maps.Allocated req.payload) (own : maps.Allocated r.payload) :
    ∃ call world merged,
      call.request = NotificationService.single (req.read maps) (r.read maps) ∧
      send maxRetries (envs l.calls.length) tenantID call.request l.world = (call.result, world) ∧
      l.next maxRetries envs tenantID req r =
        { maps := l.maps ++ [merged]
          world := world
          calls := l.calls ++ [call]
          results := l.results ++ call.notification.toList
          errs := l.errs ++ (failure r call).toList } := by
  obtain ⟨later, same⟩ := kept
  have shared : l.maps.Allocated req.payload := same ▸ base.append later
  have override : l.maps.Allocated r.payload := same ▸ own.append later
  have reads : ∀ ref, maps.Allocated ref → l.maps.read ref = maps.read ref := by
    intro ref allocated
    rw [← same]
    exact Heap.read_append allocated later
  cases sent : send maxRetries (envs l.calls.length) tenantID
      (NotificationService.single (req.read maps) (r.read maps)) l.world with
  | mk result world =>
      refine ⟨⟨NotificationService.single (req.read maps) (r.read maps), result⟩, world,
        (GoMap.empty.copy (maps.read req.payload)).copy (maps.read r.payload), rfl, sent, ?_⟩
      simp only [Loop.next, merge_eq shared override, Heap.read_last, reads _ base, reads _ own,
        single_eq, sent]
      cases result with
      | error e => simp [failure, Call.notification]
      | ok n => simp [failure, Call.notification]

variable {maxRetries envs tenantID}

/-! ## The whole loop -/

variable (maxRetries envs tenantID) in
/-- The calls are Sends made one after the other. -/
inductive Sends (w : World) : List Call → World → Prop where
  | none : Sends w [] w
  | more {calls : List Call} {w' w'' : World} {call : Call} (before : Sends w calls w')
      (sent : send maxRetries (envs calls.length) tenantID call.request w' = (call.result, w'')) :
      Sends w (calls ++ [call]) w''

variable (maxRetries envs tenantID) in
/-- Where the loop stands after some of the recipients. -/
structure Upto (maps : Heap String Value) (w : World) (req : RequestRef)
    (done : List RecipientRef) (l : Loop) : Prop where
  kept : maps <+: l.maps
  sends : Sends maxRetries envs tenantID w l.calls l.world
  asked : l.calls.map (·.request) =
    done.map fun r => NotificationService.single (req.read maps) (r.read maps)
  results : l.results = l.calls.filterMap Call.notification
  errs : l.errs = (done.zip l.calls).filterMap fun pair => failure pair.1 pair.2

variable {maps : Heap String Value} {w : World} {req : RequestRef} {done : List RecipientRef}
  {l : Loop}

theorem filterMap_singleton {α β : Type} (f : α → Option β) (a : α) :
    [a].filterMap f = (f a).toList := by
  cases answer : f a with
  | none => simp [answer]
  | some b => simp [answer]

theorem Upto.length (upto : Upto maxRetries envs tenantID maps w req done l) :
    l.calls.length = done.length := by
  simpa using congrArg List.length upto.asked

theorem Upto.next (upto : Upto maxRetries envs tenantID maps w req done l)
    (base : maps.Allocated req.payload) {r : RecipientRef} (own : maps.Allocated r.payload) :
    Upto maxRetries envs tenantID maps w req (done ++ [r])
      (l.next maxRetries envs tenantID req r) := by
  obtain ⟨call, world, merged, asked, answered, round⟩ :=
    next_eq maxRetries envs tenantID upto.kept base own
  rw [round]
  constructor
  · exact upto.kept.trans (List.prefix_append _ _)
  · exact upto.sends.more answered
  · simp only [List.map_append, upto.asked, List.map_cons, List.map_nil, asked]
  · rw [List.filterMap_append, ← upto.results, filterMap_singleton]
  · rw [List.zip_append upto.length.symm, List.filterMap_append, ← upto.errs, List.zip_cons_cons,
      List.zip_nil_left, filterMap_singleton]

theorem foldl_upto (base : maps.Allocated req.payload) (recipients : List RecipientRef)
    (own : ∀ r ∈ recipients, maps.Allocated r.payload) :
    Upto maxRetries envs tenantID maps w req recipients
      (recipients.foldl (Loop.next maxRetries envs tenantID req) ⟨maps, w, [], [], []⟩) := by
  induction recipients using List.reverseRecOn with
  | nil => exact ⟨List.prefix_refl maps, .none, rfl, rfl, rfl⟩
  | append_singleton done r ih =>
      rw [List.foldl_append]
      have upto := ih fun other member => own other (List.mem_append_left _ member)
      exact upto.next base (own r (by simp))

/-! ## What SendBulk returns -/

/-- The Send made for a recipient: its own id and address, the fields of the bulk
    request, and the two payloads with the recipient's on top. -/
structure Addressed (maps : Heap String Value) (req : RequestRef) (r : RecipientRef)
    (call : Call) : Prop where
  recipientID : call.request.recipientID = r.recipientID
  recipientAddress : call.request.recipientAddress = r.recipientAddress
  type : call.request.type = req.type
  channel : call.request.channel = req.channel
  templateID : call.request.templateID = req.templateID
  priority : call.request.priority = req.priority
  idempotencyKey : call.request.idempotencyKey = none
  scheduledAt : call.request.scheduledAt = none
  payload : ∃ payload, call.request.payload = some payload ∧ ∀ key, payload.lookup key =
    ((maps.read r.payload).entries.lookup key).or ((maps.read req.payload).entries.lookup key)

variable (maxRetries envs tenantID) in
/-- The Sends of a request, in the order of its recipients, what is returned of them,
    and the maps of the request as they were. -/
structure Accounted (maps : Heap String Value) (w : World) (req : RequestRef)
    (out : Loop) : Prop where
  sends : Sends maxRetries envs tenantID w out.calls out.world
  each : List.Forall₂ (Addressed maps req) (req.recipients.getD []) out.calls
  count : out.results.length + out.errs.length = (req.recipients.getD []).length
  results : out.results = out.calls.filterMap Call.notification
  errs : out.errs =
    ((req.recipients.getD []).zip out.calls).filterMap fun pair => failure pair.1 pair.2
  payloads : ∀ ref < maps.length, out.maps[ref]? = maps[ref]?

theorem lookup_merged (base override : GoMap String Value) (key : String) :
    ((GoMap.empty.copy base).copy override).entries.lookup key =
      (override.entries.lookup key).or (base.entries.lookup key) := by
  simp only [GoMap.copy, lookup_copy _ override.unique, lookup_copy _ base.unique, GoMap.empty,
    List.lookup_nil, Option.or_none]

theorem addressed_of_asked {r : RecipientRef} {call : Call}
    (asked : call.request = NotificationService.single (req.read maps) (r.read maps)) :
    Addressed maps req r call := by
  obtain ⟨request, result⟩ := call
  rw [← single_eq] at asked
  subst asked
  exact ⟨rfl, rfl, rfl, rfl, rfl, rfl, rfl, rfl, _, rfl, lookup_merged _ _⟩

/-- Every Send ends up on one side. -/
theorem count_sides (recipients : List RecipientRef) (calls : List Call)
    (even : recipients.length = calls.length) :
    (calls.filterMap Call.notification).length +
      ((recipients.zip calls).filterMap fun pair => failure pair.1 pair.2).length =
        recipients.length := by
  induction recipients generalizing calls with
  | nil =>
      have none : calls = [] := List.length_eq_zero_iff.mp even.symm
      simp [none]
  | cons r recipients ih =>
      cases calls with
      | nil => simp at even
      | cons call calls =>
          have rest := ih calls (by simpa using even)
          rw [List.zip_cons_cons, List.filterMap_cons, List.filterMap_cons, List.length_cons]
          cases answer : call.result with
          | ok n =>
              have accepted : call.notification = some n := by simp only [Call.notification, answer]
              have clean : failure r call = none := by simp only [failure, answer]
              simp only [accepted, clean, List.length_cons]
              omega
          | error e =>
              have failed : failure r call = some (.wrap ("recipient " ++ r.recipientID) e) := by
                simp only [failure, answer]
              have nothing : call.notification = none := by simp only [Call.notification, answer]
              simp only [failed, nothing, List.length_cons]
              omega

theorem Upto.accounted
    (upto : Upto maxRetries envs tenantID maps w req (req.recipients.getD []) l) :
    Accounted maxRetries envs tenantID maps w req l := by
  refine ⟨upto.sends, ?_, ?_, upto.results, upto.errs, ?_⟩
  · have asked : List.Forall₂ (fun r call =>
        NotificationService.single (req.read maps) (r.read maps) = call.request)
          (req.recipients.getD []) l.calls := by
      have same : List.Forall₂ Eq ((req.recipients.getD []).map fun r =>
          NotificationService.single (req.read maps) (r.read maps)) (l.calls.map (·.request)) := by
        rw [upto.asked, List.forall₂_eq_eq_eq]
      exact List.forall₂_map_right_iff.mp (List.forall₂_map_left_iff.mp same)
    exact asked.imp fun r call same => addressed_of_asked same.symm
  · rw [upto.results, upto.errs]
    exact count_sides _ _ upto.length.symm
  · intro ref inside
    obtain ⟨later, same⟩ := upto.kept
    rw [← same, List.getElem?_append_left inside]

/-- A request that fails validation leads to no Send. A valid one leads to one for each
    recipient, in order, and each of them is told apart in what is returned. -/
theorem sendBulk_accounts (maxRetries : Int) (envs : Nat → SendEnv) (tenantID : UUID)
    (maps : Heap String Value) (req : RequestRef) (allocated : req.Allocated maps) (w : World) :
    (∀ e, validateSendBulk (req.read maps) = .error e →
      sendBulk maxRetries envs tenantID req maps w = ⟨maps, w, [], [], [.app e]⟩) ∧
    (validateSendBulk (req.read maps) = .ok () →
      Accounted maxRetries envs tenantID maps w req
        (sendBulk maxRetries envs tenantID req maps w)) := by
  constructor
  · intro e invalid
    simp only [sendBulk, invalid]
  · intro valid
    simp only [sendBulk, valid]
    exact (foldl_upto allocated.base _ allocated.overrides).accounted

end Loop

/-- A shared payload, and one recipient's override of it. -/
def drafts : Heap String Value :=
  [⟨[("body", .str "Hi"), ("lang", .str "en")], by decide⟩, ⟨[("body", .str "Hi Ann")], by decide⟩]

/-- The second of three recipients has no address, and its Send fails validation. -/
def newsletter : RequestRef :=
  { type := "news"
    channel := .email
    templateID := none
    payload := some 0
    priority := 5
    recipients := some
      [⟨"ann", "ann@example.com", some 1⟩, ⟨"bob", "", none⟩, ⟨"cy", "cy@example.com", none⟩] }

def calm (k : Nat) : SendEnv :=
  { lookupConn := .up
    createConn := .up
    id := BitVec.ofNat 128 k
    createdAt := 0
    now := 0
    enqueuedAt := 0
    publishError := none
    updateConn := .up
    updatedAt := 0 }

def quiet : World := ⟨.ofTenants [1], []⟩

theorem newsletter_accounted :
    Accounted 3 calm 1 drafts quiet newsletter (sendBulk 3 calm 1 newsletter drafts quiet) ∧
    (sendBulk 3 calm 1 newsletter drafts quiet).results.map (·.recipientID) = ["ann", "cy"] ∧
    (sendBulk 3 calm 1 newsletter drafts quiet).results.map (·.payload.lookup "body") =
      [some (.str "Hi Ann"), some (.str "Hi")] ∧
    (sendBulk 3 calm 1 newsletter drafts quiet).errs.length = 1 := by
  have allocated : newsletter.Allocated drafts := by
    constructor
    · simp [Heap.Allocated, newsletter, drafts]
    · simp [Heap.Allocated, newsletter, drafts]
  have valid : validateSendBulk (newsletter.read drafts) = .ok () := by decide
  refine ⟨(sendBulk_accounts 3 calm 1 drafts newsletter allocated quiet).2 valid, ?_, ?_, ?_⟩
  · decide +kernel
  · decide +kernel
  · decide +kernel

/-! ## On values -/

theorem foldl_sendEach (maxRetries : Int) (envs : Nat → SendEnv) (tenantID : UUID)
    {maps : Heap String Value} {req : RequestRef} (base : maps.Allocated req.payload)
    (recipients : List RecipientRef) (own : ∀ r ∈ recipients, maps.Allocated r.payload)
    (l : Loop) (kept : maps <+: l.maps) :
    let out := recipients.foldl (Loop.next maxRetries envs tenantID req) l
    let rest := sendEach maxRetries envs tenantID (req.read maps) l.calls.length
      (recipients.map (·.read maps)) l.world
    out.results = l.results ++ rest.1.1 ∧ out.errs = l.errs ++ rest.1.2 ∧ out.world = rest.2 := by
  induction recipients generalizing l with
  | nil => simp [sendEach]
  | cons r recipients ih =>
      obtain ⟨⟨request, result⟩, world, merged, asked, answered, round⟩ :=
        next_eq maxRetries envs tenantID kept base (own r List.mem_cons_self)
      simp only at asked answered
      subst asked
      have later := ih (fun other member => own other (List.mem_cons_of_mem r member))
        (l.next maxRetries envs tenantID req r)
        (by rw [round]; exact kept.trans (List.prefix_append _ _))
      rw [round] at later
      simp only [List.length_append, List.length_singleton] at later
      obtain ⟨results, errs, final⟩ := later
      simp only [List.foldl_cons, round, results, errs, final, List.map_cons, sendEach,
        answered]
      cases result with
      | ok n => simp [Call.notification, failure]
      | error e => simp [Call.notification, failure, RecipientRef.read]

/-- SendBulk on references returns what it returns on the values behind them. -/
theorem sendBulk_read (maxRetries : Int) (envs : Nat → SendEnv) (tenantID : UUID)
    {maps : Heap String Value} {req : RequestRef} (allocated : req.Allocated maps) (w : World) :
    let out := sendBulk maxRetries envs tenantID req maps w
    ((out.results, out.errs), out.world) =
      NotificationService.sendBulk maxRetries envs tenantID (req.read maps) w := by
  cases valid : validateSendBulk (req.read maps) with
  | error e => simp only [sendBulk, NotificationService.sendBulk, valid]
  | ok =>
      obtain ⟨results, errs, final⟩ := foldl_sendEach maxRetries envs tenantID allocated.base
        (req.recipients.getD []) allocated.overrides ⟨maps, w, [], [], []⟩ (List.prefix_refl maps)
      have read : (req.read maps).recipients.getD [] =
          (req.recipients.getD []).map (·.read maps) := by
        cases given : req.recipients with
        | none => simp [RequestRef.read, given]
        | some recipients => simp [RequestRef.read, given]
      simp only [sendBulk, NotificationService.sendBulk, valid, results, errs, final, read,
        List.nil_append, List.length_nil]

end NotifyHub.BulkSend
