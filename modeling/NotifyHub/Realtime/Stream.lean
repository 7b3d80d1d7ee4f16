import NotifyHub.Realtime.Hub
import NotifyHub.Stores.InAppRepository

/-! # In-app delivery: `Provider.Send`, Redis, `Hub.Run`, `InboxHandler.Stream`

A call of Send stores its message and then publishes it. Hub.Run takes the messages
off the Redis subscription one by one and calls Publish for each. One WebSocket
connection subscribes to the hub, then asks for the messages after a cursor, writes
them, and from then on writes what arrives on its channel.

A label is one step of one of the parties. Redis hands messages on in the order in
which they were published.
-/

namespace NotifyHub.Stream

open Realtime (Chan Hub Label Publisher hubKey newHub)

/-! ## The provider -/

inductive DeliveryError where
  | temporary (err : Err)
  | permanent (err : Err)
  deriving Repr, DecidableEq

/-- `payload[key].(string)`. -/
def stringAt (payload : JSONMap) (key : String) : Option String :=
  match payload.lookup key with
  | some (.str s) => some s
  | _ => none

/-- The text a template was rendered to, or else the plain one. -/
def extractText (payload : JSONMap) (rendered plain : String) : String :=
  match stringAt payload rendered with
  | some text => if text ≠ "" then text else (stringAt payload plain).getD ""
  | none => (stringAt payload plain).getD ""

def extractTitleBody (payload : JSONMap) : String × String :=
  (extractText payload "_subject" "title", extractText payload "_body" "body")

def redisChannel (tenantID recipientID : String) : String :=
  "inapp:" ++ tenantID ++ ":" ++ recipientID

/-- The message to store; its id and time are given by the insert. -/
def draft (n : Notification) (title body : String) : InAppMessage :=
  { id := UUID.zero
    tenantID := n.tenantID
    notificationID := some n.id
    recipientID := n.recipientID
    title := title
    body := body
    payload := some n.payload
    readAt := none
    createdAt := 0 }

/-- A call of Send that has a message to publish, or has returned. -/
inductive SendCall where
  | publishing (channel : String) (saved : InAppMessage)
  | returned (result : Except DeliveryError Unit)
  deriving DecidableEq

/-- Send up to the return of Insert. What was stored can be marshalled again. -/
def persist (conn : Conn) (s : Storage) (n : Notification) (id : UUID) (now : Time) :
    SendCall × Storage :=
  let (title, body) := extractTitleBody n.payload
  if title = "" ∨ body = "" then
    (.returned (.error (.permanent
      (.plain "inapp notification requires title and body in payload"))), s)
  else
    match InAppRepository.insert conn s (draft n title body) id now with
    | .error e => (.returned (.error (.temporary (.wrap "persist inapp message" e))), s)
    | .ok (saved, s') => (.publishing (redisChannel n.tenantID.text n.recipientID) saved, s')

/-! ## Hub.Run -/

/-- The split at the first colon. -/
def splitColon (chars : List Char) : Option (String × String) :=
  match chars.dropWhile (· ≠ ':') with
  | [] => none
  | _ :: recipientID => some (.ofList (chars.takeWhile (· ≠ ':')), .ofList recipientID)

/-- `strings.TrimPrefix`, then the split. -/
def channelParts (channel : String) : Option (String × String) :=
  match channel.toList with
  | 'i' :: 'n' :: 'a' :: 'p' :: 'p' :: ':' :: tail => splitColon tail
  | chars => splitColon chars

theorem splitColon_append {front : List Char} (clean : ':' ∉ front) (back : List Char) :
    splitColon (front ++ ':' :: back) = some (.ofList front, .ofList back) := by
  have passes : ∀ ch ∈ front, decide (ch ≠ ':') = true := by
    intro ch member
    apply decide_eq_true
    intro colon
    exact clean (colon ▸ member)
  simp only [splitColon, List.dropWhile_append_of_pos passes, List.takeWhile_append_of_pos passes]
  simp

/-- No UUID has a colon, so the first one ends the tenant. -/
theorem channelParts_redisChannel (tenantID : UUID) (recipientID : String) :
    channelParts (redisChannel tenantID.text recipientID) = some (tenantID.text, recipientID) := by
  have chars : (redisChannel tenantID.text recipientID).toList =
      'i' :: 'n' :: 'a' :: 'p' :: 'p' :: ':' ::
        (tenantID.text.toList ++ ':' :: recipientID.toList) := by
    simp [redisChannel]
  simp only [channelParts, chars]
  rw [splitColon_append tenantID.colon_notMem_text]
  simp

/-! ## The connection -/

structure Session where
  tenantID : UUID
  recipientID : String
  sinceID : Option UUID
  deriving Repr, DecidableEq

inductive Frame where
  | history (m : InAppMessage)
  | message (m : InAppMessage)
  | ping
  deriving DecidableEq

/-- How far Stream has come. It holds its channel from the subscription on; `left` is
    the history not yet written, and without any it is in the live loop. -/
inductive Stage where
  | accepted
  | subscribed (ch : Nat)
  | streaming (ch : Nat) (left : List InAppMessage)
  | ended (ch : Nat)
  deriving DecidableEq

structure State where
  store : Storage
  calls : List SendCall
  wire : List (String × InAppMessage)
  hub : Hub InAppMessage
  stage : Stage
  frames : List Frame

inductive Action where
  | insert (conn : Conn) (n : Notification) (id : UUID) (now : Time)
  | publish (p : Nat) (ok : Bool)
  | forward
  | hub (label : Label InAppMessage)
  | subscribe
  | history (conn cursorConn : Conn)
  | writeHistory (ok : Bool)
  | receive (ok : Bool)
  | ping (ok : Bool)

/-- The steps of the hub that Publish makes, and those of the deferred cancel. -/
def Stage.permits : Stage → Label InAppMessage → Bool
  | _, .range _ | _, .pick _ _ | _, .send _ | _, .finish _ => true
  | .ended ch, .remove other | .ended ch, .close other => other == ch
  | _, _ => false

/-- The answer to the history query; a failure is only logged. The cursor is looked up
    by a statement of its own, and never changes. -/
def missed (c : Session) (store : Storage) (conn cursorConn : Conn) : List InAppMessage :=
  match c.sinceID with
  | none => []
  | some sinceID =>
      match InAppRepository.listSince conn cursorConn store c.tenantID c.recipientID sinceID with
      | .error _ => []
      | .ok messages => messages

def step (c : Session) (s : State) : Action → Option State
  | .insert conn n id now =>
      let (call, store) := persist conn s.store n id now
      some { s with store := store, calls := s.calls ++ [call] }
  | .publish p ok =>
      match s.calls[p]? with
      | some (.publishing channel saved) =>
          -- an error of Redis is only logged
          some { s with
            calls := s.calls.set p (.returned (.ok ()))
            wire := if ok then s.wire ++ [(channel, saved)] else s.wire }
      | _ => none
  | .forward =>
      match s.wire with
      | [] => none
      | (channel, msg) :: rest =>
          -- Run is one goroutine: the last Publish has returned
          if ∀ p ∈ s.hub.publishers, p = .returned then
            match channelParts channel with
            | none => some { s with wire := rest }
            | some (tenantID, recipientID) =>
                (Realtime.step s.hub (.lookup tenantID recipientID msg)).map fun hub =>
                  { s with wire := rest, hub := hub }
          else none
  | .hub label =>
      if s.stage.permits label then
        (Realtime.step s.hub label).map fun hub => { s with hub := hub }
      else none
  | .subscribe =>
      if s.stage = .accepted then
        (Realtime.step s.hub (.subscribe c.tenantID.text c.recipientID)).map fun hub =>
          { s with hub := hub, stage := .subscribed s.hub.chans.length }
      else none
  | .history conn cursorConn =>
      match s.stage with
      | .subscribed ch =>
          some { s with stage := .streaming ch (missed c s.store conn cursorConn) }
      | _ => none
  | .writeHistory ok =>
      match s.stage with
      | .streaming ch (m :: left) =>
          if ok then
            some { s with stage := .streaming ch left, frames := s.frames ++ [.history m] }
          else some { s with stage := .ended ch }
      | _ => none
  | .receive ok =>
      match s.stage with
      | .streaming ch [] =>
          match (s.hub.chans[ch]?).map (·.buffer) with
          | some (m :: _) =>
              (Realtime.step s.hub (.receive ch)).map fun hub =>
                if ok then { s with hub := hub, frames := s.frames ++ [.message m] }
                else { s with hub := hub, stage := .ended ch }
          | _ => none
      | _ => none
  | .ping ok =>
      match s.stage with
      | .streaming ch [] =>
          if ok then some { s with frames := s.frames ++ [.ping] }
          else some { s with stage := .ended ch }
      | _ => none

abbrev run (c : Session) : State → List Action → Option State := Transition.run (step c)

/-- A connection accepted on an idle server. -/
def initial (store : Storage) (bufSize : Int) : State :=
  { store := store
    calls := []
    wire := []
    hub := newHub bufSize
    stage := .accepted
    frames := [] }

/-! ## What a step can do -/

/-- The Redis channel of a message. -/
def channelOf (m : InAppMessage) : String := redisChannel m.tenantID.text m.recipientID

/-- A call that stores its message stores a new one. -/
inductive Persisted (s : Storage) : SendCall × Storage → Prop where
  | refused (err : DeliveryError) : Persisted s (.returned (.error err), s)
  | stored {row : InAppRow} {s' : Storage} (fresh : row.id ∉ s.inapp.rows.map (·.id))
      (grown : s'.inapp.rows = s.inapp.rows ++ [row]) :
      Persisted s (.publishing (channelOf (fromDBInApp row)) (fromDBInApp row), s')

theorem persist_persisted (conn : Conn) (s : Storage) (n : Notification) (id : UUID) (now : Time) :
    Persisted s (persist conn s n id now) := by
  unfold persist
  simp only
  split
  · exact .refused _
  · split
    · exact .refused _
    · rename_i saved s' done
      obtain ⟨row, rfl, tenant, recipient, fresh, grown⟩ := InAppRepository.insert_ok done
      have address : redisChannel n.tenantID.text n.recipientID = channelOf (fromDBInApp row) := by
        simp only [channelOf, fromDBInApp, tenant, recipient, draft]
      rw [address]
      exact .stored fresh grown

inductive Move (c : Session) (s : State) : Action → State → Prop where
  | refused {conn n id now} (err : DeliveryError) :
      Move c s (.insert conn n id now) { s with calls := s.calls ++ [.returned (.error err)] }
  | inserted {conn n id now row store} (fresh : row.id ∉ s.store.inapp.rows.map (·.id))
      (grown : store.inapp.rows = s.store.inapp.rows ++ [row]) :
      Move c s (.insert conn n id now)
        { s with
          store := store
          calls := s.calls ++ [.publishing (channelOf (fromDBInApp row)) (fromDBInApp row)] }
  | published {p ok channel saved} (here : s.calls[p]? = some (.publishing channel saved)) :
      Move c s (.publish p ok)
        { s with
          calls := s.calls.set p (.returned (.ok ()))
          wire := if ok then s.wire ++ [(channel, saved)] else s.wire }
  | discarded {channel msg rest} (first : s.wire = (channel, msg) :: rest)
      (malformed : channelParts channel = none) : Move c s .forward { s with wire := rest }
  | forwarded {channel msg rest tenantID recipientID} (first : s.wire = (channel, msg) :: rest)
      (parts : channelParts channel = some (tenantID, recipientID)) :
      Move c s .forward
        { s with
          wire := rest
          hub := { s.hub with
            publishers := s.hub.publishers ++
              [.found (s.hub.conns (hubKey tenantID recipientID)) msg] } }
  | turned {label hub} (permitted : s.stage.permits label = true)
      (taken : Realtime.step s.hub label = some hub) : Move c s (.hub label) { s with hub := hub }
  | subscribed (fresh : s.stage = .accepted) :
      Move c s .subscribe
        { s with
          hub := s.hub.subscribe (hubKey c.tenantID.text c.recipientID)
          stage := .subscribed s.hub.chans.length }
  | queried {conn cursorConn ch} (here : s.stage = .subscribed ch) :
      Move c s (.history conn cursorConn)
        { s with stage := .streaming ch (missed c s.store conn cursorConn) }
  | replayed {ch m left} (here : s.stage = .streaming ch (m :: left)) :
      Move c s (.writeHistory true)
        { s with stage := .streaming ch left, frames := s.frames ++ [.history m] }
  | received {ch chan m rest} (here : s.stage = .streaming ch []) (found : s.hub.chans[ch]? = some chan)
      (waiting : chan.buffer = m :: rest) :
      Move c s (.receive true)
        { s with
          hub := { s.hub with chans := s.hub.chans.set ch { chan with buffer := rest } }
          frames := s.frames ++ [.message m] }
  | pinged {ch} (here : s.stage = .streaming ch []) :
      Move c s (.ping true) { s with frames := s.frames ++ [.ping] }
  | writeFailed {action ch hub} (failed : action = .writeHistory false ∨ action = .receive false ∨
      action = .ping false) : Move c s action { s with hub := hub, stage := .ended ch }

theorem step_move {c : Session} {s next : State} {action : Action}
    (taken : step c s action = some next) : Move c s action next := by
  cases action with
  | insert conn n id now =>
      simp only [step, Option.some.injEq] at taken
      cases outcome : persist conn s.store n id now with
      | mk call store =>
          rw [outcome] at taken
          subst taken
          have persisted := persist_persisted conn s.store n id now
          rw [outcome] at persisted
          cases persisted with
          | refused err => exact .refused err
          | stored fresh grown => exact .inserted fresh grown
  | publish p ok =>
      simp only [step] at taken
      split at taken
      · rename_i here
        obtain rfl := Option.some.inj taken
        exact .published here
      · cases taken
  | forward =>
      simp only [step] at taken
      split at taken
      · cases taken
      · rename_i channel msg rest first
        split at taken
        · split at taken
          · rename_i malformed
            obtain rfl := Option.some.inj taken
            exact .discarded first malformed
          · rename_i tenantID recipientID parts
            obtain ⟨hub, looked, rfl⟩ := Option.map_eq_some_iff.mp taken
            simp only [Realtime.step] at looked
            split at looked
            · cases looked
            · obtain rfl := Option.some.inj looked
              exact .forwarded first parts
        · cases taken
  | hub label =>
      simp only [step] at taken
      split at taken
      · rename_i permitted
        obtain ⟨hub, turned, rfl⟩ := Option.map_eq_some_iff.mp taken
        exact .turned permitted turned
      · cases taken
  | subscribe =>
      simp only [step] at taken
      split at taken
      · rename_i fresh
        obtain ⟨hub, joined, rfl⟩ := Option.map_eq_some_iff.mp taken
        simp only [Realtime.step] at joined
        split at joined
        · cases joined
        · obtain rfl := Option.some.inj joined
          exact .subscribed fresh
      · cases taken
  | history conn cursorConn =>
      simp only [step] at taken
      split at taken
      · rename_i here
        obtain rfl := Option.some.inj taken
        exact .queried here
      · cases taken
  | writeHistory ok =>
      simp only [step] at taken
      split at taken
      · rename_i here
        cases ok with
        | true =>
            obtain rfl := Option.some.inj taken
            exact .replayed here
        | false =>
            obtain rfl := Option.some.inj taken
            exact .writeFailed (.inl rfl)
      · cases taken
  | receive ok =>
      simp only [step] at taken
      split at taken
      · rename_i ch here
        split at taken
        · rename_i m rest waiting
          obtain ⟨hub, popped, rfl⟩ := Option.map_eq_some_iff.mp taken
          obtain ⟨chan, found, buffer⟩ := Option.map_eq_some_iff.mp waiting
          cases ok with
          | true =>
              simp only [Realtime.step, found, buffer] at popped
              split at popped
              · cases popped
              · obtain rfl := Option.some.inj popped
                exact .received here found buffer
          | false => exact .writeFailed (.inr (.inl rfl))
        · cases taken
      · cases taken
  | ping ok =>
      simp only [step] at taken
      split at taken
      · rename_i here
        cases ok with
        | true =>
            obtain rfl := Option.some.inj taken
            exact .pinged here
        | false =>
            obtain rfl := Option.some.inj taken
            exact .writeFailed (.inr (.inr rfl))
      · cases taken

end NotifyHub.Stream
