import NotifyHub.Realtime.Stream

/-! # The connection and its hub

Where a message can be on its way to the client, and what stays true of the hub while
one connection is opened on it and nothing fails: before the subscription it knows no
channel, from then on the connection's own, and each call of Publish under way holds
that channel or none.
-/

namespace NotifyHub.Stream

open Realtime (Chan Hub Label Publisher hubKey newHub)

/-! ## Where a message can be -/

def SendCall.unpublished : SendCall → List InAppMessage
  | .publishing _ saved => [saved]
  | .returned _ => []

/-- The message that a Publish has still to give to the channel. -/
def carries (ch : Nat) : Publisher InAppMessage → List InAppMessage
  | .found (some _) msg => [msg]
  | .ranging _ _ visited msg | .picked _ _ visited msg _ => if ch ∈ visited then [] else [msg]
  | .found none _ | .returned => []

def Stage.channel : Stage → Option Nat
  | .accepted => none
  | .subscribed ch | .streaming ch _ | .ended ch => some ch

def Frame.content : Frame → List InAppMessage
  | .history m | .message m => [m]
  | .ping => []

namespace State

/-- Stored, and not yet published. -/
def unpublished (s : State) : List InAppMessage := s.calls.flatMap SendCall.unpublished

/-- Published, and not yet taken up by Hub.Run. -/
def onWire (s : State) : List InAppMessage := s.wire.map (·.2)

/-- In the hands of Publish, on the way to the connection's channel. -/
def inHub (s : State) : List InAppMessage :=
  match s.stage.channel with
  | none => []
  | some ch => s.hub.publishers.flatMap (carries ch)

/-- In the connection's channel. -/
def buffered (s : State) : List InAppMessage :=
  match s.stage.channel with
  | none => []
  | some ch => ((s.hub.chans[ch]?).map (·.buffer)).getD []

def inFlight (s : State) : List InAppMessage := s.unpublished ++ s.onWire ++ s.inHub ++ s.buffered

/-- The history that is still to be written. -/
def left (s : State) : List InAppMessage :=
  match s.stage with
  | .streaming _ left => left
  | _ => []

def written (s : State) : List InAppMessage := s.frames.flatMap Frame.content

/-- Everything on its way to the client, and what has arrived. -/
def content (s : State) : List InAppMessage := s.inFlight ++ s.left ++ s.written

/-- Every call of Send has returned, and all that was sent has been written. -/
structure Settled (s : State) : Prop where
  live : ∃ ch, s.stage = .streaming ch []
  published : s.unpublished = []
  wire : s.wire = []
  hub : ∀ p ∈ s.hub.publishers, p = .returned
  buffer : s.buffered = []

instance (s : State) : Decidable s.Settled :=
  decidable_of_iff ((∃ ch ∈ s.stage.channel, s.stage = .streaming ch []) ∧ s.unpublished = [] ∧
      s.wire = [] ∧ (∀ p ∈ s.hub.publishers, p = .returned) ∧ s.buffered = [])
    ⟨fun ⟨⟨ch, _, live⟩, published, wire, hub, buffer⟩ =>
        ⟨⟨ch, live⟩, published, wire, hub, buffer⟩,
      fun ⟨⟨ch, live⟩, published, wire, hub, buffer⟩ =>
        ⟨⟨ch, by simp [live, Stage.channel], live⟩, published, wire, hub, buffer⟩⟩

end State

/-- No query, publish or write fails, and no message finds the buffer full. -/
def Sound (s : State) : Action → Prop
  | .publish _ ok | .writeHistory ok | .receive ok | .ping ok => ok = true
  | .history conn cursorConn => conn = .up ∧ cursorConn = .up
  | .hub (.send _) => ∀ chan ∈ s.hub.chans, chan.buffer.length < s.hub.bufSize
  | _ => True

instance (s : State) : (action : Action) → Decidable (Sound s action)
  | .publish _ ok | .writeHistory ok | .receive ok | .ping ok => inferInstanceAs (Decidable (ok = true))
  | .history conn cursorConn => inferInstanceAs (Decidable (conn = .up ∧ cursorConn = .up))
  | .hub (.send _) =>
      inferInstanceAs (Decidable (∀ chan ∈ s.hub.chans, chan.buffer.length < s.hub.bufSize))
  | .hub (.subscribe ..) | .hub (.remove ..) | .hub (.close ..) | .hub (.lookup ..)
  | .hub (.range ..) | .hub (.pick ..) | .hub (.finish ..) | .hub (.receive ..)
  | .insert .. | .forward | .subscribe => .isTrue trivial

/-! ## The hub of one connection -/

/-- Where a Publish can be while the only channel is number 0. -/
inductive Turn : Publisher InAppMessage → Prop where
  | nobody (msg : InAppMessage) : Turn (.found none msg)
  | found (msg : InAppMessage) : Turn (.found (some 0) msg)
  | ranging (msg : InAppMessage) : Turn (.ranging 0 [0] [] msg)
  | picked (msg : InAppMessage) : Turn (.picked 0 [0] [] msg 0)
  | sent (msg : InAppMessage) : Turn (.ranging 0 [0] [0] msg)
  | returned : Turn .returned

/-- Nobody has subscribed. -/
structure Unjoined (h : Hub InAppMessage) : Prop where
  conns : ∀ key, h.conns key = none
  sets : h.sets = []
  chans : h.chans = []
  publishers : ∀ p ∈ h.publishers, (∃ msg, p = .found none msg) ∨ p = .returned

/-- The connection has, with this content of its channel. -/
structure Joined (key : String) (buffer : List InAppMessage) (h : Hub InAppMessage) : Prop where
  conns : h.conns key = some 0
  elsewhere : ∀ other, other ≠ key → h.conns other = none
  sets : h.sets = [[0]]
  chans : h.chans = [{ key := key, buffer := buffer, phase := .live }]
  publishers : ∀ p ∈ h.publishers, Turn p

section Hub

variable {key : String} {buffer : List InAppMessage} {h next : Hub InAppMessage}
  {label : Label InAppMessage}

theorem Unjoined.subscribe (unjoined : Unjoined h) (key : String) :
    Joined key [] (h.subscribe key) := by
  unfold Hub.subscribe
  rw [unjoined.conns key]
  refine ⟨?_, ?_, ?_, ?_, ?_⟩
  · simp [unjoined.sets]
  · intro other ne
    simp [Function.update_of_ne ne, unjoined.conns]
  · simp [unjoined.sets, unjoined.chans]
  · simp [unjoined.chans, Chan.opened]
  · intro p member
    cases unjoined.publishers p member with
    | inl missed =>
        obtain ⟨msg, rfl⟩ := missed
        exact .nobody msg
    | inr returned =>
        subst returned
        exact .returned

/-- A step of a Publish that found nobody. -/
theorem Unjoined.turn (unjoined : Unjoined h) (permitted : Stage.accepted.permits label = true)
    (taken : Realtime.step h label = some next) :
    Unjoined next ∧ next.bufSize = h.bufSize ∧ next.panicked = h.panicked := by
  unfold Realtime.step at taken
  split at taken
  · cases taken
  cases label with
  | range p =>
      simp only at taken
      split at taken
      · obtain rfl := Option.some.inj taken
        refine ⟨⟨unjoined.conns, unjoined.sets, unjoined.chans, ?_⟩, rfl, rfl⟩
        intro q member
        cases Threads.mem_set member with
        | inl new => exact .inr new
        | inr old => exact unjoined.publishers q old
      · rename_i found
        have known := unjoined.publishers _ (List.mem_of_getElem? found)
        simp at known
      · cases taken
  | pick | send | finish =>
      simp only at taken
      split at taken
      · rename_i found
        have known := unjoined.publishers _ (List.mem_of_getElem? found)
        simp at known
      · cases taken
  | subscribe | remove | close | lookup | receive => cases permitted

/-- A step of a Publish moves its message on, or leaves it where it is. -/
inductive Passes (buffer : List InAppMessage) (old : Publisher InAppMessage) :
    List InAppMessage → Publisher InAppMessage → Prop where
  | waits {new} (same : carries 0 new = carries 0 old) : Passes buffer old buffer new
  | arrives {new} (msg : InAppMessage) (held : carries 0 old = [msg]) (gone : carries 0 new = []) :
      Passes buffer old (buffer ++ [msg]) new

theorem Joined.setPublisher (joined : Joined key buffer h) {p : Nat}
    {new : Publisher InAppMessage} (turn : Turn new) :
    Joined key buffer (h.setPublisher p new) := by
  refine ⟨joined.conns, joined.elsewhere, joined.sets, joined.chans, ?_⟩
  intro q member
  cases Threads.mem_set member with
  | inl same => exact same ▸ turn
  | inr old => exact joined.publishers q old

theorem Joined.listed (joined : Joined key buffer h) : h.listed (some 0) = [0] := by
  simp [Hub.listed, joined.sets]

theorem Joined.turn (joined : Joined key buffer h) {ch : Nat} {left : List InAppMessage}
    (permitted : (Stage.streaming ch left).permits label = true)
    (roomy : ∀ p, label = .send p → buffer.length < h.bufSize)
    (taken : Realtime.step h label = some next) :
    ∃ p old new buffer', h.publishers[p]? = some old ∧ next.publishers = h.publishers.set p new ∧
      Joined key buffer' next ∧ Passes buffer old buffer' new ∧
      next.bufSize = h.bufSize ∧ next.panicked = h.panicked := by
  unfold Realtime.step at taken
  split at taken
  · cases taken
  rename_i running
  cases label with
  | range p =>
      simp only at taken
      split at taken
      · rename_i msg found
        obtain rfl := Option.some.inj taken
        exact ⟨p, _, .returned, buffer, found, rfl, joined.setPublisher .returned, .waits rfl, rfl, rfl⟩
      · rename_i r msg found
        cases joined.publishers _ (List.mem_of_getElem? found) with
        | found =>
            obtain rfl := Option.some.inj taken
            rw [joined.listed]
            exact ⟨p, _, .ranging 0 [0] [] msg, buffer, found, rfl,
              joined.setPublisher (.ranging msg), .waits rfl, rfl, rfl⟩
      · cases taken
  | pick p other =>
      simp only at taken
      split at taken
      · rename_i r first visited msg found
        split at taken
        · rename_i allowed
          cases joined.publishers _ (List.mem_of_getElem? found) with
          | ranging =>
              obtain rfl : other = 0 := by simpa [joined.listed] using allowed.1
              obtain rfl := Option.some.inj taken
              exact ⟨p, _, .picked 0 [0] [] msg 0, buffer, found, rfl,
                joined.setPublisher (.picked msg), .waits rfl, rfl, rfl⟩
          | sent => simp [joined.listed] at allowed
        · cases taken
      · cases taken
  | send p =>
      simp only at taken
      split at taken
      · rename_i r first visited msg other found
        cases joined.publishers _ (List.mem_of_getElem? found) with
        | picked =>
            have fits : buffer.length < h.bufSize := roomy p rfl
            have here : h.chans[0]? = some { key := key, buffer := buffer, phase := .live } := by
              simp [joined.chans]
            simp only [here, Option.some.injEq] at taken
            have delivered : h.deliver 0 { key := key, buffer := buffer, phase := .live } msg =
                { h with
                  chans := [{ key := key, buffer := buffer ++ [msg], phase := .live }] } := by
              simp [Hub.deliver, fits, joined.chans]
            rw [delivered] at taken
            subst taken
            have kept : Joined key (buffer ++ [msg])
                { h with chans := [{ key := key, buffer := buffer ++ [msg], phase := .live }] } :=
              ⟨joined.conns, joined.elsewhere, joined.sets, rfl, joined.publishers⟩
            exact ⟨p, _, .ranging 0 [0] [0] msg, buffer ++ [msg], found, rfl,
              kept.setPublisher (.sent msg), .arrives msg rfl rfl, rfl, rfl⟩
      · cases taken
  | finish p =>
      simp only at taken
      split at taken
      · rename_i r first visited msg found
        split at taken
        · rename_i through
          cases joined.publishers _ (List.mem_of_getElem? found) with
          | ranging => simp [joined.listed] at through
          | sent =>
              obtain rfl := Option.some.inj taken
              exact ⟨p, _, .returned, buffer, found, rfl, joined.setPublisher .returned,
                .waits rfl, rfl, rfl⟩
        · cases taken
      · cases taken
  | subscribe | remove | close | lookup | receive => cases permitted

end Hub

/-! ## The invariant -/

/-- What the connection's stage says about the hub and the frames. After a failed write
    there is no connection to speak of. -/
def Wired (key : String) (hub : Hub InAppMessage) (frames : List Frame) : Stage → Prop
  | .accepted => Unjoined hub ∧ frames = []
  | .subscribed ch => ch = 0 ∧ frames = [] ∧ ∃ buffer, Joined key buffer hub
  | .streaming ch _ => ch = 0 ∧ ∃ buffer, Joined key buffer hub
  | .ended _ => False

/-- The key under which the connection is registered. -/
def Session.key (c : Session) : String := hubKey c.tenantID.text c.recipientID

structure Inv (c : Session) (s : State) : Prop where
  running : s.hub.panicked = false
  room : 0 < s.hub.bufSize
  calls : ∀ channel m, .publishing channel m ∈ s.calls → channel = channelOf m
  wire : ∀ sent ∈ s.wire, sent.1 = channelOf sent.2
  wired : Wired c.key s.hub s.frames s.stage

theorem Inv.initial (c : Session) (store : Storage) (bufSize : Int) :
    Inv c (Stream.initial store bufSize) := by
  refine ⟨rfl, ?_, ?_, ?_, ?_⟩
  · simp only [Stream.initial, newHub]
    split
    · decide
    · omega
  · intro channel m member
    simp [Stream.initial] at member
  · intro sent member
    simp [Stream.initial] at member
  · exact ⟨⟨fun _ => rfl, rfl, rfl, by simp [Stream.initial, newHub]⟩, rfl⟩

section Steps

variable {c : Session} {s next : State} {action : Action} {key : String}
  {hub hub' : Hub InAppMessage} {frames : List Frame} {stage : Stage}

theorem Wired.joined (wired : Wired key hub frames stage) (joined : stage ≠ .accepted) :
    stage.channel = some 0 ∧ ∃ buffer, Joined key buffer hub := by
  cases stage with
  | accepted => exact absurd rfl joined
  | subscribed ch =>
      obtain ⟨rfl, _, there⟩ := wired
      exact ⟨rfl, there⟩
  | streaming ch left =>
      obtain ⟨rfl, there⟩ := wired
      exact ⟨rfl, there⟩
  | ended ch => exact wired.elim

/-- A change of the hub that keeps whoever is in it. -/
theorem Wired.setHub (wired : Wired key hub frames stage)
    (unjoined : Unjoined hub → Unjoined hub')
    (joined : ∀ buffer, Joined key buffer hub → ∃ buffer', Joined key buffer' hub') :
    Wired key hub' frames stage := by
  cases stage with
  | accepted => exact ⟨unjoined wired.1, wired.2⟩
  | subscribed ch =>
      obtain ⟨first, empty, buffer, there⟩ := wired
      exact ⟨first, empty, joined buffer there⟩
  | streaming ch left =>
      obtain ⟨first, buffer, there⟩ := wired
      exact ⟨first, joined buffer there⟩
  | ended ch => exact wired.elim

theorem Joined.lookup {buffer : List InAppMessage} (joined : Joined key buffer hub)
    (other : String) (msg : InAppMessage) :
    Joined key buffer
      { hub with publishers := hub.publishers ++ [.found (hub.conns other) msg] } := by
  refine ⟨joined.conns, joined.elsewhere, joined.sets, joined.chans, ?_⟩
  intro p member
  cases List.mem_append.mp member with
  | inl old => exact joined.publishers p old
  | inr new =>
      obtain rfl := List.mem_singleton.mp new
      by_cases ours : other = key
      · rw [ours, joined.conns]
        exact .found msg
      · rw [joined.elsewhere other ours]
        exact .nobody msg

theorem Unjoined.lookup (unjoined : Unjoined hub) (other : String) (msg : InAppMessage) :
    Unjoined { hub with publishers := hub.publishers ++ [.found (hub.conns other) msg] } := by
  refine ⟨unjoined.conns, unjoined.sets, unjoined.chans, ?_⟩
  intro p member
  cases List.mem_append.mp member with
  | inl old => exact unjoined.publishers p old
  | inr new =>
      obtain rfl := List.mem_singleton.mp new
      exact .inl ⟨msg, by rw [unjoined.conns]⟩

theorem Joined.receive {buffer : List InAppMessage} {chan : Chan InAppMessage}
    (joined : Joined key buffer hub) (found : hub.chans[0]? = some chan)
    (rest : List InAppMessage) :
    Joined key rest { hub with chans := hub.chans.set 0 { chan with buffer := rest } } := by
  rw [joined.chans] at found
  obtain rfl := Option.some.inj found
  refine ⟨joined.conns, joined.elsewhere, joined.sets, ?_, joined.publishers⟩
  simp only [joined.chans, List.set_cons_zero]

/-- A Publish finds room, as far as there is a channel. -/
theorem roomy_of_sound {label : Label InAppMessage} {buffer : List InAppMessage}
    (sound : Sound s (.hub label)) (joined : Joined key buffer s.hub) :
    ∀ p, label = .send p → buffer.length < s.hub.bufSize := by
  intro p same
  subst same
  exact sound { key := key, buffer := buffer, phase := .live } (by simp [joined.chans])

/-- Before the cancel, the hub's own steps are those of Publish. -/
theorem permits_alike (other : Stage) {label : Label InAppMessage}
    (permitted : stage.permits label = true) (open_ : ∀ ch, stage ≠ .ended ch) :
    other.permits label = true := by
  cases label with
  | range | pick | send | finish => cases other <;> rfl
  | subscribe | lookup | receive => cases stage <;> cases permitted
  | remove | close =>
      cases stage with
      | ended ch => exact absurd rfl (open_ ch)
      | accepted | subscribed | streaming => cases permitted

theorem Wired.not_ended (wired : Wired key hub frames stage) (ch : Nat) : stage ≠ .ended ch := by
  intro ended
  subst ended
  exact wired

theorem Wired.turn {label : Label InAppMessage} (wired : Wired key s.hub frames stage)
    (permitted : stage.permits label = true) (sound : Sound s (.hub label))
    (taken : Realtime.step s.hub label = some hub') :
    Wired key hub' frames stage ∧ hub'.bufSize = s.hub.bufSize ∧
      hub'.panicked = s.hub.panicked := by
  by_cases fresh : stage = .accepted
  · subst fresh
    obtain ⟨unjoined, size, running⟩ := wired.1.turn permitted taken
    exact ⟨⟨unjoined, wired.2⟩, size, running⟩
  · obtain ⟨_, buffer, joined⟩ := wired.joined fresh
    obtain ⟨_, _, _, buffer', _, _, joined', _, size, running⟩ :=
      joined.turn (permits_alike (.streaming 0 []) permitted wired.not_ended)
        (roomy_of_sound sound joined) taken
    refine ⟨wired.setHub ?_ fun _ _ => ⟨buffer', joined'⟩, size, running⟩
    intro unjoined
    have none := unjoined.chans
    simp [joined.chans] at none

theorem Inv.step (inv : Inv c s) (sound : Sound s action)
    (taken : Stream.step c s action = some next) : Inv c next := by
  cases step_move taken with
  | refused err =>
      refine ⟨inv.running, inv.room, ?_, inv.wire, inv.wired⟩
      intro channel m member
      cases List.mem_append.mp member with
      | inl old => exact inv.calls channel m old
      | inr new => simp at new
  | inserted fresh grown =>
      refine ⟨inv.running, inv.room, ?_, inv.wire, inv.wired⟩
      intro channel m member
      cases List.mem_append.mp member with
      | inl old => exact inv.calls channel m old
      | inr new =>
          obtain ⟨rfl, rfl⟩ := SendCall.publishing.inj (List.mem_singleton.mp new)
          rfl
  | @published p ok channel saved here =>
      refine ⟨inv.running, inv.room, ?_, ?_, inv.wired⟩
      · intro channel m member
        cases Threads.mem_set member with
        | inl new => cases new
        | inr old => exact inv.calls channel m old
      · obtain rfl : ok = true := sound
        intro sent member
        cases List.mem_append.mp member with
        | inl old => exact inv.wire sent old
        | inr new =>
            obtain rfl := List.mem_singleton.mp new
            exact inv.calls channel saved (List.mem_of_getElem? here)
  | discarded first =>
      refine ⟨inv.running, inv.room, inv.calls, ?_, inv.wired⟩
      intro sent member
      exact inv.wire sent (first ▸ List.mem_cons_of_mem _ member)
  | forwarded first =>
      refine ⟨inv.running, inv.room, inv.calls, ?_, ?_⟩
      · intro sent member
        exact inv.wire sent (first ▸ List.mem_cons_of_mem _ member)
      · exact inv.wired.setHub (fun unjoined => unjoined.lookup _ _)
          fun buffer joined => ⟨buffer, joined.lookup _ _⟩
  | turned permitted turned =>
      obtain ⟨wired, size, running⟩ := inv.wired.turn permitted sound turned
      exact ⟨running.trans inv.running, size ▸ inv.room, inv.calls, inv.wire, wired⟩
  | subscribed fresh =>
      have wired := inv.wired
      rw [fresh] at wired
      have joined : Joined c.key [] (s.hub.subscribe c.key) := wired.1.subscribe c.key
      have same : (s.hub.subscribe c.key).panicked = s.hub.panicked ∧
          (s.hub.subscribe c.key).bufSize = s.hub.bufSize := by
        unfold Hub.subscribe
        split <;> exact ⟨rfl, rfl⟩
      refine ⟨same.1.trans inv.running, same.2 ▸ inv.room, inv.calls, inv.wire, ?_⟩
      exact ⟨by simp [wired.1.chans], wired.2, [], joined⟩
  | queried here =>
      have wired := inv.wired
      rw [here] at wired
      exact ⟨inv.running, inv.room, inv.calls, inv.wire, wired.1, wired.2.2⟩
  | replayed here =>
      have wired := inv.wired
      rw [here] at wired
      exact ⟨inv.running, inv.room, inv.calls, inv.wire, wired⟩
  | @received ch chan m rest here found waiting =>
      have wired := inv.wired
      rw [here] at wired
      obtain ⟨rfl, buffer, joined⟩ := wired
      refine ⟨inv.running, inv.room, inv.calls, inv.wire, ?_⟩
      rw [here]
      exact ⟨rfl, rest, joined.receive found rest⟩
  | pinged here =>
      have wired := inv.wired
      rw [here] at wired
      refine ⟨inv.running, inv.room, inv.calls, inv.wire, ?_⟩
      rw [here]
      exact wired
  | writeFailed failed =>
      rcases failed with rfl | rfl | rfl <;> cases sound

theorem Inv.run {labels : List Action} (inv : Inv c s)
    (sound : Transition.Guarded (Stream.step c) Sound s labels)
    (finished : Stream.run c s labels = some next) : Inv c next :=
  sound.invariant (fun _ _ _ inv sound taken => inv.step sound taken) inv finished

end Steps

end NotifyHub.Stream
