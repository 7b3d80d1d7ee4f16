import NotifyHub.Realtime.Connection

/-! # The way of a message to the connection

From the insert a message is passed on: to Redis, to a call of Publish, to the
connection's channel, to the client. Once the connection is in the hub nothing that is
meant for it is dropped, nothing else comes in but new messages and the answer to the
history query, and the parties can always finish what they have begun.
-/

namespace NotifyHub.Stream

open Realtime (Chan Hub Label Publisher hubKey newHub)

section Steps

variable {c : Session} {s next : State} {action : Action} {key : String}
  {hub hub' : Hub InAppMessage} {frames : List Frame} {stage : Stage}

/-! ## Where the messages go -/

theorem State.mem_content {m : InAppMessage} :
    m ∈ s.content ↔ m ∈ s.unpublished ∨ m ∈ s.onWire ∨ m ∈ s.inHub ∨ m ∈ s.buffered ∨
      m ∈ s.left ∨ m ∈ s.written := by
  simp [State.content, State.inFlight]

theorem Joined.buffered {buffer : List InAppMessage} (joined : Joined key buffer s.hub)
    (channel : s.stage.channel = some 0) : s.buffered = buffer := by
  simp [State.buffered, channel, joined.chans]

theorem State.inHub_eq (channel : s.stage.channel = some 0) :
    s.inHub = s.hub.publishers.flatMap (carries 0) := by
  simp [State.inHub, channel]

def Session.Owns (c : Session) (m : InAppMessage) : Prop :=
  m.tenantID = c.tenantID ∧ m.recipientID = c.recipientID

/-- The parties pass the messages on: `gained` enters and `lost` is dropped. -/
def Flow (s next : State) (gained lost : List InAppMessage) : Prop :=
  ∀ m, m ∈ s.content ∨ m ∈ gained ↔ m ∈ next.content ∨ m ∈ lost

theorem flow_refused (err : DeliveryError) :
    Flow s { s with calls := s.calls ++ [.returned (.error err)] } [] [] := by
  intro m
  simp only [State.mem_content, State.unpublished, List.flatMap_append, List.flatMap_cons,
    List.flatMap_nil, SendCall.unpublished, List.append_nil]
  exact Iff.rfl

theorem flow_inserted (store : Storage) (address : String) (saved : InAppMessage) :
    Flow s { s with store := store, calls := s.calls ++ [.publishing address saved] }
      [saved] [] := by
  intro m
  simp only [State.mem_content, State.unpublished, List.flatMap_append, List.flatMap_cons,
    List.flatMap_nil, SendCall.unpublished, List.append_nil, List.mem_append, List.mem_singleton,
    List.not_mem_nil, or_false]
  grind [State.onWire, State.inHub, State.buffered, State.left, State.written]

theorem flow_published {p : Nat} {address : String} {saved : InAppMessage}
    (here : s.calls[p]? = some (.publishing address saved)) :
    Flow s
      { s with
        calls := s.calls.set p (.returned (.ok ()))
        wire := s.wire ++ [(address, saved)] } [] [] := by
  intro m
  have moved := Threads.mem_flatMap_exchange SendCall.unpublished (.returned (.ok ())) here m
  simp only [SendCall.unpublished, List.mem_singleton, List.not_mem_nil, or_false] at moved
  simp only [State.mem_content, State.unpublished, State.onWire, List.map_append, List.map_cons,
    List.map_nil, List.mem_append, List.mem_singleton, ← moved, List.not_mem_nil, or_false]
  grind [State.inHub, State.buffered, State.left, State.written]

theorem flow_forwarded {address : String} {msg : InAppMessage}
    {rest : List (String × InAppMessage)} (chans : Option Nat)
    (channel : s.stage.channel = some 0) (first : s.wire = (address, msg) :: rest) :
    Flow s
      { s with
        wire := rest
        hub := { s.hub with publishers := s.hub.publishers ++ [.found chans msg] } } []
      (if chans.isSome then [] else [msg]) := by
  intro m
  cases chans with
  | some r =>
      simp only [State.mem_content, State.onWire, first, State.inHub, channel, List.map_cons,
        List.mem_cons, List.flatMap_append, List.flatMap_cons, List.flatMap_nil, carries,
        List.mem_append, List.not_mem_nil, or_false, Option.isSome_some, if_true]
      grind [State.unpublished, State.buffered, State.left, State.written]
  | none =>
      simp only [State.mem_content, State.onWire, first, State.inHub, channel, List.map_cons,
        List.mem_cons, List.flatMap_append, List.flatMap_cons, List.flatMap_nil, carries,
        List.mem_append, List.not_mem_nil, or_false, Option.isSome_none, Bool.false_eq_true,
        if_false]
      grind [State.unpublished, State.buffered, State.left, State.written]

theorem flow_turned {p : Nat} {old new : Publisher InAppMessage}
    {buffer buffer' : List InAppMessage} (channel : s.stage.channel = some 0)
    (joined : Joined key buffer s.hub) (joined' : Joined key buffer' hub')
    (found : s.hub.publishers[p]? = some old) (publishers : hub'.publishers = s.hub.publishers.set p new)
    (passes : Passes buffer old buffer' new) : Flow s { s with hub := hub' } [] [] := by
  intro m
  have moved := Threads.mem_flatMap_exchange (carries 0) new found m
  have held : m ∈ carries 0 old → m ∈ s.hub.publishers.flatMap (carries 0) := by
    intro member
    exact List.mem_flatMap.mpr ⟨old, List.mem_of_getElem? found, member⟩
  have keeps : m ∈ carries 0 new → m ∈ (s.hub.publishers.set p new).flatMap (carries 0) :=
    Threads.mem_flatMap_set_self found
  have before : s.buffered = buffer := joined.buffered channel
  have after : State.buffered { s with hub := hub' } = buffer' := joined'.buffered channel
  have inHub : State.inHub { s with hub := hub' } =
      (s.hub.publishers.set p new).flatMap (carries 0) := by
    simp only [State.inHub, channel, publishers]
  simp only [State.mem_content, before, after, inHub, State.inHub_eq channel]
  cases passes with
  | waits same =>
      rw [same] at moved keeps
      grind [State.unpublished, State.onWire, State.left, State.written]
  | arrives msg carried gone =>
      rw [carried, gone] at moved
      grind [State.unpublished, State.onWire, State.left, State.written]

theorem flow_queried {ch : Nat} (answer : List InAppMessage) (here : s.stage = .subscribed ch) :
    Flow s { s with stage := .streaming ch answer } answer [] := by
  intro m
  simp only [State.mem_content, State.inHub, State.buffered, State.left, here, Stage.channel,
    List.not_mem_nil, or_false]
  grind [State.unpublished, State.onWire, State.written]

theorem flow_replayed {ch : Nat} {msg : InAppMessage} {left : List InAppMessage}
    (here : s.stage = .streaming ch (msg :: left)) :
    Flow s { s with stage := .streaming ch left, frames := s.frames ++ [.history msg] } [] [] := by
  intro m
  simp only [State.mem_content, State.inHub, State.buffered, State.left, State.written, here,
    Stage.channel, List.flatMap_append, List.flatMap_cons, List.flatMap_nil, Frame.content,
    List.mem_append, List.mem_cons, List.not_mem_nil, or_false]
  grind [State.unpublished, State.onWire]

theorem flow_received {ch : Nat} {chan : Chan InAppMessage} {msg : InAppMessage}
    {rest : List InAppMessage} (here : s.stage = .streaming ch [])
    (found : s.hub.chans[ch]? = some chan) (waiting : chan.buffer = msg :: rest) :
    Flow s
      { s with
        hub := { s.hub with chans := s.hub.chans.set ch { chan with buffer := rest } }
        frames := s.frames ++ [.message msg] } [] [] := by
  intro m
  simp only [State.mem_content, State.inHub, State.buffered, State.left, State.written, here,
    Stage.channel, found, Threads.set_self found, waiting, Option.map_some, Option.getD_some,
    List.flatMap_append, List.flatMap_cons, List.flatMap_nil, Frame.content, List.mem_append,
    List.mem_cons, List.not_mem_nil, or_false]
  grind [State.unpublished, State.onWire]

theorem flow_pinged : Flow s { s with frames := s.frames ++ [.ping] } [] [] := by
  intro m
  simp only [State.mem_content, State.written, List.flatMap_append, List.flatMap_cons,
    List.flatMap_nil, Frame.content, List.append_nil]
  exact Iff.rfl

/-- Nothing enters but a new message or the answer to the query, and what is dropped is
    for somebody else. -/
theorem step_flow (inv : Inv c s) (joined : s.stage ≠ .accepted) (sound : Sound s action)
    (taken : Stream.step c s action = some next) :
    ∃ gained lost, Flow s next gained lost ∧
      (∀ m ∈ gained, m.id ∉ s.store.inapp.rows.map (·.id) ∨ ∃ ch, s.stage = .subscribed ch) ∧
      ∀ m ∈ lost, ¬c.Owns m := by
  obtain ⟨channel, buffer, inside⟩ := inv.wired.joined joined
  cases step_move taken with
  | refused err => exact ⟨[], [], flow_refused err, by simp, by simp⟩
  | @inserted _ _ _ _ row store fresh grown =>
      refine ⟨_, [], flow_inserted store _ (fromDBInApp row), ?_, by simp⟩
      intro m member
      obtain rfl := List.mem_singleton.mp member
      exact .inl fresh
  | @published p ok address saved here =>
      obtain rfl : ok = true := sound
      exact ⟨[], [], flow_published here, by simp, by simp⟩
  | @discarded address msg rest first malformed =>
      have known : address = channelOf msg := inv.wire (address, msg) (first ▸ List.mem_cons_self)
      rw [known, channelOf, channelParts_redisChannel] at malformed
      cases malformed
  | @forwarded address msg rest tenantID recipientID first parts =>
      have known : address = channelOf msg := inv.wire (address, msg) (first ▸ List.mem_cons_self)
      rw [known, channelOf, channelParts_redisChannel] at parts
      obtain ⟨rfl, rfl⟩ := Prod.mk.inj (Option.some.inj parts)
      refine ⟨_, _, flow_forwarded _ channel first, by simp, ?_⟩
      intro m member owns
      split at member
      · simp at member
      · rename_i nobody
        obtain rfl := List.mem_singleton.mp member
        rw [owns.1, owns.2] at nobody
        exact nobody (by rw [← Session.key, inside.conns]; rfl)
  | @turned label hub permitted turned =>
      obtain ⟨p, old, new, buffer', found, publishers, inside', passes, _⟩ :=
        inside.turn (permits_alike (.streaming 0 []) permitted inv.wired.not_ended)
          (roomy_of_sound sound inside) turned
      exact ⟨[], [], flow_turned channel inside inside' found publishers passes, by simp, by simp⟩
  | subscribed fresh => exact absurd fresh joined
  | @queried _ _ ch here => exact ⟨_, [], flow_queried _ here, fun _ _ => .inr ⟨ch, here⟩, by simp⟩
  | replayed here => exact ⟨[], [], flow_replayed here, by simp, by simp⟩
  | received here found waiting =>
      exact ⟨[], [], flow_received here found waiting, by simp, by simp⟩
  | pinged => exact ⟨[], [], flow_pinged, by simp, by simp⟩
  | writeFailed failed => rcases failed with rfl | rfl | rfl <;> cases sound

/-! ## Whole runs -/

def State.Streaming (s : State) : Prop := ∃ ch left, s.stage = .streaming ch left

theorem joined_step (joined : s.stage ≠ .accepted) (taken : Stream.step c s action = some next) :
    next.stage ≠ .accepted := by
  cases step_move taken with
  | refused | inserted | published | discarded | forwarded | turned | received | pinged =>
      exact joined
  | subscribed | queried | replayed | writeFailed => exact nofun

theorem streaming_step (streaming : s.Streaming) (sound : Sound s action)
    (taken : Stream.step c s action = some next) : next.Streaming := by
  obtain ⟨ch, left, here⟩ := streaming
  cases step_move taken with
  | refused | inserted | published | discarded | forwarded | turned | received | pinged =>
      exact ⟨ch, left, here⟩
  | subscribed fresh => cases here.symm.trans fresh
  | queried subscribed => cases here.symm.trans subscribed
  | replayed => exact ⟨_, _, rfl⟩
  | writeFailed failed => rcases failed with rfl | rfl | rfl <;> cases sound

/-- Messages are only ever added. -/
theorem stored_step (taken : Stream.step c s action = some next) :
    ∃ more, next.store.inapp.rows = s.store.inapp.rows ++ more := by
  cases step_move taken with
  | inserted _ grown => exact ⟨_, grown⟩
  | refused | published | discarded | forwarded | turned | subscribed | queried | replayed
  | received | pinged | writeFailed => exact ⟨[], (List.append_nil _).symm⟩

theorem stored_run {labels : List Action} (finished : Stream.run c s labels = some next) :
    ∃ more, next.store.inapp.rows = s.store.inapp.rows ++ more := by
  induction labels generalizing s with
  | nil =>
      obtain rfl := Option.some.inj finished
      exact ⟨[], (List.append_nil _).symm⟩
  | cons action rest ih =>
      obtain ⟨middle, taken, onward⟩ := Transition.run_cons_inv finished
      obtain ⟨first, grown⟩ := stored_step taken
      obtain ⟨second, grown'⟩ := ih onward
      exact ⟨first ++ second, by rw [grown', grown, List.append_assoc]⟩

/-- A message for the connection is not lost on the way. -/
theorem content_run {labels : List Action} {m : InAppMessage} (inv : Inv c s)
    (joined : s.stage ≠ .accepted) (owns : c.Owns m)
    (sound : Transition.Guarded (Stream.step c) Sound s labels)
    (finished : Stream.run c s labels = some next) (here : m ∈ s.content) : m ∈ next.content := by
  induction labels generalizing s with
  | nil =>
      obtain rfl := Option.some.inj finished
      exact here
  | cons action rest ih =>
      obtain ⟨middle, taken, onward⟩ := Transition.run_cons_inv finished
      obtain ⟨gained, lost, flow, _, others⟩ := step_flow inv joined sound.1 taken
      have there : m ∈ middle.content := by
        cases (flow m).mp (.inl here) with
        | inl there => exact there
        | inr dropped => exact absurd owns (others m dropped)
      exact ih (inv.step sound.1 taken) (joined_step joined taken) (sound.tail taken) onward there

/-- A stored message that is not on its way after the query never comes. -/
theorem absent_run {labels : List Action} {m : InAppMessage} (inv : Inv c s)
    (streaming : s.Streaming) (stored : m.id ∈ s.store.inapp.rows.map (·.id))
    (sound : Transition.Guarded (Stream.step c) Sound s labels)
    (finished : Stream.run c s labels = some next) (absent : m ∉ s.content) :
    m ∉ next.content := by
  induction labels generalizing s with
  | nil =>
      obtain rfl := Option.some.inj finished
      exact absent
  | cons action rest ih =>
      obtain ⟨middle, taken, onward⟩ := Transition.run_cons_inv finished
      obtain ⟨ch, left, here⟩ := streaming
      have joined : s.stage ≠ .accepted := by
        rw [here]
        exact nofun
      obtain ⟨gained, lost, flow, new, _⟩ := step_flow inv joined sound.1 taken
      have missing : m ∉ middle.content := by
        intro there
        cases (flow m).mpr (.inl there) with
        | inl before => exact absent before
        | inr entered =>
            cases new m entered with
            | inl fresh => exact fresh stored
            | inr subscribed =>
                obtain ⟨ch', subscribed⟩ := subscribed
                cases here.symm.trans subscribed
      obtain ⟨more, grown⟩ := stored_step taken
      have kept : m.id ∈ middle.store.inapp.rows.map (·.id) := by
        rw [grown, List.map_append]
        exact List.mem_append_left _ stored
      exact ih (inv.step sound.1 taken) (streaming_step ⟨ch, left, here⟩ sound.1 taken) kept
        (sound.tail taken) onward missing

theorem State.Settled.content_eq (settled : s.Settled) : s.content = s.written := by
  obtain ⟨ch, live⟩ := settled.live
  have hub : s.inHub = [] := by
    simp only [State.inHub, live, Stage.channel, List.flatMap_eq_nil_iff]
    intro p member
    rw [settled.hub p member]
    rfl
  have wire : s.onWire = [] := by simp [State.onWire, settled.wire]
  have left : s.left = [] := by simp [State.left, live]
  simp [State.content, State.inFlight, settled.published, wire, hub, settled.buffer, left]

end Steps

/-! ## Nothing is stuck -/

/-- The steps a Publish has still to make, with one for the receiver. -/
def Turn.effort : Publisher InAppMessage → Nat
  | .found none _ => 1
  | .found (some _) _ => 5
  | .ranging _ _ [] _ => 4
  | .picked .. => 3
  | .ranging .. => 1
  | .returned => 0

def Stage.effort : Stage → Nat
  | .accepted => 202
  | .subscribed _ => 201
  | .streaming _ left => left.length
  | .ended _ => 0

def SendCall.effort : SendCall → Nat
  | .publishing .. => 7
  | .returned _ => 0

/-- A bound on the steps until everything is written. -/
def State.effort (s : State) : Nat :=
  (s.calls.map SendCall.effort).sum + 6 * s.wire.length +
    (s.hub.publishers.map Turn.effort).sum + s.buffered.length + s.stage.effort

def Action.isInsert : Action → Bool
  | .insert .. => true
  | _ => false

/-- The parties can finish what they have begun: no new Send, nothing fails. -/
def Finishing (s : State) (action : Action) : Prop := action.isInsert = false ∧ Sound s action

theorem length_missed_le (c : Session) (store : Storage) (conn cursorConn : Conn) :
    (missed c store conn cursorConn).length ≤ 200 := by
  unfold missed
  split
  · simp
  · split
    · simp
    · rename_i listed
      exact InAppRepository.length_listSince_le listed

section Progress

variable {c : Session} {s : State} {key : String} {h : Hub InAppMessage}

/-- A Publish that has not returned can make its next step. -/
theorem Joined.progress (joined : Joined key [] h) (running : h.panicked = false)
    (room : 0 < h.bufSize) {p : Nat} {old : Publisher InAppMessage}
    (found : h.publishers[p]? = some old) (busy : old ≠ .returned) :
    ∃ label next new buffer, (∀ stage : Stage, stage.permits label = true) ∧
      Realtime.step h label = some next ∧ next.publishers = h.publishers.set p new ∧
      Joined key buffer next ∧ Turn.effort new + buffer.length < Turn.effort old := by
  have permitted : ∀ label, Stage.accepted.permits label = true →
      ∀ stage : Stage, stage.permits label = true :=
    fun label permitted stage => permits_alike stage permitted nofun
  cases joined.publishers old (List.mem_of_getElem? found) with
  | nobody msg =>
      refine ⟨.range p, _, .returned, [], permitted _ rfl, ?_, rfl,
        joined.setPublisher .returned, by simp [Turn.effort]⟩
      simp [Realtime.step, running, found]
  | found msg =>
      refine ⟨.range p, _, .ranging 0 [0] [] msg, [], permitted _ rfl, ?_, rfl,
        joined.setPublisher (.ranging msg), by simp [Turn.effort]⟩
      simp [Realtime.step, running, found, joined.listed]
  | ranging msg =>
      refine ⟨.pick p 0, _, .picked 0 [0] [] msg 0, [], permitted _ rfl, ?_, rfl,
        joined.setPublisher (.picked msg), by simp [Turn.effort]⟩
      simp [Realtime.step, running, found, joined.listed]
  | picked msg =>
      have kept : Joined key [msg]
          { h with chans := [{ key := key, buffer := [msg], phase := .live }] } :=
        ⟨joined.conns, joined.elsewhere, joined.sets, rfl, joined.publishers⟩
      refine ⟨.send p, _, .ranging 0 [0] [0] msg, [msg], permitted _ rfl, ?_, rfl,
        kept.setPublisher (.sent msg), by simp [Turn.effort]⟩
      simp [Realtime.step, running, found, joined.chans, Hub.deliver, room]
  | sent msg =>
      refine ⟨.finish p, _, .returned, [], permitted _ rfl, ?_, rfl,
        joined.setPublisher .returned, by simp [Turn.effort]⟩
      simp [Realtime.step, running, found, joined.listed]
  | returned => exact absurd rfl busy

/-- The step can be made, fails in nothing, and brings the end closer. -/
def Helps (c : Session) (s : State) (action : Action) : Prop :=
  Finishing s action ∧ ∃ next, step c s action = some next ∧ next.effort < s.effort

theorem subscribe_helps (inv : Inv c s) (fresh : s.stage = .accepted) :
    Helps c s .subscribe := by
  have wired := inv.wired
  rw [fresh] at wired
  have joined : Joined c.key [] (s.hub.subscribe c.key) := wired.1.subscribe c.key
  have publishers : (s.hub.subscribe c.key).publishers = s.hub.publishers := by
    unfold Hub.subscribe
    split <;> rfl
  have taken : step c s .subscribe = some
      { s with hub := s.hub.subscribe c.key, stage := .subscribed s.hub.chans.length } := by
    simp [step, fresh, Realtime.step, inv.running, Session.key]
  refine ⟨⟨rfl, trivial⟩, _, taken, ?_⟩
  simp only [State.effort, State.buffered, fresh, Stage.channel, Stage.effort, publishers,
    wired.1.chans, joined.chans, List.length_nil, List.getElem?_cons_zero, Option.map_some,
    Option.getD_some]
  omega

theorem history_helps {ch : Nat} (here : s.stage = .subscribed ch) :
    Helps c s (.history .up .up) := by
  have taken : step c s (.history .up .up) = some
      { s with stage := .streaming ch (missed c s.store .up .up) } := by
    simp only [step, here]
  have few := length_missed_le c s.store .up .up
  refine ⟨⟨rfl, rfl, rfl⟩, _, taken, ?_⟩
  simp only [State.effort, State.buffered, here, Stage.channel, Stage.effort]
  omega

theorem writeHistory_helps {ch : Nat} {m : InAppMessage} {left : List InAppMessage}
    (here : s.stage = .streaming ch (m :: left)) : Helps c s (.writeHistory true) := by
  have taken : step c s (.writeHistory true) = some
      { s with stage := .streaming ch left, frames := s.frames ++ [.history m] } := by
    simp [step, here]
  refine ⟨⟨rfl, rfl⟩, _, taken, ?_⟩
  simp only [State.effort, State.buffered, here, Stage.channel, Stage.effort, List.length_cons]
  omega

theorem receive_helps (inv : Inv c s) {m : InAppMessage} {rest : List InAppMessage}
    (here : s.stage = .streaming 0 []) (joined : Joined c.key (m :: rest) s.hub) :
    Helps c s (.receive true) := by
  have found : s.hub.chans[0]? = some { key := c.key, buffer := m :: rest, phase := .live } := by
    simp [joined.chans]
  have taken : step c s (.receive true) = some
      { s with
        hub := { s.hub with
          chans := s.hub.chans.set 0 { key := c.key, buffer := rest, phase := .live } }
        frames := s.frames ++ [.message m] } := by
    simp [step, here, found, Realtime.step, inv.running]
  refine ⟨⟨rfl, rfl⟩, _, taken, ?_⟩
  simp only [State.effort, State.buffered, here, Stage.channel, Stage.effort, found,
    Threads.set_self found, Option.map_some, Option.getD_some, List.length_cons]
  omega

theorem hub_helps (inv : Inv c s) (here : s.stage = .streaming 0 [])
    (joined : Joined c.key [] s.hub) {p : Nat} {old : Publisher InAppMessage}
    (found : s.hub.publishers[p]? = some old) (busy : old ≠ .returned) :
    ∃ action, Helps c s action := by
  obtain ⟨label, hub, new, buffer, permitted, turned, publishers, joined', less⟩ :=
    joined.progress inv.running inv.room found busy
  have taken : step c s (.hub label) = some { s with hub := hub } := by
    simp [step, permitted, turned]
  have sound : Sound s (.hub label) := by
    cases label with
    | send q =>
        intro chan member
        rw [joined.chans] at member
        obtain rfl := List.mem_singleton.mp member
        exact inv.room
    | subscribe | remove | close | lookup | range | pick | finish | receive => trivial
  have sum := Threads.sum_set new Turn.effort found
  have before : s.buffered = [] := joined.buffered (by rw [here]; rfl)
  have after : State.buffered { s with hub := hub } = buffer :=
    joined'.buffered (by rw [here]; rfl)
  refine ⟨.hub label, ⟨rfl, sound⟩, _, taken, ?_⟩
  simp only [State.effort, before, after, publishers, List.length_nil]
  omega

theorem forward_helps (inv : Inv c s) (here : s.stage = .streaming 0 [])
    (idle : ∀ p ∈ s.hub.publishers, p = .returned)
    {address : String} {msg : InAppMessage} {rest : List (String × InAppMessage)}
    (first : s.wire = (address, msg) :: rest) : Helps c s .forward := by
  have known : address = channelOf msg := inv.wire (address, msg) (first ▸ List.mem_cons_self)
  have parts : channelParts address = some (msg.tenantID.text, msg.recipientID) := by
    rw [known, channelOf, channelParts_redisChannel]
  have taken : step c s .forward = some
      { s with
        wire := rest
        hub := { s.hub with
          publishers := s.hub.publishers ++
            [.found (s.hub.conns (hubKey msg.tenantID.text msg.recipientID)) msg] } } := by
    simp [step, first, parts, Realtime.step, inv.running]
    exact idle
  have light : ∀ chans, Turn.effort (.found chans msg) ≤ 5 := by
    intro chans
    cases chans <;> simp [Turn.effort]
  have bound := light (s.hub.conns (hubKey msg.tenantID.text msg.recipientID))
  refine ⟨⟨rfl, trivial⟩, _, taken, ?_⟩
  simp only [State.effort, State.buffered, here, first, Stage.channel, List.map_append,
    List.map_cons, List.map_nil, List.sum_append, List.sum_cons, List.sum_nil, List.length_cons]
  omega

theorem publish_helps {p : Nat} {address : String} {saved : InAppMessage}
    (here : s.calls[p]? = some (.publishing address saved)) : Helps c s (.publish p true) := by
  have taken : step c s (.publish p true) = some
      { s with
        calls := s.calls.set p (.returned (.ok ()))
        wire := s.wire ++ [(address, saved)] } := by
    simp [step, here]
  have sum := Threads.sum_set (.returned (.ok ())) SendCall.effort here
  refine ⟨⟨rfl, rfl⟩, _, taken, ?_⟩
  simp only [SendCall.effort] at sum
  simp only [State.effort, State.buffered, List.length_append, List.length_cons, List.length_nil]
  omega

/-- As long as not everything is written, one of the parties can go on. -/
theorem exists_helps (inv : Inv c s) (unsettled : ¬s.Settled) : ∃ action, Helps c s action := by
  cases here : s.stage with
  | accepted => exact ⟨_, subscribe_helps inv here⟩
  | subscribed ch => exact ⟨_, history_helps here⟩
  | streaming ch left =>
      have wired := inv.wired
      rw [here] at wired
      obtain ⟨rfl, buffer, joined⟩ := wired
      have content : s.buffered = buffer := joined.buffered (by rw [here]; rfl)
      cases left with
      | cons m left => exact ⟨_, writeHistory_helps here⟩
      | nil =>
          cases buffer with
          | cons m rest => exact ⟨_, receive_helps inv here joined⟩
          | nil =>
              by_cases idle : ∀ p ∈ s.hub.publishers, p = .returned
              · cases first : s.wire with
                | cons sent rest => exact ⟨_, forward_helps inv here idle first⟩
                | nil =>
                    have unpublished : s.unpublished ≠ [] := fun published =>
                      unsettled ⟨⟨0, here⟩, published, first, idle, content⟩
                    obtain ⟨m, member⟩ := List.exists_mem_of_ne_nil _ unpublished
                    obtain ⟨call, stands, saved⟩ := List.mem_flatMap.mp member
                    obtain ⟨p, found⟩ := List.mem_iff_getElem?.mp stands
                    cases call with
                    | publishing address saved => exact ⟨_, publish_helps found⟩
                    | returned result => cases saved
              · simp only [not_forall] at idle
                obtain ⟨old, member, busy⟩ := idle
                obtain ⟨p, found⟩ := List.mem_iff_getElem?.mp member
                exact hub_helps inv here joined found busy
  | ended ch => exact absurd here (inv.wired.not_ended ch)

theorem settles (inv : Inv c s) :
    ∃ rest last, Transition.Guarded (step c) Finishing s rest ∧ run c s rest = some last ∧
      last.Settled := by
  apply Transition.reaches State.effort _ inv
  intro s inv unsettled
  obtain ⟨action, finishing, next, taken, less⟩ := exists_helps inv unsettled
  exact ⟨action, next, finishing, taken, inv.step finishing.2 taken, less⟩

end Progress

end NotifyHub.Stream
