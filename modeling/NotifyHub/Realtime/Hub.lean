import Mathlib.Logic.Function.Basic
import NotifyHub.Lib.Threads
import NotifyHub.Lib.Transition

/-! # `Hub`

The in-process fan-out to WebSocket connections. `conns` maps a key to a set of
channels that is a reference: Publish reads it under the read lock and ranges over
the set itself, not over a copy, after the lock is released. Sets and channels are
numbered in the order in which they are made.

A label is one step of one goroutine: a locked section, the close of a channel, one
turn of the range loop, or one non-blocking send. A send on a closed channel panics,
and nothing runs after that. The fatal error with which Go may stop a program that ranges over a
map while it is written is left out: a turn takes any channel that is in the set by then.
-/

namespace NotifyHub.Realtime

/-- How far the cancel function of a subscription has come. -/
inductive Phase where
  | live
  | removed
  | closed
  deriving Repr, DecidableEq

/-- The channel of one subscription. -/
structure Chan (α : Type) where
  key : String
  buffer : List α
  phase : Phase
  deriving Repr, DecidableEq

/-- `make(chan []byte, h.bufSize)`, registered under the key. -/
def Chan.opened {α : Type} (key : String) : Chan α := { key := key, buffer := [], phase := .live }

/-- A call of Publish. `first` are the channels listed when the range loop began, and
    `visited` those it has been through; `picked` stands between the two halves of a
    turn, where the loop has its channel and has not sent yet. -/
inductive Publisher (α : Type) where
  | found (chans : Option Nat) (msg : α)
  | ranging (chans : Nat) (first visited : List Nat) (msg : α)
  | picked (chans : Nat) (first visited : List Nat) (msg : α) (ch : Nat)
  | returned
  deriving Repr, DecidableEq

structure Hub (α : Type) where
  bufSize : Nat
  conns : String → Option Nat
  sets : List (List Nat)
  chans : List (Chan α)
  publishers : List (Publisher α)
  panicked : Bool

inductive Label (α : Type) where
  | subscribe (tenantID recipientID : String)
  | remove (ch : Nat)
  | close (ch : Nat)
  | lookup (tenantID recipientID : String) (msg : α)
  | range (p : Nat)
  | pick (p ch : Nat)
  | send (p : Nat)
  | finish (p : Nat)
  | receive (ch : Nat)
  deriving Repr, DecidableEq

variable {α : Type}

def hubKey (tenantID recipientID : String) : String := tenantID ++ ":" ++ recipientID

def newHub (bufSize : Int) : Hub α :=
  { bufSize := if bufSize ≤ 0 then 32 else bufSize.toNat
    conns := fun _ => none
    sets := []
    chans := []
    publishers := []
    panicked := false }

namespace Hub

/-- The channels behind a reference. A nil map lists none. -/
def listed (h : Hub α) (chans : Option Nat) : List Nat :=
  (chans.bind fun r => h.sets[r]?).getD []

/-- `Subscribe`. -/
def subscribe (h : Hub α) (key : String) : Hub α :=
  match h.conns key with
  | none =>
      { h with
        chans := h.chans ++ [.opened key]
        conns := Function.update h.conns key (some h.sets.length)
        sets := h.sets ++ [[h.chans.length]] }
  | some r =>
      { h with
        chans := h.chans ++ [.opened key]
        sets := h.sets.set r (h.listed (some r) ++ [h.chans.length]) }

/-- The locked part of `cancel`; a key whose set is empty goes too. -/
def remove (h : Hub α) (ch : Nat) (c : Chan α) : Hub α :=
  let left := (h.listed (h.conns c.key)).filter (· ≠ ch)
  { h with
    chans := h.chans.set ch { c with phase := .removed }
    conns := if left = [] then Function.update h.conns c.key none else h.conns
    sets :=
      match h.conns c.key with
      | none => h.sets
      | some r => h.sets.set r left }

/-- One non-blocking send; a full buffer drops the message. -/
def deliver (h : Hub α) (ch : Nat) (c : Chan α) (msg : α) : Hub α :=
  if c.phase = .closed then { h with panicked := true }
  else if c.buffer.length < h.bufSize then
    { h with chans := h.chans.set ch { c with buffer := c.buffer ++ [msg] } }
  else h

def setPublisher (h : Hub α) (p : Nat) (publisher : Publisher α) : Hub α :=
  { h with publishers := h.publishers.set p publisher }

end Hub

def step (h : Hub α) (label : Label α) : Option (Hub α) :=
  if h.panicked then none
  else
    match label with
    | .subscribe tenantID recipientID => some (h.subscribe (hubKey tenantID recipientID))
    | .remove ch =>
        match h.chans[ch]? with
        | some c => if c.phase = .live then some (h.remove ch c) else none
        | none => none
    | .close ch =>
        match h.chans[ch]? with
        | some c =>
            if c.phase = .removed then
              some { h with chans := h.chans.set ch { c with phase := .closed } }
            else none
        | none => none
    | .lookup tenantID recipientID msg =>
        some { h with
          publishers := h.publishers ++ [.found (h.conns (hubKey tenantID recipientID)) msg] }
    | .range p =>
        match h.publishers[p]? with
        | some (.found none _) => some (h.setPublisher p .returned)
        | some (.found (some r) msg) =>
            some (h.setPublisher p (.ranging r (h.listed (some r)) [] msg))
        | _ => none
    | .pick p ch =>
        match h.publishers[p]? with
        | some (.ranging r first visited msg) =>
            -- an entry removed before the loop reaches it is not produced
            if ch ∈ h.listed (some r) ∧ ch ∉ visited then
              some (h.setPublisher p (.picked r first visited msg ch))
            else none
        | _ => none
    | .send p =>
        match h.publishers[p]? with
        | some (.picked r first visited msg ch) =>
            match h.chans[ch]? with
            | some c =>
                some ((h.deliver ch c msg).setPublisher p (.ranging r first (visited ++ [ch]) msg))
            | none => none
        | _ => none
    | .finish p =>
        match h.publishers[p]? with
        | some (.ranging r first visited _) =>
            -- an entry made during the loop may be skipped
            if ∀ ch ∈ h.listed (some r), ch ∈ first → ch ∈ visited then
              some (h.setPublisher p .returned)
            else none
        | _ => none
    | .receive ch =>
        match h.chans[ch]? with
        | some c =>
            match c.buffer with
            | _ :: rest => some { h with chans := h.chans.set ch { c with buffer := rest } }
            | [] => none
        | none => none

abbrev run : Hub α → List (Label α) → Option (Hub α) := Transition.run step

/-- Publish has the channel in hand. -/
def Publisher.Holds (ch : Nat) : Publisher α → Prop
  | .picked _ _ _ _ c => c = ch
  | .found .. | .ranging .. | .returned => False

instance (ch : Nat) : (p : Publisher α) → Decidable (p.Holds ch)
  | .picked _ _ _ _ c => inferInstanceAs (Decidable (c = ch))
  | .found .. | .ranging .. | .returned => .isFalse id

/-! ## What the sets list -/

/-- A listed channel is one that no cancel has touched, in the set of its own key. -/
def Coherent (h : Hub α) : Prop :=
  ∀ r set ch, h.sets[r]? = some set → ch ∈ set →
    ∃ c, h.chans[ch]? = some c ∧ c.phase = .live ∧ h.conns c.key = some r

section Steps

variable {h next : Hub α} {ch p : Nat} {c : Chan α}

theorem listed_some {r : Nat} (member : ch ∈ h.listed (some r)) :
    ∃ set, h.sets[r]? = some set ∧ ch ∈ set := by
  cases found : h.sets[r]? with
  | none => simp [Hub.listed, found] at member
  | some set => exact ⟨set, rfl, by simpa [Hub.listed, found] using member⟩

theorem listed_of_get {r : Nat} {set : List Nat} (found : h.sets[r]? = some set) :
    h.listed (some r) = set := by
  simp [Hub.listed, found]

/-- A channel that was there is still there after a new one. -/
theorem chans_append {new : Chan α} (found : h.chans[ch]? = some c) :
    (h.chans ++ [new])[ch]? = some c := by
  rw [List.getElem?_append_left (List.getElem?_eq_some_iff.mp found).1]
  exact found

theorem Coherent.subscribe (coherent : Coherent h) (key : String) :
    Coherent (h.subscribe key) := by
  have opened : (h.chans ++ [.opened key])[h.chans.length]? = some (Chan.opened key) :=
    Threads.append_new
  intro r set ch found member
  cases entry : h.conns key with
  | none =>
      simp only [Hub.subscribe, entry] at found ⊢
      cases Threads.at_append found with
      | inl new =>
          obtain ⟨rfl, rfl⟩ := new
          obtain rfl := List.mem_singleton.mp member
          exact ⟨.opened key, opened, rfl, Function.update_self ..⟩
      | inr old =>
          obtain ⟨c, here, live, home⟩ := coherent r set ch old member
          have otherKey : c.key ≠ key := by
            rintro rfl
            simp [entry] at home
          exact ⟨c, chans_append here, live, by rw [Function.update_of_ne otherKey]; exact home⟩
  | some own =>
      simp only [Hub.subscribe, entry] at found ⊢
      have kept : ∀ r' set', h.sets[r']? = some set' → ch ∈ set' →
          ∃ c, (h.chans ++ [.opened key])[ch]? = some c ∧ c.phase = .live ∧
            h.conns c.key = some r' := by
        intro r' set' old inside
        obtain ⟨c, here, live, home⟩ := coherent r' set' ch old inside
        exact ⟨c, chans_append here, live, home⟩
      by_cases same : r = own
      · subst same
        have bound : r < h.sets.length := by
          simpa using (List.getElem?_eq_some_iff.mp found).1
        rw [List.getElem?_set_self bound] at found
        obtain rfl := Option.some.inj found
        cases List.mem_append.mp member with
        | inl old =>
            obtain ⟨set', here, inside⟩ := listed_some old
            exact kept r set' here inside
        | inr new =>
            obtain rfl := List.mem_singleton.mp new
            exact ⟨.opened key, opened, rfl, entry⟩
      · rw [List.getElem?_set_ne (Ne.symm same)] at found
        exact kept r set found member

/-- Where a listed channel's record stands after another record is replaced. -/
theorem chans_set_other {other : Nat} {new : Chan α} (ne : other ≠ ch)
    (found : h.chans[other]? = some c) : (h.chans.set ch new)[other]? = some c :=
  Threads.set_other ne found

theorem Coherent.remove (coherent : Coherent h) (here : h.chans[ch]? = some c) :
    Coherent (h.remove ch c) := by
  intro r set other found member
  -- the removed channel is in no set: its own set has just lost it
  have survives : ∃ before, h.sets[r]? = some before ∧ other ∈ before ∧ other ≠ ch := by
    cases entry : h.conns c.key with
    | none =>
        simp only [Hub.remove, entry] at found
        refine ⟨set, found, member, ?_⟩
        rintro rfl
        obtain ⟨c', here', _, home⟩ := coherent r set other found member
        obtain rfl := Option.some.inj (here.symm.trans here')
        simp [entry] at home
    | some own =>
        simp only [Hub.remove, entry] at found
        by_cases same : r = own
        · subst same
          have bound : r < h.sets.length := by
            simpa using (List.getElem?_eq_some_iff.mp found).1
          rw [List.getElem?_set_self bound] at found
          obtain rfl := Option.some.inj found
          obtain ⟨inside, ne⟩ := List.mem_filter.mp member
          obtain ⟨before, old, was⟩ := listed_some inside
          exact ⟨before, old, was, by simpa using ne⟩
        · rw [List.getElem?_set_ne (Ne.symm same)] at found
          refine ⟨set, found, member, ?_⟩
          rintro rfl
          obtain ⟨c', here', _, home⟩ := coherent r set other found member
          obtain rfl := Option.some.inj (here.symm.trans here')
          exact same (Option.some.inj (home.symm.trans entry))
  obtain ⟨before, old, was, ne⟩ := survives
  obtain ⟨c', here', live, home⟩ := coherent r before other old was
  refine ⟨c', chans_set_other ne here', live, ?_⟩
  simp only [Hub.remove]
  split
  · rename_i empty
    by_cases sameKey : c'.key = c.key
    · -- a key that still lists someone keeps its entry
      rw [← sameKey, home, listed_of_get old] at empty
      exact absurd (List.filter_eq_nil_iff.mp empty other was) (by simpa using ne)
    · rw [Function.update_of_ne sameKey]
      exact home
  · exact home

/-- Replacing a channel's record by one with the same key and phase. -/
theorem Coherent.setChan {new : Chan α} (coherent : Coherent h) (here : h.chans[ch]? = some c)
    (key : new.key = c.key) (phase : c.phase = .live → new.phase = .live) :
    Coherent { h with chans := h.chans.set ch new } := by
  intro r set other found member
  obtain ⟨c', here', live, home⟩ := coherent r set other found member
  by_cases same : other = ch
  · subst same
    obtain rfl := Option.some.inj (here.symm.trans here')
    exact ⟨new, Threads.set_self here, phase live, key ▸ home⟩
  · exact ⟨c', chans_set_other same here', live, home⟩
end Steps

/-! ## What a step can do -/

/-- The transitions of the hub, coarsely. -/
inductive Move (h : Hub α) : Label α → Hub α → Prop where
  | subscribe {tenantID recipientID} :
      Move h (.subscribe tenantID recipientID) (h.subscribe (hubKey tenantID recipientID))
  | removed {ch c} (here : h.chans[ch]? = some c) : Move h (.remove ch) (h.remove ch c)
  | closed {ch c} (here : h.chans[ch]? = some c) (removed : c.phase = .removed) :
      Move h (.close ch) { h with chans := h.chans.set ch { c with phase := .closed } }
  | called {tenantID recipientID msg chans} :
      Move h (.lookup tenantID recipientID msg)
        { h with publishers := h.publishers ++ [.found chans msg] }
  | turned {label p publisher} (idle : ∀ ch, ¬ publisher.Holds ch)
      (outside : ∀ ch, label ≠ .close ch) : Move h label (h.setPublisher p publisher)
  | picked {p ch r first visited msg} (member : ch ∈ h.listed (some r)) :
      Move h (.pick p ch) (h.setPublisher p (.picked r first visited msg ch))
  | sent {p ch c r first visited msg} (held : h.publishers[p]? = some (.picked r first visited msg ch))
      (here : h.chans[ch]? = some c) :
      Move h (.send p)
        ((h.deliver ch c msg).setPublisher p (.ranging r first (visited ++ [ch]) msg))
  | received {ch c msg rest} (here : h.chans[ch]? = some c) (waiting : c.buffer = msg :: rest) :
      Move h (.receive ch) { h with chans := h.chans.set ch { c with buffer := rest } }

/-- Every step is one of the transitions. -/
theorem step_move {h next : Hub α} {label : Label α} (taken : step h label = some next) :
    Move h label next := by
  unfold step at taken
  split at taken
  · simp at taken
  cases label with
  | subscribe tenantID recipientID =>
      obtain rfl := Option.some.inj taken
      exact .subscribe
  | remove ch =>
      simp only at taken
      split at taken
      · rename_i c here
        split at taken
        · obtain rfl := Option.some.inj taken
          exact .removed here
        · simp at taken
      · simp at taken
  | close ch =>
      simp only at taken
      split at taken
      · rename_i c here
        split at taken
        · rename_i removed
          obtain rfl := Option.some.inj taken
          exact .closed here removed
        · simp at taken
      · simp at taken
  | lookup tenantID recipientID msg =>
      obtain rfl := Option.some.inj taken
      exact .called
  | range p =>
      simp only at taken
      split at taken
      · obtain rfl := Option.some.inj taken
        exact .turned (fun _ => id) nofun
      · obtain rfl := Option.some.inj taken
        exact .turned (fun _ => id) nofun
      · simp at taken
  | pick p ch =>
      simp only at taken
      split at taken
      · split at taken
        · rename_i allowed
          obtain rfl := Option.some.inj taken
          exact .picked allowed.1
        · simp at taken
      · simp at taken
  | send p =>
      simp only at taken
      split at taken
      · rename_i held
        split at taken
        · rename_i here
          obtain rfl := Option.some.inj taken
          exact .sent held here
        · simp at taken
      · simp at taken
  | finish p =>
      simp only at taken
      split at taken
      · split at taken
        · obtain rfl := Option.some.inj taken
          exact .turned (fun _ => id) nofun
        · simp at taken
      · simp at taken
  | receive ch =>
      simp only at taken
      split at taken
      · rename_i here
        split at taken
        · rename_i waiting
          obtain rfl := Option.some.inj taken
          exact .received here waiting
        · simp at taken
      · simp at taken

/-! ## Sends on closed channels -/

/-- The channel exists and is not closed. -/
def Sendable (h : Hub α) (ch : Nat) : Prop := ∃ c, h.chans[ch]? = some c ∧ c.phase ≠ .closed

structure Safe (h : Hub α) : Prop where
  coherent : Coherent h
  picked : ∀ p ∈ h.publishers, ∀ ch, p.Holds ch → Sendable h ch
  sound : h.panicked = false

/-- No Publish has picked the channel that is about to be closed. -/
def UnpickedClose (h : Hub α) : Label α → Prop
  | .close ch => ∀ p ∈ h.publishers, ¬ p.Holds ch
  | _ => True

instance (h : Hub α) : (label : Label α) → Decidable (UnpickedClose h label)
  | .close ch => inferInstanceAs (Decidable (∀ p ∈ h.publishers, ¬ p.Holds ch))
  | .subscribe .. | .remove .. | .lookup .. | .range .. | .pick .. | .send .. | .finish ..
  | .receive .. => .isTrue trivial

section Safety

variable {h next : Hub α} {ch : Nat} {c : Chan α}

theorem Sendable.subscribe (open_ : Sendable h ch) (key : String) :
    Sendable (h.subscribe key) ch := by
  obtain ⟨c, here, phase⟩ := open_
  refine ⟨c, ?_, phase⟩
  unfold Hub.subscribe
  split <;> exact chans_append here

theorem Sendable.setChan {new : Chan α} {other : Nat} (open_ : Sendable h other)
    (here : h.chans[ch]? = some c) (phase : other = ch → new.phase ≠ .closed) :
    Sendable { h with chans := h.chans.set ch new } other := by
  obtain ⟨c', here', phase'⟩ := open_
  by_cases same : other = ch
  · subst same
    exact ⟨new, Threads.set_self here, phase rfl⟩
  · exact ⟨c', chans_set_other same here', phase'⟩

theorem sendable_of_listed (coherent : Coherent h) {r : Nat} (member : ch ∈ h.listed (some r)) :
    Sendable h ch := by
  obtain ⟨set, found, inside⟩ := listed_some member
  obtain ⟨c, here, live, _⟩ := coherent r set ch found inside
  exact ⟨c, here, by simp [live]⟩

/-- Nothing but the publishers changes: the new one holds nothing or a sendable channel. -/
theorem Safe.setPublisher (safe : Safe h) {p : Nat} {publisher : Publisher α}
    (held : ∀ ch, publisher.Holds ch → Sendable h ch) : Safe (h.setPublisher p publisher) := by
  refine ⟨safe.coherent, ?_, safe.sound⟩
  intro q member ch holds
  cases Threads.mem_set member with
  | inl new =>
      subst new
      exact held ch holds
  | inr old => exact safe.picked q old ch holds

theorem Safe.deliver (safe : Safe h) (here : h.chans[ch]? = some c) (open_ : c.phase ≠ .closed)
    (msg : α) : Safe (h.deliver ch c msg) := by
  unfold Hub.deliver
  rw [if_neg open_]
  split
  · exact ⟨safe.coherent.setChan here rfl id,
      fun p member other holds => (safe.picked p member other holds).setChan here fun _ => open_,
      safe.sound⟩
  · exact safe

theorem Safe.step (safe : Safe h) {label : Label α} (unpicked : UnpickedClose h label)
    (taken : step h label = some next) : Safe next := by
  cases step_move taken with
  | subscribe =>
      refine ⟨safe.coherent.subscribe _, ?_, ?_⟩
      · intro p member ch holds
        refine (safe.picked p ?_ ch holds).subscribe _
        unfold Hub.subscribe at member
        split at member <;> exact member
      · unfold Hub.subscribe
        split <;> exact safe.sound
  | removed here =>
      exact ⟨safe.coherent.remove here,
        fun p member other holds => (safe.picked p member other holds).setChan here (by simp),
        safe.sound⟩
  | closed here removed =>
      refine ⟨safe.coherent.setChan here rfl (by simp [removed]), ?_, safe.sound⟩
      intro p member other holds
      refine (safe.picked p member other holds).setChan here ?_
      rintro rfl
      exact absurd holds (unpicked p member)
  | called =>
      refine ⟨safe.coherent, ?_, safe.sound⟩
      intro p member ch holds
      cases List.mem_append.mp member with
      | inl old => exact safe.picked p old ch holds
      | inr new =>
          obtain rfl := List.mem_singleton.mp new
          exact holds.elim
  | turned idle => exact safe.setPublisher fun ch holds => absurd holds (idle ch)
  | picked member =>
      refine safe.setPublisher ?_
      rintro ch rfl
      exact sendable_of_listed safe.coherent member
  | sent held here =>
      obtain ⟨c', here', open_⟩ := safe.picked _ (List.mem_of_getElem? held) _ rfl
      obtain rfl := Option.some.inj (here.symm.trans here')
      exact (safe.deliver here open_ _).setPublisher fun _ => False.elim
  | received here =>
      refine ⟨safe.coherent.setChan here rfl id, ?_, safe.sound⟩
      intro p member other holds
      have open_ := safe.picked p member other holds
      refine open_.setChan here ?_
      rintro rfl
      obtain ⟨c', here', phase⟩ := open_
      obtain rfl := Option.some.inj (here.symm.trans here')
      exact phase

end Safety

theorem Safe.initial (bufSize : Int) : Safe (newHub bufSize : Hub α) :=
  ⟨by simp [Coherent, newHub], by simp [newHub], rfl⟩

/-- As long as no channel is closed while a Publish has picked it, no send panics. -/
theorem never_sends_on_closed (bufSize : Int) (labels : List (Label α)) (h : Hub α)
    (unpicked : Transition.Guarded step UnpickedClose (newHub bufSize) labels)
    (finished : run (newHub bufSize) labels = some h) : h.panicked = false :=
  (unpicked.invariant (fun _ _ _ safe close taken => safe.step close taken) (Safe.initial bufSize)
    finished).sound

/-- A client connects, gets a message and leaves, step by step. -/
def visit : List (Label Nat) :=
  [.subscribe "t" "u", .lookup "t" "u" 7, .range 0, .pick 0 0, .send 0, .finish 0, .receive 0,
    .remove 0, .close 0]

theorem visit_safe : ∃ h, run (newHub 0) visit = some h ∧ h.panicked = false := by
  have whole : (run (newHub 0) visit).isSome = true := by decide +kernel
  obtain ⟨h, finished⟩ := Option.isSome_iff_exists.mp whole
  exact ⟨h, finished, never_sends_on_closed 0 visit h (by decide +kernel) finished⟩

/-- The client leaves between the two halves of a turn of the loop. -/
theorem leaves_during_publish :
    ∃ h, run (newHub 0) ([.subscribe "t" "u", .lookup "t" "u" 7, .range 0, .pick 0 0, .remove 0,
      .close 0, .send 0] : List (Label Nat)) = some h ∧ h.panicked = true := by
  have ends : ((run (newHub 0) ([.subscribe "t" "u", .lookup "t" "u" 7, .range 0, .pick 0 0,
      .remove 0, .close 0, .send 0] : List (Label Nat))).map (·.panicked)) = some true := by
    decide +kernel
  exact Option.map_eq_some_iff.mp ends

/-- Every close of a picked channel is one step from a panic. -/
theorem panics_of_picked_close {h next : Hub α} {ch p r : Nat} {first visited : List Nat} {msg : α}
    (held : h.publishers[p]? = some (.picked r first visited msg ch))
    (closed : step h (.close ch) = some next) :
    ∃ last, step next (.send p) = some last ∧ last.panicked = true := by
  have running : h.panicked = false := by
    by_contra dead
    simp [step, dead] at closed
  cases step_move closed with
  | turned _ outside => exact absurd rfl (outside ch)
  | @closed _ c here _ =>
      have shut : (h.chans.set ch { c with phase := .closed })[ch]? =
          some { c with phase := .closed } := Threads.set_self here
      simp only [step, running, Bool.false_eq_true, if_false, held, shut]
      exact ⟨_, rfl, by simp [Hub.deliver, Hub.setPublisher]⟩

end NotifyHub.Realtime
