import NotifyHub.Lib.Feed
import NotifyHub.Realtime.Registry

/-! # Subscribers of the hub

Subscribe, cancel, Publish and a receive as single operations on the hub: runs of the
steps of one goroutine with nobody in between. Publish goes through the set of its key
in any order.

A journal keeps what the hub forgets: every message published, and for each channel its
pair, the stretch of publishes during which it was subscribed, what its reader has
received, and the publishes that found its buffer full.
-/

namespace NotifyHub.Realtime

inductive Operation (α : Type) where
  | subscribe (tenantID recipientID : String)
  | cancel (ch : Nat)
  | publish (tenantID recipientID : String) (msg : α) (order : List Nat)
  | receive (ch : Nat)
  deriving Repr, DecidableEq

variable {α : Type}

namespace Hub

def cancel (h : Hub α) (ch : Nat) (c : Chan α) : Hub α :=
  { h.remove ch c with chans := h.chans.set ch { c with phase := .closed } }

/-- One turn of the range loop. -/
def offer (msg : α) (h : Hub α) (ch : Nat) : Hub α :=
  match h.chans[ch]? with
  | some c => h.deliver ch c msg
  | none => h

def publish (h : Hub α) (msg : α) (order : List Nat) : Hub α :=
  { order.foldl (offer msg) h with publishers := h.publishers ++ [.returned] }

end Hub

def atomic (h : Hub α) : Operation α → Option (Hub α)
  | .subscribe tenantID recipientID => some (h.subscribe (hubKey tenantID recipientID))
  | .cancel ch =>
      match h.chans[ch]? with
      | some c => if c.phase = .live then some (h.cancel ch c) else none
      | none => none
  | .publish tenantID recipientID msg order =>
      if order.Perm (h.listed (h.conns (hubKey tenantID recipientID))) then
        some (h.publish msg order)
      else none
  | .receive ch =>
      match h.chans[ch]? with
      | some c =>
          match c.buffer with
          | _ :: rest => some { h with chans := h.chans.set ch { c with buffer := rest } }
          | [] => none
      | none => none

section Effects

variable {h next : Hub α} {ch : Nat}

theorem atomic_cancel (done : atomic h (.cancel ch) = some next) :
    ∃ c, h.chans[ch]? = some c ∧ c.phase = .live ∧ next = h.cancel ch c := by
  simp only [atomic] at done
  split at done
  · rename_i c here
    simp only [Option.ite_none_right_eq_some, Option.some.injEq] at done
    exact ⟨c, here, done.1, done.2.symm⟩
  · cases done

theorem atomic_publish {tenantID recipientID : String} {msg : α} {order : List Nat}
    (done : atomic h (.publish tenantID recipientID msg order) = some next) :
    order.Perm (h.listed (h.conns (hubKey tenantID recipientID))) ∧
      next = h.publish msg order := by
  simp only [atomic, Option.ite_none_right_eq_some, Option.some.injEq] at done
  exact ⟨done.1, done.2.symm⟩

theorem atomic_receive (done : atomic h (.receive ch) = some next) :
    ∃ c msg rest, h.chans[ch]? = some c ∧ c.buffer = msg :: rest ∧
      next = { h with chans := h.chans.set ch { c with buffer := rest } } := by
  simp only [atomic] at done
  split at done
  · rename_i c here
    split at done
    · rename_i msg rest waiting
      exact ⟨c, msg, rest, here, waiting, (Option.some.inj done).symm⟩
    · cases done
  · cases done

end Effects

/-! ## The operations as runs of steps -/

section Refinement

variable {h : Hub α} {ch : Nat} {c : Chan α} {msg : α}

/-- A hub with a Publish under way. -/
def Hub.busy (h : Hub α) (publishers : List (Publisher α)) (last : Publisher α) : Hub α :=
  { h with publishers := publishers ++ [last] }

theorem busy_setPublisher (publishers : List (Publisher α)) (last new : Publisher α) :
    (h.busy publishers last).setPublisher publishers.length new = h.busy publishers new := by
  simp [Hub.busy, Hub.setPublisher]

theorem busy_get (publishers : List (Publisher α)) (last : Publisher α) :
    (h.busy publishers last).publishers[publishers.length]? = some last := by
  simp [Hub.busy]

theorem busy_deliver (publishers : List (Publisher α)) (last : Publisher α) :
    (h.busy publishers last).deliver ch c msg = (h.deliver ch c msg).busy publishers last := by
  unfold Hub.deliver Hub.busy
  by_cases closed : c.phase = .closed
  · simp only [if_pos closed]
  · simp only [if_neg closed]
    by_cases room : c.buffer.length < h.bufSize
    · simp only [if_pos room]
    · simp only [if_neg room]

theorem deliver_listed (ref : Option Nat) : (h.deliver ch c msg).listed ref = h.listed ref := by
  unfold Hub.deliver Hub.listed
  split
  · rfl
  · split
    · rfl
    · rfl

theorem deliver_panicked (open_ : c.phase ≠ .closed) :
    (h.deliver ch c msg).panicked = h.panicked := by
  unfold Hub.deliver
  rw [if_neg open_]
  split
  · rfl
  · rfl

/-- The two steps of a turn. -/
theorem turn_refined (publishers : List (Publisher α)) {r : Nat} (first : List Nat)
    {visited : List Nat} (msg : α) (running : h.panicked = false) (here : h.chans[ch]? = some c)
    (member : ch ∈ h.listed (some r)) (unvisited : ch ∉ visited) :
    run (h.busy publishers (.ranging r first visited msg))
      [.pick publishers.length ch, .send publishers.length] =
        some ((h.deliver ch c msg).busy publishers (.ranging r first (visited ++ [ch]) msg)) := by
  have picked : step (h.busy publishers (.ranging r first visited msg))
      (.pick publishers.length ch) =
        some (h.busy publishers (.picked r first visited msg ch)) := by
    have quiet : (h.busy publishers (.ranging r first visited msg)).panicked = false := running
    have listed : ch ∈ (h.busy publishers (.ranging r first visited msg)).listed (some r) := member
    simp only [step, quiet, busy_get, listed, unvisited, busy_setPublisher]
    simp
  have sent : step (h.busy publishers (.picked r first visited msg ch))
      (.send publishers.length) =
        some ((h.deliver ch c msg).busy publishers (.ranging r first (visited ++ [ch]) msg)) := by
    have quiet : (h.busy publishers (.picked r first visited msg ch)).panicked = false := running
    have found : (h.busy publishers (.picked r first visited msg ch)).chans[ch]? = some c := here
    simp only [step, quiet, busy_get, found, busy_deliver, busy_setPublisher]
    simp
  rw [run, Transition.run_cons picked, Transition.run_cons sent]
  rfl

/-- The turns of the loop, by induction on the channels that are left. -/
theorem turns_refined (publishers : List (Publisher α)) {r : Nat} (first : List Nat) (msg : α)
    (rest : List Nat) {visited : List Nat} (registered : Registered h)
    (running : h.panicked = false) (listed : ∀ ch ∈ rest, ch ∈ h.listed (some r))
    (unvisited : ∀ ch ∈ rest, ch ∉ visited) (once : rest.Nodup) :
    run (h.busy publishers (.ranging r first visited msg))
      (rest.flatMap fun ch => [.pick publishers.length ch, .send publishers.length]) =
        some ((rest.foldl (Hub.offer msg) h).busy publishers
          (.ranging r first (visited ++ rest) msg)) ∧
      (rest.foldl (Hub.offer msg) h).panicked = false ∧
      (rest.foldl (Hub.offer msg) h).listed (some r) = h.listed (some r) := by
  induction rest generalizing h visited with
  | nil => simpa using ⟨rfl, running⟩
  | cons ch rest ih =>
      obtain ⟨apart, fewer⟩ := List.nodup_cons.mp once
      have member := listed ch List.mem_cons_self
      obtain ⟨set, found, inside⟩ := listed_some member
      obtain ⟨c, here, live, _⟩ := registered.coherent r set ch found inside
      have open_ : c.phase ≠ .closed := by simp [live]
      have offered : Hub.offer msg h ch = h.deliver ch c msg := by simp only [Hub.offer, here]
      have turn := turn_refined publishers first msg running here member
        (unvisited ch List.mem_cons_self)
      have same : (h.deliver ch c msg).listed (some r) = h.listed (some r) := deliver_listed _
      have later : ∀ other ∈ rest, other ∉ visited ++ [ch] := by
        intro other inRest
        rw [List.mem_append, List.mem_singleton, not_or]
        exact ⟨unvisited other (List.mem_cons_of_mem _ inRest), fun same => apart (same ▸ inRest)⟩
      obtain ⟨onward, quiet, kept⟩ := ih (registered.deliver here msg)
        ((deliver_panicked open_).trans running)
        (fun other inRest => same ▸ listed other (List.mem_cons_of_mem _ inRest)) later fewer
      rw [List.foldl_cons, offered]
      refine ⟨?_, quiet, kept.trans same⟩
      rw [List.flatMap_cons, run, Transition.run_append turn]
      simpa only [List.append_assoc, List.singleton_append] using onward

theorem publish_refined {tenantID recipientID : String} {order : List Nat}
    (registered : Registered h) (running : h.panicked = false)
    (all : order.Perm (h.listed (h.conns (hubKey tenantID recipientID)))) :
    ∃ labels, run h labels = some (h.publish msg order) := by
  have looked : ∀ entry, h.conns (hubKey tenantID recipientID) = entry →
      step h (.lookup tenantID recipientID msg) = some (h.busy h.publishers (.found entry msg)) := by
    rintro _ rfl
    simp [step, running, Hub.busy]
  cases entry : h.conns (hubKey tenantID recipientID) with
  | none =>
      have nobody : order = [] := by simpa [Hub.listed, entry] using all
      have ranged : step (h.busy h.publishers (.found none msg)) (.range h.publishers.length) =
          some (h.busy h.publishers .returned) := by
        have quiet : (h.busy h.publishers (.found none msg)).panicked = false := running
        simp only [step, quiet, busy_get, busy_setPublisher]
        simp
      refine ⟨[.lookup tenantID recipientID msg, .range h.publishers.length], ?_⟩
      rw [run, Transition.run_cons (looked none entry), Transition.run_cons ranged, nobody]
      rfl
  | some r =>
      rw [entry] at all
      have ranged : step (h.busy h.publishers (.found (some r) msg)) (.range h.publishers.length) =
          some (h.busy h.publishers (.ranging r (h.listed (some r)) [] msg)) := by
        have quiet : (h.busy h.publishers (.found (some r) msg)).panicked = false := running
        simp only [step, quiet, busy_get, busy_setPublisher]
        simp [Hub.busy, Hub.listed]
      have turns := turns_refined h.publishers (h.listed (some r)) msg order registered running
        (fun ch member => all.mem_iff.mp member) (fun ch _ => List.not_mem_nil)
        (all.nodup_iff.mpr (registered.nodup_listed (some r)))
      obtain ⟨turns, quiet, same⟩ := turns
      have finished : step ((order.foldl (Hub.offer msg) h).busy h.publishers
          (.ranging r (h.listed (some r)) ([] ++ order) msg)) (.finish h.publishers.length) =
            some ((order.foldl (Hub.offer msg) h).busy h.publishers .returned) := by
        have calm : ((order.foldl (Hub.offer msg) h).busy h.publishers
            (.ranging r (h.listed (some r)) ([] ++ order) msg)).panicked = false := quiet
        have listed : ((order.foldl (Hub.offer msg) h).busy h.publishers
            (.ranging r (h.listed (some r)) ([] ++ order) msg)).listed (some r) =
              h.listed (some r) := same
        have visited : ∀ ch ∈ h.listed (some r), ch ∈ h.listed (some r) → ch ∈ [] ++ order :=
          fun ch member _ => all.mem_iff.mpr member
        simp only [step, calm, busy_get, listed, busy_setPublisher]
        rw [if_neg Bool.false_ne_true, if_pos visited]
      refine ⟨.lookup tenantID recipientID msg :: .range h.publishers.length ::
        ((order.flatMap fun ch => [.pick h.publishers.length ch, .send h.publishers.length]) ++
          [.finish h.publishers.length]), ?_⟩
      rw [run, Transition.run_cons (looked _ entry), Transition.run_cons ranged,
        Transition.run_append turns, Transition.run_cons finished]
      rfl

theorem cancel_refined (running : h.panicked = false) (here : h.chans[ch]? = some c)
    (live : c.phase = .live) : run h [.remove ch, .close ch] = some (h.cancel ch c) := by
  have removed : step h (.remove ch) = some (h.remove ch c) := by
    simp [step, running, here, live]
  have closed : step (h.remove ch c) (.close ch) = some (h.cancel ch c) := by
    have quiet : (h.remove ch c).panicked = false := running
    have found : (h.remove ch c).chans[ch]? = some { c with phase := .removed } :=
      Threads.set_self here
    have twice : (h.remove ch c).chans.set ch { c with phase := .closed } =
        h.chans.set ch { c with phase := .closed } := List.set_set _
    rw [step, if_neg (by simp [quiet])]
    simp only [found, if_true, twice]
    rfl
  rw [run, Transition.run_cons removed, Transition.run_cons closed]
  rfl

/-- Every operation is a run of steps of the hub. -/
theorem atomic_refined {next : Hub α} {op : Operation α} (registered : Registered h)
    (running : h.panicked = false) (done : atomic h op = some next) :
    ∃ labels, run h labels = some next := by
  cases op with
  | subscribe tenantID recipientID =>
      refine ⟨[.subscribe tenantID recipientID], ?_⟩
      obtain rfl := Option.some.inj done
      simp [run, Transition.run, step, running]
  | cancel ch =>
      obtain ⟨c, here, live, rfl⟩ := atomic_cancel done
      exact ⟨_, cancel_refined running here live⟩
  | publish tenantID recipientID msg order =>
      obtain ⟨all, rfl⟩ := atomic_publish done
      exact publish_refined registered running all
  | receive ch =>
      refine ⟨[.receive ch], ?_⟩
      have taken : step h (.receive ch) = some next := by
        rw [step, if_neg (by simp [running])]
        exact done
      rw [run, Transition.run_cons taken]
      rfl

end Refinement

/-! ## What a Publish leaves in the buffers -/

/-- A channel after a send that never blocks. -/
def Chan.offered (bufSize : Nat) (msg : α) (c : Chan α) : Chan α :=
  if c.buffer.length < bufSize then { c with buffer := c.buffer ++ [msg] } else c

section Publish

variable {h : Hub α} {msg : α}

/-- A send changes the buffer of its own channel and nothing else. -/
structure Offered (h : Hub α) (msg : α) (order : List Nat) (next : Hub α) : Prop where
  bufSize : next.bufSize = h.bufSize
  panicked : next.panicked = h.panicked
  count : next.chans.length = h.chans.length
  chans : ∀ ch, next.chans[ch]? =
    if ch ∈ order then (h.chans[ch]?).map (Chan.offered h.bufSize msg) else h.chans[ch]?

theorem offer_offered {ch : Nat} {c : Chan α} (here : h.chans[ch]? = some c)
    (open_ : c.phase ≠ .closed) : Offered h msg [ch] (h.offer msg ch) := by
  have delivered : h.offer msg ch = h.deliver ch c msg := by simp only [Hub.offer, here]
  rw [delivered]
  refine ⟨?_, deliver_panicked open_, ?_, ?_⟩
  · unfold Hub.deliver
    rw [if_neg open_]
    split
    · rfl
    · rfl
  · unfold Hub.deliver
    rw [if_neg open_]
    split
    · exact List.length_set
    · rfl
  · intro other
    unfold Hub.deliver Chan.offered
    rw [if_neg open_]
    by_cases same : other = ch
    · subst same
      rw [if_pos (List.mem_singleton.mpr rfl), here]
      split
      · rename_i room
        rw [Option.map_some, if_pos room]
        exact Threads.set_self here
      · rename_i full
        rw [Option.map_some, if_neg full, here]
    · have outside : other ∉ [ch] := by simpa using same
      rw [if_neg outside]
      split
      · exact List.getElem?_set_ne (Ne.symm same)
      · rfl

/-- By induction on the order, in which no channel comes twice. -/
theorem foldl_offered (order : List Nat) (once : order.Nodup)
    (ready : ∀ ch ∈ order, ∃ c, h.chans[ch]? = some c ∧ c.phase ≠ .closed) :
    Offered h msg order (order.foldl (Hub.offer msg) h) := by
  induction order generalizing h with
  | nil => exact ⟨rfl, rfl, rfl, by simp⟩
  | cons ch order ih =>
      obtain ⟨apart, fewer⟩ := List.nodup_cons.mp once
      obtain ⟨c, here, open_⟩ := ready ch List.mem_cons_self
      have first : Offered h msg [ch] (h.offer msg ch) := offer_offered here open_
      have elsewhere : ∀ other ∈ order, (h.offer msg ch).chans[other]? = h.chans[other]? := by
        intro other member
        have differ : other ≠ ch := fun same => apart (same ▸ member)
        rw [first.chans, if_neg (by simpa using differ)]
      have rest : Offered (h.offer msg ch) msg order
          (order.foldl (Hub.offer msg) (h.offer msg ch)) := by
        apply ih fewer
        intro other member
        rw [elsewhere other member]
        exact ready other (List.mem_cons_of_mem _ member)
      rw [List.foldl_cons]
      refine ⟨rest.bufSize.trans first.bufSize, rest.panicked.trans first.panicked,
        rest.count.trans first.count, ?_⟩
      intro other
      rw [rest.chans, first.bufSize]
      by_cases member : other ∈ order
      · rw [if_pos member, elsewhere other member, if_pos (List.mem_cons_of_mem _ member)]
      · rw [if_neg member, first.chans]
        by_cases same : other = ch
        · rw [if_pos (List.mem_singleton.mpr same), if_pos (List.mem_cons.mpr (.inl same))]
        · rw [if_neg (by simpa using same), if_neg (by simpa using ⟨same, member⟩)]

/-- A Publish offers its message to every channel of the key. -/
theorem publish_offered {key : String} {order : List Nat} (registered : Registered h)
    (all : order.Perm (h.listed (h.conns key))) : Offered h msg order (h.publish msg order) := by
  have offered : Offered h msg order (order.foldl (Hub.offer msg) h) := by
    apply foldl_offered order (all.nodup_iff.mpr (registered.nodup_listed _))
    intro ch member
    obtain ⟨c, here, live, _⟩ := registered.mem_listed_iff.mp (all.mem_iff.mp member)
    exact ⟨c, here, by simp [live]⟩
  exact ⟨offered.bufSize, offered.panicked, offered.count, offered.chans⟩

end Publish

/-! ## The journal -/

/-- `since` and `ended` count the publishes before the Subscribe and before the cancel;
    `full` lists the publishes that found `bufSize` messages in the buffer. -/
structure Record (α : Type) where
  tenantID : String
  recipientID : String
  since : Nat
  ended : Option Nat
  received : List α
  full : List Nat
  deriving Repr, DecidableEq

/-- `published` has every message with the key it was published to; the records are in
    the order of the channels. -/
structure Journal (α : Type) where
  hub : Hub α
  published : List (String × α)
  records : List (Record α)

namespace Journal

def start (bufSize : Int) : Journal α := ⟨newHub bufSize, [], []⟩

def holdsFull (j : Journal α) (ch : Nat) : Bool :=
  match j.hub.chans[ch]? with
  | some c => c.buffer.length == j.hub.bufSize
  | none => false

/-- The next message of a buffer. -/
def head (j : Journal α) (ch : Nat) : List α :=
  match j.hub.chans[ch]? with
  | some c => c.buffer.head?.toList
  | none => []

def publishedBy (j : Journal α) : Operation α → List (String × α)
  | .publish tenantID recipientID msg _ => j.published ++ [(hubKey tenantID recipientID, msg)]
  | _ => j.published

def recordsBy (j : Journal α) : Operation α → List (Record α)
  | .subscribe tenantID recipientID =>
      j.records ++ [⟨tenantID, recipientID, j.published.length, none, [], []⟩]
  | .cancel ch => j.records.modify ch fun rec => { rec with ended := some j.published.length }
  | .publish _ _ _ order =>
      j.records.mapIdx fun ch rec =>
        if ch ∈ order ∧ j.holdsFull ch then { rec with full := rec.full ++ [j.published.length] }
        else rec
  | .receive ch => j.records.modify ch fun rec => { rec with received := rec.received ++ j.head ch }

def step (j : Journal α) (op : Operation α) : Option (Journal α) :=
  (atomic j.hub op).map fun hub => ⟨hub, j.publishedBy op, j.recordsBy op⟩

abbrev run : Journal α → List (Operation α) → Option (Journal α) := Transition.run step

end Journal

/-! ## One subscriber -/

/-- The publishes at `places` are what the reader has received and what waits in the
    buffer. Any other to the same key found the buffer full. -/
structure Reading (published : List (String × α)) (c : Chan α) (rec : Record α)
    (places : List Nat) : Prop where
  takes : Feed.Takes published rec.since (rec.ended.getD published.length) places
    ((rec.received ++ c.buffer).map fun msg => (c.key, msg))
  missing : ∀ i msg, rec.since ≤ i → i < rec.ended.getD published.length →
    published[i]? = some (c.key, msg) → i ∉ places → i ∈ rec.full

structure Streamed (bufSize : Nat) (published : List (String × α)) (c : Chan α)
    (rec : Record α) : Prop where
  key : c.key = hubKey rec.tenantID rec.recipientID
  phase : c.phase = .live ↔ rec.ended = none
  since : rec.since ≤ published.length
  ended : ∀ e ∈ rec.ended, e ≤ published.length
  room : c.buffer.length ≤ bufSize
  reading : ∃ places, Reading published c rec places

section Subscriber

variable {bufSize : Nat} {published : List (String × α)} {c : Chan α} {rec : Record α}
  {places : List Nat}

theorem Streamed.opened (tenantID recipientID : String) :
    Streamed bufSize published (.opened (hubKey tenantID recipientID))
      ⟨tenantID, recipientID, published.length, none, [], []⟩ where
  key := rfl
  phase := by simp [Chan.opened]
  since := Nat.le.refl
  ended := by simp
  room := Nat.zero_le _
  reading := by
    refine ⟨[], .nothing _ _ _, ?_⟩
    intro i msg joined before
    exact absurd before (Nat.not_lt.mpr joined)

theorem Streamed.cancelled (streamed : Streamed bufSize published c rec)
    (live : c.phase = .live) :
    Streamed bufSize published { c with phase := .closed }
      { rec with ended := some published.length } where
  key := streamed.key
  phase := by simp
  since := streamed.since
  ended := by simp
  room := streamed.room
  reading := by
    obtain ⟨places, takes, missing⟩ := streamed.reading
    rw [streamed.phase.mp live] at takes missing
    exact ⟨places, takes, missing⟩

theorem Streamed.received {msg : α} {rest : List α} (streamed : Streamed bufSize published c rec)
    (waiting : c.buffer = msg :: rest) :
    Streamed bufSize published { c with buffer := rest }
      { rec with received := rec.received ++ [msg] } where
  key := streamed.key
  phase := streamed.phase
  since := streamed.since
  ended := streamed.ended
  room := by
    have room := streamed.room
    rw [waiting, List.length_cons] at room
    exact Nat.le_of_succ_le room
  reading := by
    obtain ⟨places, takes, missing⟩ := streamed.reading
    refine ⟨places, ?_, missing⟩
    simpa only [waiting, List.append_assoc, List.singleton_append] using takes

/-- The end of the stretch does not come closer when something is published. -/
theorem Streamed.upto_le (streamed : Streamed bufSize published c rec) :
    rec.ended.getD published.length ≤ published.length := by
  cases ended : rec.ended with
  | none => exact Nat.le.refl
  | some e => exact streamed.ended e ended

/-- A publish that is not meant for the channel. -/
theorem Streamed.passed {entry : String × α} (streamed : Streamed bufSize published c rec)
    (other : c.phase = .live → entry.1 ≠ c.key) :
    Streamed bufSize (published ++ [entry]) c rec where
  key := streamed.key
  phase := streamed.phase
  since := by
    rw [List.length_append]
    exact Nat.le_add_right_of_le streamed.since
  ended := by
    intro e same
    rw [List.length_append]
    exact Nat.le_add_right_of_le (streamed.ended e same)
  room := streamed.room
  reading := by
    obtain ⟨places, takes, missing⟩ := streamed.reading
    have later : rec.ended.getD published.length ≤
        rec.ended.getD (published ++ [entry]).length := by
      cases rec.ended with
      | none => simp
      | some e => simp
    refine ⟨places, (takes.append streamed.upto_le [entry]).mono later, ?_⟩
    intro i msg joined before found absent
    by_cases old : i < published.length
    · rw [List.getElem?_append_left old] at found
      refine missing i msg joined ?_ found absent
      cases ended : rec.ended with
      | none => exact old
      | some e => simpa [ended] using before
    · -- the new entry: its key is another, or the channel is gone
      cases ended : rec.ended with
      | none =>
          have last : i = published.length := by
            rw [ended] at before
            simp only [Option.getD_none, List.length_append, List.length_singleton] at before
            omega
          rw [last, List.getElem?_append_right Nat.le.refl] at found
          simp only [Nat.sub_self, List.getElem?_cons_zero, Option.some.injEq] at found
          exact absurd (congrArg Prod.fst found) (other (streamed.phase.mpr ended))
      | some e =>
          have bound := streamed.ended e ended
          simp only [ended, Option.getD_some] at before
          omega

/-- A publish for the channel is taken, or it found the buffer full. -/
theorem Streamed.offered (streamed : Streamed bufSize published c rec) (live : c.phase = .live)
    (msg : α) :
    Streamed bufSize (published ++ [(c.key, msg)]) (c.offered bufSize msg)
      (if c.buffer.length = bufSize then { rec with full := rec.full ++ [published.length] }
        else rec) := by
  have ended := streamed.phase.mp live
  obtain ⟨places, takes, missing⟩ := streamed.reading
  rw [ended] at takes missing
  have joined : rec.since ≤ (published ++ [(c.key, msg)]).length := by
    rw [List.length_append]
    exact Nat.le_add_right_of_le streamed.since
  -- an entry of the longer feed is the new one or was there before
  have cases_ : ∀ {i : Nat} {text : α}, i < (published ++ [(c.key, msg)]).length →
      (published ++ [(c.key, msg)])[i]? = some (c.key, text) →
        i = published.length ∨ (i < published.length ∧ published[i]? = some (c.key, text)) := by
    intro i text before found
    rw [List.length_append, List.length_singleton] at before
    by_cases old : i < published.length
    · rw [List.getElem?_append_left old] at found
      exact .inr ⟨old, found⟩
    · exact .inl (by omega)
  by_cases full : c.buffer.length = bufSize
  · have kept : c.offered bufSize msg = c := by
      rw [Chan.offered, if_neg (by omega)]
    rw [if_pos full, kept]
    refine ⟨streamed.key, streamed.phase, joined, by simp [ended], streamed.room, places, ?_, ?_⟩
    · simp only [ended, Option.getD_none]
      exact (takes.append Nat.le.refl _).mono (by simp)
    · intro i text since before found absent
      simp only [ended, Option.getD_none] at before
      rcases cases_ before found with rfl | ⟨old, there⟩
      · exact List.mem_append_right _ (List.mem_singleton.mpr rfl)
      · exact List.mem_append_left _ (missing i text since old there absent)
  · have less : c.buffer.length < bufSize := Nat.lt_of_le_of_ne streamed.room full
    have grown : c.offered bufSize msg = { c with buffer := c.buffer ++ [msg] } := by
      rw [Chan.offered, if_pos less]
    rw [if_neg full, grown]
    refine ⟨streamed.key, streamed.phase, joined, by simp [ended], ?_,
      places ++ [published.length], ?_, ?_⟩
    · simp only [List.length_append, List.length_singleton]
      exact less
    · have pushed := takes.push streamed.since (c.key, msg)
      simpa only [ended, Option.getD_none, List.length_append, List.length_singleton,
        ← List.append_assoc, List.map_append, List.map_cons, List.map_nil] using pushed
    · intro i text since before found absent
      simp only [ended, Option.getD_none] at before
      rw [List.mem_append, not_or, List.mem_singleton] at absent
      rcases cases_ before found with rfl | ⟨old, there⟩
      · exact absurd rfl absent.2
      · exact missing i text since old there absent.1

end Subscriber

/-! ## All of them, along a run -/

structure Journal.Inv (j : Journal α) : Prop where
  registered : Registered j.hub
  running : j.hub.panicked = false
  paired : j.records.length = j.hub.chans.length
  each : ∀ (ch : Nat) c rec, j.hub.chans[ch]? = some c → j.records[ch]? = some rec →
    Streamed j.hub.bufSize j.published c rec

section Journal

variable {j next : Journal α}

theorem Journal.Inv.start (bufSize : Int) : (start bufSize : Journal α).Inv where
  registered := Registered.initial bufSize
  running := rfl
  paired := rfl
  each := by simp [Journal.start, newHub]

/-- An operation on one channel: its record and its channel change together. -/
theorem each_modify {hub : Hub α} {ch : Nat} {c new : Chan α} {f : Record α → Record α}
    (inv : j.Inv) (here : j.hub.chans[ch]? = some c) (size : hub.bufSize = j.hub.bufSize)
    (chans : hub.chans = j.hub.chans.set ch new)
    (changed : ∀ rec, Streamed j.hub.bufSize j.published c rec →
      Streamed j.hub.bufSize j.published new (f rec)) :
    ∀ (other : Nat) c' rec', hub.chans[other]? = some c' → (j.records.modify ch f)[other]? = some rec' →
      Streamed hub.bufSize j.published c' rec' := by
  intro other c' rec' found noted
  rw [chans] at found
  rw [size]
  rw [List.getElem?_modify] at noted
  obtain ⟨rec, kept, rfl⟩ := Option.map_eq_some_iff.mp noted
  rcases Threads.at_set here found with ⟨rfl, rfl⟩ | ⟨differ, old⟩
  · rw [if_pos rfl]
    exact changed rec (inv.each other c rec here kept)
  · rw [if_neg (Ne.symm differ)]
    exact inv.each other c' rec old kept

theorem Journal.Inv.subscribe (inv : j.Inv) (tenantID recipientID : String) :
    ∀ (ch : Nat) c rec, (j.hub.subscribe (hubKey tenantID recipientID)).chans[ch]? = some c →
      (j.records ++ [⟨tenantID, recipientID, j.published.length, none, [], []⟩])[ch]? = some rec →
        Streamed j.hub.bufSize j.published c rec := by
  have chans : (j.hub.subscribe (hubKey tenantID recipientID)).chans =
      j.hub.chans ++ [.opened (hubKey tenantID recipientID)] := by
    unfold Hub.subscribe
    split
    · rfl
    · rfl
  intro ch c rec found noted
  rw [chans] at found
  rcases Threads.at_append found with ⟨rfl, rfl⟩ | old
  · rw [← inv.paired, Threads.append_new] at noted
    obtain rfl := Option.some.inj noted
    exact .opened tenantID recipientID
  · have bound : ch < j.records.length := by
      rw [inv.paired]
      exact (List.getElem?_eq_some_iff.mp old).1
    rw [List.getElem?_append_left bound] at noted
    exact inv.each ch c rec old noted

theorem Journal.Inv.publish (inv : j.Inv) {tenantID recipientID : String} {msg : α}
    {order : List Nat}
    (all : order.Perm (j.hub.listed (j.hub.conns (hubKey tenantID recipientID)))) :
    ∀ (ch : Nat) c rec, (j.hub.publish msg order).chans[ch]? = some c →
      (j.recordsBy (.publish tenantID recipientID msg order))[ch]? = some rec →
        Streamed j.hub.bufSize (j.published ++ [(hubKey tenantID recipientID, msg)]) c rec := by
  have offered : Offered j.hub msg order (j.hub.publish msg order) :=
    publish_offered inv.registered all
  intro ch c rec found noted
  rw [offered.chans] at found
  simp only [recordsBy, List.getElem?_mapIdx] at noted
  obtain ⟨old, kept, rfl⟩ := Option.map_eq_some_iff.mp noted
  by_cases member : ch ∈ order
  · rw [if_pos member] at found
    obtain ⟨before, here, rfl⟩ := Option.map_eq_some_iff.mp found
    obtain ⟨same, found', live, key⟩ := inv.registered.mem_listed_iff.mp (all.mem_iff.mp member)
    obtain rfl := Option.some.inj (here.symm.trans found')
    have streamed := (inv.each ch before old here kept).offered live msg
    rw [key] at streamed
    simpa only [member, holdsFull, here, true_and, beq_iff_eq] using streamed
  · rw [if_neg member] at found
    rw [if_neg (fun both => member both.1)]
    apply (inv.each ch c old found kept).passed
    intro live same
    exact member (all.mem_iff.mpr (inv.registered.mem_listed_iff.mpr ⟨c, found, live, same.symm⟩))

theorem Journal.Inv.step (inv : j.Inv) {op : Operation α} (taken : j.step op = some next) :
    next.Inv := by
  obtain ⟨hub, done, rfl⟩ := Option.map_eq_some_iff.mp taken
  obtain ⟨labels, steps⟩ := atomic_refined inv.registered inv.running done
  have registered := inv.registered.run steps
  cases op with
  | subscribe tenantID recipientID =>
      obtain rfl := Option.some.inj done
      have same : (j.hub.subscribe (hubKey tenantID recipientID)).panicked = j.hub.panicked ∧
          (j.hub.subscribe (hubKey tenantID recipientID)).bufSize = j.hub.bufSize ∧
          (j.hub.subscribe (hubKey tenantID recipientID)).chans.length = j.hub.chans.length + 1 := by
        unfold Hub.subscribe
        split
        · simp
        · simp
      refine ⟨registered, same.1.trans inv.running, ?_, ?_⟩
      · simp only [recordsBy, List.length_append, List.length_singleton, inv.paired, same.2.2]
      · rw [same.2.1]
        exact inv.subscribe tenantID recipientID
  | cancel ch =>
      obtain ⟨c, here, live, rfl⟩ := atomic_cancel done
      refine ⟨registered, inv.running, ?_, ?_⟩
      · simp only [recordsBy, List.length_modify, Hub.cancel, List.length_set, inv.paired]
      · exact each_modify inv here rfl rfl fun rec streamed => streamed.cancelled live
  | publish tenantID recipientID msg order =>
      obtain ⟨all, rfl⟩ := atomic_publish done
      have offered : Offered j.hub msg order (j.hub.publish msg order) :=
        publish_offered inv.registered all
      refine ⟨registered, offered.panicked.trans inv.running, ?_, ?_⟩
      · simp only [recordsBy, List.length_mapIdx, offered.count, inv.paired]
      · rw [offered.bufSize]
        exact inv.publish all
  | receive ch =>
      obtain ⟨c, msg, rest, here, waiting, rfl⟩ := atomic_receive done
      refine ⟨registered, inv.running, ?_, ?_⟩
      · simp only [recordsBy, List.length_modify, List.length_set, inv.paired]
      · have noted : j.recordsBy (.receive ch) = j.records.modify ch fun rec =>
            { rec with received := rec.received ++ [msg] } := by
          simp [recordsBy, head, here, waiting]
        rw [noted]
        exact each_modify inv here rfl rfl fun rec streamed => streamed.received waiting

theorem Journal.Inv.run (inv : j.Inv) {ops : List (Operation α)}
    (finished : j.run ops = some next) : next.Inv :=
  Transition.run_invariant (fun _ _ _ inv taken => inv.step taken) inv finished

/-- Channels and records stand side by side. -/
theorem Journal.Inv.channel (inv : j.Inv) {ch : Nat} {rec : Record α}
    (noted : j.records[ch]? = some rec) :
    ∃ c, j.hub.chans[ch]? = some c ∧ Streamed j.hub.bufSize j.published c rec := by
  have bound : ch < j.hub.chans.length := by
    rw [← inv.paired]
    exact (List.getElem?_eq_some_iff.mp noted).1
  have here := List.getElem?_eq_getElem bound
  exact ⟨_, here, inv.each ch _ rec here noted⟩

theorem Journal.Inv.mem_listed_iff (inv : j.Inv) {key : String} {ch : Nat} :
    ch ∈ j.hub.listed (j.hub.conns key) ↔
      ∃ rec, j.records[ch]? = some rec ∧ rec.ended = none ∧
        hubKey rec.tenantID rec.recipientID = key := by
  rw [inv.registered.mem_listed_iff]
  constructor
  · rintro ⟨c, here, live, same⟩
    have bound : ch < j.records.length := by
      rw [inv.paired]
      exact (List.getElem?_eq_some_iff.mp here).1
    have noted := List.getElem?_eq_getElem bound
    have streamed := inv.each ch c _ here noted
    exact ⟨_, noted, streamed.phase.mp live, streamed.key.symm.trans same⟩
  · rintro ⟨rec, noted, going, same⟩
    obtain ⟨c, here, streamed⟩ := inv.channel noted
    exact ⟨c, here, streamed.phase.mpr going, streamed.key.trans same⟩

/-- What a history of operations amounts to. The map holds the subscriptions that are not
    cancelled, each under its own key and once, and no key has an empty set. Each subscriber
    gets publishes to its key since it subscribed, in order and each at most once, and misses
    one only if its buffer held `bufSize` messages at that publish. -/
theorem subscribers_accounted (bufSize : Int) (ops : List (Operation α)) (j : Journal α)
    (finished : (Journal.start bufSize : Journal α).run ops = some j) :
    (∀ (key : String) (ch : Nat), ch ∈ j.hub.listed (j.hub.conns key) ↔
      ∃ rec, j.records[ch]? = some rec ∧ rec.ended = none ∧
        hubKey rec.tenantID rec.recipientID = key) ∧
    (∀ key r, j.hub.conns key = some r →
      j.hub.listed (some r) ≠ [] ∧ (j.hub.listed (some r)).Nodup) ∧
    ∀ (ch : Nat) rec, j.records[ch]? = some rec → ∃ c places, j.hub.chans[ch]? = some c ∧
      c.key = hubKey rec.tenantID rec.recipientID ∧ Reading j.published c rec places := by
  have inv : j.Inv := (Journal.Inv.start bufSize).run finished
  refine ⟨fun key ch => inv.mem_listed_iff, ?_, ?_⟩
  · intro key r used
    exact ⟨inv.registered.filled key r used, inv.registered.nodup_listed (some r)⟩
  · intro ch rec noted
    obtain ⟨c, here, streamed⟩ := inv.channel noted
    obtain ⟨places, reading⟩ := streamed.reading
    exact ⟨c, places, here, streamed.key, reading⟩

end Journal

/-- Two readers of one key, with room for one message each: the slow one misses a publish,
    and the other has left before the last. -/
def briefVisit : List (Operation Nat) :=
  [.subscribe "t" "u", .subscribe "t" "u", .publish "t" "u" 7 [1, 0], .receive 0,
    .publish "t" "u" 8 [0, 1], .cancel 0, .publish "t" "u" 9 [1]]

theorem briefVisit_accounted : ∃ j, (Journal.start 1 : Journal Nat).run briefVisit = some j ∧
    j.hub.listed (j.hub.conns (hubKey "t" "u")) = [1] ∧
    j.records.map (·.full) = [[], [1, 2]] ∧
    ∃ c places, j.hub.chans[1]? = some c ∧ c.buffer = [7] ∧
      Reading j.published c ⟨"t", "u", 0, none, [], [1, 2]⟩ places := by
  have done : ((Journal.start 1 : Journal Nat).run briefVisit).map
      (fun j => (j.hub.listed (j.hub.conns (hubKey "t" "u")), j.records, j.hub.chans[1]?)) =
        some ([1], [⟨"t", "u", 0, some 2, [7], []⟩, ⟨"t", "u", 0, none, [], [1, 2]⟩],
          some ⟨hubKey "t" "u", [7], .live⟩) := by decide +kernel
  obtain ⟨j, finished, facts⟩ := Option.map_eq_some_iff.mp done
  simp only [Prod.mk.injEq] at facts
  obtain ⟨listed, records, chan⟩ := facts
  have second : j.records[1]? = some ⟨"t", "u", 0, none, [], [1, 2]⟩ := by simp [records]
  obtain ⟨c, places, here, _, reading⟩ :=
    (subscribers_accounted 1 briefVisit j finished).2.2 1 _ second
  obtain rfl := Option.some.inj (chan.symm.trans here)
  exact ⟨j, finished, listed, by simp [records], _, places, here, rfl, reading⟩

end NotifyHub.Realtime
