import NotifyHub.Lib.Offsets
import NotifyHub.Lib.Threads
import NotifyHub.Queue

/-! # `Pool`

One partition of a channel topic and the goroutines of one Pool on it: the fetch loop,
the buffered work channel and the workers. A label is one step of one of them, with the
answer of the outside world where it asks for one: whether Process and Commit succeed
is open. `restart` may come at any time; it stands for a crash as well as for a
regular stop and start.

Trace contexts and log lines are left out.
-/

namespace NotifyHub

/-- The message at the offset is there and does not decode. -/
def undecodable {Raw Msg : Type} (decode : Raw → Option Msg) (log : List Raw) (o : Nat) : Bool :=
  log[o]?.any fun raw => (decode raw).isNone

theorem undecodable_iff {Raw Msg : Type} {decode : Raw → Option Msg} {log : List Raw} {o : Nat}
    {raw : Raw} (here : log[o]? = some raw) :
    undecodable decode log o = true ↔ decode raw = none := by
  simp [undecodable, here]

/-- On an error the committed position stays. -/
def Consumer.commit (group : Offsets.Group) (o : Nat) (ok : Bool) : Offsets.Group :=
  if ok then group.commit o else group

namespace Pool

/-- The offset stands for the raw message, which is needed for the commit. -/
structure WorkItem where
  offset : Nat
  message : Message
  deriving Repr, DecidableEq

inductive Fetcher where
  | fetching
  | poison (o : Nat)
  | dispatching (item : WorkItem)
  | returned
  deriving Repr, DecidableEq

inductive Worker where
  | receiving
  | processing (item : WorkItem)
  | committing (item : WorkItem)
  | exited
  deriving Repr, DecidableEq

structure State where
  group : Offsets.Group
  cancelled : Bool
  fetcher : Fetcher
  work : List WorkItem
  workers : List Worker
  closed : Bool
  deriving Repr, DecidableEq

/-- Run has just started its goroutines. -/
def started (concurrency : Nat) (group : Offsets.Group) : State :=
  { group := group
    cancelled := false
    fetcher := .fetching
    work := []
    workers := List.replicate concurrency .receiving
    closed := false }

inductive Label where
  | cancel
  | fetch
  | fetchError
  | commitPoison (ok : Bool)
  | dispatch
  | receive (i : Nat)
  | process (i : Nat) (ok : Bool)
  | commit (i : Nat) (ok : Bool)
  | exit (i : Nat)
  | close
  | restart
  deriving Repr, DecidableEq

/-- The iteration of `fetchLoop` that got the raw message. -/
def fetched {Raw : Type} (decode : Raw → Option Message) (o : Nat) (raw : Raw) : Fetcher :=
  match decode raw with
  | none => .poison o
  | some message => .dispatching ⟨o, message⟩

def step {Raw : Type} (decode : Raw → Option Message) (log : List Raw) (concurrency : Nat)
    (s : State) : Label → Option State
  | .cancel => some { s with cancelled := true }
  | .fetch =>
      match s.fetcher, log[s.group.position]? with
      | .fetching, some raw =>
          some { s with
            group := s.group.fetch
            fetcher := fetched decode s.group.position raw }
      | _, _ => none
  | .fetchError =>
      match s.fetcher with
      | .fetching => if s.cancelled then some { s with fetcher := .returned } else some s
      | _ => none
  | .commitPoison ok =>
      match s.fetcher with
      | .poison o => some { s with group := Consumer.commit s.group o ok, fetcher := .fetching }
      | _ => none
  | .dispatch =>
      match s.fetcher with
      | .dispatching item =>
          -- the channel holds one item per worker; a full channel blocks the loop
          if s.work.length < concurrency then
            some { s with fetcher := .fetching, work := s.work ++ [item] }
          else none
      | _ => none
  | .receive i =>
      match s.workers[i]?, s.work with
      | some .receiving, item :: rest =>
          some { s with work := rest, workers := s.workers.set i (.processing item) }
      | _, _ => none
  | .process i ok =>
      match s.workers[i]? with
      | some (.processing item) =>
          if ok then
            some { s with
              group := s.group.handle item.offset
              workers := s.workers.set i (.committing item) }
          else
            some { s with
              group := s.group.abandon item.offset
              workers := s.workers.set i .receiving }
      | _ => none
  | .commit i ok =>
      match s.workers[i]? with
      | some (.committing item) =>
          some { s with
            group := Consumer.commit s.group item.offset ok
            workers := s.workers.set i .receiving }
      | _ => none
  | .exit i =>
      -- the channel is closed once the fetch loop has returned
      match s.workers[i]?, s.work, s.fetcher with
      | some .receiving, [], .returned => some { s with workers := s.workers.set i .exited }
      | _, _, _ => none
  | .close =>
      if s.fetcher = .returned ∧ ∀ w ∈ s.workers, w = .exited then some { s with closed := true }
      else none
  | .restart => some (started concurrency s.group.restart)

/-! ## What a step does -/

section Effects

variable {Raw : Type} (decode : Raw → Option Message) (log : List Raw) (concurrency : Nat)

/-- The labels with the states they lead to. -/
inductive Goes (s : State) : Label → State → Prop where
  | cancel : Goes s .cancel { s with cancelled := true }
  | fetch {raw} (idle : s.fetcher = .fetching) (here : log[s.group.position]? = some raw) :
      Goes s .fetch
        { s with group := s.group.fetch, fetcher := fetched decode s.group.position raw }
  | stop (idle : s.fetcher = .fetching) (told : s.cancelled = true) :
      Goes s .fetchError { s with fetcher := .returned }
  | retry (idle : s.fetcher = .fetching) (going : ¬s.cancelled = true) : Goes s .fetchError s
  | skip {o} (ok : Bool) (bad : s.fetcher = .poison o) :
      Goes s (.commitPoison ok)
        { s with group := Consumer.commit s.group o ok, fetcher := .fetching }
  | dispatch {item} (full : s.fetcher = .dispatching item) (room : s.work.length < concurrency) :
      Goes s .dispatch { s with fetcher := .fetching, work := s.work ++ [item] }
  | receive {i item rest} (idle : s.workers[i]? = some .receiving) (queued : s.work = item :: rest) :
      Goes s (.receive i)
        { s with work := rest, workers := s.workers.set i (.processing item) }
  | processed {i item} (running : s.workers[i]? = some (.processing item)) :
      Goes s (.process i true)
        { s with
          group := s.group.handle item.offset
          workers := s.workers.set i (.committing item) }
  | failed {i item} (running : s.workers[i]? = some (.processing item)) :
      Goes s (.process i false)
        { s with
          group := s.group.abandon item.offset
          workers := s.workers.set i .receiving }
  | commit {i item} (ok : Bool) (running : s.workers[i]? = some (.committing item)) :
      Goes s (.commit i ok)
        { s with
          group := Consumer.commit s.group item.offset ok
          workers := s.workers.set i .receiving }
  | exit {i} (idle : s.workers[i]? = some .receiving) (empty : s.work = [])
      (stopped : s.fetcher = .returned) :
      Goes s (.exit i) { s with workers := s.workers.set i .exited }
  | close (stopped : s.fetcher = .returned) (exited : ∀ w ∈ s.workers, w = .exited) :
      Goes s .close { s with closed := true }
  | restart : Goes s .restart (started concurrency s.group.restart)

variable {decode log concurrency} {s next : State} {label : Label}

theorem step_goes (taken : step decode log concurrency s label = some next) :
    Goes decode log concurrency s label next := by
  cases label with
  | cancel =>
      obtain rfl := Option.some.inj taken
      exact .cancel
  | fetch =>
      simp only [step] at taken
      split at taken
      · rename_i raw idle here
        obtain rfl := Option.some.inj taken
        exact .fetch idle here
      · simp at taken
  | fetchError =>
      simp only [step] at taken
      split at taken
      · rename_i idle
        split at taken
        · rename_i told
          obtain rfl := Option.some.inj taken
          exact .stop idle told
        · rename_i going
          obtain rfl := Option.some.inj taken
          exact .retry idle going
      · simp at taken
  | commitPoison ok =>
      simp only [step] at taken
      split at taken
      · rename_i o bad
        obtain rfl := Option.some.inj taken
        exact .skip ok bad
      · simp at taken
  | dispatch =>
      simp only [step] at taken
      split at taken
      · rename_i item full
        split at taken
        · rename_i room
          obtain rfl := Option.some.inj taken
          exact .dispatch full room
        · simp at taken
      · simp at taken
  | receive i =>
      simp only [step] at taken
      split at taken
      · rename_i item rest idle queued
        obtain rfl := Option.some.inj taken
        exact .receive idle queued
      · simp at taken
  | process i ok =>
      simp only [step] at taken
      split at taken
      · rename_i item running
        cases ok with
        | true =>
            obtain rfl := Option.some.inj taken
            exact .processed running
        | false =>
            obtain rfl := Option.some.inj taken
            exact .failed running
      · simp at taken
  | commit i ok =>
      simp only [step] at taken
      split at taken
      · rename_i item running
        obtain rfl := Option.some.inj taken
        exact .commit ok running
      · simp at taken
  | exit i =>
      simp only [step] at taken
      split at taken
      · rename_i idle empty stopped
        obtain rfl := Option.some.inj taken
        exact .exit idle empty stopped
      · simp at taken
  | close =>
      simp only [step, Option.ite_none_right_eq_some, Option.some.injEq] at taken
      obtain ⟨⟨stopped, exited⟩, rfl⟩ := taken
      exact .close stopped exited
  | restart =>
      obtain rfl := Option.some.inj taken
      exact .restart

end Effects

/-! ## What the pool has in hand -/

def Fetcher.hands : Fetcher → List Nat
  | .dispatching item => [item.offset]
  | .fetching | .poison _ | .returned => []

def Fetcher.ready : Fetcher → List Nat
  | .poison o => [o]
  | .fetching | .dispatching _ | .returned => []

def Worker.hands : Worker → List Nat
  | .processing item => [item.offset]
  | .receiving | .committing _ | .exited => []

def Worker.ready : Worker → List Nat
  | .committing item => [item.offset]
  | .receiving | .processing _ | .exited => []

def view (s : State) : Offsets.View :=
  { group := s.group
    hands := s.fetcher.hands ++ s.work.map (·.offset) ++ s.workers.flatMap Worker.hands
    ready := s.fetcher.ready ++ s.workers.flatMap Worker.ready }

/-- The offset a step is about to commit. -/
def commits (s : State) : Label → Option Nat
  | .commitPoison true =>
      match s.fetcher with
      | .poison o => some o
      | _ => none
  | .commit i true =>
      match s.workers[i]? with
      | some (.committing item) => some item.offset
      | _ => none
  | _ => none

section Moves

variable {Raw : Type} {decode : Raw → Option Message} {log : List Raw} {concurrency : Nat}
  {s next : State} {i : Nat}

theorem view_started (group : Offsets.Group) : view (started concurrency group) = ⟨group, [], []⟩ := by
  simp [view, started, Fetcher.hands, Fetcher.ready, Worker.hands, Worker.ready, List.flatMap_replicate]

theorem fetch_move {raw : Raw} (here : log[s.group.position]? = some raw)
    (idle : s.fetcher = .fetching) :
    Offsets.Move (undecodable decode log · = true) (view s) none
      (view { s with
        group := s.group.fetch
        fetcher := fetched decode s.group.position raw }) := by
  cases decoded : decode raw with
  | none =>
      apply Offsets.Move.skip
      · exact (undecodable_iff here).mpr decoded
      · simp [fetched, decoded, idle, view, Fetcher.hands]
      · simp [fetched, decoded, idle, view, Fetcher.ready]
  | some message =>
      apply Offsets.Move.take
      · exact fun bad => by simp [(undecodable_iff here).mp bad] at decoded
      · simp [fetched, decoded, idle, view, Fetcher.hands]
      · simp [fetched, decoded, idle, view, Fetcher.ready]

/-- A worker that holds nothing before and after. -/
theorem hands_set {w w' : Worker} (running : s.workers[i]? = some w) (before : w.hands = [])
    (after : w'.hands = []) (p : Nat) :
    p ∈ (view { s with workers := s.workers.set i w' }).hands ↔ p ∈ (view s).hands := by
  have workers : p ∈ (s.workers.set i w').flatMap Worker.hands ↔
      p ∈ s.workers.flatMap Worker.hands := by
    constructor
    · intro member
      exact (Threads.mem_flatMap_set member).resolve_left (by simp [after])
    · intro member
      exact (Threads.mem_flatMap_set_of running member).resolve_left (by simp [before])
  simp only [view, List.mem_append, workers]

theorem ready_set {w' : Worker} (after : w'.ready = []) (p : Nat)
    (member : p ∈ (view { s with workers := s.workers.set i w' }).ready) : p ∈ (view s).ready :=
  (List.mem_append.mp member).elim (List.mem_append_left _) fun inside =>
    List.mem_append_right _ ((Threads.mem_flatMap_set inside).resolve_left (by simp [after]))

/-- The item leaves the channel and is in the worker's hands instead. -/
theorem receive_hands {item : WorkItem} {rest : List WorkItem}
    (running : s.workers[i]? = some .receiving) (queued : s.work = item :: rest) (p : Nat) :
    p ∈ (view { s with work := rest, workers := s.workers.set i (.processing item) }).hands ↔
      p ∈ (view s).hands := by
  have moved : p ∈ (s.workers.set i (.processing item)).flatMap Worker.hands ↔
      p = item.offset ∨ p ∈ s.workers.flatMap Worker.hands := by
    constructor
    · intro member
      exact (Threads.mem_flatMap_set member).imp_left fun held => List.mem_singleton.mp held
    · rintro (rfl | held)
      · exact Threads.mem_flatMap_set_self running (List.mem_singleton_self _)
      · exact (Threads.mem_flatMap_set_of running held).resolve_left (by simp [Worker.hands])
  simp only [view, queued, List.map_cons, List.mem_append, List.mem_cons, moved]
  tauto

section Process

variable {item : WorkItem} (running : s.workers[i]? = some (.processing item))

include running

theorem process_held : item.offset ∈ (view s).hands :=
  List.mem_append_right _ (List.mem_flatMap.mpr
    ⟨_, List.mem_of_getElem? running, List.mem_singleton_self _⟩)

theorem process_others {w' : Worker} {p : Nat} (held : p ∈ (view s).hands) :
    p = item.offset ∨ p ∈ (view { s with workers := s.workers.set i w' }).hands := by
  rcases List.mem_append.mp held with outside | inside
  · exact .inr (List.mem_append_left _ outside)
  · rcases Threads.mem_flatMap_set_of running inside with own | other
    · exact .inl (List.mem_singleton.mp own)
    · exact .inr (List.mem_append_right _ other)

omit running in
theorem process_fewer {w' : Worker} (after : w'.hands = []) {p : Nat}
    (member : p ∈ (view { s with workers := s.workers.set i w' }).hands) : p ∈ (view s).hands := by
  rcases List.mem_append.mp member with outside | inside
  · exact List.mem_append_left _ outside
  · exact List.mem_append_right _
      ((Threads.mem_flatMap_set inside).resolve_left (by simp [after]))

end Process

theorem commitPoison_move {o : Nat} (bad : s.fetcher = .poison o) (ok : Bool) :
    Offsets.Move (undecodable decode log · = true) (view s) (commits s (.commitPoison ok))
      (view { s with group := Consumer.commit s.group o ok, fetcher := .fetching }) := by
  have same : ∀ p, p ∈ (view { s with fetcher := .fetching }).hands ↔ p ∈ (view s).hands := by
    simp [view, bad, Fetcher.hands]
  have less : ∀ p ∈ (view { s with fetcher := .fetching }).ready, p ∈ (view s).ready :=
    fun p member => List.mem_append_right _ member
  cases ok with
  | true =>
      simp only [commits, bad]
      exact .commit (by simp [view, bad, Fetcher.ready]) same less
  | false => exact .stay same less

theorem dispatch_move {item : WorkItem} (full : s.fetcher = .dispatching item) :
    Offsets.Move (undecodable decode log · = true) (view s) none
      (view { s with fetcher := .fetching, work := s.work ++ [item] }) := by
  refine .stay ?_ (by simp [view, full, Fetcher.ready])
  intro p
  simp only [view, full, Fetcher.hands, List.map_append, List.mem_append]
  simp only [List.map_cons, List.map_nil, List.not_mem_nil, false_or]
  tauto

theorem process_move {item : WorkItem} (running : s.workers[i]? = some (.processing item))
    (ok : Bool) :
    Offsets.Move (undecodable decode log · = true) (view s) none
      (view (if ok then
          { s with
            group := s.group.handle item.offset
            workers := s.workers.set i (.committing item) }
        else
          { s with
            group := s.group.abandon item.offset
            workers := s.workers.set i .receiving })) := by
  cases ok with
  | true =>
      refine .handle (process_held running) (fun p held => process_others running held)
        (fun p member => process_fewer rfl member) ?_
      intro p member
      rcases List.mem_append.mp member with outside | inside
      · exact .inr (List.mem_append_left _ outside)
      · exact (Threads.mem_flatMap_set inside).imp List.mem_singleton.mp (List.mem_append_right _)
  | false =>
      exact .abandon (process_held running) (fun p held => process_others running held)
        (fun p member => process_fewer rfl member) (ready_set rfl)

theorem commit_move {item : WorkItem} (running : s.workers[i]? = some (.committing item))
    (ok : Bool) :
    Offsets.Move (undecodable decode log · = true) (view s) (commits s (.commit i ok))
      (view { s with
        group := Consumer.commit s.group item.offset ok
        workers := s.workers.set i .receiving }) := by
  cases ok with
  | true =>
      simp only [commits, running]
      refine .commit (List.mem_append_right _ ?_) (hands_set running rfl rfl) (ready_set rfl)
      exact List.mem_flatMap.mpr ⟨_, List.mem_of_getElem? running, List.mem_singleton_self _⟩
  | false => exact .stay (hands_set running rfl rfl) (ready_set rfl)

/-- Every step is a move of the books. -/
theorem step_move {label : Label} (taken : step decode log concurrency s label = some next) :
    Offsets.Move (undecodable decode log · = true) (view s) (commits s label) (view next) := by
  cases step_goes taken with
  | cancel | retry | close => exact .stay (fun _ => Iff.rfl) (fun _ member => member)
  | fetch idle here => exact fetch_move here idle
  | stop idle =>
      exact .stay (by simp [view, idle, Fetcher.hands]) (by simp [view, idle, Fetcher.ready])
  | skip ok bad => exact commitPoison_move bad ok
  | dispatch full => exact dispatch_move full
  | receive idle queued => exact .stay (receive_hands idle queued) (ready_set rfl)
  | processed running => exact process_move running true
  | failed running => exact process_move running false
  | commit ok running => exact commit_move running ok
  | exit idle => exact .stay (hands_set idle rfl rfl) (ready_set rfl)
  | restart =>
      rw [view_started]
      exact .restart

theorem step_of_commits {label : Label} {o : Nat} (about : commits s label = some o) :
    ∃ next, step decode log concurrency s label = some next := by
  unfold commits at about
  split at about
  · split at about
    · rename_i bad
      exact ⟨_, by simp only [step, bad]; rfl⟩
    · simp at about
  · split at about
    · rename_i running
      exact ⟨_, by simp only [step, running]; rfl⟩
    · simp at about
  · simp at about

theorem consumer (decode : Raw → Option Message) (log : List Raw) (concurrency : Nat) :
    Offsets.Consumer (undecodable decode log · = true) (step decode log concurrency) view
      commits :=
  ⟨step_move, step_of_commits⟩

end Moves

end Pool

end NotifyHub
