import NotifyHub.Lib.Trace
import NotifyHub.Worker.CommitOrder

/-! # Commit discipline and drain

One Run of a pool, from its start to `consumer.Close`. The log is what Fetch returns,
call after call, so an offset stands for one fetch. The trace holds the fetches, the
Process calls with their results, the Commit calls and the close. For each offset the
pool keeps an account: what was fetched is waiting, in Process, waiting for its commit or
done, and every step moves it from one of these to the next.
-/

namespace NotifyHub.Drain

open Transition (run Guarded)
open Trace (recorded Always occurs count_append_event)

inductive Event where
  | fetched (o : Nat)
  | handed (o : Nat)
  | returned (o : Nat) (ok : Bool)
  | commit (o : Nat)
  | closed
  deriving Repr, DecidableEq

/-- The event of a step. A worker that receives an item calls Process with it. -/
def event (s : Pool.State) : Pool.Label → Option Event
  | .fetch => some (.fetched s.group.position)
  | .receive _ => s.work.head?.map fun item => .handed item.offset
  | .process i ok =>
      match s.workers[i]? with
      | some (.processing item) => some (.returned item.offset ok)
      | _ => none
  | .commitPoison _ =>
      match s.fetcher with
      | .poison o => some (.commit o)
      | _ => none
  | .commit i _ =>
      match s.workers[i]? with
      | some (.committing item) => some (.commit item.offset)
      | _ => none
  | .close => some .closed
  | .cancel | .fetchError | .dispatch | .exit _ | .restart => none

section

variable {Raw : Type} (decode : Raw → Option Message) (log : List Raw) (concurrency : Nat)

/-- The steps of one Run. -/
def step (s : Pool.State) (label : Pool.Label) : Option Pool.State :=
  if label = .restart then none else Pool.step decode log concurrency s label

/-! ## What a step does -/

/-- The transitions of the goroutines, each with its event. -/
inductive Turn (s : Pool.State) : Option Event → Pool.State → Prop where
  | cancel : Turn s none { s with cancelled := true }
  | poison {raw} (idle : s.fetcher = .fetching) (here : log[s.group.position]? = some raw)
      (bad : decode raw = none) :
      Turn s (some (.fetched s.group.position))
        { s with group := s.group.fetch, fetcher := .poison s.group.position }
  | fetched {raw message} (idle : s.fetcher = .fetching)
      (here : log[s.group.position]? = some raw) (good : decode raw = some message) :
      Turn s (some (.fetched s.group.position))
        { s with group := s.group.fetch, fetcher := .dispatching ⟨s.group.position, message⟩ }
  | stop (idle : s.fetcher = .fetching) : Turn s none { s with fetcher := .returned }
  | retry : Turn s none s
  | skipped {o ok} (bad : s.fetcher = .poison o) :
      Turn s (some (.commit o))
        { s with group := Consumer.commit s.group o ok, fetcher := .fetching }
  | dispatch {item} (full : s.fetcher = .dispatching item) :
      Turn s none { s with fetcher := .fetching, work := s.work ++ [item] }
  | receive {i item rest} (idle : s.workers[i]? = some .receiving) (queued : s.work = item :: rest) :
      Turn s (some (.handed item.offset))
        { s with work := rest, workers := s.workers.set i (.processing item) }
  | processed {i item} (running : s.workers[i]? = some (.processing item)) :
      Turn s (some (.returned item.offset true))
        { s with
          group := s.group.handle item.offset
          workers := s.workers.set i (.committing item) }
  | failed {i item} (running : s.workers[i]? = some (.processing item)) :
      Turn s (some (.returned item.offset false))
        { s with
          group := s.group.abandon item.offset
          workers := s.workers.set i .receiving }
  | commit {i item ok} (running : s.workers[i]? = some (.committing item)) :
      Turn s (some (.commit item.offset))
        { s with
          group := Consumer.commit s.group item.offset ok
          workers := s.workers.set i .receiving }
  | exit {i} (idle : s.workers[i]? = some .receiving) (empty : s.work = [])
      (stopped : s.fetcher = .returned) :
      Turn s none { s with workers := s.workers.set i .exited }
  | close (stopped : s.fetcher = .returned) (exited : ∀ w ∈ s.workers, w = .exited) :
      Turn s (some .closed) { s with closed := true }

variable {decode log concurrency} {s next : Pool.State} {label : Pool.Label}

theorem step_turn (taken : step decode log concurrency s label = some next) :
    Turn decode log s (event s label) next := by
  unfold step at taken
  split at taken
  · simp at taken
  cases Pool.step_goes taken with
  | cancel => exact .cancel
  | @fetch raw idle here =>
      cases decoded : decode raw with
      | none =>
          simp only [Pool.fetched, decoded]
          exact .poison idle here decoded
      | some message =>
          simp only [Pool.fetched, decoded]
          exact .fetched idle here decoded
  | stop idle => exact .stop idle
  | retry => exact .retry
  | skip ok bad =>
      simp only [event, bad]
      exact .skipped bad
  | dispatch full => exact .dispatch full
  | receive idle queued =>
      simp only [event, queued, List.head?_cons, Option.map_some]
      exact .receive idle queued
  | processed running =>
      simp only [event, running]
      exact .processed running
  | failed running =>
      simp only [event, running]
      exact .failed running
  | commit ok running =>
      simp only [event, running]
      exact .commit running
  | exit idle empty stopped => exact .exit idle empty stopped
  | close stopped exited => exact .close stopped exited
  | restart => exact absurd rfl ‹_›

/-! ## The account of an offset -/

/-- Fetched and not yet in Process. -/
def waiting (s : Pool.State) : List Nat := s.fetcher.hands ++ s.work.map (·.offset)

def inProcess (s : Pool.State) : List Nat := s.workers.flatMap Pool.Worker.hands

/-- About to be committed. -/
def ready (s : Pool.State) : List Nat := s.fetcher.ready ++ s.workers.flatMap Pool.Worker.ready

variable (decode log) in
/-- `start` is the position from which the Run fetches. -/
structure Account (start : Nat) (s : Pool.State) (trace : List Event) (o : Nat) : Prop where
  fetched : trace.count (.fetched o) = if start ≤ o ∧ o < s.group.position then 1 else 0
  handed : trace.count (.handed o) + (waiting s).count o =
    if undecodable decode log o then 0 else trace.count (.fetched o)
  returned : trace.count (.returned o true) + trace.count (.returned o false) +
    (inProcess s).count o = trace.count (.handed o)
  commit : trace.count (.commit o) + (ready s).count o =
    trace.count (.returned o true) + if undecodable decode log o then trace.count (.fetched o) else 0

variable {start : Nat} {trace : List Event} {o : Nat} {e : Option Event}

/-- An offset goes from one list to the next: what an event takes out of a list it puts into
    another, or out of the pool. -/
theorem Account.flow (account : Account decode log start s trace o)
    (fetched : (if start ≤ o ∧ o < next.group.position then 1 else 0) =
      (if start ≤ o ∧ o < s.group.position then 1 else 0) + occurs e (.fetched o))
    (handed : occurs e (.handed o) + (waiting next).count o =
      (waiting s).count o + if undecodable decode log o then 0 else occurs e (.fetched o))
    (returned : occurs e (.returned o true) + occurs e (.returned o false) +
      (inProcess next).count o = (inProcess s).count o + occurs e (.handed o))
    (commit : occurs e (.commit o) + (ready next).count o =
      (ready s).count o + occurs e (.returned o true) +
        if undecodable decode log o then occurs e (.fetched o) else 0) :
    Account decode log start next (trace ++ e.toList) o := by
  obtain ⟨fetchedOld, handedOld, returnedOld, commitOld⟩ := account
  refine ⟨?_, ?_, ?_, ?_⟩
  · rw [count_append_event, fetchedOld, fetched]
  · simp only [count_append_event]
    cases bad : undecodable decode log o with
    | true =>
        simp only [bad, if_true] at handed handedOld ⊢
        omega
    | false =>
        simp only [bad, Bool.false_eq_true, if_false] at handed handedOld ⊢
        omega
  · simp only [count_append_event]
    omega
  · simp only [count_append_event]
    cases bad : undecodable decode log o with
    | true =>
        simp only [bad, if_true] at commit commitOld ⊢
        omega
    | false =>
        simp only [bad, Bool.false_eq_true, if_false] at commit commitOld ⊢
        omega

/-- A step without an event that leaves the lists as they are. -/
theorem Account.keep (account : Account decode log start s trace o)
    (position : next.group.position = s.group.position)
    (wait : (waiting next).count o = (waiting s).count o)
    (process : (inProcess next).count o = (inProcess s).count o)
    (commits : (ready next).count o = (ready s).count o) :
    Account decode log start next trace o := by
  have kept : Account decode log start next (trace ++ (none : Option Event).toList) o := by
    refine account.flow ?_ ?_ ?_ ?_
    · rw [position, occurs]
      simp
    · simp [wait, occurs]
    · simp [process, occurs]
    · simp [commits, occurs]
  simpa using kept

theorem Account.fetch (account : Account decode log start s trace o)
    (ahead : start ≤ s.group.position) (position : next.group.position = s.group.position + 1)
    (wait : (waiting next).count o = (waiting s).count o +
      if s.group.position = o ∧ undecodable decode log o = false then 1 else 0)
    (process : (inProcess next).count o = (inProcess s).count o)
    (commits : (ready next).count o = (ready s).count o +
      if s.group.position = o ∧ undecodable decode log o = true then 1 else 0) :
    Account decode log start next (trace ++ (some (.fetched s.group.position)).toList) o := by
  refine account.flow ?_ ?_ ?_ ?_
  · simp only [position, occurs, Option.some.injEq, Event.fetched.injEq]
    split_ifs <;> omega
  · rw [wait]
    cases undecodable decode log o <;> simp [occurs]
  · simp [process, occurs]
  · rw [commits]
    cases undecodable decode log o <;> simp [occurs]

theorem Account.hand {p : Nat} (account : Account decode log start s trace o)
    (position : next.group.position = s.group.position)
    (wait : (waiting s).count o = (waiting next).count o + if p = o then 1 else 0)
    (process : (inProcess next).count o = (inProcess s).count o + if p = o then 1 else 0)
    (commits : (ready next).count o = (ready s).count o) :
    Account decode log start next (trace ++ (some (.handed p)).toList) o := by
  refine account.flow ?_ ?_ ?_ ?_
  · simp [position, occurs]
  · simp [wait, occurs, Nat.add_comm]
  · simp [process, occurs]
  · simp [commits, occurs]

theorem Account.return {p : Nat} {ok : Bool} (account : Account decode log start s trace o)
    (position : next.group.position = s.group.position)
    (wait : (waiting next).count o = (waiting s).count o)
    (process : (inProcess s).count o = (inProcess next).count o + if p = o then 1 else 0)
    (commits : (ready next).count o = (ready s).count o + if p = o ∧ ok = true then 1 else 0) :
    Account decode log start next (trace ++ (some (.returned p ok)).toList) o := by
  refine account.flow ?_ ?_ ?_ ?_
  · simp [position, occurs]
  · simp [wait, occurs]
  · cases ok <;> simp [process, occurs, Nat.add_comm]
  · cases ok <;> simp [commits, occurs]

theorem Account.commits {p : Nat} (account : Account decode log start s trace o)
    (position : next.group.position = s.group.position)
    (wait : (waiting next).count o = (waiting s).count o)
    (process : (inProcess next).count o = (inProcess s).count o)
    (commits : (ready s).count o = (ready next).count o + if p = o then 1 else 0) :
    Account decode log start next (trace ++ (some (.commit p)).toList) o := by
  refine account.flow ?_ ?_ ?_ ?_
  · simp [position, occurs]
  · simp [wait, occurs]
  · simp [process, occurs]
  · simp [commits, occurs, Nat.add_comm]

theorem position_commit {group : Offsets.Group} {p : Nat} {ok : Bool} :
    (Consumer.commit group p ok).position = group.position := by
  cases ok <;> rfl

theorem account_turn (turn : Turn decode log s e next) (ahead : start ≤ s.group.position)
    (account : Account decode log start s trace o) :
    Account decode log start next (trace ++ e.toList) o := by
  cases turn with
  | cancel | retry =>
      simp only [Option.toList_none, List.append_nil]
      exact account.keep rfl rfl rfl rfl
  | stop idle =>
      simp only [Option.toList_none, List.append_nil]
      refine account.keep rfl ?_ rfl ?_
      · simp [waiting, idle, Pool.Fetcher.hands]
      · simp [ready, idle, Pool.Fetcher.ready]
  | dispatch full =>
      simp only [Option.toList_none, List.append_nil]
      refine account.keep rfl ?_ rfl ?_
      · simp only [waiting, full, Pool.Fetcher.hands, List.map_append, List.count_append,
          List.count_nil, List.map_cons, List.map_nil]
        omega
      · simp [ready, full, Pool.Fetcher.ready]
  | exit idle empty stopped =>
      simp only [Option.toList_none, List.append_nil]
      have hands := Threads.count_flatMap_set (f := Pool.Worker.hands) .exited idle o
      have done := Threads.count_flatMap_set (f := Pool.Worker.ready) .exited idle o
      refine account.keep rfl rfl ?_ ?_
      · simpa [inProcess, Pool.Worker.hands] using hands
      · simpa [ready, List.count_append, Pool.Worker.ready] using done
  | poison idle here bad =>
      have bad := (undecodable_iff here).mpr bad
      refine account.fetch ahead rfl ?_ rfl ?_
      · by_cases same : s.group.position = o
        · simp [waiting, idle, Pool.Fetcher.hands, ← same, bad]
        · simp [waiting, idle, Pool.Fetcher.hands, same]
      · by_cases same : s.group.position = o
        · simp [ready, idle, Pool.Fetcher.ready, ← same, bad]
        · simp [ready, idle, Pool.Fetcher.ready, same]
  | fetched idle here good =>
      have fine : undecodable decode log s.group.position = false := by simp [undecodable, here, good]
      refine account.fetch ahead rfl ?_ rfl ?_
      · by_cases same : s.group.position = o
        · simp [waiting, idle, Pool.Fetcher.hands, ← same, fine, Nat.add_comm]
        · simp [waiting, idle, Pool.Fetcher.hands, same]
      · by_cases same : s.group.position = o
        · simp [ready, idle, Pool.Fetcher.ready, ← same, fine]
        · simp [ready, idle, Pool.Fetcher.ready, same]
  | skipped bad =>
      refine account.commits position_commit ?_ rfl ?_
      · simp [waiting, bad, Pool.Fetcher.hands]
      · simp [ready, bad, Pool.Fetcher.ready, List.count_cons]
  | @receive _ item rest idle queued =>
      have hands := Threads.count_flatMap_set (f := Pool.Worker.hands) (.processing item) idle o
      have done := Threads.count_flatMap_set (f := Pool.Worker.ready) (.processing item) idle o
      refine account.hand rfl ?_ ?_ ?_
      · simp [waiting, queued, List.count_cons, Nat.add_assoc]
      · simpa [inProcess, Pool.Worker.hands, List.count_singleton] using hands
      · simpa [ready, List.count_append, Pool.Worker.ready] using done
  | @processed _ item running =>
      have hands := Threads.count_flatMap_set (f := Pool.Worker.hands) (.committing item) running o
      have done := Threads.count_flatMap_set (f := Pool.Worker.ready) (.committing item) running o
      refine account.return rfl rfl ?_ ?_
      · simpa [inProcess, Pool.Worker.hands, List.count_singleton] using hands.symm
      · simp only [ready, List.count_append]
        simpa [Pool.Worker.ready, List.count_singleton, Nat.add_assoc] using done
  | failed running =>
      have hands := Threads.count_flatMap_set (f := Pool.Worker.hands) .receiving running o
      have done := Threads.count_flatMap_set (f := Pool.Worker.ready) .receiving running o
      refine account.return rfl rfl ?_ ?_
      · simpa [inProcess, Pool.Worker.hands, List.count_singleton] using hands.symm
      · simpa [ready, List.count_append, Pool.Worker.ready] using done
  | @commit _ item ok running =>
      have hands := Threads.count_flatMap_set (f := Pool.Worker.hands) .receiving running o
      have done := Threads.count_flatMap_set (f := Pool.Worker.ready) .receiving running o
      refine account.commits position_commit rfl ?_ ?_
      · simpa [inProcess, Pool.Worker.hands] using hands
      · simp only [ready, List.count_append]
        simpa [Pool.Worker.ready, List.count_singleton, Nat.add_assoc] using done.symm
  | close =>
      refine account.flow ?_ ?_ ?_ ?_
      · simp [occurs]
      · simp [occurs, waiting]
      · simp [occurs, inProcess]
      · simp [occurs, ready]

/-! ## The invariant of a Run -/

/-- A worker leaves only when nothing can come any more. -/
structure Shape (concurrency : Nat) (s : Pool.State) : Prop where
  workers : s.workers.length = concurrency
  exited : .exited ∈ s.workers → s.fetcher = .returned ∧ s.work = []

theorem Shape.set {i : Nat} {w : Pool.Worker} (shape : Shape concurrency s) (next : Pool.State)
    (workers : next.workers = s.workers.set i w) (fetcher : next.fetcher = s.fetcher)
    (work : s.work = [] → next.work = [])
    (leaves : w = .exited → s.fetcher = .returned ∧ s.work = []) : Shape concurrency next := by
  refine ⟨by rw [workers, List.length_set, shape.workers], ?_⟩
  intro gone
  rw [workers] at gone
  have stopped : s.fetcher = .returned ∧ s.work = [] := by
    rcases Threads.mem_set gone with new | old
    · exact leaves new.symm
    · exact shape.exited old
  exact ⟨fetcher.trans stopped.1, work stopped.2⟩

theorem shape_turn (turn : Turn decode log s e next) (shape : Shape concurrency s) :
    Shape concurrency next := by
  -- as long as the fetch loop runs, no worker has left
  have nobody : s.fetcher ≠ .returned → .exited ∉ s.workers :=
    fun running gone => running (shape.exited gone).1
  cases turn with
  | cancel | retry | close => exact ⟨shape.workers, shape.exited⟩
  | stop idle | poison idle | fetched idle | skipped idle | dispatch idle =>
      exact ⟨shape.workers, fun gone => absurd gone (nobody (by simp [idle]))⟩
  | receive idle queued =>
      exact shape.set _ rfl rfl (fun empty => by simp [queued] at empty) (by simp)
  | processed running | failed running | commit running =>
      exact shape.set _ rfl rfl id (by simp)
  | exit idle empty stopped => exact shape.set _ rfl rfl id fun _ => ⟨stopped, empty⟩

variable (decode log) in
/-- The message of an item is the one fetched at its offset. -/
def Genuine (item : Pool.WorkItem) : Prop := log[item.offset]?.bind decode = some item.message

variable (decode log) in
structure Faithful (s : Pool.State) : Prop where
  fetcher : ∀ item, s.fetcher = .dispatching item → Genuine decode log item
  work : ∀ item ∈ s.work, Genuine decode log item
  workers : ∀ item, .processing item ∈ s.workers → Genuine decode log item

/-- A worker changes its state, and takes up only what is genuine. -/
theorem Faithful.set {i : Nat} {w : Pool.Worker} (inv : Faithful decode log s) (next : Pool.State)
    (workers : next.workers = s.workers.set i w) (fetcher : next.fetcher = s.fetcher)
    (work : ∀ item ∈ next.work, item ∈ s.work)
    (takes : ∀ item, w = .processing item → Genuine decode log item) :
    Faithful decode log next := by
  refine ⟨?_, fun item member => inv.work item (work item member), ?_⟩
  · rw [fetcher]
    exact inv.fetcher
  · intro item member
    rw [workers] at member
    rcases Threads.mem_set member with new | old
    · exact takes item new.symm
    · exact inv.workers item old

theorem faithful_turn (turn : Turn decode log s e next) (inv : Faithful decode log s) :
    Faithful decode log next := by
  cases turn with
  | cancel | retry | close => exact ⟨inv.fetcher, inv.work, inv.workers⟩
  | stop | poison | skipped => exact ⟨by simp, inv.work, inv.workers⟩
  | fetched idle here good =>
      refine ⟨?_, inv.work, inv.workers⟩
      rintro item ⟨rfl⟩
      simp [Genuine, here, good]
  | dispatch full =>
      refine ⟨by simp, ?_, inv.workers⟩
      intro item member
      rcases List.mem_append.mp member with old | new
      · exact inv.work item old
      · obtain rfl := List.mem_singleton.mp new
        exact inv.fetcher item full
  | receive idle queued =>
      have first := inv.work _ (queued ▸ List.mem_cons_self)
      refine inv.set _ rfl rfl (fun item member => queued ▸ List.mem_cons_of_mem _ member) ?_
      rintro item ⟨rfl⟩
      exact first
  | processed | failed | commit | exit => exact inv.set _ rfl rfl (fun _ member => member) (by simp)

variable (decode log) in
/-- Nothing is left to do for the offset. -/
def Finished (before : List Event) (o : Nat) : Prop :=
  if undecodable decode log o then .commit o ∈ before
  else .handed o ∈ before ∧
    (.returned o false ∈ before ∨ .returned o true ∈ before ∧ .commit o ∈ before)

variable (decode log) in
/-- What has happened before an event. -/
def Lawful (before : List Event) : Event → Prop
  | .fetched _ => .closed ∉ before
  | .handed o => .fetched o ∈ before
  | .returned o _ => .handed o ∈ before
  | .commit o => undecodable decode log o = true ∨ .returned o true ∈ before
  | .closed => ∀ o, .fetched o ∈ before → Finished decode log before o

variable (decode log concurrency) in
structure Inv (start : Nat) (s : Pool.State) (trace : List Event) : Prop where
  ahead : start ≤ s.group.position
  shape : Shape concurrency s
  faithful : Faithful decode log s
  account : ∀ o, Account decode log start s trace o
  lawful : Always (Lawful decode log) trace
  closed : s.closed = true → .closed ∈ trace
  halted : .closed ∈ trace → s.fetcher = .returned

theorem Account.committable (account : Account decode log start s trace o) (held : o ∈ ready s) :
    undecodable decode log o = true ∨ .returned o true ∈ trace := by
  have some_ := List.count_pos_iff.mpr held
  have books := account.commit
  by_cases bad : undecodable decode log o = true
  · exact .inl bad
  · simp only [bad, Bool.false_eq_true, if_false] at books
    exact .inr (List.count_pos_iff.mp (by omega))

theorem Account.fetched_of_waiting (account : Account decode log start s trace o)
    (held : o ∈ waiting s) : .fetched o ∈ trace := by
  have some_ := List.count_pos_iff.mpr held
  have books := account.handed
  refine List.count_pos_iff.mp ?_
  split at books <;> omega

theorem Account.handed_of_inProcess (account : Account decode log start s trace o)
    (held : o ∈ inProcess s) : .handed o ∈ trace := by
  have some_ := List.count_pos_iff.mpr held
  have books := account.returned
  exact List.count_pos_iff.mp (by omega)

/-- With nothing in hand, everything fetched is done. -/
theorem Account.finished (account : Account decode log start s trace o) (wait : waiting s = [])
    (process : inProcess s = []) (commits : ready s = []) (out : .fetched o ∈ trace) :
    Finished decode log trace o := by
  obtain ⟨_, handed, returned, commit⟩ := account
  have fetched := List.count_pos_iff.mpr out
  simp only [wait, process, commits, List.count_nil, Nat.add_zero] at handed returned commit
  unfold Finished
  simp only [← List.count_pos_iff]
  split
  · rename_i bad
    simp only [bad, if_true] at commit
    omega
  · rename_i good
    simp only [good, if_false, Bool.false_eq_true, Nat.add_zero] at handed commit
    omega

theorem lawful_turn (positive : 0 < concurrency) (turn : Turn decode log s e next)
    (inv : Inv decode log concurrency start s trace) :
    ∀ last ∈ e, Lawful decode log trace last := by
  rintro last ⟨rfl⟩
  cases turn with
  | poison idle | fetched idle =>
      intro gone
      simpa [idle] using inv.halted gone
  | skipped bad => exact (inv.account _).committable (by simp [ready, bad, Pool.Fetcher.ready])
  | commit running =>
      refine (inv.account _).committable (List.mem_append_right _ ?_)
      exact List.mem_flatMap.mpr ⟨_, List.mem_of_getElem? running, List.mem_singleton_self _⟩
  | receive idle queued =>
      exact (inv.account _).fetched_of_waiting (List.mem_append_right _ (by simp [queued]))
  | processed running | failed running =>
      refine (inv.account _).handed_of_inProcess ?_
      exact List.mem_flatMap.mpr ⟨_, List.mem_of_getElem? running, List.mem_singleton_self _⟩
  | close stopped exited =>
      intro o out
      have some_ : 0 < s.workers.length := by
        rw [inv.shape.workers]
        exact positive
      have gone : .exited ∈ s.workers := exited _ (List.getElem_mem some_) ▸ List.getElem_mem some_
      have empty := (inv.shape.exited gone).2
      refine (inv.account o).finished ?_ ?_ ?_ out
      · simp [waiting, stopped, empty, Pool.Fetcher.hands]
      · exact List.flatMap_eq_nil_iff.mpr fun w member => by rw [exited w member]; rfl
      · simp only [ready, stopped, Pool.Fetcher.ready, List.nil_append]
        exact List.flatMap_eq_nil_iff.mpr fun w member => by rw [exited w member]; rfl

theorem inv_turn (positive : 0 < concurrency) (turn : Turn decode log s e next)
    (inv : Inv decode log concurrency start s trace) :
    Inv decode log concurrency start next (trace ++ e.toList) where
  ahead := by
    have ahead := inv.ahead
    cases turn with
    | poison | fetched => exact Nat.le_succ_of_le ahead
    | @skipped _ ok | @commit _ _ ok => cases ok <;> exact ahead
    | cancel | stop | retry | dispatch | receive | processed | failed | exit | close => exact ahead
  shape := shape_turn turn inv.shape
  faithful := faithful_turn turn inv.faithful
  account o := account_turn turn inv.ahead (inv.account o)
  lawful := inv.lawful.append (lawful_turn positive turn inv)
  closed := by
    intro closed
    cases turn with
    | close => simp
    | cancel | poison | fetched | stop | retry | skipped | dispatch | receive | processed | failed
    | commit | exit => exact List.mem_append_left _ (inv.closed closed)
  halted := by
    intro gone
    rcases List.mem_append.mp gone with old | new
    · have stopped := inv.halted old
      cases turn with
      | stop => rfl
      | poison idle | fetched idle | skipped idle | dispatch idle => simp [idle] at stopped
      | cancel | retry | receive | processed | failed | commit | exit | close => exact stopped
    · cases turn with
      | close stopped => exact stopped
      | cancel | poison | fetched | stop | retry | skipped | dispatch | receive | processed | failed
      | commit | exit => simp at new

theorem inv_started (group : Offsets.Group) :
    Inv decode log concurrency group.position (Pool.started concurrency group) [] where
  ahead := Nat.le_refl _
  shape := by
    refine ⟨by simp [Pool.started], ?_⟩
    intro gone
    simp [Pool.started] at gone
  faithful := ⟨by simp [Pool.started], by simp [Pool.started], by simp [Pool.started]⟩
  account o := by
    refine ⟨?_, ?_, ?_, ?_⟩
    · rw [List.count_nil, if_neg]
      exact fun both => Nat.not_lt.mpr both.1 both.2
    · simp [waiting, Pool.started, Pool.Fetcher.hands]
    · simp [inProcess, Pool.started, Pool.Worker.hands, List.flatMap_replicate]
    · simp [ready, Pool.started, Pool.Fetcher.ready, Pool.Worker.ready, List.flatMap_replicate]
  lawful := .nil
  closed := by simp [Pool.started]
  halted := by simp

theorem inv_step (positive : 0 < concurrency) {p q : Pool.State × List Event}
    (inv : Inv decode log concurrency start p.1 p.2)
    (taken : recorded (step decode log concurrency) event p label = some q) :
    Inv decode log concurrency start q.1 q.2 := by
  obtain ⟨next, stepped, rfl⟩ := Trace.recorded_some taken
  exact inv_turn positive (step_turn stepped) inv

/-! ## The Run comes to its end -/

/-- The steps at which the results of Process and Commit are those given. -/
def Follows (outcome broker : Nat → Bool) (s : Pool.State) : Pool.Label → Prop
  | .process i ok => ∀ item, s.workers[i]? = some (.processing item) → ok = outcome item.offset
  | .commit i ok => ∀ item, s.workers[i]? = some (.committing item) → ok = broker item.offset
  | .commitPoison ok => ∀ o, s.fetcher = .poison o → ok = broker o
  | .cancel | .fetch | .fetchError | .dispatch | .receive _ | .exit _ | .close | .restart => True

def fetcherLeft : Pool.Fetcher → Nat
  | .returned => 0
  | .fetching => 1
  | .poison _ => 2
  | .dispatching _ => 6

def workerLeft : Pool.Worker → Nat
  | .exited => 0
  | .receiving => 1
  | .committing _ => 2
  | .processing _ => 3

/-- The steps still to do if nothing more is fetched, at most. -/
def left (s : Pool.State) : Nat :=
  (if s.cancelled then 0 else 1) + (if s.closed then 0 else 1) + fetcherLeft s.fetcher +
    4 * s.work.length + (s.workers.map workerLeft).sum

variable {outcome broker : Nat → Bool}

variable (decode log concurrency outcome broker) in
/-- Some step with the given results leaves less to do. -/
def Closer (s : Pool.State) : Prop :=
  ∃ label next, Follows outcome broker s label ∧
    step decode log concurrency s label = some next ∧ left next < left s

/-- A worker that has not left, and has something to wait for no longer. -/
theorem closer_of_worker {i : Nat} {w : Pool.Worker} (running : s.workers[i]? = some w)
    (present : w ≠ .exited) (free : s.work ≠ [] ∨ s.fetcher = .returned) :
    Closer decode log concurrency outcome broker s := by
  cases w with
  | exited => exact absurd rfl present
  | receiving =>
      cases queued : s.work with
      | cons item rest =>
          have sum := Threads.sum_set (.processing item) workerLeft running
          refine ⟨.receive i, _, trivial, by simp [step, Pool.step, running, queued]; rfl, ?_⟩
          simp only [left, queued, List.length_cons, workerLeft] at sum ⊢
          omega
      | nil =>
          have stopped := free.resolve_left (not_not.mpr queued)
          have sum := Threads.sum_set .exited workerLeft running
          refine ⟨.exit i, _, trivial, by simp [step, Pool.step, running, queued, stopped]; rfl, ?_⟩
          simp only [left, workerLeft, queued, stopped] at sum ⊢
          omega
  | processing item =>
      have follows : Follows outcome broker s (.process i (outcome item.offset)) := by
        intro other same
        obtain rfl : item = other := by simpa [running] using same
        rfl
      cases result : outcome item.offset with
      | true =>
          have sum := Threads.sum_set (.committing item) workerLeft running
          rw [result] at follows
          refine ⟨_, _, follows, by simp [step, Pool.step, running]; rfl, ?_⟩
          simp only [left, workerLeft] at sum ⊢
          omega
      | false =>
          have sum := Threads.sum_set .receiving workerLeft running
          rw [result] at follows
          refine ⟨_, _, follows, by simp [step, Pool.step, running]; rfl, ?_⟩
          simp only [left, workerLeft] at sum ⊢
          omega
  | committing item =>
      have follows : Follows outcome broker s (.commit i (broker item.offset)) := by
        intro other same
        obtain rfl : item = other := by simpa [running] using same
        rfl
      have sum := Threads.sum_set .receiving workerLeft running
      refine ⟨_, _, follows, by simp [step, Pool.step, running]; rfl, ?_⟩
      simp only [left, workerLeft] at sum ⊢
      omega

theorem closer_of_shape (positive : 0 < concurrency) (shape : Shape concurrency s)
    (running : s.closed = false) : Closer decode log concurrency outcome broker s := by
  have first : 0 < s.workers.length := shape.workers ▸ positive
  cases cancelled : s.cancelled with
  | false =>
      refine ⟨.cancel, _, trivial, rfl, ?_⟩
      simp [left, cancelled]
  | true =>
      cases state : s.fetcher with
      | fetching =>
          refine ⟨.fetchError, _, trivial, by simp [step, Pool.step, state, cancelled]; rfl, ?_⟩
          simp [left, state, cancelled, fetcherLeft]
      | poison o =>
          have follows : Follows outcome broker s (.commitPoison (broker o)) := by
            intro other same
            obtain rfl : o = other := by simpa [state] using same
            rfl
          refine ⟨_, _, follows, by simp [step, Pool.step, state]; rfl, ?_⟩
          simp [left, state, fetcherLeft]
      | dispatching item =>
          by_cases room : s.work.length < concurrency
          · refine ⟨.dispatch, _, trivial, by simp [step, Pool.step, state, room]; rfl, ?_⟩
            simp only [left, state, fetcherLeft, List.length_append, List.length_singleton]
            omega
          · -- the channel is full, so a worker has something to take or is busy
            refine closer_of_worker (List.getElem?_eq_getElem first) ?_ (.inl ?_)
            · intro gone
              have stopped := (shape.exited (gone ▸ List.getElem_mem first)).1
              simp [state] at stopped
            · rintro empty
              simp only [empty, List.length_nil] at room
              exact room positive
      | returned =>
          by_cases exited : ∀ w ∈ s.workers, w = .exited
          · refine ⟨.close, _, trivial, by simp only [step, Pool.step]; rw [if_neg (by simp), if_pos ⟨state, exited⟩], ?_⟩
            simp [left, running]
          · obtain ⟨w, member, present⟩ : ∃ w ∈ s.workers, w ≠ .exited := by
              simpa using exited
            obtain ⟨i, at_⟩ := List.mem_iff_getElem?.mp member
            exact closer_of_worker at_ present (.inr state)

/-- From every state of a Run, whatever Process and the broker are going to answer, the
    pool can be stopped and comes to its close. -/
theorem reaches_close (positive : 0 < concurrency) {p : Pool.State × List Event}
    (inv : Inv decode log concurrency start p.1 p.2) :
    ∃ labels last,
      Guarded (recorded (step decode log concurrency) event)
        (fun p label => Follows outcome broker p.1 label) p labels ∧
      run (recorded (step decode log concurrency) event) p labels = some last ∧
      last.1.closed = true := by
  have closer : ∀ p : Pool.State × List Event, Inv decode log concurrency start p.1 p.2 →
      ¬p.1.closed = true → ∃ label q, Follows outcome broker p.1 label ∧
        recorded (step decode log concurrency) event p label = some q ∧
        Inv decode log concurrency start q.1 q.2 ∧ left q.1 < left p.1 := by
    intro p inv running
    obtain ⟨label, next, follows, stepped, less⟩ :=
      closer_of_shape positive inv.shape (Bool.eq_false_iff.mpr running)
    have taken : recorded _ event p label = _ := Trace.recorded_of_step stepped p.2
    exact ⟨label, _, follows, taken, inv_step positive inv taken, less⟩
  exact @Transition.reaches _ _ _ _ (fun p => Inv decode log concurrency start p.1 p.2) _
    (fun p => left p.1) closer p inv

end

/-! ## The contract of `Pool.Run` -/

section Contract

variable {Raw : Type} (decode : Raw → Option Message) (log : List Raw)

/-- Nothing is handed to Process that was not fetched or does not decode, and nothing is
    handed or committed twice. -/
def AtMostOnce (trace : List Event) : Prop :=
  ∀ o, trace.count (.fetched o) ≤ 1 ∧
    trace.count (.handed o) ≤ (if undecodable decode log o then 0 else trace.count (.fetched o)) ∧
    trace.count (.commit o) ≤ trace.count (.fetched o)

/-- What was fetched and decodes has been handed to Process exactly as often. -/
def ExactlyOnce (trace : List Event) : Prop :=
  ∀ o, undecodable decode log o = false → trace.count (.handed o) = trace.count (.fetched o)

end Contract

variable {Raw : Type} {decode : Raw → Option Message} {log : List Raw} {concurrency start : Nat}
  {s : Pool.State} {trace : List Event}

theorem Inv.atMostOnce (inv : Inv decode log concurrency start s trace) :
    AtMostOnce decode log trace := by
  intro o
  obtain ⟨fetched, handed, returned, commit⟩ := inv.account o
  refine ⟨?_, ?_, ?_⟩
  · rw [fetched]
    split <;> omega
  · omega
  · split at handed
    · rename_i bad
      simp only [bad, if_true] at commit
      omega
    · rename_i good
      simp only [good, if_false, Bool.false_eq_true] at commit
      omega

theorem Finished.mono {before : List Event} {o : Nat} (done : Finished decode log before o)
    (more : ∀ e ∈ before, e ∈ trace) : Finished decode log trace o := by
  unfold Finished at done ⊢
  split
  · rename_i bad
    rw [if_pos bad] at done
    exact more _ done
  · rename_i good
    rw [if_neg good] at done
    obtain ⟨handed, failed | ⟨passed, commit⟩⟩ := done
    · exact ⟨more _ handed, .inl (more _ failed)⟩
    · exact ⟨more _ handed, .inr ⟨more _ passed, more _ commit⟩⟩

/-- Nothing is fetched after the close, and everything fetched before it is done. -/
theorem Inv.finished {o : Nat} (inv : Inv decode log concurrency start s trace)
    (closed : s.closed = true) (out : .fetched o ∈ trace) : Finished decode log trace o := by
  obtain ⟨before, after, split⟩ := List.append_of_mem (inv.closed closed)
  have done : ∀ o, .fetched o ∈ before → Finished decode log before o :=
    inv.lawful before .closed after split
  have early : .fetched o ∈ before := by
    rw [split] at out
    rcases List.mem_append.mp out with early | late
    · exact early
    · have late : .fetched o ∈ after := (List.mem_cons.mp late).resolve_left (by simp)
      obtain ⟨first, rest, found⟩ := List.append_of_mem late
      have lawful := inv.lawful (before ++ .closed :: first) (.fetched o) rest
        (by rw [split, found]; simp)
      exact absurd (List.mem_append_right _ List.mem_cons_self) lawful
  exact (done o early).mono fun e member => split ▸ List.mem_append_left _ member

theorem Inv.exactlyOnce (inv : Inv decode log concurrency start s trace)
    (closed : s.closed = true) : ExactlyOnce decode log trace := by
  intro o good
  obtain ⟨once, bound, _⟩ := inv.atMostOnce o
  simp only [good, Bool.false_eq_true, if_false] at bound
  by_cases out : .fetched o ∈ trace
  · have done := inv.finished closed out
    simp only [Finished, good, Bool.false_eq_true, if_false] at done
    have handed := List.count_pos_iff.mpr done.1
    omega
  · have never := List.count_eq_zero.mpr out
    omega

/-- A Run of a pool, in every interleaving and with every result of Process and Commit:
    an item in Process carries the message fetched at its offset; messages are handed
    and committed at most once; every event is preceded by what it needs, a commit by the
    nil result of its own Process or a decoding failure, the close by the end of
    everything fetched; and the close can always be reached, with each fetched decodable
    message handed exactly once by then. -/
theorem commit_discipline_and_drain (decode : Raw → Option Message) (log : List Raw)
    (concurrency : Nat) (positive : 1 ≤ concurrency) (group : Offsets.Group)
    (labels : List Pool.Label) (s : Pool.State) (trace : List Event)
    (finished : run (recorded (step decode log concurrency) event)
      (Pool.started concurrency group, []) labels = some (s, trace)) :
    (∀ item, .processing item ∈ s.workers → log[item.offset]?.bind decode = some item.message) ∧
      AtMostOnce decode log trace ∧
      Always (Lawful decode log) trace ∧
      (s.closed = true → ExactlyOnce decode log trace) ∧
      ∀ outcome broker : Nat → Bool, ∃ more last,
        Guarded (recorded (step decode log concurrency) event)
          (fun p label => Follows outcome broker p.1 label) (s, trace) more ∧
        run (recorded (step decode log concurrency) event) (s, trace) more = some last ∧
        last.1.closed = true ∧ trace <+: last.2 ∧ ExactlyOnce decode log last.2 := by
  have keeps : ∀ p label q, Inv decode log concurrency group.position p.1 p.2 →
      recorded (step decode log concurrency) event p label = some q →
      Inv decode log concurrency group.position q.1 q.2 :=
    fun _ _ _ inv taken => inv_step positive inv taken
  have whole : ∀ {p q labels}, Inv decode log concurrency group.position p.1 p.2 →
      run (recorded (step decode log concurrency) event) p labels = some q →
      Inv decode log concurrency group.position q.1 q.2 :=
    fun inv ran => @Transition.run_invariant _ _ _
      (fun p => Inv decode log concurrency group.position p.1 p.2) keeps _ _ _ inv ran
  have inv := whole (inv_started group) finished
  refine ⟨inv.faithful.workers, inv.atMostOnce, inv.lawful, inv.exactlyOnce, ?_⟩
  intro outcome broker
  obtain ⟨more, last, follows, ran, closed⟩ := reaches_close positive inv
  exact ⟨more, last, follows, ran, closed, Trace.prefix_of_run ran,
    (whole inv ran).exactlyOnce closed⟩

/-- Two workers on a bad message and two good ones. The first Process fails, the context is
    cancelled while the second runs, and its message is committed before the close. -/
theorem two_workers_drain :
    ∃ s, run (recorded (step id [none, some CommitOrder.hello, some CommitOrder.hello] 2) event)
        (Pool.started 2 .empty, [])
        [.fetch, .commitPoison true, .fetch, .dispatch, .fetch, .dispatch, .receive 1, .receive 0,
          .process 1 false, .cancel, .fetchError, .exit 1, .process 0 true, .commit 0 true,
          .exit 0, .close] =
        some (s, [.fetched 0, .commit 0, .fetched 1, .fetched 2, .handed 1, .handed 2,
          .returned 1 false, .returned 2 true, .commit 2, .closed]) ∧
      Always (Lawful id [none, some CommitOrder.hello, some CommitOrder.hello])
        [.fetched 0, .commit 0, .fetched 1, .fetched 2, .handed 1, .handed 2, .returned 1 false,
          .returned 2 true, .commit 2, .closed] := by
  have reached : (run (recorded (step id [none, some CommitOrder.hello, some CommitOrder.hello] 2)
      event) (Pool.started 2 .empty, [])
      [.fetch, .commitPoison true, .fetch, .dispatch, .fetch, .dispatch, .receive 1, .receive 0,
        .process 1 false, .cancel, .fetchError, .exit 1, .process 0 true, .commit 0 true,
        .exit 0, .close]).map (·.2) =
      some [.fetched 0, .commit 0, .fetched 1, .fetched 2, .handed 1, .handed 2,
        .returned 1 false, .returned 2 true, .commit 2, .closed] := by
    decide +kernel
  obtain ⟨⟨s, trace⟩, finished, rfl⟩ := Option.map_eq_some_iff.mp reached
  exact ⟨s, finished,
    (commit_discipline_and_drain _ _ 2 (by decide) _ _ s _ finished).2.2.1⟩

end NotifyHub.Drain
