import NotifyHub.Worker.Pool

/-! # The sequential consumers

`DLQConsumer.Run` and `WebhookWorker.Run` are one loop with different envelopes and
handlers: fetch, decode, handle, commit, one message at a time. Whether the handler
succeeds is open, as for the pool.
-/

namespace NotifyHub

namespace Loop

inductive Pc (Msg : Type) where
  | fetching
  | poison (o : Nat)
  | handling (o : Nat) (message : Msg)
  | committing (o : Nat)
  | closed
  deriving Repr, DecidableEq

structure State (Msg : Type) where
  group : Offsets.Group
  cancelled : Bool
  pc : Pc Msg
  deriving Repr, DecidableEq

def started {Msg : Type} (group : Offsets.Group) : State Msg := ⟨group, false, .fetching⟩

inductive Label where
  | cancel
  | fetch
  | fetchError
  | commitPoison (ok : Bool)
  | handle (ok : Bool)
  | commit (ok : Bool)
  | restart
  deriving Repr, DecidableEq

section Step

variable {Raw Msg : Type}

/-- The iteration that got the raw message. -/
def fetched (decode : Raw → Option Msg) (o : Nat) (raw : Raw) : Pc Msg :=
  match decode raw with
  | none => .poison o
  | some message => .handling o message

def step (decode : Raw → Option Msg) (log : List Raw) (s : State Msg) : Label → Option (State Msg)
  | .cancel => some { s with cancelled := true }
  | .fetch =>
      match s.pc, log[s.group.position]? with
      | .fetching, some raw =>
          some { s with group := s.group.fetch, pc := fetched decode s.group.position raw }
      | _, _ => none
  | .fetchError =>
      match s.pc with
      | .fetching => if s.cancelled then some { s with pc := .closed } else some s
      | _ => none
  | .commitPoison ok =>
      match s.pc with
      | .poison o => some { s with group := Consumer.commit s.group o ok, pc := .fetching }
      | _ => none
  | .handle ok =>
      match s.pc with
      | .handling o _ =>
          if ok then some { s with group := s.group.handle o, pc := .committing o }
          else some { s with group := s.group.abandon o, pc := .fetching }
      | _ => none
  | .commit ok =>
      match s.pc with
      | .committing o => some { s with group := Consumer.commit s.group o ok, pc := .fetching }
      | _ => none
  | .restart => some (started s.group.restart)

def Pc.hands : Pc Msg → List Nat
  | .handling o _ => [o]
  | .fetching | .poison _ | .committing _ | .closed => []

def Pc.ready : Pc Msg → List Nat
  | .poison o | .committing o => [o]
  | .fetching | .handling .. | .closed => []

def view (s : State Msg) : Offsets.View := ⟨s.group, s.pc.hands, s.pc.ready⟩

/-- The offset a step is about to commit. -/
def commits (s : State Msg) : Label → Option Nat
  | .commitPoison true =>
      match s.pc with
      | .poison o => some o
      | _ => none
  | .commit true =>
      match s.pc with
      | .committing o => some o
      | _ => none
  | _ => none

variable {decode : Raw → Option Msg} {log : List Raw} {s next : State Msg}

theorem fetch_move {raw : Raw} (here : log[s.group.position]? = some raw)
    (idle : s.pc = .fetching) :
    Offsets.Move (undecodable decode log · = true) (view s) none
      (view { s with group := s.group.fetch, pc := fetched decode s.group.position raw }) := by
  cases decoded : decode raw with
  | none =>
      apply Offsets.Move.skip
      · exact (undecodable_iff here).mpr decoded
      · simp [fetched, decoded, idle, view, Pc.hands]
      · simp [fetched, decoded, view, Pc.ready]
  | some message =>
      apply Offsets.Move.take
      · exact fun bad => by simp [(undecodable_iff here).mp bad] at decoded
      · simp [fetched, decoded, idle, view, Pc.hands]
      · simp [fetched, decoded, view, Pc.ready]

/-- A commit, answered either way, after which the loop goes on fetching. -/
theorem commit_move {fine : Nat → Prop} {o : Nat} (waited : s.pc.ready = [o])
    (empty : s.pc.hands = []) (ok : Bool) :
    Offsets.Move fine (view s) (if ok then some o else none)
      (view ({ s with group := Consumer.commit s.group o ok, pc := .fetching } : State Msg)) := by
  have none_ : (view s).hands = [] := empty
  cases ok with
  | true => exact .commit (by simp [view, waited]) (by simp [none_, Pc.hands]) (by simp [Pc.ready])
  | false => exact .stay (by simp [none_, Pc.hands]) (by simp [Pc.ready])

theorem step_move {label : Label} (taken : step decode log s label = some next) :
    Offsets.Move (undecodable decode log · = true) (view s) (commits s label) (view next) := by
  cases label with
  | cancel =>
      obtain rfl := Option.some.inj taken
      exact .stay (fun _ => Iff.rfl) (fun _ member => member)
  | fetch =>
      simp only [step] at taken
      split at taken
      · rename_i raw idle here
        obtain rfl := Option.some.inj taken
        exact fetch_move here idle
      · simp at taken
  | fetchError =>
      simp only [step] at taken
      split at taken
      · rename_i idle
        split at taken
        · obtain rfl := Option.some.inj taken
          exact .stay (by simp [view, idle, Pc.hands]) (by simp [Pc.ready])
        · obtain rfl := Option.some.inj taken
          exact .stay (fun _ => Iff.rfl) (fun _ member => member)
      · simp at taken
  | commitPoison ok =>
      simp only [step] at taken
      split at taken
      · rename_i o bad
        obtain rfl := Option.some.inj taken
        have about : commits s (.commitPoison ok) = if ok then some o else none := by
          cases ok <;> simp [commits, bad]
        rw [about]
        exact commit_move (by rw [bad]; rfl) (by rw [bad]; rfl) ok
      · simp at taken
  | handle ok =>
      simp only [step] at taken
      split at taken
      · rename_i o message busy
        cases ok with
        | true =>
            simp only [if_true] at taken
            obtain rfl := Option.some.inj taken
            exact .handle (by simp [view, busy, Pc.hands]) (by simp [view, busy, Pc.hands])
              (by simp [Pc.hands]) (by simp [Pc.ready])
        | false =>
            simp only [Bool.false_eq_true, if_false] at taken
            obtain rfl := Option.some.inj taken
            exact .abandon (by simp [view, busy, Pc.hands]) (by simp [view, busy, Pc.hands])
              (by simp [Pc.hands]) (by simp [Pc.ready])
      · simp at taken
  | commit ok =>
      simp only [step] at taken
      split at taken
      · rename_i o done
        obtain rfl := Option.some.inj taken
        have about : commits s (.commit ok) = if ok then some o else none := by
          cases ok <;> simp [commits, done]
        rw [about]
        exact commit_move (by rw [done]; rfl) (by rw [done]; rfl) ok
      · simp at taken
  | restart =>
      obtain rfl := Option.some.inj taken
      exact .restart

theorem step_of_commits {label : Label} {o : Nat} (about : commits s label = some o) :
    ∃ next, step decode log s label = some next := by
  unfold commits at about
  split at about
  · split at about
    · rename_i bad
      exact ⟨_, by simp only [step, bad]; rfl⟩
    · simp at about
  · split at about
    · rename_i done
      exact ⟨_, by simp only [step, done]; rfl⟩
    · simp at about
  · simp at about

theorem consumer (decode : Raw → Option Msg) (log : List Raw) :
    Offsets.Consumer (undecodable decode log · = true) (step decode log) view commits :=
  ⟨step_move, step_of_commits⟩

end Step

end Loop

end NotifyHub
