import NotifyHub.Lib.Transition

/-! # Committed offsets of a log consumer

A consumer takes the entries of a log in order, handles them in any order and commits
offsets. A commit of `o` moves the committed position to `o + 1`, whatever it was, and
a restart goes on from there. `Safe` says that nothing below the committed position is
left to handle. A consumer is judged by its `View`: what it has taken and not handled
yet, and what it may commit. `Consumer.safe_iff_inOrder` is the rule for all of them:
its runs are safe exactly if no commit overtakes an offset still open.
-/

namespace Offsets

/-- The books of one partition. `started` and `abandoned` (given up after an error)
    belong to the session since the last restart; `handled` is never forgotten. -/
structure Group where
  committed : Nat
  started : Nat
  position : Nat
  handled : List Nat
  abandoned : List Nat
  deriving Repr, DecidableEq

namespace Group

def empty : Group := ⟨0, 0, 0, [], []⟩

def fetch (g : Group) : Group := { g with position := g.position + 1 }

def handle (g : Group) (o : Nat) : Group := { g with handled := o :: g.handled }

def abandon (g : Group) (o : Nat) : Group := { g with abandoned := o :: g.abandoned }

def commit (g : Group) (o : Nat) : Group := { g with committed := o + 1 }

def restart (g : Group) : Group :=
  { g with started := g.committed, position := g.committed, abandoned := [] }

end Group

/-- What a consumer has in hand, beside the books: offsets taken and not handled yet,
    and offsets that are only waiting for their commit. -/
structure View where
  group : Group
  hands : List Nat
  ready : List Nat

/-- Nothing is left to do for the offset; `fine` are those that need no handling. -/
def Settled (fine : Nat → Prop) (g : Group) (o : Nat) : Prop := fine o ∨ o ∈ g.handled

def Safe (fine : Nat → Prop) (g : Group) : Prop := ∀ o < g.committed, Settled fine g o

instance (fine : Nat → Prop) [DecidablePred fine] (g : Group) : Decidable (Safe fine g) :=
  inferInstanceAs (Decidable (∀ o < g.committed, fine o ∨ o ∈ g.handled))

/-- Every smaller offset still in hand, or given up, has been handled before. -/
def InOrder (v : View) (o : Nat) : Prop :=
  ∀ p < o, p ∈ v.hands ∨ p ∈ v.group.abandoned → p ∈ v.group.handled

instance (v : View) (o : Nat) : Decidable (InOrder v o) :=
  inferInstanceAs (Decidable (∀ p < o, p ∈ v.hands ∨ p ∈ v.group.abandoned → p ∈ v.group.handled))

/-- Every offset of the session is accounted for. -/
structure Accounted (fine : Nat → Prop) (v : View) : Prop where
  base : ∀ p < v.group.started, Settled fine v.group p
  fetched : ∀ p, v.group.started ≤ p → p < v.group.position →
    Settled fine v.group p ∨ p ∈ v.hands ∨ p ∈ v.group.abandoned
  safe : Safe fine v.group
  hands : ∀ p ∈ v.hands, p < v.group.position ∧ ¬ fine p
  abandoned : ∀ p ∈ v.group.abandoned, ¬ fine p
  ready : ∀ p ∈ v.ready, p < v.group.position ∧ Settled fine v.group p

/-- One move of a consumer, with the offset it commits. -/
inductive Move (fine : Nat → Prop) (v : View) : Option Nat → View → Prop where
  | stay {hands ready : List Nat} (same : ∀ p, p ∈ hands ↔ p ∈ v.hands)
      (less : ∀ p ∈ ready, p ∈ v.ready) : Move fine v none ⟨v.group, hands, ready⟩
  | skip {hands ready : List Nat} (skips : fine v.group.position)
      (same : ∀ p, p ∈ hands ↔ p ∈ v.hands)
      (waiting : ∀ p ∈ ready, p = v.group.position ∨ p ∈ v.ready) :
      Move fine v none ⟨v.group.fetch, hands, ready⟩
  | take {hands ready : List Nat} (needs : ¬ fine v.group.position)
      (more : ∀ p, p ∈ hands ↔ p = v.group.position ∨ p ∈ v.hands)
      (less : ∀ p ∈ ready, p ∈ v.ready) : Move fine v none ⟨v.group.fetch, hands, ready⟩
  | handle {hands ready : List Nat} {o : Nat} (held : o ∈ v.hands)
      (others : ∀ p ∈ v.hands, p = o ∨ p ∈ hands) (fewer : ∀ p ∈ hands, p ∈ v.hands)
      (waiting : ∀ p ∈ ready, p = o ∨ p ∈ v.ready) :
      Move fine v none ⟨v.group.handle o, hands, ready⟩
  | abandon {hands ready : List Nat} {o : Nat} (held : o ∈ v.hands)
      (others : ∀ p ∈ v.hands, p = o ∨ p ∈ hands) (fewer : ∀ p ∈ hands, p ∈ v.hands)
      (less : ∀ p ∈ ready, p ∈ v.ready) : Move fine v none ⟨v.group.abandon o, hands, ready⟩
  | commit {hands ready : List Nat} {o : Nat} (waited : o ∈ v.ready)
      (same : ∀ p, p ∈ hands ↔ p ∈ v.hands) (less : ∀ p ∈ ready, p ∈ v.ready) :
      Move fine v (some o) ⟨v.group.commit o, hands, ready⟩
  | restart : Move fine v none ⟨v.group.restart, [], []⟩

variable {fine : Nat → Prop} {v v' : View} {c : Option Nat}

theorem accounted_empty : Accounted fine ⟨.empty, [], []⟩ := by
  constructor <;> simp [Group.empty, Safe]

/-- Handling one more offset unsettles none. -/
theorem Settled.handle {g : Group} {p : Nat} (done : Settled fine g p) (o : Nat) :
    Settled fine (g.handle o) p :=
  done.imp_right (List.mem_cons_of_mem o)

theorem settled_handle (g : Group) (o : Nat) : Settled fine (g.handle o) o :=
  .inr List.mem_cons_self

/-- A commit is safe exactly if it overtakes nothing. -/
theorem Accounted.safe_commit_iff (inv : Accounted fine v) {o : Nat} (waited : o ∈ v.ready) :
    Safe fine (v.group.commit o) ↔ InOrder v o := by
  constructor
  · intro safe p before unsettled
    have needs : ¬ fine p := unsettled.elim (fun held => (inv.hands p held).2) (inv.abandoned p)
    exact (safe p (Nat.lt_succ_of_lt before)).resolve_left needs
  · intro inOrder p below
    have own := inv.ready o waited
    rcases Nat.lt_succ_iff_lt_or_eq.mp below with before | rfl
    · rcases Nat.lt_or_ge p v.group.started with early | inSession
      · exact inv.base p early
      · rcases inv.fetched p inSession (Nat.lt_trans before own.1) with done | unsettled
        · exact done
        · exact .inr (inOrder p before unsettled)
    · exact own.2

namespace Accounted

variable {hands ready : List Nat} {o : Nat}

theorem fetch (inv : Accounted fine v)
    (new : Settled fine v.group v.group.position ∨ v.group.position ∈ hands)
    (kept : ∀ p ∈ v.hands, p ∈ hands)
    (taken : ∀ p ∈ hands, (p = v.group.position ∧ ¬ fine p) ∨ p ∈ v.hands)
    (waiting : ∀ p ∈ ready, (p = v.group.position ∧ fine p) ∨ p ∈ v.ready) :
    Accounted fine ⟨v.group.fetch, hands, ready⟩ where
  base := inv.base
  fetched := by
    intro p inSession below
    rcases Nat.lt_succ_iff_lt_or_eq.mp below with before | rfl
    · rcases inv.fetched p inSession before with done | held | given
      · exact .inl done
      · exact .inr (.inl (kept p held))
      · exact .inr (.inr given)
    · exact new.imp_right .inl
  safe := inv.safe
  hands := by
    intro p member
    rcases taken p member with ⟨rfl, needs⟩ | held
    · exact ⟨Nat.lt_succ_self _, needs⟩
    · exact ⟨Nat.lt_succ_of_lt (inv.hands p held).1, (inv.hands p held).2⟩
  abandoned := inv.abandoned
  ready := by
    intro p member
    rcases waiting p member with ⟨rfl, skips⟩ | waited
    · exact ⟨Nat.lt_succ_self _, .inl skips⟩
    · exact ⟨Nat.lt_succ_of_lt (inv.ready p waited).1, (inv.ready p waited).2⟩

theorem handle (inv : Accounted fine v) (held : o ∈ v.hands)
    (others : ∀ p ∈ v.hands, p = o ∨ p ∈ hands) (fewer : ∀ p ∈ hands, p ∈ v.hands)
    (waiting : ∀ p ∈ ready, p = o ∨ p ∈ v.ready) :
    Accounted fine ⟨v.group.handle o, hands, ready⟩ where
  base p early := (inv.base p early).handle o
  fetched := by
    intro p inSession below
    rcases inv.fetched p inSession below with done | inHand | given
    · exact .inl (done.handle o)
    · rcases others p inHand with rfl | still
      · exact .inl (settled_handle _ _)
      · exact .inr (.inl still)
    · exact .inr (.inr given)
  safe p below := (inv.safe p below).handle o
  hands p member := inv.hands p (fewer p member)
  abandoned := inv.abandoned
  ready := by
    intro p member
    rcases waiting p member with rfl | waited
    · exact ⟨(inv.hands p held).1, settled_handle _ _⟩
    · exact ⟨(inv.ready p waited).1, (inv.ready p waited).2.handle o⟩

theorem abandon (inv : Accounted fine v) (held : o ∈ v.hands)
    (others : ∀ p ∈ v.hands, p = o ∨ p ∈ hands) (fewer : ∀ p ∈ hands, p ∈ v.hands)
    (less : ∀ p ∈ ready, p ∈ v.ready) :
    Accounted fine ⟨v.group.abandon o, hands, ready⟩ where
  base := inv.base
  fetched := by
    intro p inSession below
    rcases inv.fetched p inSession below with done | inHand | given
    · exact .inl done
    · rcases others p inHand with rfl | still
      · exact .inr (.inr List.mem_cons_self)
      · exact .inr (.inl still)
    · exact .inr (.inr (List.mem_cons_of_mem _ given))
  safe := inv.safe
  hands p member := inv.hands p (fewer p member)
  abandoned := by
    intro p member
    rcases List.mem_cons.mp member with rfl | given
    · exact (inv.hands p held).2
    · exact inv.abandoned p given
  ready p member := inv.ready p (less p member)

/-- The committed position may change as long as it stays safe. -/
theorem commit (inv : Accounted fine v) {committed : Nat}
    (safe : Safe fine { v.group with committed := committed })
    (same : ∀ p, p ∈ hands ↔ p ∈ v.hands) (less : ∀ p ∈ ready, p ∈ v.ready) :
    Accounted fine ⟨{ v.group with committed := committed }, hands, ready⟩ where
  base := inv.base
  fetched p inSession below :=
    (inv.fetched p inSession below).imp_right fun unsettled => unsettled.imp_left (same p).mpr
  safe := safe
  hands p member := inv.hands p ((same p).mp member)
  abandoned := inv.abandoned
  ready p member := inv.ready p (less p member)

theorem restart (inv : Accounted fine v) : Accounted fine ⟨v.group.restart, [], []⟩ where
  base := inv.safe
  fetched p inSession below := absurd below (Nat.not_lt.mpr inSession)
  safe := inv.safe
  hands p member := by simp at member
  abandoned p member := by simp [Group.restart] at member
  ready p member := by simp at member

end Accounted

/-- The books stay in order under every move whose commit, if any, is in order. -/
theorem Move.accounted (inv : Accounted fine v) (move : Move fine v c v')
    (inOrder : ∀ o ∈ c, InOrder v o) : Accounted fine v' := by
  cases move with
  | stay same less => exact inv.commit inv.safe same less
  | skip skips same waiting =>
      exact inv.fetch (.inl (.inl skips)) (fun p => (same p).mpr)
        (fun p member => .inr ((same p).mp member))
        (fun p member => (waiting p member).imp_left fun here => ⟨here, here ▸ skips⟩)
  | take needs more less =>
      exact inv.fetch (.inr ((more _).mpr (.inl rfl)))
        (fun p held => (more p).mpr (.inr held))
        (fun p member => ((more p).mp member).imp_left fun here => ⟨here, here ▸ needs⟩)
        (fun p member => .inr (less p member))
  | handle held others fewer waiting => exact inv.handle held others fewer waiting
  | abandon held others fewer less => exact inv.abandon held others fewer less
  | commit waited same less =>
      exact inv.commit ((inv.safe_commit_iff waited).mpr (inOrder _ rfl)) same less
  | restart => exact inv.restart

theorem Move.safe_iff (inv : Accounted fine v) (move : Move fine v c v') :
    Safe fine v'.group ↔ ∀ o ∈ c, InOrder v o := by
  refine ⟨fun safe => ?_, fun inOrder => (move.accounted inv inOrder).safe⟩
  cases move with
  | commit waited same less =>
      intro o here
      obtain rfl := Option.some.inj here
      exact (inv.safe_commit_iff waited).mp safe
  | stay | skip | take | handle | abandon | restart => simp

/-! ## Consumers -/

/-- A system each of whose steps is a move; `commits` says which offset a label is
    about to commit. -/
structure Consumer {σ α : Type} (fine : Nat → Prop) (step : σ → α → Option σ) (view : σ → View)
    (commits : σ → α → Option Nat) : Prop where
  moves : ∀ {s a next}, step s a = some next → Move fine (view s) (commits s a) (view next)
  enabled : ∀ {s a o}, commits s a = some o → ∃ next, step s a = some next

section System

variable {σ α : Type} {step : σ → α → Option σ} {view : σ → View} {commits : σ → α → Option Nat}

/-- The step, if it is taken, leaves the committed position safe. -/
def SafeAfter (fine : Nat → Prop) (step : σ → α → Option σ) (view : σ → View) (s : σ) (a : α) :
    Prop :=
  ∀ next, step s a = some next → Safe fine (view next).group

/-- What the step commits overtakes nothing. -/
def CommitsInOrder (view : σ → View) (commits : σ → α → Option Nat) (s : σ) (a : α) : Prop :=
  ∀ o ∈ commits s a, InOrder (view s) o

theorem Consumer.safeAfter_iff (consumer : Consumer fine step view commits) {s : σ}
    (inv : Accounted fine (view s)) (a : α) :
    SafeAfter fine step view s a ↔ CommitsInOrder view commits s a := by
  constructor
  · intro safe o here
    obtain ⟨next, taken⟩ := consumer.enabled here
    exact ((consumer.moves taken).safe_iff inv).mp (safe next taken) o here
  · intro inOrder next taken
    exact ((consumer.moves taken).safe_iff inv).mpr inOrder

/-- Every state of a run is safe if and only if every commit of the run is in order. -/
theorem Consumer.safe_iff_inOrder (consumer : Consumer fine step view commits) {s : σ}
    (start : Accounted fine (view s)) (labels : List α) :
    Transition.Guarded step (SafeAfter fine step view) s labels ↔
      Transition.Guarded step (CommitsInOrder view commits) s labels := by
  have keeps : ∀ s a next, Accounted fine (view s) → True → CommitsInOrder view commits s a →
      step s a = some next → Accounted fine (view next) :=
    fun _ _ _ inv _ inOrder taken => (consumer.moves taken).accounted inv inOrder
  exact Transition.guarded_congr_under keeps (fun _ a inv _ => consumer.safeAfter_iff inv a) start
    (Transition.guarded_true labels s)

end System

end Offsets
