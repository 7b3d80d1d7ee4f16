import Mathlib.Data.List.Basic

/-! # Runs of a labelled transition system

A system is a partial step function: `none` says that the label is not enabled.
Runs are label lists, so one run is one interleaving of the parties behind the
labels. `Guarded` restricts a run by a condition on the state before each step;
invariants are carried along guarded runs and transported between guards.
-/

namespace Transition

variable {σ α : Type}

/-- Take the labels in order. A label that is not enabled ends the run in `none`. -/
def run (step : σ → α → Option σ) : σ → List α → Option σ
  | s, [] => some s
  | s, a :: rest =>
      match step s a with
      | none => none
      | some next => run step next rest

/-- Every step of the run meets `guard` in the state before it. -/
def Guarded (step : σ → α → Option σ) (guard : σ → α → Prop) : σ → List α → Prop
  | _, [] => True
  | s, a :: rest =>
      guard s a ∧
        match step s a with
        | none => True
        | some next => Guarded step guard next rest

instance decidableGuarded (step : σ → α → Option σ) (guard : σ → α → Prop)
    [∀ s a, Decidable (guard s a)] : ∀ s labels, Decidable (Guarded step guard s labels)
  | _, [] => .isTrue trivial
  | s, a :: rest =>
      have : Decidable (match step s a with
          | none => True
          | some next => Guarded step guard next rest) :=
        match step s a with
        | none => .isTrue trivial
        | some next => decidableGuarded step guard next rest
      inferInstanceAs (Decidable (_ ∧ _))

variable {step : σ → α → Option σ} {guard other base : σ → α → Prop} {Inv : σ → Prop}

theorem run_cons {s next : σ} {a : α} (taken : step s a = some next) (rest : List α) :
    run step s (a :: rest) = run step next rest := by
  simp only [run, taken]

/-- A finished run begins with an enabled label. -/
theorem run_cons_inv {s last : σ} {a : α} {rest : List α}
    (finished : run step s (a :: rest) = some last) :
    ∃ next, step s a = some next ∧ run step next rest = some last := by
  cases taken : step s a with
  | none => simp [run, taken] at finished
  | some next => exact ⟨next, rfl, by rwa [run_cons taken] at finished⟩

theorem run_append {s middle : σ} {first : List α} (taken : run step s first = some middle)
    (second : List α) : run step s (first ++ second) = run step middle second := by
  induction first generalizing s with
  | nil =>
      obtain rfl := Option.some.inj taken
      rfl
  | cons a rest ih =>
      obtain ⟨next, here, onward⟩ := run_cons_inv taken
      rw [List.cons_append, run_cons here]
      exact ih onward

theorem Guarded.tail {s next : σ} {a : α} {rest : List α}
    (all : Guarded step guard s (a :: rest)) (taken : step s a = some next) :
    Guarded step guard next rest := by
  simpa only [taken] using all.2

theorem Guarded.after {s middle : σ} {first second : List α}
    (all : Guarded step guard s (first ++ second)) (taken : run step s first = some middle) :
    Guarded step guard middle second := by
  induction first generalizing s with
  | nil =>
      obtain rfl := Option.some.inj taken
      exact all
  | cons a rest ih =>
      obtain ⟨next, here, onward⟩ := run_cons_inv taken
      exact ih (all.tail here) onward

theorem Guarded.before {s : σ} {first second : List α}
    (all : Guarded step guard s (first ++ second)) : Guarded step guard s first := by
  induction first generalizing s with
  | nil => trivial
  | cons a rest ih =>
      refine ⟨all.1, ?_⟩
      cases taken : step s a with
      | none => trivial
      | some next => exact ih (all.tail taken)

/-- Where some step always brings the goal closer, it is reached. -/
theorem reaches {Goal : σ → Prop} (left : σ → Nat)
    (closer : ∀ s, Inv s → ¬Goal s →
      ∃ a next, guard s a ∧ step s a = some next ∧ Inv next ∧ left next < left s)
    {s : σ} (start : Inv s) :
    ∃ labels last, Guarded step guard s labels ∧ run step s labels = some last ∧ Goal last := by
  induction bound : left s using Nat.strongRecOn generalizing s with
  | _ n ih =>
      by_cases there : Goal s
      · exact ⟨[], s, trivial, rfl, there⟩
      · obtain ⟨a, next, allowed, taken, kept, less⟩ := closer s start there
        obtain ⟨labels, last, all, finished, goal⟩ := ih (left next) (bound ▸ less) kept rfl
        refine ⟨a :: labels, last, ⟨allowed, ?_⟩, ?_, goal⟩
        · simpa only [taken] using all
        · rw [run_cons taken]
          exact finished

/-- A condition on every label joins a guard. -/
theorem Guarded.and_labels {cond : α → Prop} {s : σ} {labels : List α}
    (each : ∀ a ∈ labels, cond a) (all : Guarded step guard s labels) :
    Guarded step (fun s a => cond a ∧ guard s a) s labels := by
  induction labels generalizing s with
  | nil => trivial
  | cons a rest ih =>
      refine ⟨⟨each a List.mem_cons_self, all.1⟩, ?_⟩
      cases taken : step s a with
      | none => trivial
      | some next => exact ih (fun b member => each b (List.mem_cons_of_mem _ member)) (all.tail taken)

/-- What a guarded step preserves holds at the end of every guarded run. -/
theorem Guarded.invariant
    (keeps : ∀ s a next, Inv s → guard s a → step s a = some next → Inv next)
    {s last : σ} {labels : List α} (start : Inv s) (all : Guarded step guard s labels)
    (finished : run step s labels = some last) : Inv last := by
  induction labels generalizing s with
  | nil =>
      obtain rfl := Option.some.inj finished
      exact start
  | cons a rest ih =>
      obtain ⟨next, taken, onward⟩ := run_cons_inv finished
      exact ih (keeps s a next start all.1 taken) (all.tail taken) onward

theorem guarded_true (labels : List α) (s : σ) : Guarded step (fun _ _ => True) s labels := by
  induction labels generalizing s with
  | nil => trivial
  | cons a rest ih =>
      refine ⟨trivial, ?_⟩
      cases step s a with
      | none => trivial
      | some next => exact ih next

/-- What every step preserves holds at the end of every run. -/
theorem run_invariant (keeps : ∀ s a next, Inv s → step s a = some next → Inv next)
    {s last : σ} {labels : List α} (start : Inv s)
    (finished : run step s labels = some last) : Inv last :=
  Guarded.invariant (fun s a next inv _ taken => keeps s a next inv taken) start
    (guarded_true labels s) finished

theorem Guarded.and {s : σ} {labels : List α} (left : Guarded step guard s labels)
    (right : Guarded step other s labels) :
    Guarded step (fun s a => guard s a ∧ other s a) s labels := by
  induction labels generalizing s with
  | nil => trivial
  | cons a rest ih =>
      refine ⟨⟨left.1, right.1⟩, ?_⟩
      cases taken : step s a with
      | none => trivial
      | some next => exact ih (left.tail taken) (right.tail taken)

/-- Among runs that meet `base`, two guards accept the same if they agree wherever an
    invariant holds that the second one carries along. -/
theorem guarded_congr_under
    (keeps : ∀ s a next, Inv s → base s a → other s a → step s a = some next → Inv next)
    (agree : ∀ s a, Inv s → base s a → (guard s a ↔ other s a)) {s : σ} (start : Inv s)
    {labels : List α} (all : Guarded step base s labels) :
    Guarded step guard s labels ↔ Guarded step other s labels := by
  induction labels generalizing s with
  | nil => exact Iff.rfl
  | cons a rest ih =>
      have here := agree s a start all.1
      cases taken : step s a with
      | none => simp only [Guarded, taken, here]
      | some next =>
          have later : other s a → (Guarded step guard next rest ↔ Guarded step other next rest) :=
            fun ok => ih (keeps s a next start all.1 ok taken) (all.tail taken)
          simp only [Guarded, taken, here]
          exact and_congr_right later

/-- Where a fault stays and each step brings one about exactly if it breaks the guard, a run is
    free of faults if and only if it keeps the guard. -/
theorem run_free_iff {Bad : σ → Prop}
    (keeps : ∀ s a next, Inv s → base s a → step s a = some next → Inv next)
    (stays : ∀ s a next, Inv s → Bad s → base s a → step s a = some next → Bad next)
    (decides : ∀ s a next, Inv s → ¬Bad s → base s a → step s a = some next →
      (¬Bad next ↔ guard s a))
    {s last : σ} {labels : List α} (start : Inv s) (free : ¬Bad s)
    (all : Guarded step base s labels) (finished : run step s labels = some last) :
    ¬Bad last ↔ Guarded step guard s labels := by
  induction labels generalizing s with
  | nil =>
      obtain rfl := Option.some.inj finished
      exact iff_of_true free trivial
  | cons a rest ih =>
      obtain ⟨next, taken, onward⟩ := run_cons_inv finished
      have here := decides s a next start free all.1 taken
      have kept := keeps s a next start all.1 taken
      simp only [Guarded, taken]
      by_cases bad : Bad next
      · have both : ∀ s a next, Inv s ∧ Bad s → base s a → step s a = some next →
            Inv next ∧ Bad next :=
          fun s a next here allowed taken =>
            ⟨keeps s a next here.1 allowed taken, stays s a next here.1 here.2 allowed taken⟩
        have stuck := Guarded.invariant both ⟨kept, bad⟩ (all.tail taken) onward
        exact iff_of_false (fun free => free stuck.2) fun both => here.mpr both.1 bad
      · rw [ih kept bad (all.tail taken) onward]
        exact ⟨fun rest => ⟨here.mp bad, rest⟩, fun both => both.2⟩

/-- Two guards that agree wherever an invariant of the system holds accept the same runs. -/
theorem guarded_congr (keeps : ∀ s a next, Inv s → step s a = some next → Inv next)
    (agree : ∀ s a, Inv s → (guard s a ↔ other s a)) {s : σ} (start : Inv s)
    (labels : List α) : Guarded step guard s labels ↔ Guarded step other s labels :=
  guarded_congr_under (fun s a next inv _ _ taken => keeps s a next inv taken)
    (fun s a inv _ => agree s a inv) start (guarded_true labels s)

end Transition
