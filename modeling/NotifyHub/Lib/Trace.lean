import Mathlib.Data.List.Count
import NotifyHub.Lib.Transition

/-! # Runs that write down their events

A step may cause one event; `recorded` appends it to a trace beside the state.
Statements about order are statements about every event and what the trace holds
before it.
-/

namespace Trace

variable {σ α ε : Type}

/-- The system with the trace of its events. -/
def recorded (step : σ → α → Option σ) (event : σ → α → Option ε) (s : σ × List ε) (a : α) :
    Option (σ × List ε) :=
  (step s.1 a).map fun next => (next, s.2 ++ (event s.1 a).toList)

variable {step : σ → α → Option σ} {event : σ → α → Option ε} {P : List ε → ε → Prop}
  {trace : List ε}

theorem recorded_some {s last : σ × List ε} {a : α}
    (taken : recorded step event s a = some last) :
    ∃ next, step s.1 a = some next ∧ last = (next, s.2 ++ (event s.1 a).toList) := by
  obtain ⟨next, stepped, rfl⟩ := Option.map_eq_some_iff.mp taken
  exact ⟨next, stepped, rfl⟩

theorem recorded_of_step {s next : σ} {a : α} (taken : step s a = some next) (trace : List ε) :
    recorded step event (s, trace) a = some (next, trace ++ (event s a).toList) := by
  simp only [recorded, taken, Option.map_some]

/-- A run only adds to the trace. -/
theorem prefix_of_run {s last : σ × List ε} {labels : List α}
    (finished : Transition.run (recorded step event) s labels = some last) : s.2 <+: last.2 := by
  have keeps : ∀ (t : σ × List ε) a next, s.2 <+: t.2 → recorded step event t a = some next →
      s.2 <+: next.2 := by
    intro t a next before taken
    obtain ⟨_, _, rfl⟩ := recorded_some taken
    exact before.trans (List.prefix_append _ _)
  have start : s.2 <+: s.2 := List.prefix_refl _
  exact @Transition.run_invariant _ _ _ (fun t => s.2 <+: t.2) keeps _ _ _ start finished

/-- Every event of the trace meets `P` with the events before it. -/
def Always (P : List ε → ε → Prop) (trace : List ε) : Prop :=
  ∀ before e after, trace = before ++ e :: after → P before e

theorem Always.nil : Always P [] := by
  intro before e after split
  simp at split

theorem Always.append (all : Always P trace) {e : Option ε} (new : ∀ last ∈ e, P trace last) :
    Always P (trace ++ e.toList) := by
  cases e with
  | none => simpa using all
  | some last =>
      intro before e after split
      -- the event is the last one, or it stands in the old trace
      rcases List.eq_nil_or_concat after with rfl | ⟨rest, final, rfl⟩
      · obtain ⟨rfl, rfl⟩ := List.append_inj' split rfl |>.imp id List.singleton_inj.mp
        exact new last rfl
      · have longer : trace ++ [last] = (before ++ e :: rest) ++ [final] := by simpa using split
        exact all before e rest (List.append_inj' longer rfl).1

/-- How often the step's event is this one. -/
def occurs [DecidableEq ε] (e : Option ε) (x : ε) : Nat := if e = some x then 1 else 0

theorem count_append_event [DecidableEq ε] (e : Option ε) (x : ε) :
    (trace ++ e.toList).count x = trace.count x + occurs e x := by
  cases e with
  | none => simp [occurs]
  | some last => simp [occurs, List.count_singleton]

/-- Of two conditions of which one implies the other, equally many events meet both exactly if
    they agree on the trace. -/
theorem countP_eq_countP_iff {p q : ε → Bool} {l : List ε}
    (implies : ∀ x ∈ l, p x = true → q x = true) :
    l.countP q = l.countP p ↔ ∀ x ∈ l, q x = true → p x = true := by
  induction l with
  | nil => simp
  | cons head rest ih =>
      have here := implies head List.mem_cons_self
      have later : ∀ x ∈ rest, p x = true → q x = true :=
        fun x member => implies x (List.mem_cons_of_mem _ member)
      have fewer : rest.countP p ≤ rest.countP q := List.countP_mono_left later
      have onward := ih later
      rw [List.forall_mem_cons, List.countP_cons, List.countP_cons]
      cases counted : q head with
      | false =>
          have not_ : p head = false := by
            cases same : p head with
            | false => rfl
            | true => simp [here same] at counted
          simpa [not_] using onward
      | true =>
          cases same : p head with
          | true => simpa using onward
          | false =>
              simp only [Bool.false_eq_true, if_true, if_false, imp_false, not_true_eq_false,
                false_and, iff_false]
              omega

end Trace
