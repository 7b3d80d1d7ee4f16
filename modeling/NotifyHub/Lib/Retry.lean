import Mathlib.Data.Nat.Basic

/-! # Trying again

A loop that tries, waits after an error that may pass, and tries again, with a bounded
number of further tries and waits that may be cut short. `Ends` says by which of its
four exits it leaves, and after which try, in terms of the answers alone. There is only
one such way, so whatever is proved of the one that was taken is a statement about the
answers.
-/

namespace Retry

/-- `tries i` is the error of the `i`-th try, if there is one, by whether it is permanent;
    `waits i` says that the wait after it comes to its end. The first try is free. -/
structure Loop where
  tries : Nat → Option Bool
  waits : Nat → Bool
  budget : Nat

inductive Verdict where
  | accepted
  | permanent
  | exhausted
  | interrupted
  deriving Repr, DecidableEq

namespace Loop

variable {l : Loop} {v v' : Verdict} {j j' : Nat}

/-- The loop gets to its `j`-th try. -/
def Going (l : Loop) (j : Nat) : Prop :=
  j ≤ l.budget ∧ ∀ i < j, l.tries i = some false ∧ l.waits i = true

def Ends (l : Loop) (j : Nat) : Verdict → Prop
  | .accepted => l.Going j ∧ l.tries j = none
  | .permanent => l.Going j ∧ l.tries j = some true
  | .exhausted => l.Going j ∧ l.tries j = some false ∧ j = l.budget
  | .interrupted => l.Going j ∧ l.tries j = some false ∧ j < l.budget ∧ l.waits j = false

theorem going_zero (l : Loop) : l.Going 0 := ⟨Nat.zero_le _, by simp⟩

theorem Going.succ (going : l.Going j) (failed : l.tries j = some false) (left : j < l.budget)
    (waited : l.waits j = true) : l.Going (j + 1) := by
  refine ⟨left, ?_⟩
  intro i before
  rcases Nat.lt_succ_iff_lt_or_eq.mp before with earlier | rfl
  · exact going.2 i earlier
  · exact ⟨failed, waited⟩

theorem Ends.going (ends : l.Ends j v) : l.Going j := by
  cases v with
  | accepted | permanent | exhausted | interrupted => exact ends.1

/-- Nothing is tried after the end. -/
theorem Ends.last (ends : l.Ends j v) (going : l.Going j') : j' ≤ j := by
  by_contra after
  have passed := going.2 j (Nat.lt_of_not_le after)
  cases v with
  | accepted | permanent => simp [ends.2] at passed
  | exhausted =>
      have bound := going.1
      have here := ends.2.2
      omega
  | interrupted => simp [ends.2.2.2] at passed

/-- The answers determine the end. -/
theorem Ends.unique (first : l.Ends j v) (second : l.Ends j' v') : j = j' ∧ v = v' := by
  obtain rfl : j = j' := Nat.le_antisymm (second.last first.going) (first.last second.going)
  refine ⟨rfl, ?_⟩
  cases v <;> cases v' <;> grind [Ends]

end Loop

end Retry
