import Mathlib.Logic.Basic

/-! # Isolation of an observer

An observer sees `view` of a state; `rest` is everything that is not theirs. An
operation of the observer, run from two states, is isolated if it answers the
same, leaves the same view and touches the rest of neither state.
-/

namespace Observer

variable {σ ν ρ α β : Type}

structure Isolated (view : σ → ν) (rest : σ → ρ) (op : σ → α × σ) (s₁ s₂ : σ) : Prop where
  outcome : (op s₁).1 = (op s₂).1
  view : view (op s₁).2 = view (op s₂).2
  left : rest (op s₁).2 = rest s₁
  right : rest (op s₂).2 = rest s₂

instance [DecidableEq ν] [DecidableEq ρ] [DecidableEq α] (view : σ → ν) (rest : σ → ρ)
    (op : σ → α × σ) (s₁ s₂ : σ) : Decidable (Isolated view rest op s₁ s₂) :=
  decidable_of_iff
    ((op s₁).1 = (op s₂).1 ∧ view (op s₁).2 = view (op s₂).2 ∧ rest (op s₁).2 = rest s₁ ∧
      rest (op s₂).2 = rest s₂)
    ⟨fun h => ⟨h.1, h.2.1, h.2.2.1, h.2.2.2⟩, fun h => ⟨h.outcome, h.view, h.left, h.right⟩⟩

namespace Isolated

variable {view : σ → ν} {rest : σ → ρ} {op : σ → α × σ} {s₁ s₂ : σ}

/-- An operation isolated on both states, followed by one isolated on what it leaves. -/
theorem bind {next : α → σ → β × σ} (first : Isolated view rest op s₁ s₂)
    (second : ∀ a, Isolated view rest (next a) (op s₁).2 (op s₂).2) :
    Isolated view rest (fun s => next (op s).1 (op s).2) s₁ s₂ := by
  have after := second (op s₁).1
  refine ⟨?_, ?_, after.left.trans first.left, ?_⟩
  · rw [← first.outcome]
    exact after.outcome
  · rw [← first.outcome]
    exact after.view
  · rw [← first.outcome]
    exact after.right.trans first.right

/-- Repackaging an answer. -/
theorem map (g : α → β) (first : Isolated view rest op s₁ s₂) :
    Isolated view rest (fun s => (g (op s).1, (op s).2)) s₁ s₂ :=
  ⟨congrArg g first.outcome, first.view, first.left, first.right⟩

end Isolated

end Observer
