import Mathlib.Data.List.Infix

/-! # Glob patterns

A pattern is a list of tokens: a symbol stands for itself, `any` for one symbol and
`many` for any number of them, none included.
-/

namespace Glob

inductive Token (α : Type) where
  | lit (a : α)
  | any
  | many
  deriving Repr, DecidableEq

variable {α : Type} [DecidableEq α]

def accepts : List (Token α) → List α → Bool
  | [], text => text.isEmpty
  | .lit _ :: _, [] => false
  | .lit a :: pattern, b :: text => a == b && accepts pattern text
  | .any :: _, [] => false
  | .any :: pattern, _ :: text => accepts pattern text
  | .many :: pattern, text => text.tails.any (accepts pattern)

theorem accepts_lits (word : List α) (pattern : List (Token α)) (text : List α) :
    accepts (word.map .lit ++ pattern) (word ++ text) = accepts pattern text := by
  induction word with
  | nil => rfl
  | cons a word ih =>
      simp only [List.map_cons, List.cons_append, accepts, beq_self_eq_true, Bool.true_and, ih]

/-- `many` takes any beginning of the text. -/
theorem accepts_many {pattern : List (Token α)} {text : List α} :
    accepts (.many :: pattern) text = true ↔
      ∃ front back, text = front ++ back ∧ accepts pattern back = true := by
  simp only [accepts, List.any_eq_true, List.mem_tails]
  constructor
  · rintro ⟨back, ⟨front, rfl⟩, rest⟩
    exact ⟨front, back, rfl, rest⟩
  · rintro ⟨front, back, rfl, rest⟩
    exact ⟨back, List.suffix_append front back, rest⟩

end Glob
