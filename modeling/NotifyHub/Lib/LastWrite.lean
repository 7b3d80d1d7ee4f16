import Mathlib.Data.List.Basic

/-! # The last write wins

A store is asked for one write after the other and refuses some. Each write is for one
key. If a write that is not refused sets what is seen under its key and nothing else,
then what is seen in the end is what the last write to the key has set.
-/

namespace LastWrite

variable {σ ι κ α : Type}

section Runs

variable (step : σ → ι → Option σ)

/-- The store after some writes; a refused one changes nothing. -/
def after (s : σ) (ops : List ι) : σ := ops.foldl (fun s op => (step s op).getD s) s

/-- The writes that were not refused. -/
def happened : σ → List ι → List ι
  | _, [] => []
  | s, op :: rest =>
      match step s op with
      | some next => op :: happened next rest
      | none => happened s rest

end Runs

def lastOn [DecidableEq κ] (key : ι → κ) (ops : List ι) (k : κ) : Option ι :=
  (ops.filter fun op => decide (key op = k)).getLast?

variable [DecidableEq κ] {step : σ → ι → Option σ} {key : ι → κ} {value : ι → α}
  {view : σ → κ → α}

theorem lastOn_cons (op : ι) (ops : List ι) (k : κ) :
    lastOn key (op :: ops) k =
      (lastOn key ops k).or (if key op = k then some op else none) := by
  unfold lastOn
  by_cases same : key op = k
  · rw [List.filter_cons_of_pos (by simpa using same), if_pos same, List.getLast?_cons]
    cases (ops.filter fun op => decide (key op = k)).getLast? with
    | none => rfl
    | some last => rfl
  · rw [List.filter_cons_of_neg (by simpa using same), if_neg same, Option.or_none]

theorem mem_happened {s : σ} {ops : List ι} {op : ι} (member : op ∈ happened step s ops) :
    ∃ before next, step before op = some next := by
  induction ops generalizing s with
  | nil => cases member
  | cons first rest ih =>
      cases taken : step s first with
      | none =>
          rw [happened, taken] at member
          exact ih member
      | some next =>
          rw [happened, taken] at member
          rcases List.mem_cons.mp member with rfl | later
          · exact ⟨s, next, taken⟩
          · exact ih later

theorem mem_of_lastOn {ops : List ι} {k : κ} {op : ι} (last : lastOn key ops k = some op) :
    op ∈ ops :=
  (List.mem_filter.mp (List.mem_of_getLast? last)).1

theorem view_after
    (writes : ∀ s op next, step s op = some next →
      ∀ k, view next k = if key op = k then value op else view s k)
    (s : σ) (ops : List ι) (k : κ) :
    view (after step s ops) k =
      ((lastOn key (happened step s ops) k).map value).getD (view s k) := by
  induction ops generalizing s with
  | nil => rfl
  | cons op rest ih =>
      cases taken : step s op with
      | none =>
          have same : after step s (op :: rest) = after step s rest := by
            simp only [after, List.foldl_cons, taken, Option.getD_none]
          rw [same, ih, happened, taken]
      | some next =>
          have same : after step s (op :: rest) = after step next rest := by
            simp only [after, List.foldl_cons, taken, Option.getD_some]
          have noted : happened step s (op :: rest) = op :: happened step next rest := by
            simp only [happened, taken]
          rw [same, ih, noted, lastOn_cons, writes s op next taken k]
          cases lastOn key (happened step next rest) k with
          | some last => rfl
          | none =>
              by_cases own : key op = k
              · simp only [if_pos own, Option.map_none, Option.getD_none, Option.none_or,
                  Option.map_some, Option.getD_some]
              · simp only [if_neg own, Option.map_none, Option.getD_none, Option.none_or]

end LastWrite
