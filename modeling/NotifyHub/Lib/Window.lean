import Mathlib.Algebra.Order.Ring.Int
import Mathlib.Data.List.Basic
import Mathlib.Order.Basic
import Mathlib.Tactic.SplitIfs

/-! # Windows of time

Sliding windows. Events on a line of time, newest first. `Spaced` looks back from each event: fewer
than `cap` earlier ones lie within a window before it. That is what a limiter can
check at the event; it bounds every window, wherever it ends.

Windows of a cycle, such as the hours of a day. Whether a window has an instant in it depends on
the orders of the instant and the two ends only.
-/

namespace Window

/-- The events strictly less than a window before `now`. -/
def recent (window now : Int) (times : List Int) : List Int := times.filter (now - window < ·)

/-- What is recent later on was recent before. -/
theorem recent_recent {window now later : Int} (le : now ≤ later) (times : List Int) :
    recent window later (recent window now times) = recent window later times := by
  unfold recent
  rw [List.filter_filter]
  refine List.filter_congr fun u _ => ?_
  rw [Bool.and_eq_left_iff_imp]
  intro near
  simp only [decide_eq_true_eq] at near ⊢
  omega

def Spaced (window cap : Int) : List Int → Prop
  | [] => True
  | now :: earlier => ((recent window now earlier).length : Int) < cap ∧ Spaced window cap earlier

/-- The events in `(t - window, t]`. -/
def inside (window t : Int) (times : List Int) : List Int :=
  times.filter fun u => t - window < u ∧ u ≤ t

theorem Spaced.length_inside_le {window cap t : Int} {times : List Int} (nonneg : 0 ≤ cap)
    (spaced : Spaced window cap times) :
    ((inside window t times).length : Int) ≤ cap := by
  induction times with
  | nil => simpa [inside] using nonneg
  | cons now earlier ih =>
      by_cases within : t - window < now ∧ now ≤ t
      · -- the newest event of the window sees all the others
        have fewer : (inside window t earlier).length ≤ (recent window now earlier).length := by
          apply List.Sublist.length_le
          apply List.monotone_filter_right
          intro u member
          simp only [decide_eq_true_eq] at member ⊢
          omega
        have count : (inside window t (now :: earlier)).length =
            (inside window t earlier).length + 1 := by
          simp [inside, within]
        have room := spaced.1
        omega
      · have same : inside window t (now :: earlier) = inside window t earlier := by
          simp only [inside]
          exact List.filter_cons_of_neg (by simpa using within)
        rw [same]
        exact ih spaced.2

section Cycle

variable {α : Type} [LinearOrder α]

/-- The window from `start` up to `stop` of a cycle. It is empty if they are equal, and goes over
    the end of the cycle if `stop` is the smaller one. -/
def InCycle (start stop t : α) : Prop :=
  if start ≤ stop then start ≤ t ∧ t < stop else start ≤ t ∨ t < stop

instance (start stop t : α) : Decidable (InCycle start stop t) :=
  inferInstanceAs (Decidable (if start ≤ stop then start ≤ t ∧ t < stop else start ≤ t ∨ t < stop))

/-- The one pair and the other are not in the same order. -/
def Turned (x y x' y' : α) : Prop := ¬(x ≤ y ↔ x' ≤ y')

theorem inCycle_iff_orders (start stop t : α) :
    InCycle start stop t ↔ ((start ≤ t ↔ stop ≤ t) ↔ ¬start ≤ stop) := by
  unfold InCycle
  rcases lt_or_ge t stop with ahead | behind
  · rcases le_or_gt start t with begun | later
    · simp [ahead, begun, begun.trans ahead.le]
    · simp [ahead, later.not_ge]
  · rcases le_or_gt start t with begun | later
    · simp [begun, behind, behind.not_gt]
    · simp [behind, later.not_ge, behind.not_gt, (behind.trans_lt later).not_ge]

/-- Whether `t` is in a window stays the same when the ends are moved, exactly if they change
    their order when one of them, and not the other, passes `t`. -/
theorem inCycle_moved_iff (start stop start' stop' t : α) :
    (InCycle start' stop' t ↔ InCycle start stop t) ↔
      (Turned start stop start' stop' ↔ ¬(Turned start t start' t ↔ Turned stop t stop' t)) := by
  -- what is left is true of any six propositions
  simp only [inCycle_iff_orders, Turned]
  grind

end Cycle

end Window
