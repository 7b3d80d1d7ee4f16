import NotifyHub.RateLimit.Window

/-! # The set as a log

The sorted set forgets: each call removes what left its window, and a key that is not used
expires. Where the scores and the bounds of the evictions are exact, what a call finds in it is
still what the log of all calls has in the window, denied calls included. A bound that is rounded
up takes an entry away too early.
-/

namespace NotifyHub.RateLimit

open Rounding

/-- The numbers that a call hands to Redis, the score of its entry and the bound of
    ZREMRANGEBYSCORE, are exact. -/
def ExactScores (window now : Int) : Prop :=
  float64 now = now ∧ float64 (now - window) = now - window

instance (window now : Int) : Decidable (ExactScores window now) :=
  inferInstanceAs (Decidable (_ ∧ _))

/-- Calls that Redis executes and answers, by the readings of their clocks. -/
def answered (times : List Int) : List (Link × Int) := times.map fun now => (.up, now)

section Log

variable {key : String} {window cap now : Int} {before : List Int}

theorem stateAfter_answered (last : Int) :
    stateAfter key window cap (answered (before ++ [last])) =
      record (stateAfter key window cap (answered before)) key window last := by
  rw [answered, List.map_append, List.map_cons, List.map_nil, stateAfter_append]
  rfl

/-- What a call leaves for the next one, whether the key has expired or not. -/
theorem kept_record {rdb : Redis} {last : Int} (positive : 0 < window) (later : last < now)
    (exact_ : ExactScores window last) (bound : float64 (now - window) = now - window)
    (found : ∀ u ∈ kept rdb key window last, u < last) :
    kept (record rdb key window last) key window now =
      Window.recent window now (last :: kept rdb key window last) := by
  have outlives := window_lt_expire positive
  by_cases alive : now < last + expire (window + second)
  · have new : last ∉ kept rdb key window last := fun member => (found last member).ne rfl
    rw [kept, members_record alive, exact_.1, List.insert_of_not_mem new, bound]
    rfl
  · have expired : members (record rdb key window last) key now = [] := by
      simp only [members, record, Function.update_self, if_pos (Int.not_lt.mp alive)]
    have over_ : ∀ u ∈ last :: kept rdb key window last, ¬ now - window < u := by
      intro u member
      have upTo : u ≤ last := by
        rcases List.mem_cons.mp member with rfl | earlier
        · exact le_rfl
        · exact (found u earlier).le
      omega
    rw [kept, expired, List.filter_nil, Window.recent, eq_comm, List.filter_eq_nil_iff]
    intro u member
    simpa using over_ u member

/-- What ZCARD counts are the earlier calls in the window. -/
theorem kept_answered (positive : 0 < window) (increasing : (before ++ [now]).Pairwise (· < ·))
    (exact_ : ∀ u ∈ before ++ [now], ExactScores window u) :
    kept (stateAfter key window cap (answered before)) key window now =
      Window.recent window now before.reverse := by
  -- the set after the calls is the log filtered by the window of the last one
  induction before using List.reverseRecOn generalizing now with
  | nil => rfl
  | append_singleton before last ih =>
      obtain ⟨earlier, _, across⟩ := List.pairwise_append.mp increasing
      have later : last < now := across last (by simp) now (by simp)
      have found := ih earlier fun u member => exact_ u (List.mem_append_left _ member)
      have smaller : ∀ u ∈ kept (stateAfter key window cap (answered before)) key window last,
          u < last := by
        intro u member
        rw [found, Window.recent] at member
        have listed := List.mem_reverse.mp (List.mem_of_mem_filter member)
        exact (List.pairwise_append.mp earlier).2.2 u listed last (by simp)
      rw [stateAfter_answered, kept_record positive later (exact_ last (by simp))
        (exact_ now (by simp)).2 smaller, found]
      have again : Window.recent window now (Window.recent window last before.reverse) =
          Window.recent window now before.reverse := Window.recent_recent later.le _
      rw [List.reverse_append, List.reverse_singleton, List.singleton_append]
      unfold Window.recent at again ⊢
      rw [List.filter_cons, again, List.filter_cons]

end Log

/-- Two calls, a denied one, and one after the key has expired. -/
def gaps : List Int :=
  [1700000000000000000, 1700000001000000000, 1700000002000000000, 1700000063500000000]

/-- For windows of whole minutes, as the workers and the middleware pass them, the bounds are exact
    if the readings are. -/
theorem exactScores_of_minutes {minutes now : Int} (positive : 0 ≤ minutes)
    (since : minutes * minute ≤ now) (inRange : now < 2 ^ 63) (exact_ : float64 now = now) :
    ExactScores (minutes * minute) now := by
  have whole : (1024 : Int) ∣ minutes * minute := by
    unfold minute second
    omega
  refine ⟨exact_, float64_sub inRange exact_ ?_ whole since⟩
  unfold minute second
  omega

end NotifyHub.RateLimit
