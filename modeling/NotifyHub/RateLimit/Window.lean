import NotifyHub.Lib.Window
import NotifyHub.RateLimit.Service

/-! # The cap of one key

How many calls on a key return true within a window. The count that decides is the
size of a set of rounded readings. It misses a call when another one rounds to the
same number, and when the reading is still in the window but its rounding is not
above the rounding of the window's start. `Resolved` says that neither happens.
-/

namespace NotifyHub.RateLimit

open Rounding

/-- Two calls within a window of each other that the float64 scores tell apart, the
    earlier one being told apart from the start of the later one's window as well. -/
def Resolved (window : Int) (earlier later : Int) : Prop :=
  later - window < earlier →
    float64 earlier ≠ float64 later ∧ float64 (later - window) < float64 earlier

instance (window : Int) (earlier later : Int) : Decidable (Resolved window earlier later) :=
  inferInstanceAs (Decidable (_ → _ ∧ _))

/-- A call on the key, by its link and the reading of its clock. -/
def onKey (key : String) (window cap : Int) (call : Link × Int) : Request :=
  { link := call.1, key := key, window := window, cap := cap, now := call.2 }

/-- The reading of a call that returned true. -/
def allowedAt (answer : (Link × Int) × Except Err Bool) : Option Int :=
  match answer.2 with
  | .ok true => some answer.1.2
  | _ => none

/-- The readings of the calls on the key that returned true. -/
def allowed (key : String) (window cap : Int) (calls : List (Link × Int)) : List Int :=
  (serve (onKey key window cap) empty calls).filterMap allowedAt

/-- A key outlives its window. -/
theorem window_lt_expire {window : Int} (positive : 0 < window) :
    window < expire (window + second) := by
  unfold expire
  have long : ¬ (0 < window + second ∧ window + second < second) := by
    rintro ⟨_, short⟩
    omega
  rw [if_neg long, Int.tdiv_eq_ediv_of_nonneg (by unfold second; omega)]
  unfold second
  omega

section OneKey

variable {key : String} {window cap : Int} {calls : List (Link × Int)} {now : Int}

/-- The state of the key after the calls. -/
def stateAfter (key : String) (window cap : Int) (calls : List (Link × Int)) : Redis :=
  after (onKey key window cap) empty calls

theorem stateAfter_append (call : Link × Int) :
    stateAfter key window cap (calls ++ [call]) =
      (allowKey (stateAfter key window cap calls) (onKey key window cap call)).2 := by
  simp only [stateAfter, after_append, after]

/-- What the next call finds, unless the key has expired. -/
theorem members_record {rdb : Redis} {last : Int} (alive : now < last + expire (window + second)) :
    members (record rdb key window last) key now =
      (kept rdb key window last).insert (float64 last) := by
  simp only [members, record, Function.update_self, if_neg (Int.not_le.mpr alive)]

theorem mem_kept {rdb : Redis} {u : Int} (member : float64 u ∈ members rdb key now)
    (above : float64 (now - window) < float64 u) : float64 u ∈ kept rdb key window now :=
  List.mem_filter.mpr ⟨member, by simpa using above⟩

/-- A call that Redis executed and that is in the window is still in the set. -/
theorem mem_members (positive : 0 < window) (sorted : (calls.map (·.2)).Pairwise (· ≤ ·))
    (resolved : (calls.map (·.2)).Pairwise (Resolved window)) {link : Link} {u : Int}
    (member : (link, u) ∈ calls) (executed : ∀ text, link ≠ .down text)
    (latest : ∀ call ∈ calls, call.2 ≤ now) (recent : now - window < u) :
    float64 u ∈ members (stateAfter key window cap calls) key now := by
  have outlives := window_lt_expire positive
  induction calls using List.reverseRecOn generalizing now with
  | nil => simp at member
  | append_singleton before last ih =>
      simp only [List.map_append, List.map_cons, List.map_nil, List.pairwise_append,
        List.mem_map, List.mem_singleton, forall_eq] at sorted resolved
      obtain ⟨sortedBefore, _, ordered⟩ := sorted
      obtain ⟨resolvedBefore, _, apart⟩ := resolved
      have lastLe : last.2 ≤ now := latest last (by simp)
      have earlierLe : ∀ call ∈ before, call.2 ≤ last.2 := fun call inside =>
        ordered call.2 ⟨call, inside, rfl⟩
      -- what was in the set before the last call is still there
      have earlier : (link, u) ∈ before → ∀ at_, (∀ call ∈ before, call.2 ≤ at_) →
          at_ - window < u → float64 u ∈ members (stateAfter key window cap before) key at_ :=
        fun inside at_ le near => ih sortedBefore resolvedBefore inside le near
      rw [stateAfter_append]
      have recorded : (∀ text, last.1 ≠ .down text) →
          float64 u ∈ members (record (stateAfter key window cap before) key window last.2) key now := by
        intro _
        have near : u ≤ last.2 := by
          cases List.mem_append.mp member with
          | inl inside => exact earlierLe (link, u) inside
          | inr same =>
              obtain rfl := List.mem_singleton.mp same
              exact le_refl u
        rw [members_record (by omega)]
        cases List.mem_append.mp member with
        | inl inside =>
            have told := apart u ⟨(link, u), inside, rfl⟩ (by omega)
            exact List.mem_insert_of_mem (mem_kept (earlier inside last.2 earlierLe (by omega)) told.2)
        | inr same =>
            obtain rfl := List.mem_singleton.mp same
            exact List.mem_insert_self
      cases arrived : last.1 with
      | up => simpa only [allowKey, onKey, arrived] using recorded (by simp [arrived])
      | lost text => simpa only [allowKey, onKey, arrived] using recorded (by simp [arrived])
      | down text =>
          cases List.mem_append.mp member with
          | inl inside =>
              simpa only [allowKey, onKey, arrived] using
                earlier inside now (fun call c => latest call (List.mem_append_left _ c)) recent
          | inr same =>
              obtain rfl := List.mem_singleton.mp same
              exact absurd arrived (executed text)

theorem allowed_append (call : Link × Int) :
    allowed key window cap (calls ++ [call]) =
      allowed key window cap calls ++
        (allowedAt (call,
          (allowKey (stateAfter key window cap calls) (onKey key window cap call)).1)).toList := by
  simp only [allowed, serve_append, List.filterMap_append, serve, stateAfter, List.filterMap_cons,
    List.filterMap_nil]
  congr 1

/-- Only a call that reached Redis and found room returns true. -/
theorem allowedAt_some {rdb : Redis} {call : Link × Int} {u : Int}
    (answer : allowedAt (call,
      (allowKey rdb (onKey key window cap call)).1) = some u) :
    u = call.2 ∧ call.1 = .up ∧ ((kept rdb key window call.2).length : Int) < cap := by
  cases arrived : call.1 with
  | up =>
      simp only [allowKey, onKey, arrived, allowedAt] at answer
      split at answer
      · rename_i room
        refine ⟨(Option.some.inj answer).symm, rfl, ?_⟩
        simpa using room
      · simp at answer
  | lost | down => simp [allowKey, onKey, arrived, allowedAt] at answer

theorem allowed_sublist : (allowed key window cap calls).Sublist (calls.map (·.2)) := by
  induction calls using List.reverseRecOn with
  | nil => exact List.Sublist.refl _
  | append_singleton before last ih =>
      rw [allowed_append, List.map_append]
      apply ih.append
      cases answer : allowedAt (last,
          (allowKey (stateAfter key window cap before) (onKey key window cap last)).1) with
      | none => simp
      | some u =>
          obtain ⟨rfl, _⟩ := allowedAt_some answer
          exact List.Sublist.refl _

theorem link_of_allowed {u : Int} (member : u ∈ allowed key window cap calls) :
    (.up, u) ∈ calls := by
  induction calls using List.reverseRecOn with
  | nil => simp [allowed, serve] at member
  | append_singleton before last ih =>
      rw [allowed_append] at member
      cases List.mem_append.mp member with
      | inl earlier => exact List.mem_append_left _ (ih earlier)
      | inr new =>
          obtain ⟨rfl, up, _⟩ := allowedAt_some (Option.mem_toList.mp new)
          exact List.mem_append_right _ (by simp [← up])

/-- The set counts at least the calls that returned true and are in the window. -/
theorem length_recent_le (positive : 0 < window) (sorted : (calls.map (·.2)).Pairwise (· ≤ ·))
    (resolved : (calls.map (·.2)).Pairwise (Resolved window))
    (latest : ∀ call ∈ calls, call.2 ≤ now) (apart : ∀ call ∈ calls, Resolved window call.2 now) :
    (Window.recent window now (allowed key window cap calls)).length ≤
      (kept (stateAfter key window cap calls) key window now).length := by
  have near : ∀ u ∈ Window.recent window now (allowed key window cap calls),
      (.up, u) ∈ calls ∧ now - window < u := by
    intro u member
    obtain ⟨inside, recent⟩ := List.mem_filter.mp member
    exact ⟨link_of_allowed inside, by simpa using recent⟩
  have distinct :
      ((Window.recent window now (allowed key window cap calls)).map float64).Nodup := by
    have pairs : (Window.recent window now (allowed key window cap calls)).Pairwise
        (Resolved window) := (resolved.sublist allowed_sublist).filter _
    unfold List.Nodup
    rw [List.pairwise_map]
    apply pairs.imp_of_mem
    intro u v inU inV told
    have late := latest _ (near v inV).1
    have early := (near u inU).2
    exact (told (by simp only at late; omega)).1
  have counted : (Window.recent window now (allowed key window cap calls)).map float64 ⊆
      kept (stateAfter key window cap calls) key window now := by
    intro score member
    obtain ⟨u, inU, rfl⟩ := List.mem_map.mp member
    obtain ⟨inside, recent⟩ := near u inU
    exact mem_kept (mem_members positive sorted resolved inside (by simp) latest recent)
      (apart _ inside recent).2
  have fewer := (List.subperm_of_subset distinct counted).length_le
  rwa [List.length_map] at fewer

theorem allowed_spaced (positive : 0 < window) (sorted : (calls.map (·.2)).Pairwise (· ≤ ·))
    (resolved : (calls.map (·.2)).Pairwise (Resolved window)) :
    Window.Spaced window cap (allowed key window cap calls).reverse := by
  induction calls using List.reverseRecOn with
  | nil => exact trivial
  | append_singleton before last ih =>
      simp only [List.map_append, List.map_cons, List.map_nil, List.pairwise_append,
        List.mem_map, List.mem_singleton, forall_eq] at sorted resolved
      have earlier := ih sorted.1 resolved.1
      rw [allowed_append]
      cases answer : allowedAt (last,
          (allowKey (stateAfter key window cap before) (onKey key window cap last)).1) with
      | none => simpa using earlier
      | some u =>
          obtain ⟨rfl, _, room⟩ := allowedAt_some answer
          simp only [Option.toList_some, List.reverse_append, List.reverse_singleton,
            List.singleton_append]
          refine ⟨?_, earlier⟩
          have counted : (Window.recent window last.2 (allowed key window cap before)).length ≤
              (kept (stateAfter key window cap before) key window last.2).length :=
            length_recent_le positive sorted.1 resolved.1
              (fun call inside => sorted.2.2 call.2 ⟨call, inside, rfl⟩)
              (fun call inside => resolved.2.2 call.2 ⟨call, inside, rfl⟩)
          unfold Window.recent at counted ⊢
          rw [List.filter_reverse, List.length_reverse]
          omega

end OneKey

/-- Three calls, a microsecond apart. -/
def spread : List (Link × Int) :=
  [(.up, 1700000000000000000), (.up, 1700000000000001000), (.up, 1700000000000002000)]

end NotifyHub.RateLimit
