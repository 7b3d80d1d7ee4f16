import Mathlib.Algebra.Ring.Nat
import Mathlib.Data.List.Basic

/-! # A pool of threads and what they hold

Threads are identified by their position: a step replaces the thread at one
position, a new thread goes to the end. `Exclusive` says that no two positions
hold the same thing; it survives a step that only lets go, or that takes
something nobody holds.
-/

namespace Threads

variable {τ κ : Type} {ts : List τ} {i j : Nat} {t t' u : τ}

theorem set_self (running : ts[i]? = some t) : (ts.set i t')[i]? = some t' :=
  List.getElem?_set_self (List.getElem?_eq_some_iff.mp running).1

theorem set_other (ne : j ≠ i) (found : ts[j]? = some u) : (ts.set i t')[j]? = some u := by
  rw [List.getElem?_set_ne ne.symm]
  exact found

/-- Who stands at a position after a step. -/
theorem at_set (running : ts[i]? = some t) (found : (ts.set i t')[j]? = some u) :
    j = i ∧ u = t' ∨ j ≠ i ∧ ts[j]? = some u := by
  by_cases same : j = i
  · subst same
    rw [set_self running] at found
    exact .inl ⟨rfl, (Option.some.inj found).symm⟩
  · rw [List.getElem?_set_ne (Ne.symm same)] at found
    exact .inr ⟨same, found⟩

theorem append_new : (ts ++ [t'])[ts.length]? = some t' := by
  simp

theorem at_append (found : (ts ++ [t'])[j]? = some u) :
    j = ts.length ∧ u = t' ∨ ts[j]? = some u := by
  rcases Nat.lt_or_ge j ts.length with old | new
  · rw [List.getElem?_append_left old] at found
    exact .inr found
  · rw [List.getElem?_append_right new] at found
    have first : j - ts.length = 0 := by
      have bound := (List.getElem?_eq_some_iff.mp found).1
      simp only [List.length_singleton] at bound
      omega
    rw [first] at found
    exact .inl ⟨by omega, (Option.some.inj found).symm⟩

theorem mem_set (member : u ∈ ts.set i t') : u = t' ∨ u ∈ ts :=
  (List.mem_or_eq_of_mem_set member).symm

/-- A sum over the threads, after a step of one of them. -/
theorem sum_set (t' : τ) (f : τ → Nat) (running : ts[i]? = some t) :
    ((ts.set i t').map f).sum + f t = (ts.map f).sum + f t' := by
  induction ts generalizing i with
  | nil => simp at running
  | cons head rest ih =>
      cases i with
      | zero =>
          obtain rfl := Option.some.inj running
          simp only [List.set_cons_zero, List.map_cons, List.sum_cons]
          omega
      | succ i =>
          have onward := ih running
          simp only [List.set_cons_succ, List.map_cons, List.sum_cons]
          omega

/-- Another thread is still there after the step. -/
theorem mem_set_of_ne (running : ts[i]? = some t) (member : u ∈ ts) (other : u ≠ t) :
    u ∈ ts.set i t' := by
  obtain ⟨j, found⟩ := List.mem_iff_getElem?.mp member
  have ne : j ≠ i := by
    rintro rfl
    exact other (Option.some.inj (found.symm.trans running))
  exact List.mem_of_getElem? (set_other ne found)

theorem mem_set_self (running : ts[i]? = some t) : t' ∈ ts.set i t' :=
  List.mem_of_getElem? (set_self running)

/-- What the threads hold together, after a step of one of them. -/
theorem mem_flatMap_set {f : τ → List κ} {k : κ} (member : k ∈ (ts.set i t').flatMap f) :
    k ∈ f t' ∨ k ∈ ts.flatMap f := by
  obtain ⟨u, there, held⟩ := List.mem_flatMap.mp member
  rcases mem_set there with rfl | old
  · exact .inl held
  · exact .inr (List.mem_flatMap.mpr ⟨u, old, held⟩)

theorem mem_flatMap_set_of {f : τ → List κ} {k : κ} (running : ts[i]? = some t)
    (member : k ∈ ts.flatMap f) : k ∈ f t ∨ k ∈ (ts.set i t').flatMap f := by
  obtain ⟨u, there, held⟩ := List.mem_flatMap.mp member
  obtain ⟨j, found⟩ := List.mem_iff_getElem?.mp there
  by_cases same : j = i
  · subst same
    obtain rfl := Option.some.inj (running.symm.trans found)
    exact .inl held
  · exact .inr (List.mem_flatMap.mpr ⟨u, List.mem_of_getElem? (set_other same found), held⟩)

/-- What a thread gains from its step it holds after it. -/
theorem mem_flatMap_set_self {f : τ → List κ} {k : κ} (running : ts[i]? = some t)
    (held : k ∈ f t') : k ∈ (ts.set i t').flatMap f :=
  List.mem_flatMap.mpr ⟨t', mem_set_self running, held⟩

/-- A step exchanges what the thread holds for what it holds then. -/
theorem mem_flatMap_exchange (f : τ → List κ) (t' : τ) (running : ts[i]? = some t) (k : κ) :
    k ∈ (ts.set i t').flatMap f ∨ k ∈ f t ↔ k ∈ ts.flatMap f ∨ k ∈ f t' := by
  constructor
  · intro after
    cases after with
    | inl member => exact (mem_flatMap_set member).symm
    | inr held => exact .inl (List.mem_flatMap.mpr ⟨t, List.mem_of_getElem? running, held⟩)
  · intro before
    cases before with
    | inl member => exact (mem_flatMap_set_of running member).symm
    | inr held => exact .inl (mem_flatMap_set_self running held)

/-- A step that changes nothing of what is read off the threads. -/
theorem filterMap_set {g : τ → Option κ} (running : ts[i]? = some t) (same : g t' = g t) :
    (ts.set i t').filterMap g = ts.filterMap g := by
  induction ts generalizing i with
  | nil => simp at running
  | cons head rest ih =>
      cases i with
      | zero =>
          obtain rfl : head = t := by simpa using running
          simp only [List.set_cons_zero, List.filterMap_cons, same]
      | succ i =>
          have later : rest[i]? = some t := by simpa using running
          simp only [List.set_cons_succ, List.filterMap_cons, ih later]

theorem map_set {g : τ → κ} (running : ts[i]? = some t) (same : g t' = g t) :
    (ts.set i t').map g = ts.map g := by
  have kept : (ts.set i t').filterMap (some ∘ g) = ts.filterMap (some ∘ g) :=
    filterMap_set running (congrArg some same)
  rwa [List.filterMap_eq_map] at kept

/-- How often the threads hold something, after a step of one of them. -/
theorem count_flatMap_set [DecidableEq κ] {f : τ → List κ} (t' : τ) (running : ts[i]? = some t)
    (k : κ) :
    ((ts.set i t').flatMap f).count k + (f t).count k =
      (ts.flatMap f).count k + (f t').count k := by
  simp only [List.count_flatMap]
  exact sum_set t' _ running

/-- A step with which something can be read off the thread, and could not before. -/
theorem filterMap_set_perm {g : τ → Option κ} {k : κ} (running : ts[i]? = some t)
    (before : g t = none) (now : g t' = some k) :
    ((ts.set i t').filterMap g).Perm (ts.filterMap g ++ [k]) := by
  induction ts generalizing i with
  | nil => simp at running
  | cons head rest ih =>
      cases i with
      | zero =>
          obtain rfl : head = t := by simpa using running
          simp only [List.set_cons_zero, List.filterMap_cons, now, before]
          exact (List.perm_append_singleton k _).symm
      | succ i =>
          have later : rest[i]? = some t := by simpa using running
          simp only [List.set_cons_succ, List.filterMap_cons]
          cases g head with
          | none => exact ih later
          | some first => exact (ih later).cons first

/-- No two positions hold the same thing. -/
def Exclusive (holds : τ → κ → Prop) (ts : List τ) : Prop :=
  ∀ (i j : Nat) t u k, ts[i]? = some t → ts[j]? = some u → holds t k → holds u k → i = j

namespace Exclusive

variable {holds : τ → κ → Prop}

theorem empty : Exclusive holds [] := by
  intro i j t u k found
  simp at found

theorem set (alone : Exclusive holds ts) (running : ts[i]? = some t)
    (gain : ∀ k, holds t' k → holds t k ∨ ∀ u ∈ ts, ¬ holds u k) :
    Exclusive holds (ts.set i t') := by
  have mine : ∀ j u k, ts[j]? = some u → holds t' k → holds u k → i = j := by
    intro j u k found held other
    rcases gain k held with before | free
    · exact alone i j t u k running found before other
    · exact absurd other (free u (List.mem_of_getElem? found))
  intro p q a b k foundP foundQ heldP heldQ
  rcases at_set running foundP with ⟨rfl, rfl⟩ | ⟨_, oldP⟩
  · rcases at_set running foundQ with ⟨rfl, rfl⟩ | ⟨_, oldQ⟩
    · rfl
    · exact mine q b k oldQ heldP heldQ
  · rcases at_set running foundQ with ⟨rfl, rfl⟩ | ⟨_, oldQ⟩
    · exact (mine p a k oldP heldQ heldP).symm
    · exact alone p q a b k oldP oldQ heldP heldQ

theorem append (alone : Exclusive holds ts)
    (free : ∀ k, holds t' k → ∀ u ∈ ts, ¬ holds u k) : Exclusive holds (ts ++ [t']) := by
  intro p q a b k foundP foundQ heldP heldQ
  rcases at_append foundP with ⟨rfl, rfl⟩ | oldP
  · rcases at_append foundQ with ⟨rfl, rfl⟩ | oldQ
    · rfl
    · exact absurd heldQ (free k heldP b (List.mem_of_getElem? oldQ))
  · rcases at_append foundQ with ⟨rfl, rfl⟩ | oldQ
    · exact absurd heldP (free k heldQ a (List.mem_of_getElem? oldP))
    · exact alone p q a b k oldP oldQ heldP heldQ

end Exclusive

end Threads
