import Mathlib.Data.List.Basic
import Mathlib.Data.List.Nodup

/-! # Maps held by reference

A map is an association list without repeated keys. A heap lists the maps made so
far, a reference is a position in it, and a nil map reads as the empty one. Only
`make` and writes through a reference change a heap, hence a map that was filled
from others after it was made leaves those others alone.
-/

namespace Maps

section Entries

variable {κ β : Type} [BEq κ]

/-- `m[k] = v`. -/
def set (m : List (κ × β)) (k : κ) (v : β) : List (κ × β) :=
  if m.any (·.1 == k) then m.map fun kv => if kv.1 == k then (k, v) else kv
  else m ++ [(k, v)]

/-- Every entry of `src` written into `dst`. -/
def copy (dst src : List (κ × β)) : List (κ × β) :=
  src.foldl (fun m kv => set m kv.1 kv.2) dst

variable [LawfulBEq κ]

theorem lookup_replace (m : List (κ × β)) (k : κ) (v : β) (j : κ) :
    (m.map fun kv => if kv.1 == k then (k, v) else kv).lookup j =
      if j == k then (m.lookup j).map fun _ => v else m.lookup j := by
  induction m with
  | nil => simp
  | cons kv m ih =>
      obtain ⟨i, u⟩ := kv
      rw [List.map_cons]
      by_cases here : i = k
      · subst here
        by_cases asked : j = i
        · subst asked
          simp
        · have other : (j == i) = false := by simpa using asked
          simpa only [beq_self_eq_true, if_true, List.lookup_cons, other, Bool.false_eq_true,
            if_false] using ih
      · have kept : (i == k) = false := by simpa using here
        simp only [kept, Bool.false_eq_true, if_false]
        by_cases asked : j = i
        · subst asked
          simp [kept]
        · have other : (j == i) = false := by simpa using asked
          simpa only [List.lookup_cons, other] using ih

theorem lookup_isSome {m : List (κ × β)} {k : κ} (there : m.any (·.1 == k) = true) :
    ∃ u, m.lookup k = some u := by
  induction m with
  | nil => simp at there
  | cons kv m ih =>
      obtain ⟨i, u⟩ := kv
      by_cases here : i = k
      · subst here
        exact ⟨u, by simp⟩
      · have other : (k == i) = false := by
          simpa using fun same : k = i => here same.symm
        have later : m.any (·.1 == k) = true := by simpa [here] using there
        simpa only [List.lookup_cons, other] using ih later

theorem lookup_eq_none {m : List (κ × β)} {k : κ} (absent : m.any (·.1 == k) = false) :
    m.lookup k = none := by
  rw [List.lookup_eq_none_iff]
  intro kv member
  have other := List.any_eq_false.mp absent kv member
  simpa using fun same : k = kv.1 => other (by simp [same])

theorem lookup_set (m : List (κ × β)) (k : κ) (v : β) (j : κ) :
    (set m k v).lookup j = if j == k then some v else m.lookup j := by
  unfold set
  cases there : m.any (·.1 == k) with
  | true =>
      rw [if_pos rfl, lookup_replace]
      by_cases asked : j = k
      · obtain ⟨u, found⟩ := lookup_isSome there
        simp [asked, found]
      · simp [asked]
  | false =>
      rw [if_neg Bool.false_ne_true, List.lookup_append]
      by_cases asked : j = k
      · subst asked
        simp [lookup_eq_none there]
      · have other : (j == k) = false := by simpa using asked
        simp [List.lookup_cons, other]

theorem set_unique {m : List (κ × β)} (unique : (m.map Prod.fst).Nodup) (k : κ) (v : β) :
    ((set m k v).map Prod.fst).Nodup := by
  unfold set
  cases there : m.any (·.1 == k) with
  | true =>
      have same : ((m.map fun kv => if kv.1 == k then (k, v) else kv).map Prod.fst) =
          m.map Prod.fst := by
        rw [List.map_map]
        apply List.map_congr_left
        intro kv _
        by_cases here : kv.1 = k
        · simp [here]
        · simp [here]
      rw [if_pos rfl, same]
      exact unique
  | false =>
      have absent : k ∉ m.map Prod.fst := by
        intro member
        obtain ⟨kv, stored, same⟩ := List.mem_map.mp member
        exact List.any_eq_false.mp there kv stored (by simp [same])
      rw [if_neg Bool.false_ne_true, List.map_append]
      simpa [List.nodup_append] using ⟨unique, fun a u stored same =>
        absent (List.mem_map.mpr ⟨(a, u), stored, same⟩)⟩

theorem copy_unique {dst : List (κ × β)} (unique : (dst.map Prod.fst).Nodup)
    (src : List (κ × β)) : ((copy dst src).map Prod.fst).Nodup := by
  unfold copy
  induction src generalizing dst with
  | nil => exact unique
  | cons kv src ih => exact ih (set_unique unique kv.1 kv.2)

/-- What was copied in wins. -/
theorem lookup_copy (dst : List (κ × β)) {src : List (κ × β)}
    (unique : (src.map Prod.fst).Nodup) (j : κ) :
    (copy dst src).lookup j = (src.lookup j).or (dst.lookup j) := by
  unfold copy
  induction src generalizing dst with
  | nil => simp
  | cons kv src ih =>
      obtain ⟨k, v⟩ := kv
      obtain ⟨absent, rest⟩ := List.nodup_cons.mp unique
      rw [List.foldl_cons, ih _ rest, lookup_set, List.lookup_cons]
      by_cases asked : j = k
      · subst asked
        have gone : src.lookup j = none := by
          rw [List.lookup_eq_none_iff]
          intro kv member
          simpa using fun same : j = kv.1 => absent (List.mem_map.mpr ⟨kv, member, same.symm⟩)
        simp [gone]
      · have other : (j == k) = false := by simpa using asked
        simp [other]

end Entries

/-! ## Maps and heaps -/

structure GoMap (κ β : Type) where
  entries : List (κ × β)
  unique : (entries.map Prod.fst).Nodup

/-- The maps made so far. -/
abbrev Heap (κ β : Type) := List (GoMap κ β)

section Heap

variable {κ β : Type}

def GoMap.empty : GoMap κ β := ⟨[], List.nodup_nil⟩

def Heap.read (heap : Heap κ β) : Option Nat → GoMap κ β
  | none => .empty
  | some ref => (heap[ref]?).getD .empty

/-- The reference is nil or that of a map. -/
def Heap.Allocated (heap : Heap κ β) (ref : Option Nat) : Prop := ∀ r ∈ ref, r < heap.length

theorem Heap.read_append {heap : Heap κ β} {ref : Option Nat} (allocated : heap.Allocated ref)
    (later : Heap κ β) : Heap.read (heap ++ later) ref = heap.read ref := by
  cases ref with
  | none => rfl
  | some r =>
      have inside : r < heap.length := allocated r rfl
      simp only [Heap.read, List.getElem?_append_left inside]

theorem Heap.Allocated.append {heap : Heap κ β} {ref : Option Nat}
    (allocated : heap.Allocated ref) (later : Heap κ β) : Heap.Allocated (heap ++ later) ref := by
  intro r same
  have inside : r < heap.length := allocated r same
  rw [List.length_append]
  omega

@[simp] theorem Heap.read_last (heap : Heap κ β) (m : GoMap κ β) :
    Heap.read (heap ++ [m]) (some heap.length) = m := by
  simp [Heap.read]

theorem Heap.modify_last (heap : Heap κ β) (m : GoMap κ β) (f : GoMap κ β → GoMap κ β) :
    List.modify (heap ++ [m]) heap.length f = heap ++ [f m] := by
  induction heap with
  | nil => rfl
  | cons first heap ih => simpa [List.modify_cons] using ih

variable [BEq κ] [LawfulBEq κ]

def GoMap.copy (dst src : GoMap κ β) : GoMap κ β :=
  ⟨Maps.copy dst.entries src.entries, copy_unique dst.unique src.entries⟩

/-- `m[k] = v` through a reference. -/
def Heap.assign (heap : Heap κ β) (ref : Nat) (k : κ) (v : β) : Heap κ β :=
  heap.modify ref fun m => ⟨set m.entries k v, set_unique m.unique k v⟩

/-- `maps.Copy(dst, src)`. -/
def Heap.copy (heap : Heap κ β) (dst : Nat) (src : Option Nat) : Heap κ β :=
  heap.modify dst fun m => m.copy (heap.read src)

/-- `make`: the reference of the new map is the old length. -/
def Heap.make (heap : Heap κ β) : Heap κ β := heap ++ [.empty]

theorem Heap.assign_last (heap : Heap κ β) (m : GoMap κ β) (k : κ) (v : β) :
    Heap.assign (heap ++ [m]) heap.length k v =
      heap ++ [⟨set m.entries k v, set_unique m.unique k v⟩] :=
  Heap.modify_last heap m _

/-- Filling the newest map from an older one. -/
theorem Heap.copy_last {heap : Heap κ β} {src : Option Nat} (allocated : heap.Allocated src)
    (m : GoMap κ β) :
    Heap.copy (heap ++ [m]) heap.length src = heap ++ [m.copy (heap.read src)] := by
  rw [Heap.copy, Heap.modify_last, Heap.read_append allocated]

end Heap

end Maps
