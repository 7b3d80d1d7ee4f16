import Mathlib.Data.List.Basic

/-! # References to rows that go with their parent

A link is the key of a row together with the parent that the row belongs to. A reference is a
link that somebody keeps outside of the table, so it may outlive the row. `Backed` says what it
is still good for: nobody else's row has its key, and as long as the parent is there, so is the
row.
-/

namespace References

variable {κ ι : Type}

structure Backed (parents : List ι) (links : List (κ × ι)) (r : κ × ι) : Prop where
  own : ∀ l ∈ links, l.1 = r.1 → l.2 = r.2
  stored : r.2 ∈ parents → r ∈ links

variable {parents parents' : List ι} {links links' : List (κ × ι)} {r : κ × ι} {k : κ} {p : ι}

/-- The row of a reference is there exactly as long as its parent is. -/
theorem Backed.stored_iff (backed : Backed parents links r) (foreign : ∀ l ∈ links, l.2 ∈ parents) :
    r.1 ∈ links.map Prod.fst ↔ r.2 ∈ parents := by
  constructor
  · intro found
    obtain ⟨l, member, same⟩ := List.mem_map.mp found
    exact backed.own l member same ▸ foreign l member
  · intro there
    exact List.mem_map_of_mem (backed.stored there)

/-- A reference to the row that is inserted. -/
theorem backed_inserted (parents : List ι) (p : ι) (fresh : k ∉ links.map Prod.fst) :
    Backed parents (links ++ [(k, p)]) (k, p) where
  own := by
    intro l member same
    rcases List.mem_append.mp member with old | new
    · exact absurd (List.mem_map.mpr ⟨l, old, same⟩) fresh
    · obtain rfl := List.mem_singleton.mp new
      rfl
  stored := fun _ => List.mem_append_right _ (List.mem_singleton_self _)

theorem Backed.insert (backed : Backed parents links r) (other : r.1 ≠ k) :
    Backed parents (links ++ [(k, p)]) r where
  own := by
    intro l member same
    rcases List.mem_append.mp member with old | new
    · exact backed.own l old same
    · obtain rfl := List.mem_singleton.mp new
      exact absurd same.symm other
  stored := fun there => List.mem_append_left _ (backed.stored there)

theorem Backed.insertParent (backed : Backed parents links r) (other : r.2 ≠ p) :
    Backed (parents ++ [p]) links r where
  own := backed.own
  stored := by
    intro there
    rcases List.mem_append.mp there with old | new
    · exact backed.stored old
    · exact absurd (List.mem_singleton.mp new) other

/-- Parents go, and only the rows of such parents go with them. -/
theorem Backed.cascade (backed : Backed parents links r) (fewer : ∀ q ∈ parents', q ∈ parents)
    (left : ∀ l ∈ links', l ∈ links) (stay : ∀ l ∈ links, l.2 ∈ parents' → l ∈ links') :
    Backed parents' links' r where
  own := fun l member => backed.own l (left l member)
  stored := fun there => stay r (backed.stored (fewer _ there)) there

end References
