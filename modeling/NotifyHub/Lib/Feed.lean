import Mathlib.Data.List.Basic

/-! # What a reader has taken from a feed

A feed only grows at its end. A reader that joined when it had `since` entries and left
when it had `upto` has taken some of the entries in between, each at most once and in
order: `places` are their positions.
-/

namespace Feed

variable {β : Type}

structure Takes (feed : List β) (since upto : Nat) (places : List Nat) (items : List β) : Prop where
  ordered : places.Pairwise (· < ·)
  inside : ∀ i ∈ places, since ≤ i ∧ i < upto
  taken : places.map (feed[·]?) = items.map some

variable {feed more : List β} {since upto : Nat} {places : List Nat} {items : List β}

theorem Takes.nothing (feed : List β) (since upto : Nat) : Takes feed since upto [] [] :=
  ⟨List.Pairwise.nil, by simp, rfl⟩

theorem Takes.mono {upto' : Nat} (takes : Takes feed since upto places items)
    (later : upto ≤ upto') : Takes feed since upto' places items :=
  ⟨takes.ordered, fun i member => ⟨(takes.inside i member).1,
    Nat.lt_of_lt_of_le (takes.inside i member).2 later⟩, takes.taken⟩

/-- What was taken stays where it was. -/
theorem Takes.append (takes : Takes feed since upto places items) (within : upto ≤ feed.length)
    (more : List β) : Takes (feed ++ more) since upto places items := by
  refine ⟨takes.ordered, takes.inside, ?_⟩
  rw [← takes.taken]
  apply List.map_congr_left
  intro i member
  have bound : i < feed.length := Nat.lt_of_lt_of_le (takes.inside i member).2 within
  exact List.getElem?_append_left bound

/-- Taking the entry that has just come. -/
theorem Takes.push (takes : Takes feed since feed.length places items) (joined : since ≤ feed.length)
    (item : β) :
    Takes (feed ++ [item]) since (feed.length + 1) (places ++ [feed.length]) (items ++ [item]) := by
  have before := takes.append Nat.le.refl [item]
  refine ⟨?_, ?_, ?_⟩
  · rw [List.pairwise_append]
    refine ⟨takes.ordered, List.pairwise_singleton _ _, ?_⟩
    intro i member last same
    obtain rfl := List.mem_singleton.mp same
    exact (takes.inside i member).2
  · intro i member
    rcases List.mem_append.mp member with old | new
    · have bounds := takes.inside i old
      omega
    · obtain rfl := List.mem_singleton.mp new
      omega
  · simp [before.taken]

end Feed
