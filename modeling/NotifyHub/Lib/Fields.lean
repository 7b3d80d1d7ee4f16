import Mathlib.Data.List.Pairwise
import Mathlib.Data.List.Perm.Basic

/-! # Partial assignments to the fields of a record

A record is a function of its fields, whose types may differ. A patch sets some of
them. Patches that set no field in common can be applied in any order, and each of
them is then found in the result.
-/

namespace Fields

variable {φ : Type} {ν : φ → Type}

abbrev Patch (ν : φ → Type) : Type := ∀ f, Option (ν f)

def Patch.apply (p : Patch ν) (r : ∀ f, ν f) : ∀ f, ν f := fun f => (p f).getD (r f)

/-- No field is set by both. -/
def Apart (p q : Patch ν) : Prop := ∀ f, p f = none ∨ q f = none

def applyAll (ps : List (Patch ν)) (r : ∀ f, ν f) : ∀ f, ν f :=
  ps.foldl (fun r p => p.apply r) r

variable {p q : Patch ν} {ps qs : List (Patch ν)} {r : ∀ f, ν f} {f : φ}

theorem Patch.apply_of_some {value : ν f} (sets : p f = some value) : p.apply r f = value := by
  simp [Patch.apply, sets]

theorem Patch.apply_of_none (skips : p f = none) : p.apply r f = r f := by
  simp [Patch.apply, skips]

/-- A patch on top of another one that, outside of it, changes nothing. -/
theorem Patch.apply_apply_eq (there : ∀ f value, p f = none → q f = some value → r f = value) :
    p.apply (q.apply r) = p.apply r := by
  funext f
  cases sets : p f with
  | some value => exact (Patch.apply_of_some sets).trans (Patch.apply_of_some sets).symm
  | none =>
      rw [Patch.apply_of_none sets, Patch.apply_of_none sets]
      cases below : q f with
      | none => exact Patch.apply_of_none below
      | some value => exact (Patch.apply_of_some below).trans (there f value sets below).symm

theorem Apart.comm (apart : Apart p q) (r : ∀ f, ν f) :
    p.apply (q.apply r) = q.apply (p.apply r) := by
  funext f
  cases apart f with
  | inl skips => simp [Patch.apply, skips]
  | inr skips => simp [Patch.apply, skips]

def Commutes (p q : Patch ν) : Prop := ∀ r, q.apply (p.apply r) = p.apply (q.apply r)

instance : Std.Symm (@Commutes φ ν) := ⟨fun _ _ same r => (same r).symm⟩

theorem applyAll_append : applyAll (ps ++ qs) r = applyAll qs (applyAll ps r) :=
  List.foldl_append

theorem applyAll_perm (apart : ps.Pairwise Apart) (perm : ps.Perm qs) :
    applyAll ps r = applyAll qs r := by
  have commute : ps.Pairwise Commutes := apart.imp fun separate z => (separate.comm z).symm
  have all : ∀ p ∈ ps, ∀ q ∈ ps, Commutes p q := fun p inP q inQ =>
    commute.forall_of_forall (fun _ _ _ => rfl) inP inQ
  exact perm.foldl_eq' (fun p inP q inQ z => all p inP q inQ z) r

theorem applyAll_of_none (skip : ∀ p ∈ ps, p f = none) : applyAll ps r f = r f := by
  induction ps generalizing r with
  | nil => rfl
  | cons p rest ih =>
      have later : applyAll rest (p.apply r) f = p.apply r f :=
        ih fun q member => skip q (List.mem_cons_of_mem p member)
      exact later.trans (Patch.apply_of_none (skip p List.mem_cons_self))

/-- What one of the patches sets is set in the end. -/
theorem applyAll_of_mem {value : ν f} (apart : ps.Pairwise Apart) (member : p ∈ ps)
    (sets : p f = some value) : applyAll ps r f = value := by
  induction ps generalizing r with
  | nil => cases member
  | cons q rest ih =>
      obtain ⟨separate, apartRest⟩ := List.pairwise_cons.mp apart
      cases List.mem_cons.mp member with
      | inr later => exact ih apartRest later
      | inl here =>
          subst here
          have skip : ∀ q ∈ rest, q f = none := by
            intro q inRest
            cases separate q inRest f with
            | inl unset => simp [sets] at unset
            | inr unset => exact unset
          have kept : applyAll rest (p.apply r) f = p.apply r f := applyAll_of_none skip
          exact kept.trans (Patch.apply_of_some sets)

/-- Every value is set by one of the patches, or was there and is set by none. -/
theorem applyAll_cases (apart : ps.Pairwise Apart) (r : ∀ f, ν f) (f : φ) :
    (∃ p ∈ ps, p f = some (applyAll ps r f)) ∨ applyAll ps r f = r f ∧ ∀ p ∈ ps, p f = none := by
  by_cases setter : ∃ p ∈ ps, (p f).isSome
  · obtain ⟨p, member, isSet⟩ := setter
    obtain ⟨value, sets⟩ := Option.isSome_iff_exists.mp isSet
    exact .inl ⟨p, member, sets.trans (congrArg some (applyAll_of_mem apart member sets).symm)⟩
  · have skip : ∀ p ∈ ps, p f = none := by
      intro p member
      by_contra isSet
      exact setter ⟨p, member, Option.isSome_iff_ne_none.mpr isSet⟩
    exact .inr ⟨applyAll_of_none skip, skip⟩

end Fields
