import Mathlib.Data.List.Basic

/-! # Fields joined by a separator

A text of fields with a separator between them is read back from the right: the last
field is what follows the last separator, if it contains none itself. The fields
before it may contain anything.
-/

namespace Separator

variable {α : Type} {sep : α} {front front' last last' : List α}

theorem last_field_aux {middle : List α} (clean : sep ∉ last)
    (joined : sep :: last = middle ++ sep :: last') : middle = [] := by
  cases middle with
  | nil => rfl
  | cons first rest =>
      have tail : last = rest ++ sep :: last' := (List.cons.inj joined).2
      exact absurd (tail ▸ List.mem_append_right rest List.mem_cons_self) clean

/-- The last field and what is before it are determined by the text. -/
theorem last_field (clean : sep ∉ last) (clean' : sep ∉ last')
    (joined : front ++ sep :: last = front' ++ sep :: last') : front = front' ∧ last = last' := by
  cases List.append_eq_append_iff.mp joined with
  | inl longer =>
      obtain ⟨middle, grown, same⟩ := longer
      obtain rfl := last_field_aux clean same
      exact ⟨by simpa using grown.symm, (List.cons.inj same).2⟩
  | inr shorter =>
      obtain ⟨middle, grown, same⟩ := shorter
      obtain rfl := last_field_aux clean' same
      exact ⟨by simpa using grown, (List.cons.inj same).2.symm⟩

end Separator
