import Mathlib.Data.List.Nodup

/-! # Rows under uniqueness constraints, seen through an owner

A table is the list of its rows. `UniqueOn` is a UNIQUE constraint on a nullable
column: `none` is NULL and never clashes. `updateWhere` is `UPDATE ... WHERE`.

The second half is about one owner's view of a table. A statement whose
condition implies ownership reads and writes the owner's rows only, whatever
the other rows are.
-/

namespace Rows

variable {ρ κ : Type}

/-- No two rows share a non-NULL value of the column. -/
def UniqueOn (col : ρ → Option κ) (rows : List ρ) : Prop :=
  (rows.filterMap col).Nodup

theorem filterMap_some_eq (f : ρ → κ) (rows : List ρ) :
    rows.filterMap (fun row => some (f row)) = rows.map f := by
  rw [← List.filterMap_eq_map]
  rfl

/-- A column that is never NULL has no value twice. -/
theorem uniqueOn_some {f : ρ → κ} {rows : List ρ} :
    UniqueOn (fun row => some (f row)) rows ↔ (rows.map f).Nodup := by
  rw [UniqueOn, filterMap_some_eq]

namespace UniqueOn

variable {col : ρ → Option κ} {rows : List ρ}

theorem empty : UniqueOn col [] := List.nodup_nil

theorem of_null (null : ∀ row ∈ rows, col row = none) : UniqueOn col rows := by
  rw [UniqueOn, List.filterMap_eq_nil_iff.mpr null]
  exact List.nodup_nil

theorem insert {row : ρ} (unique : UniqueOn col rows)
    (fresh : ∀ k, col row = some k → k ∉ rows.filterMap col) :
    UniqueOn col (rows ++ [row]) := by
  unfold UniqueOn
  rw [List.filterMap_append, List.nodup_append]
  refine ⟨unique, ?_, ?_⟩
  · cases value : col row <;> simp [value]
  · intro old oldMem new newMem same
    simp only [List.filterMap_cons, List.filterMap_nil] at newMem
    cases value : col row with
    | none => simp [value] at newMem
    | some k =>
        simp only [value, List.mem_singleton] at newMem
        exact fresh k value (newMem ▸ same ▸ oldMem)

theorem tail {head : ρ} (unique : UniqueOn col (head :: rows)) : UniqueOn col rows := by
  unfold UniqueOn at unique ⊢
  cases value : col head with
  | none => simpa [List.filterMap_cons, value] using unique
  | some v => exact (List.nodup_cons.mp (by simpa [List.filterMap_cons, value] using unique)).2

theorem head_alone {head row : ρ} {k : κ} (unique : UniqueOn col (head :: rows))
    (headKey : col head = some k) (member : row ∈ rows) : col row ≠ some k := by
  intro rowKey
  have inTail : k ∈ rows.filterMap col := List.mem_filterMap.mpr ⟨row, member, rowKey⟩
  have split : (k :: rows.filterMap col).Nodup := by
    simpa [UniqueOn, List.filterMap_cons, headKey] using unique
  exact (List.nodup_cons.mp split).1 inTail

/-- Two rows with one non-NULL value are one row. -/
theorem eq_of_mem {left right : ρ} {k : κ} (unique : UniqueOn col rows)
    (leftMem : left ∈ rows) (rightMem : right ∈ rows)
    (leftKey : col left = some k) (rightKey : col right = some k) : left = right := by
  induction rows with
  | nil => simp at leftMem
  | cons head tail ih =>
      rcases List.mem_cons.mp leftMem with rfl | leftTail
      · rcases List.mem_cons.mp rightMem with rfl | rightTail
        · rfl
        · exact absurd rightKey (unique.head_alone leftKey rightTail)
      · rcases List.mem_cons.mp rightMem with rfl | rightTail
        · exact absurd leftKey (unique.head_alone rightKey leftTail)
        · exact ih unique.tail leftTail rightTail

/-- At most one row has a given value. -/
theorem length_filter_le [DecidableEq κ] (unique : UniqueOn col rows) (k : κ) :
    (rows.filter (fun row => col row == some k)).length ≤ 1 := by
  induction rows with
  | nil => simp
  | cons head tail ih =>
      by_cases hit : col head = some k
      · have none_ : tail.filter (fun row => col row == some k) = [] := by
          rw [List.filter_eq_nil_iff]
          intro row member
          simpa using unique.head_alone hit member
        simp [hit, none_]
      · simpa [hit] using ih unique.tail

end UniqueOn

/-- `UPDATE ... SET set WHERE cond`. -/
def updateWhere (cond : ρ → Bool) (set : ρ → ρ) (rows : List ρ) : List ρ :=
  rows.map fun row => if cond row then set row else row

section Update

variable {cond : ρ → Bool} {set : ρ → ρ} {rows : List ρ}

theorem mem_updateWhere {row : ρ} :
    row ∈ updateWhere cond set rows ↔
      ∃ old ∈ rows, row = if cond old then set old else old := by
  simp only [updateWhere, List.mem_map, eq_comm]

/-- An update that leaves a column alone leaves the whole column as it was. -/
theorem map_updateWhere {β : Type} {col : ρ → β} (same : ∀ row, col (set row) = col row) :
    (updateWhere cond set rows).map col = rows.map col := by
  simp only [updateWhere, List.map_map]
  apply List.map_congr_left
  intro row _
  simp only [Function.comp_apply]
  split
  · exact same row
  · rfl

theorem filterMap_updateWhere {col : ρ → Option κ} (same : ∀ row, col (set row) = col row) :
    (updateWhere cond set rows).filterMap col = rows.filterMap col := by
  simp only [updateWhere, List.filterMap_map]
  apply List.filterMap_congr
  intro row _
  simp only [Function.comp_apply]
  split
  · exact same row
  · rfl

/-- A SET clause that takes the row out of the condition leaves no row in it. -/
theorem updateWhere_cleared (clears : ∀ row, cond (set row) = false) :
    ∀ row ∈ updateWhere cond set rows, cond row = false := by
  intro row member
  obtain ⟨old, _, rfl⟩ := mem_updateWhere.mp member
  cases hit : cond old with
  | true => simp only [if_true, clears]
  | false => simp only [Bool.false_eq_true, if_false, hit]

theorem updateWhere_eq_self (settled : ∀ row ∈ rows, cond row = false) :
    updateWhere cond set rows = rows := by
  rw [updateWhere, List.map_congr_left (g := id), List.map_id]
  intro row member
  simp only [settled row member, Bool.false_eq_true, if_false, id_eq]

theorem updateWhere_again {set' : ρ → ρ} (clears : ∀ row, cond (set row) = false) :
    updateWhere cond set' (updateWhere cond set rows) = updateWhere cond set rows :=
  updateWhere_eq_self (updateWhere_cleared clears)

/-- An update of the rows it selects, seen through a lookup with the same condition. -/
theorem find?_updateWhere (keeps : ∀ row, cond (set row) = cond row) :
    (updateWhere cond set rows).find? cond = (rows.find? cond).map set := by
  induction rows with
  | nil => rfl
  | cons head tail ih =>
      simp only [updateWhere, List.map_cons] at ih ⊢
      by_cases hit : cond head = true
      · simp [hit, keeps]
      · simp [hit, ih]

theorem UniqueOn.updateWhere {col : ρ → Option κ} (unique : UniqueOn col rows)
    (same : ∀ row, col (set row) = col row) :
    UniqueOn col (Rows.updateWhere cond set rows) := by
  unfold UniqueOn
  rw [filterMap_updateWhere same]
  exact unique

end Update

section Owner

variable {mine cond : ρ → Bool} {set : ρ → ρ} {rows : List ρ}

/-- A lookup that implies ownership sees the owner's rows only. -/
theorem find?_of_owned (owned : ∀ row, cond row = true → mine row = true) :
    rows.find? cond = (rows.filter mine).find? cond := by
  induction rows with
  | nil => rfl
  | cons head tail ih =>
      by_cases hit : cond head = true
      · simp [owned head hit, hit]
      · by_cases own : mine head = true <;> simp [own, hit, ih]

theorem filter_of_owned (owned : ∀ row, cond row = true → mine row = true) :
    rows.filter cond = (rows.filter mine).filter cond := by
  rw [List.filter_filter]
  apply List.filter_congr
  intro row _
  by_cases hit : cond row = true
  · simp [hit, owned row hit]
  · simp [hit]

/-- Two tables with the same rows of the owner answer the owner's statements alike. -/
theorem find?_congr {rows' : List ρ} (same : rows.filter mine = rows'.filter mine)
    (owned : ∀ row, cond row = true → mine row = true) : rows.find? cond = rows'.find? cond := by
  rw [find?_of_owned owned, same, ← find?_of_owned owned]

theorem filter_congr {rows' : List ρ} (same : rows.filter mine = rows'.filter mine)
    (owned : ∀ row, cond row = true → mine row = true) :
    rows.filter cond = rows'.filter cond := by
  rw [filter_of_owned owned, same, ← filter_of_owned owned]

/-- Rows the owner adds show up in the owner's view and nowhere else. -/
theorem mine_append {added : List ρ} (own : ∀ row ∈ added, mine row = true) :
    (rows ++ added).filter mine = rows.filter mine ++ added := by
  rw [List.filter_append, List.filter_eq_self.mpr own]

theorem others_append {added : List ρ} (own : ∀ row ∈ added, mine row = true) :
    (rows ++ added).filter (!mine ·) = rows.filter (!mine ·) := by
  have none_ : added.filter (!mine ·) = [] := by
    rw [List.filter_eq_nil_iff]
    intro row member
    simp [own row member]
  rw [List.filter_append, none_, List.append_nil]

/-- The owner's view after an update is the update of the owner's view. -/
theorem mine_updateWhere (keeps : ∀ row, mine (set row) = mine row) :
    (updateWhere cond set rows).filter mine = updateWhere cond set (rows.filter mine) := by
  induction rows with
  | nil => rfl
  | cons head tail ih =>
      simp only [updateWhere, List.map_cons, List.filter_cons] at ih ⊢
      by_cases hit : cond head = true <;> by_cases own : mine head = true <;>
        simp [hit, own, keeps, ih]

/-- An update of owned rows leaves every other row as it was. -/
theorem others_updateWhere (owned : ∀ row, cond row = true → mine row = true)
    (keeps : ∀ row, mine (set row) = mine row) :
    (updateWhere cond set rows).filter (!mine ·) = rows.filter (!mine ·) := by
  induction rows with
  | nil => rfl
  | cons head tail ih =>
      simp only [updateWhere, List.map_cons, List.filter_cons] at ih ⊢
      by_cases hit : cond head = true
      · simp [hit, owned head hit, keeps, ih]
      · by_cases own : mine head = true <;> simp [hit, own, ih]

end Owner

/-- Two tests that are each constant on a list agree on it once they pass equally many. -/
theorem agree_of_length_filter {p q : ρ → Bool} {rows : List ρ}
    (constp : ∀ x ∈ rows, ∀ y ∈ rows, p x = p y) (constq : ∀ x ∈ rows, ∀ y ∈ rows, q x = q y)
    (same : (rows.filter p).length = (rows.filter q).length) : ∀ x ∈ rows, p x = q x := by
  have count : ∀ r : ρ → Bool, (∀ x ∈ rows, ∀ y ∈ rows, r x = r y) → ∀ x ∈ rows,
      (rows.filter r).length = if r x then rows.length else 0 := by
    intro r const x member
    split
    · rename_i passes
      rw [List.filter_eq_self.mpr fun y inRows => (const y inRows x member).trans passes]
    · rename_i fails
      rw [List.filter_eq_nil_iff.mpr fun y inRows => const y inRows x member ▸ fails, List.length_nil]
  intro x member
  have some_ : rows.length ≠ 0 := Nat.ne_of_gt (List.length_pos_of_mem member)
  rw [count p constp x member, count q constq x member] at same
  cases left : p x with
  | false =>
      cases right : q x with
      | false => rfl
      | true =>
          rw [left, right] at same
          exact absurd same.symm some_
  | true =>
      cases right : q x with
      | false =>
          rw [left, right] at same
          exact absurd same some_
      | true => rfl

/-- What a row gives is found among all that was given by the key it was given under. -/
theorem filter_filterMap_key {α : Type} [DecidableEq κ] {give : ρ → Option α} {key : α → κ}
    {id : ρ → κ} {rows : List ρ} {row : ρ} (keeps : ∀ row a, give row = some a → key a = id row)
    (nodup : (rows.map id).Nodup) (member : row ∈ rows) :
    (rows.filterMap give).filter (fun a => key a == id row) = (give row).toList := by
  have alone : ∀ rest : List ρ, id row ∉ rest.map id →
      (rest.filterMap give).filter (fun a => key a == id row) = [] := by
    intro rest absent
    rw [List.filter_eq_nil_iff]
    intro a given hit
    obtain ⟨other, inRest, gives⟩ := List.mem_filterMap.mp given
    have same : id other = id row := (keeps other a gives).symm.trans (by simpa using hit)
    exact absent (List.mem_map.mpr ⟨other, inRest, same⟩)
  obtain ⟨before, after, rfl⟩ := List.append_of_mem member
  rw [List.map_append, List.map_cons, List.nodup_append, List.nodup_cons] at nodup
  obtain ⟨_, ⟨notAfter, _⟩, apart⟩ := nodup
  have notBefore : id row ∉ before.map id :=
    fun there => apart _ there _ List.mem_cons_self rfl
  rw [List.filterMap_append, List.filterMap_cons, List.filter_append, alone before notBefore]
  cases given : give row with
  | none => simpa using alone after notAfter
  | some a => simpa [keeps row a given] using alone after notAfter

/-! ## Windows -/

section Lookup

variable [DecidableEq κ] {col : ρ → κ} {cond : ρ → Bool} {set : ρ → ρ} {rows : List ρ} {row : ρ}

/-- `WHERE col = k`, of a column without duplicates. -/
def lookup (col : ρ → κ) (rows : List ρ) (k : κ) : Option ρ := rows.find? (col · == k)

theorem lookup_eq_none {k : κ} : lookup col rows k = none ↔ ∀ row ∈ rows, col row ≠ k := by
  simp [lookup]

theorem lookup_of_mem (unique : UniqueOn (fun row => some (col row)) rows) (member : row ∈ rows) :
    lookup col rows (col row) = some row := by
  cases found : lookup col rows (col row) with
  | none => exact absurd rfl (lookup_eq_none.mp found row member)
  | some other =>
      have same : col other = col row := by simpa using List.find?_some found
      exact congrArg some
        (unique.eq_of_mem (List.mem_of_find?_eq_some found) member (congrArg some same) rfl)

theorem lookup_append (new : col row ∉ rows.map col) :
    lookup col (rows ++ [row]) = Function.update (lookup col rows) (col row) (some row) := by
  funext k
  rw [lookup, List.find?_append]
  by_cases same : k = col row
  · subst same
    have none_ : lookup col rows (col row) = none :=
      lookup_eq_none.mpr fun other member same => new (List.mem_map.mpr ⟨other, member, same⟩)
    rw [Function.update_self]
    simp only [lookup] at none_
    simp [none_]
  · rw [Function.update_of_ne same]
    have other : (col row == k) = false := by simpa using Ne.symm same
    simp [lookup, other]

theorem lookup_updateWhere (same : ∀ row, col (set row) = col row) (k : κ) :
    lookup col (updateWhere cond set rows) k =
      (lookup col rows k).map fun row => if cond row then set row else row := by
  have kept : ∀ row, col (if cond row then set row else row) = col row := by
    intro row
    split
    · exact same row
    · rfl
  simp only [lookup, updateWhere, List.find?_map, Function.comp_def, kept]

theorem lookup_filter (unique : UniqueOn (fun row => some (col row)) rows) (k : κ) :
    lookup col (rows.filter cond) k = (lookup col rows k).filter cond := by
  induction rows with
  | nil => rfl
  | cons head tail ih =>
      by_cases hit : col head = k
      · have alone : lookup col (tail.filter cond) k = none := by
          refine lookup_eq_none.mpr fun row member same => ?_
          exact unique.head_alone (congrArg some hit) (List.mem_filter.mp member).1
            (congrArg some same)
        simp only [lookup] at alone ⊢
        by_cases kept : cond head = true <;> simp [hit, kept, alone, Option.filter]
      · have onward := ih unique.tail
        simp only [lookup] at onward ⊢
        by_cases kept : cond head = true <;> simp [hit, kept, onward]

end Lookup

section Window

variable {rows : List ρ} {offset limit offset' limit' : Nat}

/-- `limit` rows, or those that there are, from position `offset` on. -/
def window (offset limit : Nat) (rows : List ρ) : List ρ := (rows.drop offset).take limit

theorem map_window (f : ρ → κ) (offset limit : Nat) (rows : List ρ) :
    (window offset limit rows).map f = window offset limit (rows.map f) := by
  simp only [window, List.map_take, List.map_drop]

theorem length_window : (window offset limit rows).length = min limit (rows.length - offset) := by
  simp only [window, List.length_take, List.length_drop]

theorem head?_window (some_ : 0 < limit) : (window offset limit rows).head? = rows[offset]? := by
  rw [window, List.head?_take, if_neg (Nat.pos_iff_ne_zero.mp some_), List.head?_drop]

/-- Two windows on distinct rows are equal if both are empty, or they start and end together. -/
theorem window_eq_iff (nodup : rows.Nodup) :
    window offset limit rows = window offset' limit' rows ↔
      offset = offset' ∧ min limit (rows.length - offset) = min limit' (rows.length - offset') ∨
        min limit (rows.length - offset) = 0 ∧ min limit' (rows.length - offset') = 0 := by
  constructor
  · intro same
    have lengths := congrArg List.length same
    rw [length_window, length_window] at lengths
    rcases Nat.eq_zero_or_pos (min limit (rows.length - offset)) with none_ | some_
    · exact .inr ⟨none_, lengths ▸ none_⟩
    · have first := congrArg List.head? same
      have here : offset < rows.length := by omega
      have there : offset' < rows.length := by omega
      rw [head?_window (by omega), head?_window (by omega), List.getElem?_eq_getElem here,
        List.getElem?_eq_getElem there, Option.some.injEq, nodup.getElem_inj_iff] at first
      exact .inl ⟨first, lengths⟩
  · rintro (⟨rfl, ends⟩ | ⟨none_, none_'⟩)
    · rw [window, window, List.take_eq_take_iff, List.length_drop]
      exact ends
    · rw [← length_window, List.length_eq_zero_iff] at none_ none_'
      rw [none_, none_']

end Window

end Rows
