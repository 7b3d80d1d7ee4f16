import NotifyHub.Lib.Observer
import NotifyHub.Lib.Rows

/-! # Tables that carry their constraints

A table has a primary key, a UNIQUE constraint (on a key that is `none` where there
is nothing to compare) and a condition on each row, for its CHECK and REFERENCES
clauses. A content that breaks one of them cannot be built, and each statement says
why it keeps them.

The second half is about statements that are `Private` to an owner: they read and
write the owner's rows only.
-/

namespace Rows

variable {ρ ι κ α β : Type}

structure Table (id : ρ → ι) (key : ρ → Option κ) (Valid : ρ → Prop) where
  rows : List ρ
  pkey : UniqueOn (fun row => some (id row)) rows
  unique : UniqueOn key rows
  valid : ∀ row ∈ rows, Valid row

theorem UniqueOn.filter {col : ρ → Option κ} {rows : List ρ} (unique : UniqueOn col rows)
    (cond : ρ → Bool) : UniqueOn col (rows.filter cond) :=
  List.Nodup.sublist (List.filter_sublist.filterMap col) unique

namespace Table

variable {id : ρ → ι} {key : ρ → Option κ} {Valid Valid' : ρ → Prop}

theorem nodup (t : Table id key Valid) : t.rows.Nodup := by
  have ids : (t.rows.map id).Nodup := uniqueOn_some.mp t.pkey
  exact ids.of_map id

/-- A condition that asks for a key selects its row alone. -/
theorem filter_key (t : Table id key Valid) {row : ρ} {k : κ} {cond : ρ → Bool}
    (stored : row ∈ t.rows) (keyed : key row = some k)
    (asks : ∀ other, cond other = true ↔ key other = some k) : t.rows.filter cond = [row] := by
  refine List.perm_singleton.mp ((List.perm_ext_iff_of_nodup (t.nodup.filter _) ?_).mpr ?_)
  · exact List.nodup_singleton row
  · intro other
    rw [List.mem_filter, List.mem_singleton, asks]
    constructor
    · rintro ⟨listed, same⟩
      exact t.unique.eq_of_mem listed stored same keyed
    · rintro rfl
      exact ⟨stored, keyed⟩

theorem find?_key (t : Table id key Valid) {row : ρ} {k : κ} {cond : ρ → Bool}
    (stored : row ∈ t.rows) (keyed : key row = some k)
    (asks : ∀ other, cond other = true ↔ key other = some k) : t.rows.find? cond = some row := by
  rw [← List.head?_filter, t.filter_key stored keyed asks]
  rfl

def empty : Table id key Valid :=
  { rows := [], pkey := UniqueOn.empty, unique := UniqueOn.empty, valid := by simp }

/-- The checks of an INSERT. -/
def Accepts (t : Table id key Valid) (row : ρ) : Prop :=
  id row ∉ t.rows.map id ∧ (∀ k ∈ key row, k ∉ t.rows.filterMap key) ∧ Valid row

instance [DecidableEq ι] [DecidableEq κ] [DecidablePred Valid] (t : Table id key Valid) (row : ρ) :
    Decidable (t.Accepts row) :=
  inferInstanceAs (Decidable (_ ∧ _ ∧ _))

def insert (t : Table id key Valid) (row : ρ) (accepted : t.Accepts row) : Table id key Valid :=
  { rows := t.rows ++ [row]
    pkey := t.pkey.insert (by
      intro k same
      obtain rfl := Option.some.inj same
      rw [filterMap_some_eq]
      exact accepted.1)
    unique := t.unique.insert accepted.2.1
    valid := by
      intro other member
      cases List.mem_append.mp member with
      | inl old => exact t.valid other old
      | inr new => exact List.mem_singleton.mp new ▸ accepted.2.2 }

/-- A SET clause that leaves the keys alone and breaks no condition. -/
structure Change (id : ρ → ι) (key : ρ → Option κ) (Valid : ρ → Prop) where
  set : ρ → ρ
  id : ∀ row, id (set row) = id row
  key : ∀ row, key (set row) = key row
  valid : ∀ row, Valid row → Valid (set row)

def update (t : Table id key Valid) (cond : ρ → Bool) (change : Change id key Valid) :
    Table id key Valid :=
  { rows := updateWhere cond change.set t.rows
    pkey := t.pkey.updateWhere fun row => congrArg some (change.id row)
    unique := t.unique.updateWhere change.key
    valid := by
      intro row member
      obtain ⟨old, stored, rfl⟩ := mem_updateWhere.mp member
      split
      · exact change.valid old (t.valid old stored)
      · exact t.valid old stored }

/-- `DELETE ... WHERE cond`. -/
def remove (t : Table id key Valid) (cond : ρ → Bool) : Table id key Valid :=
  { rows := t.rows.filter (!cond ·)
    pkey := t.pkey.filter _
    unique := t.unique.filter _
    valid := fun row member => t.valid row (List.mem_filter.mp member).1 }

/-- The same rows under a condition that they meet as well. -/
def recheck (t : Table id key Valid) (valid : ∀ row ∈ t.rows, Valid' row) :
    Table id key Valid' :=
  { rows := t.rows, pkey := t.pkey, unique := t.unique, valid := valid }

end Table

/-! ## Statements of an owner -/

section Private

variable {mine cond : ρ → Bool} {set : ρ → ρ}

/-- What is read off the owner's rows. -/
def Local (mine : ρ → Bool) (f : List ρ → α) : Prop :=
  ∀ rows₁ rows₂, rows₁.filter mine = rows₂.filter mine → f rows₁ = f rows₂

/-- A statement that reads and writes the owner's rows only. -/
def Private (mine : ρ → Bool) (op : List ρ → α × List ρ) : Prop :=
  ∀ rows₁ rows₂, rows₁.filter mine = rows₂.filter mine →
    Observer.Isolated (List.filter mine) (List.filter (!mine ·)) op rows₁ rows₂

theorem Local.find? (owned : ∀ row, cond row = true → mine row = true) :
    Local mine (List.find? cond) :=
  fun _ _ same => find?_congr same owned

namespace Private

theorem read {f : List ρ → α} (reads : Local mine f) : Private mine fun rows => (f rows, rows) :=
  fun _ _ same => ⟨reads _ _ same, same, rfl, rfl⟩

theorem update (owned : ∀ row, cond row = true → mine row = true)
    (keeps : ∀ row, mine (set row) = mine row) (answer : α) :
    Private mine fun rows => (answer, updateWhere cond set rows) := by
  intro rows₁ rows₂ same
  refine ⟨rfl, ?_, others_updateWhere owned keeps, others_updateWhere owned keeps⟩
  simp only [mine_updateWhere keeps, same]

theorem insert {row : ρ} (own : mine row = true) (answer : α) :
    Private mine fun rows => (answer, rows ++ [row]) := by
  have alone : ∀ added ∈ [row], mine added = true := by simpa using own
  intro rows₁ rows₂ same
  refine ⟨rfl, ?_, others_append alone, others_append alone⟩
  simp only [mine_append alone, same]

theorem remove (owned : ∀ row, cond row = true → mine row = true) (answer : α) :
    Private mine fun rows => (answer, rows.filter (!cond ·)) := by
  have others : ∀ rows : List ρ,
      (rows.filter (!cond ·)).filter (!mine ·) = rows.filter (!mine ·) := by
    intro rows
    rw [List.filter_filter]
    apply List.filter_congr
    intro row _
    cases hit : cond row with
    | false => simp
    | true => simp [owned row hit]
  intro rows₁ rows₂ same
  refine ⟨rfl, ?_, others rows₁, others rows₂⟩
  simp only [List.filter_filter, Bool.and_comm (mine _)]
  rw [← List.filter_filter, ← List.filter_filter, same]

theorem map {op : List ρ → α × List ρ} (reads : Private mine op) (g : α → β) :
    Private mine fun rows => (g (op rows).1, (op rows).2) :=
  fun _ _ same => (reads _ _ same).map g

/-- A statement chosen by what is read off the owner's rows. -/
theorem choose {f : List ρ → β} {op : β → List ρ → α × List ρ} (reads : Local mine f)
    (each : ∀ value, Private mine (op value)) : Private mine fun rows => op (f rows) rows := by
  intro rows₁ rows₂ same
  have value : f rows₁ = f rows₂ := reads _ _ same
  have chosen := each (f rows₁) rows₁ rows₂ same
  refine ⟨?_, ?_, chosen.left, ?_⟩
  · rw [← value]
    exact chosen.outcome
  · rw [← value]
    exact chosen.view
  · rw [← value]
    exact chosen.right

end Private

end Private

end Rows
