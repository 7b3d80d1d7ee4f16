import NotifyHub.Lib.Rows
import NotifyHub.Lib.Transition

/-! # Schemas and the statements that change them

A schema lists its tables with their columns, constraints and indexes. A row holds the
cells that are not NULL, by column. Foreign keys refer to the column `id` of a table.

Dropping a column drops the constraints and indexes that involve it. A statement is
refused where it would leave a foreign key without its target, and a new constraint
where the rows break it; hence whatever statements are executed, the rows satisfy the
schema that results.
-/

namespace Ddl

open Rows

inductive ColumnType where
  | uuid
  | varchar (limit : Nat)
  | text
  | jsonb
  | int
  | boolean
  | timestamptz
  | time
  deriving Repr, DecidableEq

structure Column where
  name : String
  type : ColumnType
  notNull : Bool
  deriving Repr, DecidableEq

inductive Rule where
  | primaryKey (columns : List String)
  | unique (columns : List String)
  | references (column target : String)
  deriving Repr, DecidableEq

def Rule.columns : Rule → List String
  | .primaryKey columns | .unique columns => columns
  | .references column _ => [column]

def Rule.targets (table : String) : Rule → Bool
  | .references _ target => target == table
  | _ => false

structure Constraint where
  name : String
  rule : Rule
  deriving Repr, DecidableEq

/-- `columns` are those of the key and of the predicate. -/
structure Index where
  name : String
  columns : List String
  deriving Repr, DecidableEq

structure TableSchema where
  name : String
  columns : List Column
  constraints : List Constraint
  indexes : List Index
  deriving Repr, DecidableEq

abbrev Schema := List TableSchema

def Schema.names (s : Schema) : List String := s.map (·.name)

/-- Some table has a foreign key to this one. -/
def Schema.referenced (s : Schema) (table : String) : Bool :=
  s.any fun t => t.constraints.any (·.rule.targets table)

def Schema.modify (s : Schema) (table : String) (f : TableSchema → TableSchema) : Schema :=
  s.map fun t => if t.name = table then f t else t

def TableSchema.hasColumn (t : TableSchema) (column : String) : Bool :=
  t.columns.any (·.name == column)

/-! ## Contents -/

abbrev Row (β : Type) := List (String × β)

/-- The rows of every table. -/
abbrev Contents (β : Type) := String → List (Row β)

structure Db (β : Type) where
  schema : Schema
  rows : Contents β

section Satisfaction

variable {β : Type}

/-- The cells of some columns, if none of them is NULL. -/
def cells (columns : List String) (row : Row β) : Option (List β) :=
  match columns with
  | [] => some []
  | column :: columns =>
      match row.lookup column, cells columns row with
      | some cell, some rest => some (cell :: rest)
      | _, _ => none

def Rule.Holds (rows : Contents β) (table : String) : Rule → Prop
  | .primaryKey columns =>
      UniqueOn (cells columns) (rows table) ∧ ∀ row ∈ rows table, (cells columns row).isSome
  | .unique columns => UniqueOn (cells columns) (rows table)
  | .references column target =>
      ∀ row ∈ rows table, ∀ cell ∈ row.lookup column,
        ∃ other ∈ rows target, other.lookup "id" = some cell

variable (typed : ColumnType → β → Prop)

def Column.Holds (c : Column) (row : Row β) : Prop :=
  (c.notNull = true → (row.lookup c.name).isSome) ∧ ∀ cell ∈ row.lookup c.name, typed c.type cell

structure TableSchema.Holds (rows : Contents β) (t : TableSchema) : Prop where
  shape : ∀ row ∈ rows t.name, ∀ kv ∈ row, t.hasColumn kv.1
  columns : ∀ c ∈ t.columns, ∀ row ∈ rows t.name, c.Holds typed row
  rules : ∀ k ∈ t.constraints, k.rule.Holds rows t.name

/-- The rows are in the tables of the schema and satisfy what it says of them. -/
structure Db.Holds (db : Db β) : Prop where
  stored : ∀ table, table ∉ db.schema.names → db.rows table = []
  tables : ∀ t ∈ db.schema, t.Holds typed db.rows

variable [DecidableEq β] [∀ type cell, Decidable (typed type cell)]

instance decidableRule (rows : Contents β) (table : String) :
    ∀ rule : Rule, Decidable (rule.Holds rows table)
  | .primaryKey columns =>
      inferInstanceAs (Decidable (((rows table).filterMap (cells columns)).Nodup ∧ _))
  | .unique columns => inferInstanceAs (Decidable ((rows table).filterMap (cells columns)).Nodup)
  | .references _ _ => inferInstanceAs (Decidable (∀ _ ∈ _, _))

instance decidableColumn (c : Column) (row : Row β) : Decidable (c.Holds typed row) :=
  inferInstanceAs (Decidable (_ ∧ _))

instance decidableTable (rows : Contents β) (t : TableSchema) : Decidable (t.Holds typed rows) :=
  decidable_of_iff
    ((∀ row ∈ rows t.name, ∀ kv ∈ row, t.hasColumn kv.1 = true) ∧
      (∀ c ∈ t.columns, ∀ row ∈ rows t.name, c.Holds typed row) ∧
      ∀ k ∈ t.constraints, k.rule.Holds rows t.name)
    ⟨fun ⟨shape, columns, rules⟩ => ⟨shape, columns, rules⟩,
      fun holds => ⟨holds.shape, holds.columns, holds.rules⟩⟩

end Satisfaction

/-! ## Statements -/

/-- `ADD COLUMN` of a nullable column without a default, possibly a foreign key.
    `DROP` is with `IF EXISTS`. -/
inductive Statement where
  | createTable (t : TableSchema)
  | addColumn (table column : String) (type : ColumnType) (target : Option String)
  | dropColumn (table column : String)
  | addUnique (table name : String) (columns : List String)
  | dropConstraint (table name : String)
  | createIndex (table : String) (index : Index)
  | dropIndex (name : String)
  | dropTable (table : String)
  deriving Repr, DecidableEq

def TableSchema.addColumn (column : String) (type : ColumnType) (target : Option String)
    (t : TableSchema) : TableSchema :=
  { t with
    columns := t.columns ++ [⟨column, type, false⟩]
    constraints := t.constraints ++ target.toList.map fun target =>
      ⟨t.name ++ "_" ++ column ++ "_fkey", .references column target⟩ }

def TableSchema.dropColumn (column : String) (t : TableSchema) : TableSchema :=
  { t with
    columns := t.columns.filter (·.name ≠ column)
    constraints := t.constraints.filter (column ∉ ·.rule.columns)
    indexes := t.indexes.filter (column ∉ ·.columns) }

def TableSchema.addUnique (name : String) (columns : List String) (t : TableSchema) :
    TableSchema :=
  { t with constraints := t.constraints ++ [⟨name, .unique columns⟩] }

def TableSchema.dropConstraint (name : String) (t : TableSchema) : TableSchema :=
  { t with constraints := t.constraints.filter (·.name ≠ name) }

def TableSchema.createIndex (index : Index) (t : TableSchema) : TableSchema :=
  { t with indexes := t.indexes ++ [index] }

def TableSchema.dropIndex (name : String) (t : TableSchema) : TableSchema :=
  { t with indexes := t.indexes.filter (·.name ≠ name) }

/-- What a statement makes of a schema, unless it is refused. -/
def Statement.alter (s : Schema) : Statement → Option Schema
  | .createTable t => if t.name ∈ s.names then none else some (s ++ [t])
  | .addColumn table column type target =>
      if table ∈ s.names ∧ (∀ t ∈ s, t.name = table → t.hasColumn column = false) ∧
          ∀ other ∈ target, other ∈ s.names then
        some (s.modify table (.addColumn column type target))
      else none
  | .dropColumn table column =>
      if table ∈ s.names ∧ (column = "id" → s.referenced table = false) then
        some (s.modify table (.dropColumn column))
      else none
  | .addUnique table name columns =>
      if table ∈ s.names ∧ ∀ t ∈ s, t.name = table →
          name ∉ t.constraints.map (·.name) ∧ ∀ column ∈ columns, t.hasColumn column then
        some (s.modify table (.addUnique name columns))
      else none
  | .dropConstraint table name =>
      if table ∈ s.names then some (s.modify table (.dropConstraint name)) else none
  | .createIndex table index =>
      if table ∈ s.names ∧ ∀ t ∈ s, index.name ∉ t.indexes.map (·.name) then
        some (s.modify table (.createIndex index))
      else none
  | .dropIndex name => some (s.map (.dropIndex name))
  | .dropTable table =>
      if Schema.referenced (s.filter (·.name ≠ table)) table then none
      else some (s.filter (·.name ≠ table))

section Execution

variable {β : Type}

def eraseCell (column : String) (row : Row β) : Row β := row.filter (·.1 ≠ column)

/-- The rows after `DROP COLUMN`. -/
def dropCells (table column : String) (rows : Contents β) : Contents β := fun other =>
  if other = table then (rows other).map (eraseCell column) else rows other

/-- What a statement makes of the rows. -/
def Statement.rewrite (rows : Contents β) : Statement → Contents β
  | .dropColumn table column => dropCells table column rows
  | .dropTable table => fun other => if other = table then [] else rows other
  | _ => rows

/-- What a statement asks of the rows. -/
def Statement.Checks (rows : Contents β) : Statement → Prop
  | .addUnique table _ columns => UniqueOn (cells columns) (rows table)
  | _ => True

instance decidableChecks [DecidableEq β] (rows : Contents β) :
    ∀ statement : Statement, Decidable (statement.Checks rows)
  | .addUnique _ _ _ => inferInstanceAs (Decidable (List.Nodup _))
  | .createTable _ | .addColumn _ _ _ _ | .dropColumn _ _ | .dropConstraint _ _
  | .createIndex _ _ | .dropIndex _ | .dropTable _ => .isTrue trivial

variable [DecidableEq β]

def exec (db : Db β) (statement : Statement) : Option (Db β) :=
  if statement.Checks db.rows then
    (statement.alter db.schema).map fun schema => ⟨schema, statement.rewrite db.rows⟩
  else none

end Execution

/-! ## Statements keep the rows satisfying -/

section Preservation

variable {β : Type} {typed : ColumnType → β → Prop} {rows : Contents β} {s : Schema}

theorem lookup_eraseCell {column other : String} (row : Row β) (differ : other ≠ column) :
    (eraseCell column row).lookup other = row.lookup other := by
  induction row with
  | nil => rfl
  | cons kv row ih =>
      obtain ⟨key, cell⟩ := kv
      by_cases dropped : key = column
      · subst dropped
        have skipped : (other == key) = false := by simpa using differ
        simpa [eraseCell, List.lookup_cons, skipped] using ih
      · simp only [eraseCell, ne_eq, dropped, not_false_eq_true, decide_true,
          List.filter_cons_of_pos, List.lookup_cons]
        cases other == key with
        | true => rfl
        | false => exact ih

theorem cells_eraseCell {column : String} {columns : List String} (row : Row β)
    (spared : column ∉ columns) : cells columns (eraseCell column row) = cells columns row := by
  induction columns with
  | nil => rfl
  | cons first columns ih =>
      obtain ⟨differ, rest⟩ := not_or.mp (mt List.mem_cons.mpr spared)
      simp only [cells, lookup_eraseCell row (Ne.symm differ), ih rest]

theorem uniqueOn_eraseCell {column : String} {columns : List String} {list : List (Row β)}
    (spared : column ∉ columns) :
    UniqueOn (cells columns) (list.map (eraseCell column)) ↔ UniqueOn (cells columns) list := by
  have same : (list.map (eraseCell column)).filterMap (cells columns) =
      list.filterMap (cells columns) := by
    rw [List.filterMap_map]
    apply List.filterMap_congr
    intro row _
    exact cells_eraseCell row spared
  rw [UniqueOn, UniqueOn, same]

@[simp] theorem names_modify {table : String} {f : TableSchema → TableSchema}
    (keeps : ∀ t, (f t).name = t.name) : (s.modify table f).names = s.names := by
  unfold Schema.names Schema.modify
  rw [List.map_map]
  apply List.map_congr_left
  intro t _
  by_cases here : t.name = table
  · simp [here, keeps]
  · simp [here]

/-- A change of one table that leaves the rows alone. -/
theorem Db.Holds.modify {table : String} {f : TableSchema → TableSchema}
    (holds : Db.Holds typed ⟨s, rows⟩) (keeps : ∀ t, (f t).name = t.name)
    (changed : ∀ t ∈ s, t.name = table → t.Holds typed rows → (f t).Holds typed rows) :
    Db.Holds typed ⟨s.modify table f, rows⟩ := by
  constructor
  · intro other unlisted
    rw [names_modify keeps] at unlisted
    exact holds.stored other unlisted
  · intro t' member
    obtain ⟨t, listed, rfl⟩ := List.mem_map.mp member
    by_cases here : t.name = table
    · rw [if_pos here]
      exact changed t listed here (holds.tables t listed)
    · rw [if_neg here]
      exact holds.tables t listed

theorem TableSchema.hasColumn_iff {t : TableSchema} {column : String} :
    t.hasColumn column = true ↔ ∃ c ∈ t.columns, c.name = column := by
  simp [TableSchema.hasColumn]

theorem Db.Holds.createTable {t : TableSchema} (holds : Db.Holds typed ⟨s, rows⟩)
    (fresh : t.name ∉ s.names) : Db.Holds typed ⟨s ++ [t], rows⟩ := by
  have empty : rows t.name = [] := holds.stored t.name fresh
  constructor
  · intro other unlisted
    apply holds.stored other
    intro listed
    exact unlisted (by simp only [Schema.names, List.map_append]; exact List.mem_append_left _ listed)
  · intro other member
    rcases List.mem_append.mp member with listed | new
    · exact holds.tables other listed
    · obtain rfl := List.mem_singleton.mp new
      constructor
      · simp [empty]
      · simp [empty]
      · intro k _
        cases rule : k.rule with
        | primaryKey columns => simp [Rule.Holds, empty, UniqueOn]
        | unique columns => simp [Rule.Holds, empty, UniqueOn]
        | references column target => simp [Rule.Holds, empty]

/-- The new column is NULL in every row. -/
theorem TableSchema.Holds.addColumn {t : TableSchema} {column : String} {type : ColumnType}
    {target : Option String} (holds : t.Holds typed rows) (fresh : t.hasColumn column = false) :
    (t.addColumn column type target).Holds typed rows := by
  have null : ∀ row ∈ rows t.name, row.lookup column = none := by
    intro row member
    rw [List.lookup_eq_none_iff]
    intro kv cell
    have named := holds.shape row member kv cell
    have differ : column ≠ kv.1 := by
      rintro rfl
      simp [fresh] at named
    simpa using differ
  constructor
  · intro row member kv cell
    obtain ⟨c, listed, named⟩ := hasColumn_iff.mp (holds.shape row member kv cell)
    exact hasColumn_iff.mpr ⟨c, List.mem_append_left _ listed, named⟩
  · intro c listed row member
    rcases List.mem_append.mp listed with old | new
    · exact holds.columns c old row member
    · obtain rfl := List.mem_singleton.mp new
      simp [Column.Holds, null row member]
  · intro k listed
    rcases List.mem_append.mp listed with old | new
    · exact holds.rules k old
    · obtain ⟨other, _, rfl⟩ := List.mem_map.mp new
      intro row member cell found
      simp [null row member] at found

theorem TableSchema.Holds.addUnique {t : TableSchema} {name : String} {columns : List String}
    (holds : t.Holds typed rows) (unique : UniqueOn (cells columns) (rows t.name)) :
    (t.addUnique name columns).Holds typed rows := by
  refine ⟨holds.shape, holds.columns, ?_⟩
  intro k listed
  rcases List.mem_append.mp listed with old | new
  · exact holds.rules k old
  · obtain rfl := List.mem_singleton.mp new
    exact unique

theorem TableSchema.Holds.dropConstraint {t : TableSchema} (holds : t.Holds typed rows)
    (name : String) : (t.dropConstraint name).Holds typed rows :=
  ⟨holds.shape, holds.columns, fun k listed => holds.rules k (List.mem_of_mem_filter listed)⟩

theorem Db.Holds.dropIndex (holds : Db.Holds typed ⟨s, rows⟩) (name : String) :
    Db.Holds typed ⟨s.map (.dropIndex name), rows⟩ := by
  constructor
  · intro other unlisted
    apply holds.stored other
    simpa [Schema.names, TableSchema.dropIndex] using unlisted
  · intro t' member
    obtain ⟨t, listed, rfl⟩ := List.mem_map.mp member
    have old := holds.tables t listed
    exact ⟨old.shape, old.columns, old.rules⟩

/-- No foreign key of the schema needs the table. -/
theorem referenced_eq_false {table : String} :
    s.referenced table = false ↔
      ∀ t ∈ s, ∀ k ∈ t.constraints, ∀ column, k.rule ≠ .references column table := by
  simp only [Schema.referenced, List.any_eq_false, Bool.not_eq_true]
  constructor
  · intro none t listed k imposed column rule
    simpa [rule, Rule.targets] using none t listed k imposed
  · intro none t listed k imposed
    cases rule : k.rule with
    | primaryKey | unique => rfl
    | references column target =>
        have other : target ≠ table := by
          rintro rfl
          exact none t listed k imposed column rule
        simpa [Rule.targets] using other

theorem Db.Holds.dropTable {table : String} (holds : Db.Holds typed ⟨s, rows⟩)
    (free : Schema.referenced (s.filter (·.name ≠ table)) table = false) :
    Db.Holds typed ⟨s.filter (·.name ≠ table), fun other =>
      if other = table then [] else rows other⟩ := by
  constructor
  · intro other unlisted
    by_cases here : other = table
    · simp [here]
    · simp only [if_neg here]
      apply holds.stored other
      intro listed
      obtain ⟨t, member, rfl⟩ := List.mem_map.mp listed
      exact unlisted (List.mem_map.mpr ⟨t, by simpa using ⟨member, here⟩, rfl⟩)
  · intro t member
    obtain ⟨listed, kept⟩ := List.mem_filter.mp member
    have differ : t.name ≠ table := by simpa using kept
    have old := holds.tables t listed
    constructor
    · simpa only [if_neg differ] using old.shape
    · simpa only [if_neg differ] using old.columns
    · intro k imposed
      have rule := old.rules k imposed
      have target := referenced_eq_false.mp free t member k imposed
      cases shape : k.rule with
      | primaryKey columns =>
          rw [shape] at rule
          simpa only [Rule.Holds, if_neg differ] using rule
      | unique columns =>
          rw [shape] at rule
          simpa only [Rule.Holds, if_neg differ] using rule
      | references column other =>
          rw [shape] at rule target
          have elsewhere : other ≠ table := fun same => target column (same ▸ rfl)
          simpa only [Rule.Holds, if_neg differ, if_neg elsewhere] using rule

/-- A rule that does not involve the column holds without it. -/
theorem Rule.Holds.dropCells {table column name : String} {rule : Rule}
    (holds : rule.Holds rows name) (spared : name = table → column ∉ rule.columns)
    (target : rule.targets table = true → column ≠ "id") :
    rule.Holds (dropCells table column rows) name := by
  -- a row of any table, with the cells the rule looks at
  have back : ∀ other, ∀ row ∈ Ddl.dropCells table column rows other,
      ∃ old ∈ rows other, row = old ∨ (other = table ∧ row = eraseCell column old) := by
    intro other row member
    by_cases here : other = table
    · simp only [Ddl.dropCells, if_pos here] at member
      obtain ⟨old, stored, rfl⟩ := List.mem_map.mp member
      exact ⟨old, stored, .inr ⟨here, rfl⟩⟩
    · simp only [Ddl.dropCells, if_neg here] at member
      exact ⟨row, member, .inl rfl⟩
  have unique : ∀ columns, (name = table → column ∉ columns) →
      UniqueOn (cells columns) (rows name) →
        UniqueOn (cells columns) (Ddl.dropCells table column rows name) := by
    intro columns spared unique
    by_cases here : name = table
    · simp only [Ddl.dropCells, if_pos here]
      exact (uniqueOn_eraseCell (spared here)).mpr unique
    · simpa only [Ddl.dropCells, if_neg here] using unique
  cases rule with
  | primaryKey columns =>
      refine ⟨unique columns spared holds.1, ?_⟩
      intro row member
      rcases back name row member with ⟨old, stored, rfl | ⟨here, rfl⟩⟩
      · exact holds.2 row stored
      · have kept : column ∉ columns := spared here
        rw [cells_eraseCell old kept]
        exact holds.2 old stored
  | unique columns => exact unique columns spared holds
  | references key other =>
      intro row member cell found
      obtain ⟨old, stored, seen⟩ : ∃ old ∈ rows name, cell ∈ old.lookup key := by
        rcases back name row member with ⟨old, stored, rfl | ⟨here, rfl⟩⟩
        · exact ⟨row, stored, found⟩
        · have differ : key ≠ column := fun same => spared here (by simp [Rule.columns, same])
          rw [lookup_eraseCell old differ] at found
          exact ⟨old, stored, found⟩
      obtain ⟨referred, there, named⟩ := holds old stored cell seen
      by_cases here : other = table
      · have kept : column ≠ "id" := target (by simp [Rule.targets, here])
        refine ⟨eraseCell column referred, ?_, ?_⟩
        · simp only [Ddl.dropCells, if_pos here]
          exact List.mem_map.mpr ⟨referred, there, rfl⟩
        · rw [lookup_eraseCell referred kept.symm, named]
      · exact ⟨referred, by simpa only [Ddl.dropCells, if_neg here] using there, named⟩

theorem mem_eraseCell {column : String} {row : Row β} {kv : String × β} :
    kv ∈ eraseCell column row ↔ kv ∈ row ∧ kv.1 ≠ column := by
  simp [eraseCell]

theorem TableSchema.Holds.dropColumn {t : TableSchema} {column : String}
    (holds : t.Holds typed rows)
    (target : ∀ k ∈ t.constraints, k.rule.targets t.name = true → column ≠ "id") :
    (t.dropColumn column).Holds typed (dropCells t.name column rows) := by
  have mine : ∀ row ∈ dropCells t.name column rows t.name,
      ∃ old ∈ rows t.name, row = eraseCell column old := by
    intro row member
    simp only [dropCells, if_true] at member
    obtain ⟨old, stored, rfl⟩ := List.mem_map.mp member
    exact ⟨old, stored, rfl⟩
  constructor
  · intro row member kv cell
    obtain ⟨old, stored, rfl⟩ := mine row member
    obtain ⟨before, kept⟩ := mem_eraseCell.mp cell
    obtain ⟨c, listed, named⟩ := hasColumn_iff.mp (holds.shape old stored kv before)
    refine hasColumn_iff.mpr ⟨c, List.mem_filter.mpr ⟨listed, ?_⟩, named⟩
    simpa [named] using kept
  · intro c listed row member
    obtain ⟨old, stored, rfl⟩ := mine row member
    obtain ⟨before, kept⟩ := List.mem_filter.mp listed
    have differ : c.name ≠ column := by simpa using kept
    rw [Column.Holds, lookup_eraseCell old differ]
    exact holds.columns c before old stored
  · intro k listed
    obtain ⟨before, kept⟩ := List.mem_filter.mp listed
    have spared : column ∉ k.rule.columns := by simpa using kept
    exact (holds.rules k before).dropCells (fun _ => spared) (target k before)

theorem Db.Holds.dropColumn {table column : String} (holds : Db.Holds typed ⟨s, rows⟩)
    (free : column = "id" → s.referenced table = false) :
    Db.Holds typed ⟨s.modify table (.dropColumn column), dropCells table column rows⟩ := by
  have target : ∀ t ∈ s, ∀ k ∈ t.constraints, k.rule.targets table = true → column ≠ "id" := by
    intro t listed k imposed targets same
    have none := free same
    simp only [Schema.referenced, List.any_eq_false] at none
    exact none t listed (List.any_eq_true.mpr ⟨k, imposed, targets⟩)
  constructor
  · intro other unlisted
    have same : (s.modify table (.dropColumn column)).names = s.names :=
      names_modify fun _ => rfl
    rw [same] at unlisted
    have empty : rows other = [] := holds.stored other unlisted
    simp [dropCells, empty]
  · intro t' member
    obtain ⟨t, listed, rfl⟩ := List.mem_map.mp member
    have old := holds.tables t listed
    by_cases here : t.name = table
    · subst here
      rw [if_pos rfl]
      exact old.dropColumn (target t listed)
    · rw [if_neg here]
      have same : dropCells table column rows t.name = rows t.name := by
        simp only [dropCells, if_neg here]
      constructor
      · simpa only [same] using old.shape
      · simpa only [same] using old.columns
      · intro k imposed
        exact (old.rules k imposed).dropCells (fun mine => absurd mine here)
          (target t listed k imposed)

variable [DecidableEq β]

/-- Every statement that is executed leaves rows that satisfy the new schema. -/
theorem exec_holds {db after : Db β} {statement : Statement} (holds : db.Holds typed)
    (done : exec db statement = some after) : after.Holds typed := by
  obtain ⟨s, rows⟩ := db
  unfold exec at done
  split at done
  · rename_i checked
    obtain ⟨altered, accepted, rfl⟩ := Option.map_eq_some_iff.mp done
    cases statement with
    | createTable t =>
        simp only [Statement.alter, Option.ite_none_left_eq_some, Option.some.injEq] at accepted
        obtain ⟨fresh, rfl⟩ := accepted
        exact holds.createTable fresh
    | addColumn table column type target =>
        simp only [Statement.alter, Option.ite_none_right_eq_some, Option.some.injEq] at accepted
        obtain ⟨⟨_, fresh, _⟩, rfl⟩ := accepted
        exact holds.modify (fun _ => rfl) fun t listed here old => old.addColumn (fresh t listed here)
    | dropColumn table column =>
        simp only [Statement.alter, Option.ite_none_right_eq_some, Option.some.injEq] at accepted
        obtain ⟨⟨_, free⟩, rfl⟩ := accepted
        exact holds.dropColumn free
    | addUnique table name columns =>
        simp only [Statement.alter, Option.ite_none_right_eq_some, Option.some.injEq] at accepted
        obtain ⟨_, rfl⟩ := accepted
        refine holds.modify (fun _ => rfl) ?_
        rintro t _ rfl old
        exact old.addUnique checked
    | dropConstraint table name =>
        simp only [Statement.alter, Option.ite_none_right_eq_some, Option.some.injEq] at accepted
        obtain ⟨_, rfl⟩ := accepted
        exact holds.modify (fun _ => rfl) fun t _ _ old => old.dropConstraint name
    | createIndex table index =>
        simp only [Statement.alter, Option.ite_none_right_eq_some, Option.some.injEq] at accepted
        obtain ⟨_, rfl⟩ := accepted
        exact holds.modify (fun _ => rfl) fun t _ _ old => ⟨old.shape, old.columns, old.rules⟩
    | dropIndex name =>
        obtain rfl := Option.some.inj accepted
        exact holds.dropIndex name
    | dropTable table =>
        simp only [Statement.alter, Option.ite_none_left_eq_some, Option.some.injEq] at accepted
        obtain ⟨free, rfl⟩ := accepted
        exact holds.dropTable (by simpa using free)
  · cases done

/-- A script: the statements in order. -/
def run (db : Db β) (script : List Statement) : Option (Db β) := Transition.run exec db script

theorem run_holds {db after : Db β} {script : List Statement} (holds : db.Holds typed)
    (done : run db script = some after) : after.Holds typed :=
  Transition.run_invariant (fun _ _ _ inv taken => exec_holds inv taken) holds done

/-- What a script makes of a schema. -/
def alter (s : Schema) (script : List Statement) : Option Schema :=
  Transition.run Statement.alter s script

/-- A script that asks nothing of the rows is executed whatever they are. -/
theorem run_of_alter {script : List Statement} {s after : Schema}
    (unchecked : ∀ statement ∈ script, ∀ rows : Contents β, statement.Checks rows)
    (altered : alter s script = some after) (rows : Contents β) :
    run ⟨s, rows⟩ script = some ⟨after, script.foldl Statement.rewrite rows⟩ := by
  induction script generalizing s rows with
  | nil =>
      obtain rfl := Option.some.inj altered
      rfl
  | cons statement script ih =>
      obtain ⟨next, taken, rest⟩ := Transition.run_cons_inv altered
      have here : exec ⟨s, rows⟩ statement = some ⟨next, statement.rewrite rows⟩ := by
        rw [exec, if_pos (unchecked statement List.mem_cons_self rows), taken, Option.map_some]
      rw [run, Transition.run_cons here]
      exact ih (fun other member => unchecked other (List.mem_cons_of_mem _ member)) rest _

end Preservation

end Ddl
