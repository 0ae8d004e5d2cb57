import Schemata.TypeTag

/-!
# Tables

The dialect-neutral description of a table: its name and its columns in declaration order. A column may
name its position with an explicit ordinal; `Table.orderedColumns` is the order in which the columns
of a statement appear, and `Table.primaryKey` the key columns in that order.
-/

namespace Schemata

/-- Start and increment of a column that numbers its rows. -/
structure AutoIncrement where
  seed : Int64
  step : Int64
deriving DecidableEq

namespace AutoIncrement

/-- Counting from one in steps of one. -/
def standard : AutoIncrement :=
  ⟨1, 1⟩

end AutoIncrement

structure Column where
  name : String
  type : TypeTag
  nullable : Bool
  isPrimaryKey : Bool
  /-- Without effect on a key column. -/
  isUnique : Bool
  /-- An SQL literal that is written as it stands. -/
  defaultValue : Option String
  maxLength : Option UInt32
  autoIncrement : Option AutoIncrement
  /-- The explicit position; without one the column stands where it was declared. -/
  ordinal : Option UInt64
  /-- Whether nullability was chosen, so that the primary key does not decide it. -/
  nullableChosen : Bool
deriving DecidableEq

namespace Column

/-- A nullable column without constraints. -/
def plain (name : String) (type : TypeTag) : Column where
  name := name
  type := type
  nullable := true
  isPrimaryKey := false
  isUnique := false
  defaultValue := none
  maxLength := none
  autoIncrement := none
  ordinal := none
  nullableChosen := false

def isRowVersion (c : Column) : Bool :=
  c.type == .rowVersion

/-- Whether the column belongs to an index: it is part of the key, or unique. -/
def isKeyed (c : Column) : Bool :=
  c.isPrimaryKey || c.isUnique

/-- Whether the column's name is `name`, ASCII case ignored. -/
def isNamed (name : String) (c : Column) : Bool :=
  Text.eqIgnoreCase c.name name

end Column

structure Table where
  name : String
  /-- In declaration order. -/
  columns : List Column
deriving DecidableEq

namespace Table

/-- What a column declared at an index is sorted by: its position, and at equal positions an explicit
ordinal first. -/
def sortKey (c : Column × Nat) : Nat × Bool :=
  ((c.1.ordinal.map UInt64.toNat).getD c.2, c.1.ordinal.isNone)

/-- Whether the first of two columns may stand before the second. -/
def mayPrecede (a b : Column × Nat) : Bool :=
  let p := sortKey a
  let q := sortKey b
  decide (p.1 < q.1) || (p.1 == q.1 && (!p.2 || q.2))

/-- The columns in the order of a statement. Columns that tie keep their declaration order. -/
def orderedColumns (t : Table) : List Column :=
  (t.columns.zipIdx.mergeSort mayPrecede).map (·.1)

theorem orderedColumns_perm (t : Table) : t.orderedColumns.Perm t.columns := by
  have hperm := (List.mergeSort_perm t.columns.zipIdx mayPrecede).map Prod.fst
  rwa [List.zipIdx_map_fst] at hperm

theorem mem_of_mem_orderedColumns {t : Table} {c : Column} (h : c ∈ t.orderedColumns) :
    c ∈ t.columns :=
  t.orderedColumns_perm.mem_iff.1 h

/-- Columns that stand in order stay where they were declared. -/
theorem orderedColumns_of_pairwise {t : Table}
    (h : t.columns.zipIdx.Pairwise (mayPrecede · ·)) : t.orderedColumns = t.columns := by
  rw [orderedColumns, List.mergeSort_of_pairwise h, List.zipIdx_map_fst]

/-- The columns of the primary key, in the order of a statement. -/
def primaryKey (t : Table) : List Column :=
  t.orderedColumns.filter (·.isPrimaryKey)

/-- The columns that mark the version of a row, in declaration order. -/
def rowVersions (t : Table) : List Column :=
  t.columns.filter (·.isRowVersion)

/-- The first column of this name, ASCII case ignored. -/
def column? (t : Table) (name : String) : Option Column :=
  t.columns.find? (·.isNamed name)

end Table

end Schemata
