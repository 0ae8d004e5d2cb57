import Schemata.Backend
import Schemata.Proofs.Table.Order

/-!
# Normal forms of tables

Not everything that a column says shows in a statement. `Column.normal` clears what does not: the
default of a column that takes null, the uniqueness of a key column, the length of a type without
lengths, and how the column came by its place and its nullability. `Table.normal` does so for all
columns and declares them in the order of the statement.

`Backend.generate_normal` says that none of this shows: a built-in dialect answers for the normal form
as it does for the table, with the same statement or the same error, and with the same warnings in the
same order. The dialects come in through `Dialect.ReadsNormal`, which holds of whatever a dialect
decides by itself; the common part of a statement is gone through once for all of them.
-/

namespace Schemata

namespace Column

/-- The column without anything that no statement shows. -/
def normal (c : Column) : Column :=
  let nullable := c.nullable || c.isRowVersion
  { c with
    nullable
    defaultValue := if nullable then none else c.defaultValue
    isUnique := c.isUnique && !c.isPrimaryKey
    maxLength := if c.type.isSized then c.maxLength else none
    ordinal := none
    nullableChosen := false }

@[simp] theorem isKeyed_normal (c : Column) : c.normal.isKeyed = c.isKeyed := by
  simp only [isKeyed, normal]
  cases c.isPrimaryKey <;> simp

/-- A row version takes null whatever it says. -/
theorem takesNull_normal (c : Column) :
    (c.normal.nullable || c.normal.isRowVersion) = (c.nullable || c.isRowVersion) := by
  have hrow : c.normal.isRowVersion = c.isRowVersion := rfl
  rw [hrow]
  simp [normal]

theorem defaultValue_normal {c : Column} (h : ¬ (c.nullable || c.isRowVersion) = true) :
    c.normal.defaultValue = c.defaultValue := by
  simp only [normal, if_neg h]

theorem maxLength_normal {c : Column} (h : c.type.isSized = true) :
    c.normal.maxLength = c.maxLength := by
  simp [normal, h]

end Column

namespace Table

/-- The columns in the order of the statement, each in its normal form. -/
def normal (t : Table) : Table :=
  { t with columns := t.orderedColumns.map Column.normal }

theorem orderedColumns_normal (t : Table) :
    t.normal.orderedColumns = t.orderedColumns.map Column.normal := by
  apply orderedColumns_of_ordinal_none
  intro c hc
  obtain ⟨d, -, rfl⟩ := List.mem_map.1 hc
  rfl

end Table

namespace Dialect

/-- What a dialect decides by itself is the same for a table and its normal form. -/
structure ReadsNormal (d : Dialect) : Prop where
  /-- A length shows only in types that have lengths. -/
  sized : ∀ tag type, d.sqlType tag = some (.sized type) → tag.isSized = true
  keyClause : ∀ c, d.keyClause c.normal = d.keyClause c
  incrementWarning : ∀ t c a wholeKey,
    d.incrementWarning t.normal c.normal a wholeKey = d.incrementWarning t c a wholeKey
  tableOptions : ∀ t, d.tableOptions t.normal = d.tableOptions t

/-! ## What is the same in all dialects -/

theorem nullClause_normal (c : Column) : nullClause c.normal = nullClause c := by
  unfold nullClause
  rw [Column.takesNull_normal]
  by_cases h : (c.nullable || c.isRowVersion) = true
  · rw [if_pos h, if_pos h]
  · rw [if_neg h, if_neg h, Column.defaultValue_normal h]

/-- A constraint shows the names of its columns only. -/
theorem constraint_normal (d : Dialect) (kind : String) (cs : List Column) :
    d.constraint kind (cs.map Column.normal) = d.constraint kind cs := by
  unfold constraint
  rw [List.map_map]
  rfl

theorem filter_isPrimaryKey_normal (cs : List Column) :
    (cs.map Column.normal).filter (·.isPrimaryKey)
      = (cs.filter (·.isPrimaryKey)).map Column.normal := by
  rw [List.filter_map]
  rfl

theorem keyConstraints_normal (d : Dialect) (keys : List Column) :
    d.keyConstraints (keys.map Column.normal) = d.keyConstraints keys := by
  unfold keyConstraints
  rw [List.length_map, constraint_normal]

/-- A key column is left out of the unique columns whether or not it is marked unique. -/
theorem uniqueConstraints_normal (d : Dialect) (cs : List Column) :
    d.uniqueConstraints (cs.map Column.normal) = d.uniqueConstraints cs := by
  have hfilter : (cs.map Column.normal).filter (fun c => c.isUnique && !c.isPrimaryKey)
      = (cs.filter fun c => c.isUnique && !c.isPrimaryKey).map Column.normal := by
    have hunique : (fun c : Column => c.isUnique && !c.isPrimaryKey) ∘ Column.normal
        = fun c => c.isUnique && !c.isPrimaryKey := by
      funext c
      simp [Column.normal]
    rw [List.filter_map, hunique]
  unfold uniqueConstraints
  simp only [hfilter, List.isEmpty_map, constraint_normal]

namespace ReadsNormal

variable {d : Dialect} (hd : d.ReadsNormal)

include hd

/-! ## What the dialect decides -/

theorem spellColumn_normal (t : Table) (c : Column) :
    d.spellColumn t.normal c.normal = d.spellColumn t c := by
  have htype : c.normal.type = c.type := rfl
  unfold spellColumn
  rw [htype, Column.isKeyed_normal]
  cases hs : d.sqlType c.type with
  | none => rfl
  | some type =>
    cases type with
    | plain text => rfl
    | sized type =>
      have hlength := Column.maxLength_normal (hd.sized c.type type hs)
      have htext : keyTypeText c.normal = keyTypeText c := by
        simp only [keyTypeText, hlength, htype]
      rw [hlength, htext]
      rfl

theorem definition_normal (singleKey : Bool) (c : Column) (type : String) :
    d.definition singleKey c.normal type = d.definition singleKey c type := by
  unfold definition
  rw [hd.keyClause, nullClause_normal]
  rfl

theorem warning?_normal (t : Table) (singleKey : Bool) (c : Column) :
    d.warning? t.normal singleKey c.normal = d.warning? t singleKey c := by
  have hincrement : c.normal.autoIncrement = c.autoIncrement := rfl
  have hkey : c.normal.isPrimaryKey = c.isPrimaryKey := rfl
  unfold warning?
  rw [hincrement, hkey]
  cases c.autoIncrement with
  | none => rfl
  | some a => exact hd.incrementWarning t c a _

/-- The definitions, up to the first column that cannot be expressed, with the warnings before it. -/
theorem definitions_normal (t : Table) (singleKey : Bool) (cs : List Column) :
    d.definitions t.normal singleKey (cs.map Column.normal) = d.definitions t singleKey cs := by
  induction cs with
  | nil => rfl
  | cons c cs ih =>
    simp only [List.map_cons, definitions]
    rw [hd.spellColumn_normal, ih]
    cases d.spellColumn t c with
    | error e => rfl
    | ok spelling =>
      have hdefinition : d.definition singleKey c.normal spelling.text
          = d.definition singleKey c spelling.text := hd.definition_normal singleKey c _
      simp only [hd.warning?_normal, hdefinition]

theorem statement_normal (t : Table) (parts : List String) :
    d.statement t.normal parts = d.statement t parts := by
  have hname : t.normal.name = t.name := rfl
  unfold statement
  rw [hname, hd.tableOptions]

theorem createTable_normal (t : Table) : d.createTable t.normal = d.createTable t := by
  unfold createTable
  simp only [Table.orderedColumns_normal, filter_isPrimaryKey_normal, List.length_map,
    hd.definitions_normal, keyConstraints_normal, uniqueConstraints_normal, hd.statement_normal]

end ReadsNormal

/-- The seed is that of the first numbered column in the order of the statement. -/
theorem MySql.tableOptions_normal (t : Table) :
    MySql.tableOptions t.normal = MySql.tableOptions t := by
  unfold MySql.tableOptions
  rw [Table.orderedColumns_normal, List.findSome?_map]
  rfl

end Dialect

namespace Backend

/-! ## The built-in dialects -/

theorem isSized_of_sqlType {b : Backend} {tag : TypeTag} {type : SizedType}
    (h : b.dialect.sqlType tag = some (.sized type)) : tag.isSized = true := by
  cases b <;> cases tag <;> first | rfl | cases h

theorem readsNormal (b : Backend) : b.dialect.ReadsNormal where
  sized _ _ h := isSized_of_sqlType h
  keyClause _ := by cases b <;> rfl
  incrementWarning _ _ _ _ := by cases b <;> rfl
  tableOptions t := by
    cases b with
    | sqlServer => rfl
    | mySql => exact Dialect.MySql.tableOptions_normal t
    | sqlite => rfl

/-- **Generation reads the normal form of a table and nothing else.** -/
theorem generate_normal (b : Backend) (t : Table) :
    b.generator.generate t.normal = b.generator.generate t :=
  b.readsNormal.createTable_normal t

end Backend

end Schemata
