import Schemata.Column.Setting
import Schemata.Naming
import Schemata.Selector

/-!
# Schemas

A schema collects the tables that are declared for entities. Tables and columns are referred to by
handles. A column's name is derived from its member, its markers are applied, then the settings it is
declared with; only the name that results is compared with the table's other columns. A declaration
that fails leaves the schema as it was, except that `Schema.withEntityColumns` keeps the columns it
added before the member that failed.
-/

namespace Schemata

/-- A declared table and the entity it was declared for. -/
structure TableHandle where
  entity : Entity
  index : Nat
deriving Repr, DecidableEq

/-- The handle as diagnostics show it. -/
def TableHandle.describe (h : TableHandle) : String :=
  "TableHandle(" ++ toString h.index ++ ")"

/-- A declared column: its table, and its place among that table's columns. -/
structure ColumnHandle where
  table : Nat
  column : Nat
deriving Repr, DecidableEq

structure Schema where
  naming : Naming
  /-- In declaration order. -/
  tables : List Table
deriving DecidableEq

namespace Schema

/-- A schema without tables. -/
def empty (naming : Naming) : Schema :=
  ⟨naming, []⟩

/-- Changes the convention for names derived from now on. -/
def withNaming (s : Schema) (naming : Naming) : Schema :=
  { s with naming }

/-- The name of a table declared for an entity without an explicit name. -/
def derivedTableName (naming : Naming) (e : Entity) : String :=
  e.tableName.getD (naming.apply e.typeName)

def push (s : Schema) (e : Entity) (name : String) : TableHandle × Schema :=
  (⟨e, s.tables.length⟩, { s with tables := s.tables ++ [⟨name, []⟩] })

/-- Declares a table for an entity. Each call declares another table. -/
def defineTable (s : Schema) (e : Entity) : TableHandle × Schema :=
  s.push e (derivedTableName s.naming e)

/-- Declares a table for an entity under an explicit name. -/
def defineTableAs (s : Schema) (e : Entity) (name : String) : TableHandle × Schema :=
  s.push e name

def table? (s : Schema) (h : TableHandle) : Option Table :=
  s.tables[h.index]?

def column? (s : Schema) (h : ColumnHandle) : Option Column :=
  s.tables[h.table]?.bind fun t => t.columns[h.column]?

/-- Whether some column of the table has this name, ASCII case ignored. -/
def hasName (columns : List Column) (name : String) : Bool :=
  columns.any (·.isNamed name)

/-- Replaces the columns of one table. -/
def setColumns (s : Schema) (index : Nat) (columns : List Column) : Schema :=
  { s with tables := s.tables.modify index fun t => { t with columns } }

/-- The column that a selection declares. -/
def newColumn (naming : Naming) (selection : Selection) (marked : Option Member)
    (settings : List Setting) : Column :=
  ((Column.plain (naming.apply selection.member) selection.type).configure
    (marked.map Member.settings |>.getD [])).configure settings

/-- Appends a column to a table unless its name is taken. -/
def append (s : Schema) (index : Nat) (column : Column) :
    Except DeclarationError (ColumnHandle × Schema) :=
  match s.tables[index]? with
  | none => .error .foreignHandle
  | some t =>
    if hasName t.columns column.name then .error (.duplicateColumn t.name column.name)
    else .ok (⟨index, t.columns.length⟩, s.setColumns index (t.columns ++ [column]))

/-- Declares the column that a selector selects, with its member's markers and then the settings. -/
def withColumn (s : Schema) (h : TableHandle) (selector : Selector) (settings : List Setting) :
    Except DeclarationError (ColumnHandle × Schema) :=
  match s.table? h with
  | none => .error .foreignHandle
  | some t => do
    let selection ← selector.resolve h.entity t.name
    s.append h.index
      (newColumn s.naming selection (h.entity.member? selection.member) settings)

/-- Declares the column of one member from its markers alone. -/
def withMember (s : Schema) (index : Nat) (m : Member) :
    Except DeclarationError (ColumnHandle × Schema) := do
  let type ← TypeTag.ofFieldType m.typeText
  s.append index (newColumn s.naming ⟨m.name, type⟩ (some m) [])

/-- Declares the columns of the members, up to the first that fails. -/
def withMembers (s : Schema) (index : Nat) :
    List Member → Except DeclarationError (List ColumnHandle) × Schema
  | [] => (.ok [], s)
  | m :: rest =>
    match s.withMember index m with
    | .error e => (.error e, s)
    | .ok (h, s') =>
      let (handles, s'') := s'.withMembers index rest
      (handles.map (h :: ·), s'')

/-- Declares a column for every member of the table's entity. -/
def withEntityColumns (s : Schema) (h : TableHandle) :
    Except DeclarationError (List ColumnHandle) × Schema :=
  s.withMembers h.index h.entity.members

/-- Applies further settings to a declared column. A new name must differ from those of the table's
other columns. -/
def configure (s : Schema) (h : ColumnHandle) (settings : List Setting) :
    Except DeclarationError Schema :=
  match s.tables[h.table]? with
  | none => .error .foreignHandle
  | some t =>
    match t.columns[h.column]? with
    | none => .error .foreignHandle
    | some c =>
      let column := c.configure settings
      if hasName (t.columns.eraseIdx h.column) column.name then
        .error (.duplicateColumn t.name column.name)
      else .ok (s.setColumns h.table (t.columns.set h.column column))

end Schema

end Schemata
