import Schemata.Sqlite.Expression.Reader

/-!
# Statements of SQLite

The statements that a text may hold beside the creation of a table, as far as they matter to the
catalogue, and what the creation of a table consists of. What a statement means is left to the
catalogue; here it only has to be well-formed.
-/

namespace Schemata.Sqlite

/-- What a column gets where no value is given for it. -/
inductive DefaultValue where
  /-- A literal, or a bare name that stands for its text. -/
  | plain
  | computed (e : Expression)
deriving Repr

/-- How a column that is worked out from the others is stored. -/
inductive Storage where
  | virtual
  | stored
  /-- A word that says neither. -/
  | unknown
deriving Repr, DecidableEq

inductive ColumnConstraint where
  /-- A name for the constraint that follows, or for none. -/
  | named
  | defaultValue (value : DefaultValue)
  | null
  | notNull
  | unique
  | primaryKey (isDescending isNumbered : Bool)
  | check (e : Expression)
  /-- A reference to columns of another table, all of its key if none are named. -/
  | references (columns : List String)
  /-- When a reference is checked. -/
  | deferral
  | collation (name : String)
  /-- A column that is worked out from the others. -/
  | computed (e : Expression) (storage : Storage)
deriving Repr

structure ColumnDefinition where
  name : String
  type : TypeName
  constraints : List ColumnConstraint
deriving Repr

/-- An item of a key or an index. -/
structure KeyItem where
  expression : Expression
  isDescending : Bool
  /-- Whether it is said where nulls come. -/
  placesNulls : Bool
deriving Repr

inductive TableConstraint where
  | named
  | primaryKey (items : List KeyItem) (isNumbered : Bool)
  | unique (items : List KeyItem)
  | check (e : Expression)
  | foreignKey (columns targets : List String)
deriving Repr

inductive TableOption where
  | withoutRowNumber
  | strict
deriving Repr, DecidableEq

/-- A name that may say in which database it is. -/
structure ObjectName where
  database : Option String
  name : String
deriving Repr, DecidableEq

structure CreateTable where
  isTemporary : Bool
  ifNotExists : Bool
  name : ObjectName
  columns : List ColumnDefinition
  constraints : List TableConstraint
  options : List TableOption
deriving Repr

structure CreateIndex where
  ifNotExists : Bool
  name : ObjectName
  table : String
  items : List KeyItem
  condition : Option Expression
deriving Repr

inductive Statement where
  | createTable (s : CreateTable)
  | createIndex (s : CreateIndex)
  | dropTable (ifExists : Bool) (name : ObjectName)
  | dropIndex (ifExists : Bool) (name : ObjectName)
  | renameTable (name : ObjectName) (newName : String)
  | addColumn (name : ObjectName) (column : ColumnDefinition)
deriving Repr

end Schemata.Sqlite
