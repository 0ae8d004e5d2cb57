/-!
# Entities

An entity is a record type that can be declared as a table: its name, the table name its markers give,
and its members with the markers each one carries. A member's markers configure its column before any
explicit setting does.
-/

namespace Schemata

structure Member where
  name : String
  /-- The type as it is written in the declaration. -/
  typeText : String
  /-- A column name in place of the derived one. -/
  columnName : Option String
  isPrimaryKey : Bool
  isUnique : Bool
  maxLength : Option UInt32
  isRowVersion : Bool
deriving Repr, DecidableEq

namespace Member

/-- A member without markers. -/
def plain (name typeText : String) : Member where
  name := name
  typeText := typeText
  columnName := none
  isPrimaryKey := false
  isUnique := false
  maxLength := none
  isRowVersion := false

end Member

structure Entity where
  typeName : String
  /-- A table name in place of the derived one. -/
  tableName : Option String
  /-- In declaration order. -/
  members : List Member
deriving Repr, DecidableEq

namespace Entity

/-- The first member of this name. -/
def member? (e : Entity) (name : String) : Option Member :=
  e.members.find? fun m => m.name == name

end Entity

end Schemata
