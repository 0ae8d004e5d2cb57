/-!
# Expressions of SQLite

What a default, a check or a computed column may consist of, as far as it decides whether a table can be
created: the names and functions that are used, and where several values stand for one. Values and
operators that every place admits are not told apart, and queries are not looked into.
-/

namespace Schemata.Sqlite

inductive Expression where
  /-- A value that is written out. -/
  | value
  /-- The integer zero, with which a conjunction is zero whatever else it holds. -/
  | zero
  | decimal
  | string (text : String)
  /-- A name that nothing qualifies. A name without a mark was not quoted. -/
  | name (mark : Option Char) (text : String)
  /-- A column of a named table, perhaps in a named database. -/
  | qualified (database : Option String) (table column : String)
  | parameter
  /-- The point in time at which the database is asked. -/
  | clock
  | call (function : String) (arguments ordering : List Expression) (isWindowed : Bool)
  | collated (operand : Expression) (collation : String)
  /-- Two or more values in parentheses. -/
  | row (items : List Expression)
  | query
  /-- What only a trigger may do. -/
  | raised
  /-- A comparison, whose sides have to be equally wide. -/
  | comparison (sides : List Expression)
  | operation (operands : List Expression)
deriving Repr

namespace Expression

/-- How many values an expression stands for. -/
def width : Expression → Nat
  | row items => items.length
  | collated operand _ => operand.width
  | _ => 1

/-- The conjunction of two expressions. -/
def conjunction : Expression → Expression → Expression
  | zero, _ => zero
  | _, zero => zero
  | a, b => operation [a, b]

/-- Without the collations around it. -/
def uncollated : Expression → Expression
  | collated operand _ => operand.uncollated
  | e => e

/-- The name of the column that an expression means where it can only be one. -/
def columnName? : Expression → Option String
  | name _ text => some text
  | string text => some text
  | collated operand _ => operand.columnName?
  | _ => none

/-- The collations that an expression is put under, the outer one first. -/
def collations : Expression → List String
  | collated operand collation => collation :: operand.collations
  | _ => []

mutual

/-- The longest way from an expression to one within it. -/
def depth : Expression → Nat
  | call _ arguments ordering _ => max (depths arguments) (depths ordering) + 1
  | collated operand _ => operand.depth + 1
  | row items => depths items + 1
  | comparison sides => depths sides + 1
  | operation operands => depths operands + 1
  | _ => 1

def depths : List Expression → Nat
  | [] => 0
  | e :: rest => max e.depth (depths rest)

end

end Expression

end Schemata.Sqlite
