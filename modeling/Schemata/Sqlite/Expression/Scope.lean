import Schemata.Sqlite.Expression
import Schemata.Sqlite.Function

/-!
# What an expression may use

A default has to be constant: it may call any function, but use no column. A check may use the columns
of its table and a computed column the columns beside it, and the functions they call have to be there.
Neither may hold a query or a parameter. A name in quotation marks that is no column is a text.
-/

namespace Schemata.Sqlite

namespace Expression

mutual

/-- Whether an expression can be a default. Truth values are the only names that are constant. -/
def isConstant : Expression → Bool
  | value | zero | decimal | string _ | clock => true
  | name mark text =>
    mark.isNone && (Text.eqIgnoreCase text "true" || Text.eqIgnoreCase text "false")
  | qualified .. | parameter | query | raised => false
  | call _ arguments ordering isWindowed =>
    !isWindowed && areConstant arguments && areConstant ordering
  | collated operand _ => operand.isConstant
  | row items => areConstant items
  | comparison sides => areConstant sides
  | operation operands => areConstant operands

def areConstant : List Expression → Bool
  | [] => true
  | e :: rest => e.isConstant && areConstant rest

end

mutual

/-- Whether an expression can be worked out where a single value is asked for: rows stand only in
comparisons, and nothing is raised. -/
def isScalar : Expression → Bool
  | row _ | raised => false
  | call _ arguments _ _ => areScalar arguments
  | collated operand _ => operand.isScalar
  | comparison sides => areSides sides
  | operation operands => areScalar operands
  | _ => true

def areScalar : List Expression → Bool
  | [] => true
  | e :: rest => e.isScalar && areScalar rest

/-- The same for the sides of a comparison, which may be rows. -/
def areSides : List Expression → Bool
  | [] => true
  | row items :: rest => areScalar items && areSides rest
  | e :: rest => e.isScalar && areSides rest

end

mutual

/-- The names in an expression that may mean columns. -/
def names : Expression → List String
  | name _ text => [text]
  | call _ arguments ordering _ => allNames arguments ++ allNames ordering
  | collated operand _ => operand.names
  | row items => allNames items
  | comparison sides => allNames sides
  | operation operands => allNames operands
  | _ => []

def allNames : List Expression → List String
  | [] => []
  | e :: rest => e.names ++ allNames rest

end

end Expression

/-- Where an expression stands, and the columns that it may use. -/
structure Scope where
  table : String
  columns : List String
  /-- Whether the number of a row can be used like a column. -/
  hasRowNumber : Bool
  /-- Whether results may depend on more than the columns, and tables may qualify them. -/
  isCheck : Bool
deriving Repr, DecidableEq

namespace Scope

/-- The names of the number of a row. -/
def rowNumberNames : List String :=
  ["rowid", "oid", "_rowid_"]

def holdsName (s : Scope) (name : String) : Bool :=
  s.columns.any (Text.eqIgnoreCase name)
    || (s.hasRowNumber && rowNumberNames.any (Text.eqIgnoreCase name))

/-- Whether a call can be made. A likelihood has to be written out. -/
def admitsCall (s : Scope) (function : String) (arguments : List Expression) : Bool :=
  match Function.find? function arguments.length with
  | none => false
  | some f =>
    (s.isCheck || f.isDeterministic)
      && (f.name != "likelihood" || match arguments with
        | [_, .decimal] => true
        | _ => false)

mutual

/-- Whether everything that an expression uses is there. -/
def admits (s : Scope) : Expression → Bool
  | .value | .zero | .decimal | .string _ | .raised => true
  | .name mark text =>
    s.holdsName text || mark == some '"'
      || (mark.isNone && (Text.eqIgnoreCase text "true" || Text.eqIgnoreCase text "false"))
  | .qualified _ table column => s.isCheck && Text.eqIgnoreCase table s.table && s.holdsName column
  | .clock => s.isCheck
  | .parameter | .query => false
  | .call function arguments ordering isWindowed =>
    !isWindowed && ordering.isEmpty && s.admitsCall function arguments && s.admitsAll arguments
  | .collated operand _ => s.admits operand
  | .row items => s.admitsAll items
  | .comparison sides =>
    s.admitsAll sides && sides.all fun e => e.width == (sides.head?.map Expression.width).getD 1
  | .operation operands => s.admitsAll operands

def admitsAll (s : Scope) : List Expression → Bool
  | [] => true
  | e :: rest => s.admits e && s.admitsAll rest

end

end Scope

end Schemata.Sqlite
