import Schemata.Sqlite.Expression.Scope
import Schemata.Sqlite.Statement

/-!
# Definitions of tables

When a table can be created as a statement defines it. Column names are distinct up to the case of ASCII
letters; a table has at most one key, which names its columns; defaults are constant, and checks and
computed columns use what is there. A numbered column is one of type `INTEGER` that is the whole key.
Whether another table is referred to that does not exist does not matter yet.
-/

namespace Schemata.Sqlite

/-! ## Columns -/

namespace ColumnDefinition

/-- What a column is worked out from, and how it is stored. -/
def computation? (d : ColumnDefinition) : Option (Expression × Storage) :=
  d.constraints.findSome? fun
    | .computed e storage => some (e, storage)
    | _ => none

def isComputed (d : ColumnDefinition) : Bool :=
  d.computation?.isSome

/-- What a column is worked out from whenever it is asked for. -/
def virtual? (d : ColumnDefinition) : Option Expression :=
  match d.computation? with
  | some (e, .virtual) => some e
  | _ => none

/-- The words of the type, without those that announce a computation. -/
def typeWords (d : ColumnDefinition) : List (List Char) :=
  let upper := d.type.words.map (·.map Char.toUpper)
  if upper.drop (upper.length - 2) = ["GENERATED".toList, "ALWAYS".toList] then
    upper.take (upper.length - 2)
  else upper

/-- Whether the type is the one that row numbers have. -/
def isInteger (d : ColumnDefinition) : Bool :=
  d.typeWords == ["INTEGER".toList] && !d.type.isSized

/-- Whether the type is one that a strict table admits. -/
def isStrict (d : ColumnDefinition) : Bool :=
  !d.type.isSized && ["ANY", "BLOB", "INT", "INTEGER", "REAL", "TEXT"].any fun type =>
    d.typeWords == [type.toList]

/-- The key constraints of a column: whether each is a descending and a numbered one. -/
def keys (d : ColumnDefinition) : List (Bool × Bool) :=
  d.constraints.filterMap fun
    | .primaryKey isDescending isNumbered => some (isDescending, isNumbered)
    | _ => none

/-- How often the value of a column is settled, by a default or a computation. A default may be given
again, but a computed column has nothing else. -/
def isSettledOnce (d : ColumnDefinition) : Bool :=
  !d.isComputed || (d.constraints.filter fun
    | .defaultValue _ => true
    | .computed .. => true
    | _ => false).length == 1

end ColumnDefinition

/-- What a table consists of. -/
structure TableDefinition where
  columns : List ColumnDefinition
  constraints : List TableConstraint
  options : List TableOption
deriving Repr

namespace TableDefinition

def columnNames (t : TableDefinition) : List String :=
  t.columns.map (·.name)

def column? (t : TableDefinition) (name : String) : Option ColumnDefinition :=
  t.columns.find? fun d => Text.eqIgnoreCase d.name name

def hasColumn (t : TableDefinition) (name : String) : Bool :=
  (t.column? name).isSome

/-- The columns that a value can be given for, which are the ones that are shown. -/
def shownColumns (t : TableDefinition) : List String :=
  (t.columns.filter fun d => !d.isComputed).map (·.name)

/-- Whether two names of the list agree up to ASCII case. -/
def hasRepeated : List String → Bool
  | [] => false
  | name :: rest => rest.any (Text.eqIgnoreCase name) || hasRepeated rest

/-- The most columns that a table may have. -/
def maxColumns : Nat :=
  2000

/-! ## Keys -/

def isCollation (name : String) : Bool :=
  ["binary", "nocase", "rtrim"].any (Text.eqIgnoreCase name)

/-- Whether an item of a key is a column, put in some known order. -/
def admitsKeyItem (t : TableDefinition) (item : KeyItem) : Bool :=
  !item.placesNulls && item.expression.collations.all isCollation
    && item.expression.columnName?.any t.hasColumn

/-- A key of a table: the columns, and whether it is descending and numbered. -/
structure Key where
  items : List KeyItem
  isDescending : Bool
  isNumbered : Bool
deriving Repr

/-- The keys that the definition sets. On a column the order matters, in a list of columns it is that of
an index. -/
def keys (t : TableDefinition) : List Key :=
  let ofColumn (d : ColumnDefinition) :=
    d.keys.map fun (isDescending, isNumbered) =>
      ⟨[⟨.name (some '"') d.name, false, false⟩], isDescending, isNumbered⟩
  t.columns.flatMap ofColumn ++ t.constraints.filterMap fun
    | .primaryKey items isNumbered => some ⟨items, false, isNumbered⟩
    | _ => none

/-- Whether a key is the number of the row under another name. -/
def isRowNumber (t : TableDefinition) (k : Key) : Bool :=
  match k.items with
  | [item] => !k.isDescending && (item.expression.columnName?.bind t.column?).any (·.isInteger)
  | _ => false

/-- Whether a key can be set. -/
def admitsKey (t : TableDefinition) (k : Key) : Bool :=
  let columns := k.items.filterMap fun item => item.expression.columnName?.bind t.column?
  columns.all (fun d => !d.isComputed)
    && (if t.isRowNumber k then k.items.all fun item => !item.placesNulls
      else !k.isNumbered && k.items.all t.admitsKeyItem)

/-- Whether some column is numbered. -/
def isNumbered (t : TableDefinition) : Bool :=
  t.keys.any (·.isNumbered)

/-! ## Expressions -/

/-- The scope of the checks and computed columns of a table. -/
def scope (t : TableDefinition) (name : String) (isCheck : Bool) : Scope :=
  ⟨name, t.columnNames, isCheck && !t.options.contains .withoutRowNumber, isCheck⟩

/-- Whether working out a column, when so many columns may be asked in turn, comes to an end. Only
columns that are not stored have to be worked out. -/
def ends (t : TableDefinition) : Nat → Expression → Bool
  | 0, _ => false
  | bound + 1, e =>
    (e.names.filterMap fun name => (t.column? name).bind (·.virtual?)).all (t.ends bound)

/-- Whether a constraint of a column can be met in a table of this name. -/
def admitsColumnConstraint (t : TableDefinition) (name : String) : ColumnConstraint → Bool
  | .defaultValue (.computed e) => e.isConstant
  | .check e => (t.scope name true).admits e
  | .references targets => decide (targets.length ≤ 1)
  | .collation collation => isCollation collation
  | .computed _ .unknown => false
  | .computed e .stored => (t.scope name false).admits e
  | .computed e .virtual =>
    (t.scope name false).admits e && e.isScalar && t.ends (t.columns.length + 1) e
  | _ => true

/-- Whether a table constraint can be met in a table of this name. -/
def admitsConstraint (t : TableDefinition) (name : String) : TableConstraint → Bool
  | .unique items => items.all t.admitsKeyItem
  | .check e => (t.scope name true).admits e
  | .foreignKey columns targets =>
    columns.all t.hasColumn && (targets.isEmpty || targets.length == columns.length)
  | _ => true

/-- Whether the table has what an option asks for. -/
def admitsOption (t : TableDefinition) : TableOption → Bool
  | .withoutRowNumber => !t.keys.isEmpty && !t.isNumbered
  | .strict => t.columns.all (·.isStrict)

/-! ## The whole -/

/-- Whether a table of this name can be created. -/
def isCreatable (t : TableDefinition) (name : String) : Bool :=
  decide (t.columns.length ≤ maxColumns) && !hasRepeated t.columnNames && !t.shownColumns.isEmpty
    && decide (t.keys.length ≤ 1) && t.keys.all t.admitsKey
    && t.columns.all (fun d =>
      d.isSettledOnce && d.constraints.all (t.admitsColumnConstraint name))
    && t.constraints.all (t.admitsConstraint name)
    && t.options.all t.admitsOption

end TableDefinition

end Schemata.Sqlite
