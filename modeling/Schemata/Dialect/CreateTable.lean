import Schemata.Dialect

/-!
# Creating a table

The one statement that creates a table, in any dialect. A single key column is marked where it is
defined and a composite key is a constraint behind the columns; the unique columns outside the key are
collected in one constraint, so it is their combination that is unique. A column that refuses null
has its default behind it, or `NOT NULL` without one; a row version has neither.

Columns are rendered in the order of the statement. The first whose type the dialect cannot express
ends the work, and the warnings of the columns before it are kept.
-/

namespace Schemata

/-- A column type that a dialect cannot express. -/
structure UnsupportedType where
  dialect : String
  table : String
  column : String
  type : String
deriving Repr, DecidableEq

namespace UnsupportedType

def message (e : UnsupportedType) : String :=
  "type `" ++ e.type ++ "` is not supported by the " ++ e.dialect ++ " dialect (column `" ++ e.column
    ++ "` on table `" ++ e.table ++ "`)"

end UnsupportedType

/-- What generating answers, and the warnings it gave on the way. -/
structure Generated (α : Type) where
  warnings : List Warning
  result : Except UnsupportedType α

namespace Generated

def map {α β : Type} (f : α → β) (g : Generated α) : Generated β :=
  ⟨g.warnings, g.result.map f⟩

/-- Continues after a success; the warnings of both parts are kept. -/
def andThen {α β : Type} (g : Generated α) (next : α → Generated β) : Generated β :=
  match g.result with
  | .error e => ⟨g.warnings, .error e⟩
  | .ok a => let h := next a; ⟨g.warnings ++ h.warnings, h.result⟩

end Generated

namespace Dialect

/-- The type as an error names it when an index cannot take its length. -/
def keyTypeText (c : Column) : String :=
  c.type.name ++ "(" ++ toString (c.maxLength.getD 0).toNat ++ ") as key"

/-- The spelled type of a column. -/
def spellColumn (d : Dialect) (t : Table) (c : Column) : Except UnsupportedType Spelling :=
  match d.sqlType c.type with
  | none => .error ⟨d.name, t.name, c.name, c.type.name⟩
  | some type =>
    match type.spell c.maxLength c.isKeyed with
    | none => .error ⟨d.name, t.name, c.name, keyTypeText c⟩
    | some spelling => .ok spelling

/-- What says whether the column takes null. -/
def nullClause (c : Column) : String :=
  if c.nullable || c.isRowVersion then ""
  else match c.defaultValue with
    | some literal => " DEFAULT " ++ literal
    | none => " NOT NULL"

/-- What marks the column as numbered. -/
def numberClause (d : Dialect) (c : Column) : String :=
  match c.autoIncrement.bind d.incrementClause with
  | some clause => " " ++ clause
  | none => ""

/-- The definition of a column with its spelled type; `singleKey` says that one column is the key. -/
def definition (d : Dialect) (singleKey : Bool) (c : Column) (type : String) : String :=
  d.quote c.name ++ " " ++ type
    ++ (if singleKey && c.isPrimaryKey then " " ++ d.keyClause c else "")
    ++ nullClause c ++ d.numberClause c

/-- The warning that a column gives. -/
def warning? (d : Dialect) (t : Table) (singleKey : Bool) (c : Column) : Option Warning :=
  c.autoIncrement.bind fun increment =>
    d.incrementWarning t c increment (singleKey && c.isPrimaryKey)

/-- The definitions of columns, up to the first that cannot be expressed. -/
def definitions (d : Dialect) (t : Table) (singleKey : Bool) :
    List Column → Generated (List String)
  | [] => ⟨[], .ok []⟩
  | c :: rest =>
    match d.spellColumn t c with
    | .error e => ⟨[], .error e⟩
    | .ok spelling =>
      let others := d.definitions t singleKey rest
      ⟨(d.warning? t singleKey c).toList ++ others.warnings,
        others.result.map (d.definition singleKey c spelling.text :: ·)⟩

/-- A constraint over the named columns. -/
def constraint (d : Dialect) (kind : String) (columns : List Column) : String :=
  kind ++ "(" ++ ", ".intercalate (columns.map fun c => d.quote c.name) ++ ")"

/-- The constraint of a composite key. -/
def keyConstraints (d : Dialect) (keys : List Column) : List String :=
  if 1 < keys.length then [d.constraint "PRIMARY KEY" keys] else []

/-- The constraint over the unique columns outside the key. -/
def uniqueConstraints (d : Dialect) (columns : List Column) : List String :=
  let uniques := columns.filter fun c => c.isUnique && !c.isPrimaryKey
  if uniques.isEmpty then [] else [d.constraint "UNIQUE" uniques]

/-- The statement around the parts between its parentheses. -/
def statement (d : Dialect) (t : Table) (parts : List String) : String :=
  d.createClause (d.quote t.name) ++ " (" ++ ", ".intercalate parts ++ ")" ++ d.tableOptions t

/-- The statement that creates a table. -/
def createTable (d : Dialect) (t : Table) : Generated String :=
  let columns := t.orderedColumns
  let keys := columns.filter (·.isPrimaryKey)
  (d.definitions t (keys.length == 1) columns).map fun parts =>
    d.statement t (parts ++ d.keyConstraints keys ++ d.uniqueConstraints columns)

/-- Writes the statement behind a text, piece by piece. The first piece is written when all columns
have their definitions. -/
def writeTable (d : Dialect) (text : String) (t : Table) : Generated Unit × String :=
  let columns := t.orderedColumns
  let keys := columns.filter (·.isPrimaryKey)
  let defined := d.definitions t (keys.length == 1) columns
  match defined.result with
  | .error e => (⟨defined.warnings, .error e⟩, text)
  | .ok parts =>
    let text := text ++ d.createClause (d.quote t.name)
    let text := text ++ " ("
    let text := text
      ++ ", ".intercalate (parts ++ d.keyConstraints keys ++ d.uniqueConstraints columns)
    let text := text ++ ")"
    (⟨defined.warnings, .ok ()⟩, text ++ d.tableOptions t)

end Dialect

end Schemata
