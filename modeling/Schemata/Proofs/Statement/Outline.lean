import Schemata.Backend

/-!
# Outlines

What a statement that creates a table says about it: the table's name, the name and type of each column
and whether it refuses null, the names of the key, and the names whose combination is unique.

`Outline.ofTable` takes the outline from a table, column by column in the order of the statement.
`Outline.read` takes it from the text of a statement. The reader knows how a backend quotes names and
which words stand behind a type; it knows neither the table nor the types a backend has. A quoted name
is read by `Text.Quoted.scan`, so nothing inside a name counts as punctuation.
-/

namespace Schemata

/-- What the definition of a column says. -/
structure ColumnOutline where
  name : String
  type : String
  notNull : Bool
deriving Repr, DecidableEq

/-- What a statement says about the table it creates. -/
structure Outline where
  table : String
  columns : List ColumnOutline
  key : List String
  unique : List String
deriving Repr, DecidableEq

/-- Whether a column's definition has to say something about null. -/
def Column.refusesNull (c : Column) : Bool :=
  !c.nullable && !c.isRowVersion

/-- No column that has to say something about null says it with a default. -/
def Table.PrintsNoDefault (t : Table) : Prop :=
  ∀ c ∈ t.columns, c.refusesNull = true → c.defaultValue = none

/-- The unique columns outside the key, in the order of a statement. -/
def Table.uniqueColumns (t : Table) : List Column :=
  t.orderedColumns.filter fun c => c.isUnique && !c.isPrimaryKey

namespace Outline

/-- What the definition of a column says, its type spelled as given. -/
def ofColumn (c : Column) (type : Spelling) : ColumnOutline :=
  ⟨c.name, type.text, c.refusesNull⟩

/-- The outline of a table in the dialect of a backend, if the dialect can express its types. -/
def ofTable (b : Backend) (t : Table) : Except UnsupportedType Outline := do
  let columns ← t.orderedColumns.mapM fun c => (b.dialect.spellColumn t c).map (ofColumn c)
  return {
    table := t.name
    columns
    key := t.primaryKey.map (·.name)
    unique := t.uniqueColumns.map (·.name) }

/-! ## Reading -/

/-- A part of what stands between the outer parentheses. -/
inductive Part where
  /-- The definition of a column; the flag says whether it is marked as the key. -/
  | column (column : ColumnOutline) (isKey : Bool)
  | key (names : List String)
  | unique (names : List String)
deriving Repr, DecidableEq

/-- Reads a fixed text. -/
def expect (text : String) (cs : List Char) : Option (List Char) :=
  if text.toList.isPrefixOf cs then some (cs.drop text.toList.length) else none

/-- Reads a quoted name. -/
def readName (b : Backend) : List Char → Option (String × List Char)
  | [] => none
  | c :: cs =>
    if c = b.dialect.openQuote then
      (Text.Quoted.scan b.dialect.closeQuote cs).map fun r => (String.ofList r.1, r.2)
    else none

/-- Reads items behind commas up to the closing parenthesis; `bound` is at least their number. -/
def readItems {α : Type} (item : List Char → Option (α × List Char)) :
    Nat → List Char → Option (List α × List Char)
  | 0, _ => none
  | bound + 1, cs =>
    match item cs with
    | some (x, ')' :: rest) => some ([x], rest)
    | some (x, ',' :: ' ' :: rest) => (readItems item bound rest).map fun r => (x :: r.1, r.2)
    | _ => none

/-- How many parentheses are open behind a character. -/
def nest (depth : Nat) (c : Char) : Nat :=
  if c = '(' then depth + 1 else if c = ')' then depth - 1 else depth

/-- Takes the text up to a comma or closing parenthesis that no parenthesis of the text encloses. -/
def takeEnclosed : Nat → List Char → List Char × List Char
  | _, [] => ([], [])
  | depth, c :: cs =>
    if depth = 0 ∧ (c = ',' ∨ c = ')') then ([], c :: cs)
    else
      let r := takeEnclosed (nest depth c) cs
      (c :: r.1, r.2)

/-- How words begin that stand behind the type of a column. -/
def clauseStarts : List String :=
  ["PRIMARY", "NOT", "AUTO_INCREMENT", "IDENTITY("]

/-- Whether a word begins what stands behind the type of a column. -/
def isClauseWord (word : List Char) : Bool :=
  clauseStarts.any fun start => start.toList.isPrefixOf word

/-- What the words behind the name of a column say. -/
def ofWords (name : String) (words : List (List Char)) : Part :=
  let type := words.takeWhile fun word => !isClauseWord word
  let clauses := words.dropWhile fun word => !isClauseWord word
  .column ⟨name, String.ofList ([' '].intercalate type), clauses.contains "NOT".toList⟩
    (clauses.contains "PRIMARY".toList)

/-- Reads the definition of a column. -/
def readColumn (b : Backend) (cs : List Char) : Option (Part × List Char) := do
  let (name, cs) ← readName b cs
  let cs ← expect " " cs
  let (words, cs) := takeEnclosed 0 cs
  return (ofWords name (Text.splitAll ' ' words), cs)

/-- Reads a constraint over names. -/
def readConstraint (b : Backend) (kind : String) (cs : List Char) :
    Option (List String × List Char) := do
  let cs ← expect (kind ++ "(") cs
  readItems (readName b) cs.length cs

/-- Reads the definition of a column or a constraint. -/
def readPart (b : Backend) (cs : List Char) : Option (Part × List Char) :=
  if cs.head? = some b.dialect.openQuote then readColumn b cs
  else match readConstraint b "PRIMARY KEY" cs with
    | some (names, rest) => some (.key names, rest)
    | none => (readConstraint b "UNIQUE" cs).map fun r => (.unique r.1, r.2)

/-- Reads what stands before the opening parenthesis, for the name of the table. -/
def readCreate : Backend → List Char → Option (String × List Char)
  | .sqlServer, cs => do
    let cs ← expect "IF OBJECT_ID(N'" cs
    let (_, cs) ← Text.Quoted.scan '\'' cs
    let cs ← expect ", N'U') IS NULL CREATE TABLE " cs
    readName .sqlServer cs
  | b, cs => do
    let cs ← expect "CREATE TABLE IF NOT EXISTS " cs
    readName b cs

/-- The outline that the parts make: columns, then at most one constraint of each kind. -/
def ofParts (table : String) : List Part → Option Outline
  | [] => some ⟨table, [], [], []⟩
  | [.key names] => some ⟨table, [], names, []⟩
  | [.unique names] => some ⟨table, [], [], names⟩
  | [.key key, .unique unique] => some ⟨table, [], key, unique⟩
  | .column c isKey :: parts =>
    (ofParts table parts).map fun o =>
      { o with columns := c :: o.columns, key := if isKey then c.name :: o.key else o.key }
  | _ => none

/-- Reads the parts up to the closing parenthesis. -/
def readParts (b : Backend) : List Char → Option (List Part × List Char)
  | ')' :: rest => some ([], rest)
  | cs => readItems (readPart b) cs.length cs

/-- Reads the statement that creates a table. What stands behind the closing parenthesis are options
of the table. -/
def read (b : Backend) (text : String) : Option Outline := do
  let (table, cs) ← readCreate b text.toList
  let cs ← expect " (" cs
  let (parts, _) ← readParts b cs
  ofParts table parts

end Outline

end Schemata
