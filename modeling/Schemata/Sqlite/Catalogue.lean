import Schemata.Sqlite.BuiltinTable
import Schemata.Sqlite.Definition
import Schemata.Sqlite.Statement.Reader

/-!
# The catalogue of a SQLite database

The tables and indexes that a database holds. Statements are carried out one after another, and the
first that fails ends the work. The names of tables and indexes are distinct up to the case of ASCII
letters, while the list of tables is searched for the name exactly as it was given. Temporary tables
are in a database of their own, which is searched first and has a list of its own.

Views, triggers and virtual tables are left out. A database is empty when it is opened, and no
statement of a built-in generator creates one; a statement that would is refused here.
-/

namespace Schemata.Sqlite

structure StoredTable where
  name : String
  isTemporary : Bool
  definition : TableDefinition
deriving Repr

structure StoredIndex where
  name : String
  isTemporary : Bool
  table : String
deriving Repr

structure Catalogue where
  /-- In the order of creation. -/
  tables : List StoredTable
  indexes : List StoredIndex
deriving Repr

namespace Catalogue

def empty : Catalogue :=
  ⟨[], []⟩

/-! ## What the catalogue shows -/

/-- Whether the list of tables has this very name. -/
def contains (c : Catalogue) (name : String) : Bool :=
  c.tables.any fun t => t.name == name && !t.isTemporary

/-- The table of a name in the permanent or the temporary database. -/
def findIn? (c : Catalogue) (isTemporary : Bool) (name : String) : Option StoredTable :=
  c.tables.find? fun t => t.isTemporary == isTemporary && Text.eqIgnoreCase t.name name

/-- The table that a name refers to. -/
def find? (c : Catalogue) (name : String) : Option StoredTable :=
  (c.findIn? true name).orElse fun _ => c.findIn? false name

/-- The columns of the table that a name refers to, empty without such a table; none if the question
cannot be answered. -/
def columns? (c : Catalogue) (name : String) : Option (List String) :=
  match c.find? name with
  | some t => some t.definition.shownColumns
  | none =>
    if BuiltinTable.needsArguments name then none else some ((BuiltinTable.columns? name).getD [])

/-! ## Names -/

/-- Names that the database keeps for itself. -/
def isReserved (name : String) : Bool :=
  "sqlite_".toList.isPrefixOf (name.toList.map Char.toLower)

/-- Whether a name says that it is in the temporary database; none if there is no such database. -/
def isTemporaryName? (name : ObjectName) : Option (Option Bool) :=
  match name.database with
  | none => some none
  | some database =>
    if Text.eqIgnoreCase database "main" then some (some false)
    else if Text.eqIgnoreCase database "temp" then some (some true)
    else none

/-- The table that a name refers to, which may say in which database it is. -/
def resolve? (c : Catalogue) (name : ObjectName) : Option StoredTable :=
  match isTemporaryName? name with
  | none => none
  | some none => c.find? name.name
  | some (some isTemporary) => c.findIn? isTemporary name.name

def hasIndex (c : Catalogue) (isTemporary : Bool) (name : String) : Bool :=
  c.indexes.any fun i => i.isTemporary == isTemporary && Text.eqIgnoreCase i.name name

/-! ## Creating tables -/

/-- What the table consists of that counts the rows of numbered columns. -/
def counterDefinition : TableDefinition :=
  ⟨[⟨"name", ⟨[], false⟩, []⟩, ⟨"seq", ⟨[], false⟩, []⟩], [], []⟩

/-- The catalogue with the counting table of a database, which is added once. -/
def withCounter (c : Catalogue) (isTemporary : Bool) : Catalogue :=
  if (c.findIn? isTemporary "sqlite_sequence").isSome then c
  else { c with tables := c.tables ++ [⟨"sqlite_sequence", isTemporary, counterDefinition⟩] }

/-- Carries out a statement that creates a table; none when it fails. -/
def createTable? (c : Catalogue) (s : CreateTable) : Option Catalogue := do
  let named ← isTemporaryName? s.name
  if s.isTemporary ∧ named = some false then none
  let isTemporary := s.isTemporary || named == some true
  let name := s.name.name
  let definition : TableDefinition := ⟨s.columns, s.constraints, s.options⟩
  if isReserved name then none
  else if (c.findIn? isTemporary name).isSome then if s.ifNotExists then some c else none
  else if c.hasIndex isTemporary name ∨ !definition.isCreatable name then none
  else
    let counted := if definition.isNumbered then c.withCounter isTemporary else c
    some { counted with tables := counted.tables ++ [⟨name, isTemporary, definition⟩] }

/-- Carries out a statement that creates an index; none when it fails. -/
def createIndex? (c : Catalogue) (s : CreateIndex) : Option Catalogue := do
  let named ← isTemporaryName? s.name
  let t ← match named with
    | none => c.find? s.table
    | some isTemporary => c.findIn? isTemporary s.table
  let scope := t.definition.scope t.name false
  if isReserved s.name.name ∨ isReserved t.name then none
  else if (c.findIn? t.isTemporary s.name.name).isSome then none
  else if c.hasIndex t.isTemporary s.name.name then if s.ifNotExists then some c else none
  else if s.items.all (fun item => !item.placesNulls
      && item.expression.collations.all TableDefinition.isCollation
      && (item.expression.columnName?.any t.definition.hasColumn || scope.admits item.expression))
      ∧ s.condition.all scope.admits then
    some { c with indexes := c.indexes ++ [⟨s.name.name, t.isTemporary, t.name⟩] }
  else none

/-! ## Dropping and changing -/

/-- Drops a table and its indexes. -/
def dropTable? (c : Catalogue) (ifExists : Bool) (name : ObjectName) : Option Catalogue :=
  match c.resolve? name with
  | none =>
    if ifExists ∧ (BuiltinTable.columns? name.name).isNone then some c else none
  | some t =>
    if isReserved t.name then none
    else some {
      tables := c.tables.filter fun other =>
        !(other.isTemporary == t.isTemporary && other.name == t.name)
      indexes := c.indexes.filter fun i =>
        !(i.isTemporary == t.isTemporary && i.table == t.name) }

def dropIndex? (c : Catalogue) (ifExists : Bool) (name : ObjectName) : Option Catalogue :=
  let isMeant (i : StoredIndex) := Text.eqIgnoreCase i.name name.name
    && (isTemporaryName? name).any fun named => named.all (· == i.isTemporary)
  if c.indexes.any isMeant then some { c with indexes := c.indexes.eraseP isMeant }
  else if ifExists then some c
  else none

/-- Puts a changed table in the place of the one that it was. -/
def replace (c : Catalogue) (old new : StoredTable) : Catalogue where
  tables := c.tables.map fun t =>
    if t.isTemporary == old.isTemporary && t.name == old.name then new else t
  indexes := c.indexes.map fun i =>
    if i.isTemporary == old.isTemporary && i.table == old.name then { i with table := new.name }
    else i

def renameTable? (c : Catalogue) (name : ObjectName) (newName : String) : Option Catalogue := do
  let t ← c.resolve? name
  if isReserved t.name ∨ isReserved newName ∨ (c.findIn? t.isTemporary newName).isSome
      ∨ c.hasIndex t.isTemporary newName then none
  else some (c.replace t { t with name := newName })

/-- Whether a column can be added to a table that is there. -/
def isAddable (d : ColumnDefinition) : Bool :=
  d.keys.isEmpty && !d.constraints.any fun
    | .unique => true
    | _ => false

def addColumn? (c : Catalogue) (name : ObjectName) (d : ColumnDefinition) : Option Catalogue := do
  let t ← c.resolve? name
  let definition := { t.definition with columns := t.definition.columns ++ [d] }
  if isReserved t.name ∨ !isAddable d ∨ !definition.isCreatable t.name then none
  else some (c.replace t { t with definition })

/-! ## Statements -/

/-- Carries out a statement; none when it fails. -/
def perform? (c : Catalogue) : Statement → Option Catalogue
  | .createTable s => c.createTable? s
  | .createIndex s => c.createIndex? s
  | .dropTable ifExists name => c.dropTable? ifExists name
  | .dropIndex ifExists name => c.dropIndex? ifExists name
  | .renameTable name newName => c.renameTable? name newName
  | .addColumn name d => c.addColumn? name d

/-- Carries out the statements of a text in turn; none when one of them fails. -/
def execute? (c : Catalogue) (text : String) : Option Catalogue := do
  let statements ← ((Sqlite.statements (← tokens? text)).filter fun s => !s.isEmpty).mapM
    Statement.ofTokens?
  statements.foldlM perform? c

end Catalogue

end Schemata.Sqlite
