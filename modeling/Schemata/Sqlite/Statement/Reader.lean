import Schemata.Sqlite.Statement

/-!
# Reading statements

The grammar of column definitions, table constraints and table options, and of the shorter statements.
Each reader takes what it reads off the front of the tokens and returns the rest. Lists are read with a
bound of the number of tokens, since each item takes at least one.
-/

namespace Schemata.Sqlite

/-! ## Column constraints -/

/-- Drops a literal. -/
def readTerm : List Token → Option (List Token)
  | .parameter _ :: _ => none
  | .string _ :: rest => some rest
  | tokens => (readValue? tokens).map (·.2)

/-- Reads the value of a default. -/
def readDefault : List Token → Option (DefaultValue × List Token)
  | [] => none
  | t :: rest =>
    if t = .symbol "(" then (readEnclosed rest).map fun (e, rest) => (.computed e, rest)
    else if t = .symbol "+" ∨ t = .symbol "-" then (readTerm rest).map (.plain, ·)
    else match readTerm (t :: rest) with
      | some rest => some (.plain, rest)
      | none =>
        if t.plainName?.isSome ∨ t.isKeyword "INDEXED" then some (.plain, rest) else none

/-- Drops what to do on a conflict, if it is said. -/
def readConflict (tokens : List Token) : Option (List Token) :=
  match readKeywords ["ON", "CONFLICT"] tokens with
  | none => if startWith ["ON"] tokens then none else some tokens
  | some rest => readOneOf ["ROLLBACK", "ABORT", "FAIL", "IGNORE", "REPLACE"] rest

/-- Drops a sort order, and says whether it is a descending one. -/
def readOrder (tokens : List Token) : Bool × List Token :=
  match readKeywords ["DESC"] tokens with
  | some rest => (true, rest)
  | none => (false, behindKeywords ["ASC"] tokens)

/-- Drops a keyword and says whether it was there. -/
def readFlag (keywords : List String) (tokens : List Token) : Bool × List Token :=
  (startWith keywords tokens, behindKeywords keywords tokens)

/-- Reads plain column names up to the closing parenthesis. -/
def readColumnNames : Nat → List Token → Option (List String × List Token)
  | 0, _ => none
  | bound + 1, tokens => do
    let (name, rest) ← readName tokens
    match readSymbol "," rest with
    | some rest => do
      let (names, rest) ← readColumnNames bound rest
      return (name :: names, rest)
    | none => return ([name], ← readSymbol ")" rest)

/-- Reads column names in parentheses, if they are there. -/
def readTargets (tokens : List Token) : Option (List String × List Token) :=
  match readSymbol "(" tokens with
  | some rest => readColumnNames rest.length rest
  | none => some ([], tokens)

/-- Drops what a reference does when the row that it refers to changes. -/
def readAction (tokens : List Token) : Option (List Token) :=
  match readKeywords ["SET"] tokens, readKeywords ["NO", "ACTION"] tokens with
  | some rest, _ => readOneOf ["NULL", "DEFAULT"] rest
  | none, some rest => some rest
  | none, none => readOneOf ["CASCADE", "RESTRICT"] tokens

/-- Drops the clauses of a reference. -/
def readReferenceClauses : Nat → List Token → Option (List Token)
  | 0, tokens => some tokens
  | bound + 1, tokens =>
    match readKeywords ["ON"] tokens, readKeywords ["MATCH"] tokens with
    | some rest, _ => do
      readReferenceClauses bound (← readAction (← readOneOf ["INSERT", "DELETE", "UPDATE"] rest))
    | none, some rest => (readName rest).bind fun r => readReferenceClauses bound r.2
    | none, none => some tokens

/-- Reads a reference behind its keyword. -/
def readReference (tokens : List Token) : Option (List String × List Token) := do
  let (_, rest) ← readName tokens
  let (targets, rest) ← readTargets rest
  return (targets, ← readReferenceClauses rest.length rest)

/-- Drops the rest of a deferral. -/
def readInitially (tokens : List Token) : Option (List Token) :=
  match readKeywords ["INITIALLY"] tokens with
  | some rest => readOneOf ["DEFERRED", "IMMEDIATE"] rest
  | none => some tokens

/-- Drops a deferral, if there is one. -/
def readDeferral? (tokens : List Token) : Option (List Token) :=
  match readKeywords ["NOT", "DEFERRABLE"] tokens, readKeywords ["DEFERRABLE"] tokens with
  | some rest, _ => readInitially rest
  | none, some rest => readInitially rest
  | none, none => none

/-- Reads what a column is worked out from, and how it is stored. -/
def readComputed (tokens : List Token) : Option (ColumnConstraint × List Token) := do
  let (e, rest) ← readEnclosed (← readSymbol "(" tokens)
  match rest with
  | t :: behind =>
    if t.isKeyword "VIRTUAL" then return (.computed e .virtual, behind)
    if t.isKeyword "STORED" then return (.computed e .stored, behind)
    if t.plainName?.isSome then return (.computed e .unknown, behind)
    return (.computed e .virtual, rest)
  | [] => return (.computed e .virtual, rest)

/-- Reads the key constraint of a column behind its first keyword. -/
def readColumnKey (tokens : List Token) : Option (ColumnConstraint × List Token) := do
  let (isDescending, rest) := readOrder (← readKeywords ["KEY"] tokens)
  let (isNumbered, rest) := readFlag ["AUTOINCREMENT"] (← readConflict rest)
  return (.primaryKey isDescending isNumbered, rest)

/-- Reads one column constraint. -/
def readColumnConstraint : List Token → Option (ColumnConstraint × List Token)
  | [] => none
  | t :: rest =>
    if t.isKeyword "CONSTRAINT" then (readName rest).map fun r => (.named, r.2)
    else if t.isKeyword "DEFAULT" then
      (readDefault rest).map fun (value, rest) => (.defaultValue value, rest)
    else if t.isKeyword "NULL" then (readConflict rest).map (.null, ·)
    else if startWith ["NULL"] rest ∧ t.isKeyword "NOT" then
      (readConflict (rest.drop 1)).map (.notNull, ·)
    else if t.isOneOf ["NOT", "DEFERRABLE"] then (readDeferral? (t :: rest)).map (.deferral, ·)
    else if t.isKeyword "UNIQUE" then (readConflict rest).map (.unique, ·)
    else if t.isKeyword "PRIMARY" then readColumnKey rest
    else if t.isKeyword "CHECK" then
      ((readSymbol "(" rest).bind readEnclosed).map fun (e, rest) => (.check e, rest)
    else if t.isKeyword "REFERENCES" then
      (readReference rest).map fun (targets, rest) => (.references targets, rest)
    else if t.isKeyword "COLLATE" then
      match rest with
      | .string text :: rest => some (.collation (String.ofList text), rest)
      | t :: rest => t.plainName?.map fun text => (.collation (String.ofList text), rest)
      | [] => none
    else if t.isKeyword "GENERATED" then (readKeywords ["ALWAYS", "AS"] rest).bind readComputed
    else if t.isKeyword "AS" then readComputed rest
    else none

/-- Reads column constraints up to the end of the column. -/
def readColumnConstraints : Nat → List Token → Option (List ColumnConstraint × List Token)
  | 0, tokens => if tokens.isEmpty then some ([], []) else none
  | bound + 1, tokens =>
    if tokens.isEmpty ∨ tokens.head? = some (.symbol ",") ∨ tokens.head? = some (.symbol ")") then
      some ([], tokens)
    else do
      let (constraint, rest) ← readColumnConstraint tokens
      let (constraints, rest) ← readColumnConstraints bound rest
      return (constraint :: constraints, rest)

def readColumn (tokens : List Token) : Option (ColumnDefinition × List Token) := do
  let (name, rest) ← readName tokens
  let (type, rest) ← readTypeName rest
  let (constraints, rest) ← readColumnConstraints rest.length rest
  return (⟨name, type, constraints⟩, rest)

/-! ## Table constraints -/

/-- Reads the items of a key or an index. -/
def readKeyItems : Nat → List Token → Option (List KeyItem × List Token)
  | 0, _ => none
  | bound + 1, tokens => do
    let (e, rest) ← readExpression tokens
    let (isDescending, rest) := readOrder rest
    let (placesNulls, rest) ← match readKeywords ["NULLS"] rest with
      | some rest => (readOneOf ["FIRST", "LAST"] rest).map (true, ·)
      | none => some (false, rest)
    let item : KeyItem := ⟨e, isDescending, placesNulls⟩
    match readSymbol "," rest with
    | some rest => do
      let (items, rest) ← readKeyItems bound rest
      return (item :: items, rest)
    | none => return ([item], rest)

/-- Reads the items of a key behind its keywords. -/
def readKey (tokens : List Token) : Option ((List KeyItem × Bool) × List Token) := do
  let rest ← readSymbol "(" tokens
  let (items, rest) ← readKeyItems rest.length rest
  let (isNumbered, rest) := readFlag ["AUTOINCREMENT"] rest
  return ((items, isNumbered), ← readConflict (← readSymbol ")" rest))

/-- Reads one table constraint. -/
def readTableConstraint : List Token → Option (TableConstraint × List Token)
  | [] => none
  | t :: rest =>
    if t.isKeyword "CONSTRAINT" then (readName rest).map fun r => (.named, r.2)
    else if t.isKeyword "PRIMARY" then do
      let ((items, isNumbered), rest) ← readKey (← readKeywords ["KEY"] rest)
      return (.primaryKey items isNumbered, rest)
    else if t.isKeyword "UNIQUE" then do
      let ((items, isNumbered), rest) ← readKey rest
      if isNumbered then none else return (.unique items, rest)
    else if t.isKeyword "CHECK" then do
      let (e, rest) ← readEnclosed (← readSymbol "(" rest)
      return (.check e, ← readConflict rest)
    else if t.isKeyword "FOREIGN" then do
      let rest ← readSymbol "(" (← readKeywords ["KEY"] rest)
      let (columns, rest) ← readColumnNames rest.length rest
      let (targets, rest) ← readReference (← readKeywords ["REFERENCES"] rest)
      if startWith ["NOT"] rest ∨ startWith ["DEFERRABLE"] rest then
        return (.foreignKey columns targets, ← readDeferral? rest)
      return (.foreignKey columns targets, rest)
    else none

/-- Whether a table constraint begins here. -/
def startsConstraint : List Token → Bool
  | t :: _ => t.isOneOf ["CONSTRAINT", "PRIMARY", "UNIQUE", "CHECK", "FOREIGN"]
  | [] => false

/-- Reads table constraints up to the closing parenthesis. The commas between them may be left out. -/
def readTableConstraints : Nat → List Token → Option (List TableConstraint × List Token)
  | 0, _ => none
  | bound + 1, tokens => do
    let (constraint, rest) ← readTableConstraint tokens
    match readSymbol ")" rest with
    | some rest => return ([constraint], rest)
    | none => do
      let (constraints, rest) ← readTableConstraints bound ((readSymbol "," rest).getD rest)
      return (constraint :: constraints, rest)

/-- Reads column definitions, and the constraints behind them, up to the closing parenthesis. -/
def readDefinitions : Nat → List Token →
    Option ((List ColumnDefinition × List TableConstraint) × List Token)
  | 0, _ => none
  | bound + 1, tokens => do
    let (column, rest) ← readColumn tokens
    match readSymbol "," rest with
    | none => return (([column], []), ← readSymbol ")" rest)
    | some rest =>
      if startsConstraint rest then do
        let (constraints, rest) ← readTableConstraints rest.length rest
        return (([column], constraints), rest)
      else do
        let ((columns, constraints), rest) ← readDefinitions bound rest
        return ((column :: columns, constraints), rest)

/-- Reads one table option. -/
def readTableOption (tokens : List Token) : Option (TableOption × List Token) :=
  match readKeywords ["WITHOUT", "ROWID"] tokens, readKeywords ["STRICT"] tokens with
  | some rest, _ => some (.withoutRowNumber, rest)
  | none, some rest => some (.strict, rest)
  | none, none => none

/-- Reads the options of a table up to the end of the statement. -/
def readTableOptions : Nat → List Token → Option (List TableOption)
  | 0, tokens => if tokens.isEmpty then some [] else none
  | bound + 1, tokens => do
    let (option, rest) ← readTableOption tokens
    if rest.isEmpty then return [option]
    return option :: (← readTableOptions bound (← readSymbol "," rest))

/-! ## Statements -/

/-- Reads a name that may say in which database it is. -/
def readObjectName (tokens : List Token) : Option (ObjectName × List Token) := do
  let (name, rest) ← readName tokens
  match readSymbol "." rest with
  | none => return (⟨none, name⟩, rest)
  | some rest => do
    let (second, rest) ← readName rest
    return (⟨some name, second⟩, rest)

/-- Reads the creation of a table behind its keywords. -/
def readCreateTable (isTemporary : Bool) (tokens : List Token) : Option CreateTable := do
  let (ifNotExists, rest) := readFlag ["IF", "NOT", "EXISTS"] tokens
  if startWith ["IF"] rest then none
  let (name, rest) ← readObjectName rest
  let rest ← readSymbol "(" rest
  let ((columns, constraints), rest) ← readDefinitions rest.length rest
  let options ← if rest.isEmpty then some [] else readTableOptions rest.length rest
  return { isTemporary, ifNotExists, name, columns, constraints, options }

/-- Reads the creation of an index behind its keywords. -/
def readCreateIndex (tokens : List Token) : Option CreateIndex := do
  let (ifNotExists, rest) := readFlag ["IF", "NOT", "EXISTS"] tokens
  if startWith ["IF"] rest then none
  let (name, rest) ← readObjectName rest
  let (table, rest) ← readName (← readKeywords ["ON"] rest)
  let rest ← readSymbol "(" rest
  let (items, rest) ← readKeyItems rest.length rest
  let rest ← readSymbol ")" rest
  if rest.isEmpty then return ⟨ifNotExists, name, table, items, none⟩
  let (condition, rest) ← readExpression (← readKeywords ["WHERE"] rest)
  if rest.isEmpty then return ⟨ifNotExists, name, table, items, some condition⟩ else none

/-- Reads the name of what is dropped, up to the end of the statement. -/
def readDropped (tokens : List Token) : Option (Bool × ObjectName) := do
  let (ifExists, rest) := readFlag ["IF", "EXISTS"] tokens
  if startWith ["IF"] rest then none
  let (name, rest) ← readObjectName rest
  if rest.isEmpty then return (ifExists, name) else none

/-- Reads a change of a table behind its keywords. -/
def readAlterTable (tokens : List Token) : Option Statement := do
  let (name, rest) ← readObjectName tokens
  match readKeywords ["RENAME", "TO"] rest with
  | some rest => do
    let (newName, rest) ← readName rest
    if rest.isEmpty then return .renameTable name newName else none
  | none => do
    let rest ← readKeywords ["ADD"] rest
    let (column, rest) ← readColumn (behindKeywords ["COLUMN"] rest)
    if rest.isEmpty then return .addColumn name column else none

/-- The statement that the tokens spell. -/
def Statement.ofTokens? (tokens : List Token) : Option Statement :=
  let behind (keywords : List String) := readKeywords keywords tokens
  match behind ["CREATE"], behind ["DROP"], behind ["ALTER", "TABLE"] with
  | some rest, _, _ =>
    match readKeywords ["INDEX"] (behindKeywords ["UNIQUE"] rest),
      readOneOf ["TEMP", "TEMPORARY"] rest with
    | some rest, _ => (readCreateIndex rest).map .createIndex
    | none, some rest =>
      ((readKeywords ["TABLE"] rest).bind (readCreateTable true)).map .createTable
    | none, none => ((readKeywords ["TABLE"] rest).bind (readCreateTable false)).map .createTable
  | none, some rest, _ =>
    match readKeywords ["TABLE"] rest, readKeywords ["INDEX"] rest with
    | some rest, _ => (readDropped rest).map fun (ifExists, name) => .dropTable ifExists name
    | none, some rest => (readDropped rest).map fun (ifExists, name) => .dropIndex ifExists name
    | none, none => none
  | none, none, some rest => readAlterTable rest
  | none, none, none => none

end Schemata.Sqlite
