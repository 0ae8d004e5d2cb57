import Schemata.Schema

/-!
# Sessions

A session is a schema together with the handles it has given out. Its steps are the operations on a
schema, addressed by the number of a handle, and a step that fails adds no handle.
-/

namespace Schemata

structure Session where
  schema : Schema
  tables : List TableHandle
  columns : List ColumnHandle
deriving DecidableEq

namespace Session

/-- A session over a schema without tables. -/
def start (naming : Naming) : Session :=
  ⟨Schema.empty naming, [], []⟩

inductive Step where
  /-- Declares a table, under an explicit name if there is one. -/
  | defineTable (entity : Entity) (name : Option String)
  | withColumn (table : Nat) (selector : Selector) (settings : List Setting)
  | withEntityColumns (table : Nat)
  | configure (column : Nat) (settings : List Setting)
  | naming (naming : Naming)
deriving DecidableEq

/-- What a successful step answers: the numbers of the handles it gave out or worked on. -/
inductive Reply where
  | table (number : Nat)
  | columns (numbers : List Nat)
  | done
deriving Repr, DecidableEq

/-- Runs one step. -/
def step (s : Session) : Step → Except DeclarationError Reply × Session
  | .defineTable entity name =>
    let (h, schema) := match name with
      | some name => s.schema.defineTableAs entity name
      | none => s.schema.defineTable entity
    (.ok (.table s.tables.length), { s with schema, tables := s.tables ++ [h] })
  | .withColumn table selector settings =>
    match s.tables[table]? with
    | none => (.error .foreignHandle, s)
    | some h =>
      match s.schema.withColumn h selector settings with
      | .error e => (.error e, s)
      | .ok (c, schema) =>
        (.ok (.columns [s.columns.length]), { s with schema, columns := s.columns ++ [c] })
  | .withEntityColumns table =>
    match s.tables[table]? with
    | none => (.error .foreignHandle, s)
    | some h =>
      match s.schema.withEntityColumns h with
      | (.error e, schema) => (.error e, { s with schema })
      | (.ok cs, schema) =>
        (.ok (.columns (List.range' s.columns.length cs.length)),
          { s with schema, columns := s.columns ++ cs })
  | .configure column settings =>
    match s.columns[column]? with
    | none => (.error .foreignHandle, s)
    | some h =>
      match s.schema.configure h settings with
      | .error e => (.error e, s)
      | .ok schema => (.ok .done, { s with schema })
  | .naming naming => (.ok .done, { s with schema := s.schema.withNaming naming })

/-- Runs the steps in order, whether they succeed or fail. -/
def run (s : Session) (steps : List Step) : Session :=
  steps.foldl (fun s step => (s.step step).2) s

/-- The declared table behind the number of a handle. -/
def table? (s : Session) (number : Nat) : Option Table :=
  s.tables[number]?.bind s.schema.table?

/-- The declared column behind the number of a handle. -/
def column? (s : Session) (number : Nat) : Option Column :=
  s.columns[number]?.bind s.schema.column?

end Session

end Schemata
