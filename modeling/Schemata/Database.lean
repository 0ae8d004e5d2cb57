import Schemata.Migration
import Schemata.Provider.Binder
import Schemata.Sqlite.Catalogue
import Schemata.Sqlite.Location

/-!
# Databases

A database handle joins a connection with the generator its tables are compiled by. Connections reach
SQLite databases, which are empty when they are opened. A migration is one transaction: when a
statement fails, the database is as it was before. Looking up tables depends on the backend that the
driver's name denotes, whatever its generator.
-/

namespace Schemata

/-! ## Connections by URL -/

/-- An open connection to a database that nobody else uses. -/
structure Connection where
  location : Sqlite.Location
deriving Repr, DecidableEq

structure ConnectOptions where
  url : Url
deriving Repr, DecidableEq

/-- Opens the database that a URL leads to. Only SQLite databases can be reached. -/
def Connection.open? (u : Url) : Option Connection :=
  if u.scheme = "sqlite" then
    ((Sqlite.Location.ofUrl? u).filter Sqlite.Location.opens).map Connection.mk
  else none

/-- What one invocation of a factory for a URL comes to. -/
def Attempt.ofUrl {α : Type} (text : String) (make? : Url → Option α) : Attempt α :=
  match Url.ofText? text with
  | none => .failed "not a URL"
  | some u =>
    match make? u with
    | none => .failed "no such database"
    | some a => .value a

/-- The URL of a database in memory. -/
def memoryUrl : String :=
  "sqlite::memory:"

/-- The driver for a URL, named for what stands before the first colon. Options are there at once, a
connection is waited for. -/
def Provider.ofUrl (url : String) : Provider Connection ConnectOptions where
  name := (Backend.urlScheme? url).getD url
  connection := ⟨none, some fun _ => Attempt.ofUrl url Connection.open?⟩
  options := ⟨some fun _ => Attempt.ofUrl url fun u => some ⟨u⟩, none⟩
  generator := none

/-! ## Handles -/

structure Database where
  provider : String
  backend : Option Backend
  generator : Generator
  catalogue : Sqlite.Catalogue

inductive LookupError where
  /-- The driver's name denotes no backend that can be looked into. -/
  | unrecognized (provider : String)
  /-- The database does not understand the question. -/
  | queryFailed
deriving Repr, DecidableEq

namespace Database

/-- A handle on a fresh database, through a bound driver. -/
def bind {ω : Type} (b : Binder Connection ω) : Except ProviderError Database × Binder Connection ω :=
  match b.requestConnection 0 1 with
  | (.ok _ :: _, b) =>
    match b.ddlGenerator with
    | (.ok g, b) => (.ok ⟨b.name, Backend.ofProviderName? b.name, g, Sqlite.Catalogue.empty⟩, b)
    | (.error e, b) => (.error e, b)
  | (.error e :: _, b) => (.error e, b)
  | ([], b) => (.error (.capabilityMissing b.name .connectionFactory), b)

/-- Opens the database that a URL names. -/
def connect (url : String) : Except ProviderError Database :=
  (bind (Binder.bind (Provider.ofUrl url))).1

/-- Carries out statements as one transaction on a catalogue. -/
def transaction (generator : String) (cancelled : Nat → Bool) : Executor Sqlite.Catalogue :=
  fun statements catalogue =>
    match executeWhile cancelled Sqlite.Catalogue.execute? 0 catalogue statements with
    | none => ⟨[], .error .statementFailed, catalogue⟩
    | some (done, state) =>
      ⟨[.executed generator done statements.length], .ok ⟨done, statements.length - done⟩, state⟩

def migrator (d : Database) : Migrator :=
  Migrator.start d.generator

/-- Migrates tables; `cancelled n` says whether cancellation is seen after `n` statements. -/
def migrate (d : Database) (cancelled : Nat → Bool) (tables : List Table) : MigrationRun Database :=
  let run := (d.migrator.register tables).run (transaction d.generator.name cancelled) d.catalogue
  ⟨run.journal, run.result, { d with catalogue := run.state }⟩

/-- Answers a question about the catalogue, where the backend allows it. A MySQL question is put in
terms of an information schema, which SQLite does not have. -/
def lookUp {α : Type} (d : Database) (question : Sqlite.Catalogue → Option α) :
    Except LookupError α :=
  match d.backend with
  | some .sqlite =>
    match question d.catalogue with
    | some answer => .ok answer
    | none => .error .queryFailed
  | some .mySql => .error .queryFailed
  | _ => .error (.unrecognized d.provider)

/-- Whether the database has a table of this very name. -/
def tableExists (d : Database) (table : String) : Except LookupError Bool :=
  d.lookUp fun c => some (c.contains table)

/-- The columns of a table, in its order. -/
def tableColumns (d : Database) (table : String) : Except LookupError (List String) :=
  d.lookUp (·.columns? table)

end Database

end Schemata
