import Schemata.Generator
import Schemata.Journal

/-!
# Migrations

A migration compiles its tables with one generator and hands the statements to an executor. Compiling
comes first, so a table that cannot be expressed means that nothing is executed. Before each statement
an executor looks whether the migration was cancelled; the statements carried out by then stay, and
the report says how many are left.
-/

namespace Schemata

structure Report where
  executed : Nat
  /-- Not carried out because the migration was cancelled. -/
  pending : Nat
deriving Repr, DecidableEq

def Report.isComplete (r : Report) : Bool :=
  r.pending == 0

/-- Why a migration failed. -/
inductive MigrationError where
  | unsupported (error : UnsupportedType)
  /-- The database refused a statement. -/
  | statementFailed
deriving Repr, DecidableEq

/-- How a migration went: what it reported, its answer, and the state it leaves. -/
structure MigrationRun (σ : Type) where
  journal : List JournalEntry
  result : Except MigrationError Report
  state : σ

/-- Carries out statements on a state. -/
abbrev Executor (σ : Type) := List String → σ → MigrationRun σ

/-- Carries out statements one by one. `cancelled n` says whether cancellation is seen after `n` of
them. Answers the number carried out and the state, or nothing when one fails. -/
def executeWhile {σ : Type} (cancelled : Nat → Bool) (execute : σ → String → Option σ) :
    Nat → σ → List String → Option (Nat × σ)
  | done, state, [] => some (done, state)
  | done, state, statement :: rest =>
    if cancelled done then some (done, state)
    else match execute state statement with
      | none => none
      | some state => executeWhile cancelled execute (done + 1) state rest

structure Migrator where
  generator : Generator
  /-- In the order of registration. -/
  tables : List Table

namespace Migrator

/-- A migrator without tables. -/
def start (generator : Generator) : Migrator :=
  ⟨generator, []⟩

/-- Adds tables behind those already registered. -/
def register (m : Migrator) (tables : List Table) : Migrator :=
  { m with tables := m.tables ++ tables }

/-- The statements that a run carries out. -/
def statements (m : Migrator) : Generated (List String) :=
  m.generator.compile m.tables

/-- Compiles the tables and has the statements carried out. -/
def run {σ : Type} (m : Migrator) (execute : Executor σ) (state : σ) : MigrationRun σ :=
  let compiled := m.statements
  let warnings := compiled.warnings.map JournalEntry.warning
  match compiled.result with
  | .error e => ⟨warnings, .error (.unsupported e), state⟩
  | .ok statements =>
    let executed := execute statements state
    { executed with
      journal := warnings ++ .migrating m.generator.name statements.length :: executed.journal }

end Migrator

/-- An executor that only records the statements. -/
def recordStatements (cancelled : Nat → Bool) : Executor (List String) :=
  fun statements recorded =>
    match executeWhile cancelled (fun state s => some (state ++ [s])) 0 recorded statements with
    | some (done, state) => ⟨[], .ok ⟨done, statements.length - done⟩, state⟩
    | none => ⟨[], .error .statementFailed, recorded⟩

end Schemata
