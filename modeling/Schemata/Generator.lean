import Schemata.Dialect.CreateTable
import Schemata.Text.Shown

/-!
# Generators

A generator turns a table into the statement that creates it, either alone or behind a text that is
already there. Those that are built in come from a dialect; a driver may bring its own. Generating is a
function of the table, so the same table always gives the same text. `Generator.compile` takes a list
of tables to one statement for each, in order, and stops at the first that fails.
-/

namespace Schemata

structure Generator where
  /-- The name in diagnostics. -/
  name : String
  /-- The statement for a table. -/
  generate : Table → Generated String
  /-- Writes the statement for a table behind a text. -/
  generateInto : String → Table → Generated Unit × String

namespace Generator

def ofDialect (d : Dialect) : Generator :=
  ⟨d.name, d.createTable, d.writeTable⟩

/-- A generator under another name that puts its statements through a function. -/
def mapped (g : Generator) (name : String) (f : String → String) : Generator where
  name
  generate t := (g.generate t).map f
  generateInto text t :=
    let generated := g.generate t
    match generated.result with
    | .ok statement => (⟨generated.warnings, .ok ()⟩, text ++ f statement)
    | .error e => (⟨generated.warnings, .error e⟩, text)

/-- One statement for each table, or the error of the first table that has none. -/
def compile (g : Generator) : List Table → Generated (List String)
  | [] => ⟨[], .ok []⟩
  | t :: rest =>
    (g.generate t).andThen fun statement => (g.compile rest).map (statement :: ·)

/-- The generator as diagnostics show it. -/
def describe (g : Generator) : String :=
  "DialectGenerator \x7b name: " ++ Text.shown g.name ++ " \x7d"

end Generator

end Schemata
