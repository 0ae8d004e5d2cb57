import Schemata.Proofs.Statement.ReadBack

/-!
# The guard of a table

A statement of SQL Server looks for the table before it creates it, with the quoted name of the table in
a string literal. There two ways of quoting are nested, and only one of them behind the guard: an
apostrophe in the name is doubled in the literal and left alone in the identifier, a bracket is doubled
in both. A name may hold the marks of both in any order.

`Outline.guard_names_table` takes the statement apart by the rules of the server, first the literal and
then the identifier: the guard asks for exactly what is created.
-/

namespace Schemata

namespace Outline

theorem readName_alone (b : Backend) (name : String) :
    readName b (b.dialect.quote name).toList = some (name, []) := by
  have hread := readName_quote b name [] (by simp)
  rwa [List.append_nil] at hread

/-- **The guard of a statement asks for the table that the statement creates**, whatever its name
holds. -/
theorem guard_names_table {t : Table} {text : String}
    (h : (Backend.sqlServer.generator.generate t).result = .ok text) :
    ∃ behind identifier definitions,
      text.toList = "IF OBJECT_ID(N'".toList ++ behind ∧
      -- The literal ends in front of these words and holds the identifier behind them;
      Text.Quoted.scan '\'' behind = some (identifier,
        ", N'U') IS NULL CREATE TABLE ".toList ++ (identifier ++ (" (".toList ++ definitions))) ∧
      -- there the identifier ends in front of the definitions and is the name of the table,
      readName .sqlServer (identifier ++ (" (".toList ++ definitions))
        = some (t.name, " (".toList ++ definitions) ∧
      -- as it is when it stands alone.
      readName .sqlServer identifier = some (t.name, []) := by
  obtain ⟨l, -, rfl⟩ := Dialect.createTable_ok (d := Backend.sqlServer.dialect) h
  let quoted := Backend.sqlServer.dialect.quote t.name
  let definitions := (", ".intercalate (Backend.sqlServer.dialect.parts t l)).toList
    ++ ')' :: (Backend.sqlServer.dialect.tableOptions t).toList
  let behind := (Dialect.inLiteral quoted).toList ++ '\'' :: (", N'U') IS NULL CREATE TABLE ".toList
    ++ (quoted.toList ++ (" (".toList ++ definitions)))
  have htext : (Backend.sqlServer.dialect.statement t (Backend.sqlServer.dialect.parts t l)).toList
      = (Backend.sqlServer.dialect.createClause quoted).toList ++ (" (".toList ++ definitions) := by
    simp [Dialect.statement, quoted, definitions]
  have hdefinitions :
      (" (".toList ++ definitions).head? ≠ some Backend.sqlServer.dialect.closeQuote := by
    simp [Backend.dialect, Dialect.sqlServer]
  refine ⟨behind, quoted.toList, definitions, ?_, ?_, ?_, ?_⟩
  · rw [htext, toList_createClause_sqlServer]
    simp only [behind, List.append_assoc, List.cons_append]
  · exact scan_inLiteral (by simp)
  · exact readName_quote .sqlServer t.name _ hdefinitions
  · exact readName_alone .sqlServer t.name

/-- A name with the marks of both ways of quoting, one inside the other and at its ends. -/
def markedTable : Table :=
  ⟨"]it's ']a]]''[", [Column.plain "id" .int32]⟩

def markedStatement : String :=
  "IF OBJECT_ID(N'[]]it''s '']]a]]]]''''[]', N'U') IS NULL CREATE TABLE []]it's ']]a]]]]''[] ([id] INT)"

theorem guard_names_table_marked :
    (Backend.sqlServer.generator.generate markedTable).result = .ok markedStatement ∧
    ∃ behind identifier definitions,
      markedStatement.toList = "IF OBJECT_ID(N'".toList ++ behind ∧
      Text.Quoted.scan '\'' behind = some (identifier,
        ", N'U') IS NULL CREATE TABLE ".toList ++ (identifier ++ (" (".toList ++ definitions))) ∧
      readName .sqlServer (identifier ++ (" (".toList ++ definitions))
        = some ("]it's ']a]]''[", " (".toList ++ definitions) ∧
      readName .sqlServer identifier = some ("]it's ']a]]''[", []) := by
  have hgenerated :
      (Backend.sqlServer.generator.generate markedTable).result = .ok markedStatement := by
    have horder : markedTable.orderedColumns = markedTable.columns :=
      Table.orderedColumns_of_pairwise (by decide)
    simp only [Backend.generator, Generator.ofDialect, Dialect.createTable, Dialect.statement, horder]
    decide +kernel
  exact ⟨hgenerated, guard_names_table hgenerated⟩

end Outline

end Schemata
