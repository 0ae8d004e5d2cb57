import Schemata.Proofs.Statement.ReadBack

/-!
# The pieces of a statement

A statement is a text with quoted names in it. `Backend.pieces` is the statement as a list of names and
of the texts between them: written out it is the statement (`render_pieces`), and its names are those of
the table, of the columns, of a composite key and of the unique columns, in this order (`names_pieces`).
So whatever holds of each name in front of the pieces behind it holds of every identifier of a
statement.
-/

namespace Schemata

inductive Piece where
  /-- A name that is written with quotes. -/
  | name (n : String)
  | text (s : String)

namespace Piece

def written (d : Dialect) : Piece → List Char
  | .name n => (d.quote n).toList
  | .text s => s.toList

def nameOf : Piece → List String
  | .name n => [n]
  | .text _ => []

/-- The text that the pieces make. -/
def render (d : Dialect) (pieces : List Piece) : List Char :=
  pieces.flatMap (written d)

/-- The names among the pieces. -/
def names (pieces : List Piece) : List String :=
  pieces.flatMap nameOf

theorem exists_of_mem_names {pieces : List Piece} {n : String} (h : n ∈ names pieces) :
    ∃ before after, pieces = before ++ name n :: after := by
  obtain ⟨piece, hpiece, hn⟩ := List.mem_flatMap.1 h
  cases piece with
  | name m =>
    obtain rfl : n = m := List.mem_singleton.1 hn
    exact List.append_of_mem hpiece
  | text s => cases hn

/-- Lists of pieces with commas between them. -/
def separated (items : List (List Piece)) : List Piece :=
  [text ", "].intercalate items

theorem flatMap_intercalate {α β : Type} (f : α → List β) (sep : List α) (items : List (List α)) :
    (sep.intercalate items).flatMap f
      = (sep.flatMap f).intercalate (items.map fun item => item.flatMap f) := by
  induction items with
  | nil => rfl
  | cons item items ih =>
    cases items with
    | nil => simp
    | cons next items =>
      simp only [List.intercalate_cons_cons, List.flatMap_append, ih, List.map_cons]

theorem intercalate_nil {α : Type} (items : List (List α)) :
    ([] : List α).intercalate items = items.flatten := by
  induction items with
  | nil => rfl
  | cons item items ih =>
    cases items with
    | nil => simp
    | cons next items =>
      simp only [List.intercalate_cons_cons, ih, List.append_nil, List.flatten_cons]

theorem render_separated (d : Dialect) (items : List (List Piece)) :
    render d (separated items) = [',', ' '].intercalate (items.map (render d)) := by
  have hcomma : [text ", "].flatMap (written d) = [',', ' '] := by
    simp [written]
  unfold render separated
  rw [flatMap_intercalate, hcomma]

theorem names_separated (items : List (List Piece)) :
    names (separated items) = (items.map names).flatten := by
  have hcomma : [text ", "].flatMap nameOf = [] := rfl
  unfold names separated
  rw [flatMap_intercalate, hcomma]
  exact intercalate_nil _

end Piece

namespace Dialect

open Piece (render names separated)

/-! ## Parts -/

def definitionPieces (d : Dialect) (singleKey : Bool) (p : Column × Spelling) : List Piece :=
  [.name p.1.name, .text (" " ++ p.2.text
    ++ (if singleKey && p.1.isPrimaryKey then " " ++ d.keyClause p.1 else "")
    ++ nullClause p.1 ++ d.numberClause p.1)]

theorem render_definitionPieces (d : Dialect) (singleKey : Bool) (p : Column × Spelling) :
    render d (d.definitionPieces singleKey p) = (d.definition singleKey p.1 p.2.text).toList := by
  simp [render, definitionPieces, Piece.written, definition]

def constraintPieces (kind : String) (columns : List Column) : List Piece :=
  .text (kind ++ "(") :: (separated (columns.map fun c => [.name c.name]) ++ [.text ")"])

theorem render_constraintPieces (d : Dialect) (kind : String) (columns : List Column) :
    render d (constraintPieces kind columns) = (d.constraint kind columns).toList := by
  have hnames : render d (separated (columns.map fun c => [Piece.name c.name]))
      = (", ".intercalate (columns.map fun c => d.quote c.name)).toList := by
    rw [Piece.render_separated, String.toList_intercalate]
    simp [render, Piece.written, Function.comp_def]
  have hpieces : render d (constraintPieces kind columns) = (kind ++ "(").toList
      ++ (render d (separated (columns.map fun c => [Piece.name c.name])) ++ [')']) := by
    simp [render, constraintPieces, Piece.written]
  rw [hpieces, hnames]
  simp [constraint]

theorem names_constraintPieces (kind : String) (columns : List Column) :
    names (constraintPieces kind columns) = columns.map (·.name) := by
  have hnames : names (separated (columns.map fun c => [Piece.name c.name]))
      = columns.map (·.name) := by
    rw [Piece.names_separated, List.map_map]
    exact List.map_eq_flatMap.symm
  simp only [names] at hnames
  simp [names, constraintPieces, Piece.nameOf, hnames]

def constraintsPieces (t : Table) : List (List Piece) :=
  (if 1 < t.primaryKey.length then [constraintPieces "PRIMARY KEY" t.primaryKey] else [])
    ++ if t.uniqueColumns.isEmpty then [] else [constraintPieces "UNIQUE" t.uniqueColumns]

theorem render_constraintsPieces (d : Dialect) (t : Table) :
    (constraintsPieces t).map (render d) = (d.keyConstraints t.primaryKey
      ++ d.uniqueConstraints t.orderedColumns).map String.toList := by
  have hunique : d.uniqueConstraints t.orderedColumns
      = if t.uniqueColumns.isEmpty then [] else [d.constraint "UNIQUE" t.uniqueColumns] := rfl
  rw [hunique, constraintsPieces, keyConstraints, List.map_append, List.map_append]
  congr 1
  · split
    · simp [render_constraintPieces]
    · rfl
  · split
    · rfl
    · simp [render_constraintPieces]

theorem names_constraintsPieces (t : Table) : ((constraintsPieces t).map names).flatten
    = (Outline.compositeKey t ++ t.uniqueColumns).map (·.name) := by
  rw [constraintsPieces, Outline.compositeKey, List.map_append, List.flatten_append, List.map_append]
  congr 1
  · split
    · simp [names_constraintPieces]
    · rfl
  · split
    · next hempty => simp [List.isEmpty_iff.1 hempty]
    · simp [names_constraintPieces]

def partsPieces (d : Dialect) (t : Table) (l : List (Column × Spelling)) : List (List Piece) :=
  l.map (d.definitionPieces (t.primaryKey.length == 1)) ++ constraintsPieces t

theorem render_partsPieces (d : Dialect) (t : Table) (l : List (Column × Spelling)) :
    (d.partsPieces t l).map (render d) = (d.parts t l).map String.toList := by
  simp only [partsPieces, parts, List.append_assoc, List.map_append, render_constraintsPieces,
    List.map_map, Function.comp_def, render_definitionPieces]

theorem names_partsPieces (d : Dialect) (t : Table) (l : List (Column × Spelling)) :
    ((d.partsPieces t l).map names).flatten
      = (l.map Prod.fst ++ Outline.compositeKey t ++ t.uniqueColumns).map (·.name) := by
  have hdefinitions : ((l.map (d.definitionPieces (t.primaryKey.length == 1))).map names).flatten
      = (l.map Prod.fst).map (·.name) := by
    induction l with
    | nil => rfl
    | cons p l ih =>
      simp only [List.map_cons, List.flatten_cons, ih]
      rfl
  rw [partsPieces, List.map_append, List.flatten_append, hdefinitions, names_constraintsPieces,
    List.append_assoc]
  exact List.map_append.symm

end Dialect

namespace Table

/-- The names that a statement quotes, in the order in which it does. -/
def identifiers (t : Table) : List String :=
  t.name :: (t.orderedColumns ++ Outline.compositeKey t ++ t.uniqueColumns).map (·.name)

end Table

namespace Backend

open Piece (render names separated)

/-! ## Statements -/

/-- What stands in front of the name of the table. -/
def createWords : Backend → String → String
  | sqlServer, name => "IF OBJECT_ID(N'" ++ Dialect.inLiteral (sqlServer.dialect.quote name)
      ++ "', N'U') IS NULL CREATE TABLE "
  | _, _ => "CREATE TABLE IF NOT EXISTS "

theorem createClause_eq (b : Backend) (name : String) :
    b.dialect.createClause (b.dialect.quote name) = b.createWords name ++ b.dialect.quote name := by
  cases b <;> rfl

/-- The pieces of the statement for a table whose columns are spelled. -/
def pieces (b : Backend) (t : Table) (l : List (Column × Spelling)) : List Piece :=
  [.text (b.createWords t.name), .name t.name, .text " ("]
    ++ (separated (b.dialect.partsPieces t l) ++ [.text (")" ++ b.dialect.tableOptions t)])

theorem render_pieces (b : Backend) (t : Table) (l : List (Column × Spelling)) :
    render b.dialect (b.pieces t l) = (b.dialect.statement t (b.dialect.parts t l)).toList := by
  have hparts : render b.dialect (separated (b.dialect.partsPieces t l))
      = (", ".intercalate (b.dialect.parts t l)).toList := by
    rw [Piece.render_separated, Dialect.render_partsPieces, String.toList_intercalate]
    rfl
  have hpieces : render b.dialect (b.pieces t l) = (b.createWords t.name).toList
      ++ ((b.dialect.quote t.name).toList ++ (" (".toList
        ++ (render b.dialect (separated (b.dialect.partsPieces t l))
          ++ (")" ++ b.dialect.tableOptions t).toList))) := by
    simp [render, pieces, Piece.written]
  rw [hpieces, hparts, Dialect.statement, createClause_eq]
  simp

theorem names_pieces {b : Backend} {t : Table} {l : List (Column × Spelling)}
    (hl : b.dialect.Spelled t t.orderedColumns l) : names (b.pieces t l) = t.identifiers := by
  have hparts : names (separated (b.dialect.partsPieces t l)) = _ :=
    (Piece.names_separated _).trans (b.dialect.names_partsPieces t l)
  rw [hl.columns] at hparts
  simp only [names] at hparts
  simp [names, pieces, Piece.nameOf, hparts, Table.identifiers]

end Backend

end Schemata
