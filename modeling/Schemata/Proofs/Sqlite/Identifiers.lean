import Schemata.Proofs.Sqlite.Tokens
import Schemata.Proofs.Statement.Pieces

/-!
# Identifiers as SQLite reads them

A name in brackets ends at its first closing bracket for SQLite, and the closing brackets of a name are
written twice. So SQLite reads a name of a generated statement exactly if there is no closing bracket in
it. Of every other name it reads what stands in front of the first one, and goes on with the second of
the two brackets that were written for it, where no token begins.
-/

namespace Schemata.Sqlite

open Text.Quoted (double)

/-! ## Names in brackets -/

theorem readBracketed_close {front rest : List Char} (h : ']' ∉ front) :
    readBracketed (front ++ ']' :: rest) = some (front, rest) := by
  induction front with
  | nil => rfl
  | cons c front ih =>
    have hc : c ≠ ']' := by
      rintro rfl
      exact h List.mem_cons_self
    have hfront := ih fun hmem => h (List.mem_cons_of_mem c hmem)
    simp [readBracketed, hc, hfront]

/-- The token that SQLite reads at the front of a text, and what it then goes on with. It sees nothing
behind a null character. -/
def reads (cs : List Char) : Option (Token × List Char) :=
  token? (beforeNull cs)

theorem toList_quote (name : String) :
    (Dialect.sqlite.quote name).toList = '[' :: (double ']' name.toList ++ [']']) := by
  simp [Dialect.quote, Dialect.sqlite, Text.Quoted.toList_quote, Text.Quoted.enclose]

/-- A bracket that closes is the first one behind the one that opens. -/
theorem reads_bracketed {front rest : List Char} (hfront : ']' ∉ front) (hnull : '\x00' ∉ front) :
    reads ('[' :: (front ++ ']' :: rest)) = some (.quoted '[' front, beforeNull rest) := by
  have hcut : beforeNull ('[' :: (front ++ ']' :: rest))
      = '[' :: (front ++ ']' :: beforeNull rest) := by
    rw [beforeNull_cons (by decide), beforeNull_append hnull, beforeNull_cons (by decide)]
  rw [reads, hcut]
  simp [token?, readBracketed_close hfront]

theorem reads_quote {name : String} {rest : List Char} (hclose : ']' ∉ name.toList)
    (hnull : '\x00' ∉ name.toList) :
    reads ((Dialect.sqlite.quote name).toList ++ rest)
      = some (.quoted '[' name.toList, beforeNull rest) := by
  rw [toList_quote, Text.Quoted.double_of_not_mem hclose, List.cons_append, List.append_assoc]
  exact reads_bracketed hclose hnull

/-- A name is read up to its first closing bracket. -/
theorem reads_quote_close {name : String} {front back rest : List Char}
    (hname : name.toList = front ++ ']' :: back) (hclose : ']' ∉ front)
    (hnull : '\x00' ∉ name.toList) :
    reads ((Dialect.sqlite.quote name).toList ++ rest)
      = some (.quoted '[' front, ']' :: beforeNull (double ']' back ++ ']' :: rest)) := by
  have hfront : '\x00' ∉ front := by
    intro hmem
    apply hnull
    rw [hname]
    exact List.mem_append_left _ hmem
  have hquote : (Dialect.sqlite.quote name).toList ++ rest
      = '[' :: (front ++ ']' :: ']' :: (double ']' back ++ ']' :: rest)) := by
    rw [toList_quote, hname, Text.Quoted.double_append, Text.Quoted.double_of_not_mem hclose]
    simp [double]
  rw [hquote, reads_bracketed hclose hfront, beforeNull_cons (by decide)]

theorem reads_quote_iff {name : String} {rest : List Char} (hnull : '\x00' ∉ name.toList) :
    reads ((Dialect.sqlite.quote name).toList ++ rest)
      = some (.quoted '[' name.toList, beforeNull rest) ↔ ']' ∉ name.toList := by
  constructor
  · intro hread hmem
    obtain ⟨front, back, hname, hclose⟩ := List.eq_append_cons_of_mem hmem
    rw [reads_quote_close hname hclose hnull] at hread
    simp only [Option.some.injEq, Prod.mk.injEq, Token.quoted.injEq, true_and] at hread
    have hlength := congrArg List.length hname
    rw [← hread.1] at hlength
    simp at hlength
  · intro hclose
    exact reads_quote hclose hnull

/-! ## Identifiers of a statement -/

/-- **SQLite reads an identifier of a statement back exactly if no bracket closes inside of it**. Of
any other it reads what stands in front of the first such bracket, and a bracket follows. -/
theorem identifiers_read {t : Table} {text : String}
    (h : (Backend.sqlite.generator.generate t).result = .ok text)
    (hnull : ∀ name ∈ t.identifiers, '\x00' ∉ name.toList) :
    ∃ pieces, text.toList = Piece.render Dialect.sqlite pieces ∧ Piece.names pieces = t.identifiers ∧
      ∀ before name after, pieces = before ++ .name name :: after →
        (reads (Piece.render Dialect.sqlite (.name name :: after))
            = some (.quoted '[' name.toList, beforeNull (Piece.render Dialect.sqlite after))
          ↔ ']' ∉ name.toList) ∧
        ∀ front back, name.toList = front ++ ']' :: back → ']' ∉ front →
          reads (Piece.render Dialect.sqlite (.name name :: after)) = some (.quoted '[' front,
            ']' :: beforeNull (double ']' back ++ ']' :: Piece.render Dialect.sqlite after)) := by
  obtain ⟨l, hl, rfl⟩ := Dialect.createTable_ok (d := Dialect.sqlite) h
  have hnames := Backend.names_pieces (b := .sqlite) hl
  refine ⟨Backend.sqlite.pieces t l, (Backend.render_pieces .sqlite t l).symm, hnames, ?_⟩
  intro before name after hpieces
  have hname : '\x00' ∉ name.toList := by
    apply hnull
    rw [← hnames, hpieces]
    simp [Piece.names, Piece.nameOf]
  have hrender : Piece.render Dialect.sqlite (.name name :: after)
      = (Dialect.sqlite.quote name).toList ++ Piece.render Dialect.sqlite after := rfl
  rw [hrender]
  constructor
  · exact reads_quote_iff hname
  · intro front back hsplit hclose
    exact reads_quote_close hsplit hclose hname

/-- Names with marks that open and with marks of other dialects, and one with a bracket that closes. -/
def bracketTable : Table :=
  ⟨"[order 'line", [Column.plain "a]b" .int64, Column.plain "rate" .float64]⟩

def bracketStatement : String :=
  "CREATE TABLE IF NOT EXISTS [[order 'line] ([a]]b] INTEGER, [rate] REAL)"

theorem identifiers_read_order :
    (Backend.sqlite.generator.generate bracketTable).result = .ok bracketStatement ∧
    (∀ name ∈ bracketTable.identifiers, '\x00' ∉ name.toList) ∧
    (∃ front text rest, bracketStatement.toList = front ++ text ∧
      reads text = some (.quoted '[' "[order 'line".toList, rest)) ∧
    ∃ front text rest, bracketStatement.toList = front ++ text ∧
      reads text = some (.quoted '[' "a".toList, ']' :: rest) := by
  have horder : bracketTable.orderedColumns = bracketTable.columns :=
    Table.orderedColumns_of_pairwise (by decide)
  have hidentifiers : bracketTable.identifiers = ["[order 'line", "a]b", "rate"] := by
    simp only [Table.identifiers, Outline.compositeKey, Table.primaryKey, Table.uniqueColumns, horder]
    rfl
  have hgenerated :
      (Backend.sqlite.generator.generate bracketTable).result = .ok bracketStatement := by
    simp only [Backend.generator, Generator.ofDialect, Dialect.createTable, Dialect.statement, horder]
    cbv
  have hnull : ∀ name ∈ bracketTable.identifiers, '\x00' ∉ name.toList := by
    rw [hidentifiers]
    decide
  obtain ⟨pieces, htext, hnames, hreads⟩ := identifiers_read hgenerated hnull
  rw [hidentifiers] at hnames
  refine ⟨hgenerated, hnull, ?_, ?_⟩
  · obtain ⟨before, after, rfl⟩ :=
      @Piece.exists_of_mem_names pieces "[order 'line" (by simp [hnames])
    exact ⟨Piece.render Dialect.sqlite before, _, _, htext.trans List.flatMap_append,
      (hreads before _ after rfl).1.2 (by decide)⟩
  · obtain ⟨before, after, rfl⟩ := @Piece.exists_of_mem_names pieces "a]b" (by simp [hnames])
    exact ⟨Piece.render Dialect.sqlite before, _, _, htext.trans List.flatMap_append,
      (hreads before _ after rfl).2 ['a'] ['b'] rfl (by decide)⟩

/-- The name of the table `a]b` is read as `a`, and then there is no token. -/
theorem identifiers_read_closed :
    (Backend.sqlite.generator.generate ⟨"a]b", [Column.plain "id" .int64]⟩).result
      = .ok "CREATE TABLE IF NOT EXISTS [a]]b] ([id] INTEGER)" ∧
    (Dialect.sqlite.quote "a]b").toList ++ " ([id] INTEGER)".toList
      = "[a]]b] ([id] INTEGER)".toList ∧
    reads "[a]]b] ([id] INTEGER)".toList
      = some (.quoted '[' "a".toList, "]b] ([id] INTEGER)".toList) ∧
    reads "[a]]b] ([id] INTEGER)".toList
      ≠ some (.quoted '[' "a]b".toList, " ([id] INTEGER)".toList) ∧
    tokens? "CREATE TABLE IF NOT EXISTS [a]]b] ([id] INTEGER)" = none := by
  have horder : (⟨"a]b", [Column.plain "id" .int64]⟩ : Table).orderedColumns
      = [Column.plain "id" .int64] :=
    Table.orderedColumns_of_pairwise (by decide)
  refine ⟨?_, ?_, ?_, ?_, ?_⟩
  · simp only [Backend.generator, Generator.ofDialect, Dialect.createTable, Dialect.statement, horder]
    cbv
  · decide
  · decide
  · decide
  · decide

end Schemata.Sqlite
