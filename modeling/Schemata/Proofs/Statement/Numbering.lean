import Mathlib.Data.List.Infix
import Schemata.Proofs.Statement.Lengths
import Schemata.Sqlite.Catalogue

/-!
# Numbered columns of SQLite

SQLite numbers a column that is the whole key, and only if its type is written `INTEGER`: any other
column with the word `AUTOINCREMENT` in its definition makes it refuse the statement. Where the word
stands is decided in three places, by whether the column is numbered, by the number of key columns, and
by its type.

`Backend.autoIncrement_stands` brings them together. The word is in the definition of a column, its name
and the literal of its default aside, exactly if the column is numbered and the whole key, and then it
ends the clause of the key. The type plays no part in this: it is `INTEGER` for whole numbers and truth
values, and whatever it is for any other column that is to be numbered
(`Backend.autoIncrement_stands_text`).
-/

namespace Schemata

/-- The types that SQLite has one storage class of whole numbers for. -/
def TypeTag.isWhole : TypeTag → Bool
  | int8 | int16 | int32 | int64 | uint8 | uint16 | uint32 | uint64 | bool => true
  | _ => false

/-- The word that numbers a column. -/
def numberWord : List Char :=
  "AUTOINCREMENT".toList

/-! ## The word among other words -/

theorem infix_append_blank {word front behind : List Char} (hblank : ' ' ∉ word)
    (h : word <:+: front ++ ' ' :: behind) : word <:+: front ∨ word <:+: behind := by
  rcases List.infix_append_iff.1 h with h | h | ⟨left, right, rfl, hleft, hright⟩
  · exact .inl h
  · rcases List.infix_cons_iff.1 h with h | h
    · cases word with
      | nil => exact .inl List.nil_infix
      | cons c word =>
        obtain ⟨rfl, -⟩ := List.cons_prefix_cons.1 h
        exact absurd List.mem_cons_self hblank
    · exact .inr h
  · cases right with
    | nil =>
      rw [List.append_nil]
      exact .inl hleft.isInfix
    | cons c right =>
      obtain ⟨rfl, -⟩ := List.cons_prefix_cons.1 hright
      exact absurd (List.mem_append_right left List.mem_cons_self) hblank

/-- A text that is empty, or begins with a blank and does not number a column behind it. -/
def IsPlainClause (clause : List Char) : Prop :=
  clause = [] ∨ ∃ behind, clause = ' ' :: behind ∧ ¬ numberWord <:+: behind

theorem IsPlainClause.blank {behind : List Char} (h : ¬ numberWord <:+: behind) :
    IsPlainClause (' ' :: behind) :=
  .inr ⟨behind, rfl, h⟩

theorem not_infix_append {front clause : List Char} (hfront : ¬ numberWord <:+: front)
    (h : IsPlainClause clause) : ¬ numberWord <:+: front ++ clause := by
  rcases h with rfl | ⟨behind, rfl, hbehind⟩
  · rwa [List.append_nil]
  · intro hstands
    rcases infix_append_blank (by decide) hstands with h | h
    · exact hfront h
    · exact hbehind h

namespace Dialect

namespace Sqlite

/-! ## Types -/

theorem spell_cases {tag : TypeTag} {maxLength : Option UInt32} {keyed : Bool} {s : Spelling}
    (h : (sqlType tag).spell maxLength keyed = some s) :
    (tag.isWhole = true ∧ s = .word "INTEGER") ∨
    (tag.isWhole = false ∧ ((∃ text ∈ ["REAL", "NUMERIC", "TEXT", "BLOB"], s = .word text) ∨
      ∃ stem ∈ ["NVARCHAR", "NCHAR"], ∃ n, s = .withLength stem n)) := by
  have hsized {stem : String} (hstem : stem ∈ ["NVARCHAR", "NCHAR"])
      (h : (sizedText stem).spell maxLength keyed = some s) :
      (∃ text ∈ ["REAL", "NUMERIC", "TEXT", "BLOB"], s = .word text) ∨
        ∃ stem ∈ ["NVARCHAR", "NCHAR"], ∃ n, s = .withLength stem n := by
    have hspelled : s = .word "TEXT" ∨ s = .word "TEXT" ∨ s = .word "TEXT" ∨
        ∃ n, s = .withLength stem n := SqlType.spell_cases h
    rcases hspelled with hs | hs | hs | ⟨n, hs⟩
    · exact .inl ⟨"TEXT", by decide, hs⟩
    · exact .inl ⟨"TEXT", by decide, hs⟩
    · exact .inl ⟨"TEXT", by decide, hs⟩
    · exact .inr ⟨stem, hstem, n, hs⟩
  have hplain {text : String} (h : (SqlType.plain text).spell maxLength keyed = some s) :
      s = .word text := SqlType.spell_cases h
  cases tag with
  | string => exact .inr ⟨rfl, hsized (by decide) h⟩
  | fixedChar => exact .inr ⟨rfl, hsized (by decide) h⟩
  | float32 | float64 | decimal | varNumeric | guid | date | time | dateTime | dateTimeWithOffset
  | binary | rowVersion => exact .inr ⟨rfl, .inl ⟨_, by decide, hplain h⟩⟩
  | _ => exact .inl ⟨rfl, hplain h⟩

variable {tag : TypeTag} {maxLength : Option UInt32} {keyed : Bool} {s : Spelling}

theorem text_eq_integer_iff (h : (sqlType tag).spell maxLength keyed = some s) :
    s.text = "INTEGER" ↔ tag.isWhole = true := by
  rcases spell_cases h with ⟨hwhole, rfl⟩ | ⟨hother, hs⟩
  · simp [hwhole, Spelling.text]
  · rw [hother]
    refine ⟨fun htext => ?_, fun hfalse => by cases hfalse⟩
    rcases hs with ⟨text, hmem, rfl⟩ | ⟨stem, hmem, n, rfl⟩
    · simp only [Spelling.text] at htext
      subst htext
      revert hmem
      decide
    · have hhead : (Spelling.withLength stem n).text.toList.head? = some 'N' := by
        rcases List.mem_pair.1 hmem with rfl | rfl <;> simp [Spelling.text]
      rw [htext] at hhead
      cases hhead

/-- Every type lacks one of two letters of the word. -/
theorem not_infix_spelling (h : (sqlType tag).spell maxLength keyed = some s) :
    ¬ numberWord <:+: s.text.toList := by
  rcases spell_cases h with ⟨-, rfl⟩ | ⟨-, ⟨text, hmem, rfl⟩ | ⟨stem, hmem, n, rfl⟩⟩
  · decide
  · have hall : ∀ text ∈ ["REAL", "NUMERIC", "TEXT", "BLOB"],
        ¬ numberWord <:+: (Spelling.word text).text.toList := by decide
    exact hall text hmem
  · have hstem : 'O' ∉ stem.toList := by
      rcases List.mem_pair.1 hmem with rfl | rfl <;> decide
    intro hstands
    exact Spelling.not_mem_withLength hstem (by decide) (by decide) (by decide)
      (hstands.subset (by decide))

end Sqlite

/-! ## Definitions -/

/-- What a definition ends with behind the last word of its own. -/
def printedLiteral (c : Column) : String :=
  if c.refusesNull then c.defaultValue.getD "" else ""

/-- What a definition says about null, up to the literal of a default. -/
def nullWords (c : Column) : String :=
  if c.refusesNull then if c.defaultValue.isSome then " DEFAULT " else " NOT NULL" else ""

theorem mem_nullWords (c : Column) : nullWords c ∈ ["", " DEFAULT ", " NOT NULL"] := by
  unfold nullWords
  cases c.refusesNull <;> cases c.defaultValue.isSome <;> decide

theorem nullClause_eq (c : Column) : nullClause c = nullWords c ++ printedLiteral c := by
  unfold nullClause nullWords printedLiteral Column.refusesNull
  cases c.nullable <;> cases c.isRowVersion <;> cases c.defaultValue <;> simp

end Dialect

namespace Backend

open Dialect (nullWords mem_nullWords printedLiteral)

/-- What a definition of SQLite says in its own words. -/
def sqliteWords (singleKey : Bool) (c : Column) (type : String) : String :=
  " " ++ type ++ (if singleKey && c.isPrimaryKey then " " ++ Dialect.Sqlite.keyClause c else "")
    ++ nullWords c

theorem definition_sqlite (singleKey : Bool) (c : Column) (type : String) :
    sqlite.dialect.definition singleKey c type
      = sqlite.dialect.quote c.name ++ sqliteWords singleKey c type ++ printedLiteral c := by
  have hnumber : sqlite.dialect.numberClause c = "" := by
    unfold Dialect.numberClause
    cases c.autoIncrement <;> rfl
  unfold Dialect.definition sqliteWords
  rw [hnumber, Dialect.nullClause_eq, String.append_empty]
  simp only [String.append_assoc]
  rfl

theorem sqliteWords_numbered {singleKey : Bool} {c : Column}
    (hkey : (singleKey && c.isPrimaryKey) = true) (hnumbered : c.autoIncrement.isSome = true)
    (type : String) : sqliteWords singleKey c type
      = " " ++ type ++ " PRIMARY KEY AUTOINCREMENT" ++ nullWords c := by
  unfold sqliteWords Dialect.Sqlite.keyClause
  rw [if_pos hkey, if_pos hnumbered]
  rfl

/-- No other words make up the one that numbers a column. -/
theorem not_infix_sqliteWords {singleKey : Bool} {c : Column} {type : String}
    (hother : ¬ ((singleKey && c.isPrimaryKey) = true ∧ c.autoIncrement.isSome = true))
    (htype : ¬ numberWord <:+: type.toList) :
    ¬ numberWord <:+: (sqliteWords singleKey c type).toList := by
  have hkey : IsPlainClause (if singleKey && c.isPrimaryKey then
      " " ++ Dialect.Sqlite.keyClause c else "").toList := by
    by_cases hkey : (singleKey && c.isPrimaryKey) = true
    · have hplain : ¬ c.autoIncrement.isSome = true := fun hnumbered => hother ⟨hkey, hnumbered⟩
      rw [if_pos hkey, Dialect.Sqlite.keyClause, if_neg hplain]
      exact @IsPlainClause.blank "PRIMARY KEY".toList (by decide)
    · rw [if_neg hkey]
      exact .inl rfl
  have hnull : IsPlainClause (nullWords c).toList := by
    rcases List.mem_cons.1 (mem_nullWords c) with h | h
    · exact .inl (by rw [h]; rfl)
    · rcases List.mem_pair.1 h with h | h
      · exact .inr ⟨"DEFAULT ".toList, by rw [h]; rfl, by decide⟩
      · exact .inr ⟨"NOT NULL".toList, by rw [h]; rfl, by decide⟩
  have hfirst : ¬ numberWord <:+: (" " ++ type).toList := by
    rw [String.toList_append]
    exact @not_infix_append [] _ (by decide) (.blank htype)
  unfold sqliteWords
  rw [String.toList_append, String.toList_append]
  exact not_infix_append (not_infix_append hfirst hkey) hnull

theorem infix_sqliteWords_iff {t : Table} {c : Column} (hc : c ∈ t.orderedColumns) {type : String}
    (htype : ¬ numberWord <:+: type.toList) :
    numberWord <:+: (sqliteWords (t.primaryKey.length == 1) c type).toList ↔
      t.IsWholeKey c ∧ c.autoIncrement.isSome = true := by
  rw [t.isWholeKey_iff hc]
  constructor
  · intro h
    by_contra hother
    exact not_infix_sqliteWords hother htype h
  · rintro ⟨hkey, hnumbered⟩
    have hwords : (sqliteWords (t.primaryKey.length == 1) c type).toList
        = (" " ++ type ++ " PRIMARY KEY ").toList ++ numberWord ++ (nullWords c).toList := by
      have hclause : " PRIMARY KEY AUTOINCREMENT".toList = " PRIMARY KEY ".toList ++ numberWord := rfl
      rw [sqliteWords_numbered hkey hnumbered]
      simp only [String.toList_append, hclause, List.append_assoc]
    rw [hwords]
    exact List.infix_append _ _ _

/-- **The word that numbers a column** stands in the definition of the column that is the whole key, if
that is to be numbered, and nowhere else. -/
theorem autoIncrement_stands {t : Table} {text : String}
    (h : (sqlite.generator.generate t).result = .ok text) :
    -- The definitions of the statement are those of the columns with these spellings.
    ∃ l, sqlite.dialect.Spelled t t.orderedColumns l ∧
      text = sqlite.dialect.statement t (sqlite.dialect.parts t l) ∧
      ∀ p ∈ l, ∃ own,
        -- Between the name and the literal of a default stands what the definition says itself.
        sqlite.dialect.definition (t.primaryKey.length == 1) p.1 p.2.text
          = sqlite.dialect.quote p.1.name ++ own ++ printedLiteral p.1 ∧
        (numberWord <:+: own.toList ↔ t.IsWholeKey p.1 ∧ p.1.autoIncrement.isSome = true) ∧
        -- The word ends the clause of the key, right behind the type;
        (numberWord <:+: own.toList → ∃ null ∈ ["", " DEFAULT ", " NOT NULL"],
          own = " " ++ p.2.text ++ " PRIMARY KEY AUTOINCREMENT" ++ null) ∧
        -- and the type is the one that SQLite numbers iff it is one of whole numbers.
        (p.2.text = "INTEGER" ↔ p.1.type.isWhole = true) := by
  obtain ⟨l, hl, htext⟩ := Dialect.createTable_ok (d := sqlite.dialect) h
  refine ⟨l, hl, htext, ?_⟩
  intro p hp
  have hc : p.1 ∈ t.orderedColumns := by
    rw [← hl.columns]
    exact List.mem_map_of_mem hp
  obtain ⟨type, htype, hspell⟩ := Dialect.spellColumn_ok (hl.spelled p hp)
  obtain rfl : Dialect.Sqlite.sqlType p.1.type = type := Option.some.inj htype
  have hword := infix_sqliteWords_iff hc (Dialect.Sqlite.not_infix_spelling hspell)
  refine ⟨_, definition_sqlite _ p.1 p.2.text, hword, ?_,
    Dialect.Sqlite.text_eq_integer_iff hspell⟩
  intro hstands
  obtain ⟨hkey, hnumbered⟩ := hword.1 hstands
  have hwords := sqliteWords_numbered ((t.isWholeKey_iff hc).1 hkey) hnumbered p.2.text
  exact ⟨nullWords p.1, mem_nullWords p.1, hwords⟩

/-- A name and a literal that hold the word. -/
def wordColumn : Column :=
  { Column.plain "AUTOINCREMENT" .string with
    nullable := false, defaultValue := some "'AUTOINCREMENT'" }

def idColumn : Column :=
  { Column.plain "id" .uint16 with
    isPrimaryKey := true, nullable := false, autoIncrement := some ⟨1, 1⟩ }

/-- A key that does not come first, and a numbered column besides. -/
def counterTable : Table :=
  ⟨"Counter", [wordColumn, idColumn, { Column.plain "no" .int32 with autoIncrement := some ⟨1, 1⟩ }]⟩

def counterStatement : String :=
  "CREATE TABLE IF NOT EXISTS [Counter] ([AUTOINCREMENT] TEXT DEFAULT 'AUTOINCREMENT', "
    ++ "[id] INTEGER PRIMARY KEY AUTOINCREMENT NOT NULL, [no] INTEGER)"

theorem autoIncrement_stands_counter :
    (sqlite.generator.generate counterTable).result = .ok counterStatement ∧
    (∃ own, sqlite.dialect.definition true wordColumn "TEXT"
        = "[AUTOINCREMENT]" ++ own ++ "'AUTOINCREMENT'" ∧ ¬ numberWord <:+: own.toList) ∧
    ∃ own, sqlite.dialect.definition true idColumn "INTEGER" = "[id]" ++ own ∧
      numberWord <:+: own.toList := by
  have horder : counterTable.orderedColumns = counterTable.columns :=
    Table.orderedColumns_of_pairwise (by decide)
  have hgenerated : (sqlite.generator.generate counterTable).result = .ok counterStatement := by
    simp only [generator, Generator.ofDialect, Dialect.createTable, Dialect.statement, horder]
    cbv
  have hprimary : counterTable.primaryKey = [idColumn] := by
    simp only [Table.primaryKey, horder]
    rfl
  have hkey : (counterTable.primaryKey.length == 1) = true := by rw [hprimary]; rfl
  have hwhole : counterTable.IsWholeKey idColumn := hprimary
  obtain ⟨l, hl, -, hstands⟩ := autoIncrement_stands hgenerated
  refine ⟨hgenerated, ?_, ?_⟩
  · obtain ⟨s, hs, hp⟩ := hl.exists_of_mem (c := wordColumn) (by rw [horder]; simp [counterTable])
    obtain rfl : .word "TEXT" = s := Except.ok.inj hs
    obtain ⟨own, hown, hword, -⟩ := hstands _ hp
    refine ⟨own, hkey ▸ hown, fun h => ?_⟩
    cases (hword.1 h).2
  · obtain ⟨s, hs, hp⟩ := hl.exists_of_mem (c := idColumn) (by rw [horder]; simp [counterTable])
    obtain rfl : .word "INTEGER" = s := Except.ok.inj hs
    obtain ⟨own, hown, hword, -⟩ := hstands _ hp
    exact ⟨own, (hkey ▸ hown).trans String.append_empty, hword.2 ⟨hwhole, rfl⟩⟩

/-- A key of texts that is to be numbered. -/
def codeColumn : Column :=
  { Column.plain "code" .string with
    isPrimaryKey := true, nullable := false, autoIncrement := some ⟨1, 1⟩ }

/-- The word stands behind another type than `INTEGER`. SQLite refuses the statement with the word, and
would not refuse it without. -/
theorem autoIncrement_stands_text :
    (sqlite.generator.generate ⟨"Tag", [codeColumn]⟩).result
      = .ok "CREATE TABLE IF NOT EXISTS [Tag] ([code] TEXT PRIMARY KEY AUTOINCREMENT NOT NULL)" ∧
    sqlite.dialect.spellColumn ⟨"Tag", [codeColumn]⟩ codeColumn = .ok (.word "TEXT") ∧
    (Sqlite.Catalogue.empty.execute?
      "CREATE TABLE IF NOT EXISTS [Tag] ([code] TEXT PRIMARY KEY AUTOINCREMENT NOT NULL)").isNone ∧
    (Sqlite.Catalogue.empty.execute?
      "CREATE TABLE IF NOT EXISTS [Tag] ([code] TEXT PRIMARY KEY NOT NULL)").isSome := by
  have horder : (⟨"Tag", [codeColumn]⟩ : Table).orderedColumns = [codeColumn] :=
    Table.orderedColumns_of_pairwise (by decide)
  refine ⟨?_, rfl, ?_, ?_⟩
  · simp only [generator, Generator.ofDialect, Dialect.createTable, Dialect.statement, horder]
    cbv
  · decide +kernel
  · decide +kernel

end Backend

end Schemata
