import Schemata.Proofs.Statement.Clauses

/-!
# The parentheses of a statement

Read from left to right, a text opens and closes parentheses. It is balanced if it closes none that it
has not opened and leaves none open (`Text.IsBalanced`). A balanced text may stand anywhere without
changing the depth of what is around it (`Text.IsBalanced.insert_iff`), so a statement is looked at
piece by piece, also where a pair of parentheses is opened in one piece and closed in another.

Names and literals are written as they are, apart from quotes, and everything else that a dialect writes
is balanced. So a statement is balanced if its names and the defaults it prints are
(`Backend.statement_balanced`).
-/

namespace Schemata

namespace Text

/-- The depth that a text leads to from a depth; none if it closes a parenthesis too many. -/
def depthBehind : Nat → List Char → Option Nat
  | depth, [] => some depth
  | depth, c :: cs =>
    if c = '(' then depthBehind (depth + 1) cs
    else if c = ')' then if depth = 0 then none else depthBehind (depth - 1) cs
    else depthBehind depth cs

/-- The parentheses of a text belong together. -/
def IsBalanced (cs : List Char) : Prop :=
  depthBehind 0 cs = some 0

instance : DecidablePred IsBalanced :=
  fun cs => inferInstanceAs (Decidable (depthBehind 0 cs = some 0))

/-! ## Depths -/

theorem depthBehind_append (depth : Nat) (cs ds : List Char) :
    depthBehind depth (cs ++ ds) = (depthBehind depth cs).bind fun d => depthBehind d ds := by
  induction cs generalizing depth with
  | nil => rfl
  | cons c cs ih =>
    simp only [List.cons_append, depthBehind]
    split
    · exact ih (depth + 1)
    · split
      · split
        · rfl
        · exact ih (depth - 1)
      · exact ih depth

/-- More open parentheses around a text stay open. -/
theorem depthBehind_add {depth d : Nat} {cs : List Char} (h : depthBehind depth cs = some d)
    (extra : Nat) : depthBehind (depth + extra) cs = some (d + extra) := by
  induction cs generalizing depth with
  | nil =>
    simp only [depthBehind, Option.some.injEq] at h ⊢
    rw [h]
  | cons c cs ih =>
    simp only [depthBehind] at h ⊢
    split at h
    · next hopen =>
      rw [if_pos hopen, Nat.add_right_comm]
      exact ih h
    · next hopen =>
      rw [if_neg hopen]
      split at h
      · next hclose =>
        split at h
        · cases h
        · next hdepth =>
          have hshift : depth + extra - 1 = depth - 1 + extra := by omega
          rw [if_pos hclose, if_neg (by omega), hshift]
          exact ih h
      · next hclose =>
        rw [if_neg hclose]
        exact ih h

/-- Doubling a quote does not change the depth. -/
theorem depthBehind_double {quote : Char} (h : quote ≠ '(' ∧ quote ≠ ')') (depth : Nat)
    (cs : List Char) : depthBehind depth (Quoted.double quote cs) = depthBehind depth cs := by
  induction cs generalizing depth with
  | nil => rfl
  | cons c cs ih =>
    by_cases hc : c = quote
    · subst hc
      simp only [Quoted.double, if_pos, depthBehind, if_neg h.1, if_neg h.2, ih]
    · simp only [Quoted.double, if_neg hc, depthBehind, ih]

namespace IsBalanced

variable {cs ds : List Char}

theorem depthBehind_eq (h : IsBalanced cs) (depth : Nat) : depthBehind depth cs = some depth := by
  simpa using depthBehind_add h depth

/-- A balanced text comes and goes at any place. -/
theorem insert_iff (h : IsBalanced cs) (before behind : List Char) :
    IsBalanced (before ++ (cs ++ behind)) ↔ IsBalanced (before ++ behind) := by
  have hsame : ∀ depth, depthBehind depth (cs ++ behind) = depthBehind depth behind := by
    intro depth
    rw [depthBehind_append, h.depthBehind_eq, Option.bind_some]
  unfold IsBalanced
  rw [depthBehind_append, depthBehind_append]
  simp only [hsame]

theorem append (hcs : IsBalanced cs) (hds : IsBalanced ds) : IsBalanced (cs ++ ds) :=
  (hcs.insert_iff [] ds).2 hds

theorem of_not_mem (h : '(' ∉ cs ∧ ')' ∉ cs) : IsBalanced cs := by
  induction cs with
  | nil => rfl
  | cons c cs ih =>
    have hopen : c ≠ '(' := fun hc => h.1 (by simp [hc])
    have hclose : c ≠ ')' := fun hc => h.2 (by simp [hc])
    have hcs := ih ⟨fun hmem => h.1 (by simp [hmem]), fun hmem => h.2 (by simp [hmem])⟩
    rw [IsBalanced, depthBehind, if_neg hopen, if_neg hclose]
    exact hcs

theorem intercalate {separator : List Char} (hseparator : IsBalanced separator)
    {items : List (List Char)} (h : ∀ item ∈ items, IsBalanced item) :
    IsBalanced (separator.intercalate items) := by
  induction items with
  | nil => rfl
  | cons item items ih =>
    obtain ⟨hitem, hitems⟩ := List.forall_mem_cons.1 h
    cases items with
    | nil => simpa using hitem
    | cons next items =>
      rw [List.intercalate_cons_cons]
      exact (hitem.append hseparator).append (ih hitems)

theorem double {quote : Char} (hquote : quote ≠ '(' ∧ quote ≠ ')') (h : IsBalanced cs) :
    IsBalanced (Quoted.double quote cs) := by
  rwa [IsBalanced, depthBehind_double hquote]

theorem nat (n : Nat) : IsBalanced (toString n).toList :=
  of_not_mem ⟨fun hmem => (Outline.isDigit_ne (Outline.isDigit_of_mem_toString hmem)).1 rfl,
    fun hmem => (Outline.isDigit_ne (Outline.isDigit_of_mem_toString hmem)).2.1 rfl⟩

theorem int (i : Int) : IsBalanced (toString i).toList :=
  of_not_mem ⟨fun hmem => (Outline.ne_of_mem_toString hmem).1 rfl,
    fun hmem => (Outline.ne_of_mem_toString hmem).2.1 rfl⟩

end IsBalanced

end Text

namespace Backend

open Text (IsBalanced)

variable (b : Backend)

/-! ## Names and types -/

theorem balanced_quote {name : String} (h : IsBalanced name.toList) :
    IsBalanced (b.dialect.quote name).toList := by
  have hquotes : (b.dialect.closeQuote ≠ '(' ∧ b.dialect.closeQuote ≠ ')') ∧
      IsBalanced [b.dialect.openQuote] ∧ IsBalanced [b.dialect.closeQuote] := by
    cases b <;> decide
  obtain ⟨hdouble, hopening, hclosing⟩ := hquotes
  rw [Dialect.quote, Text.Quoted.toList_quote, Text.Quoted.enclose]
  exact hopening.append ((h.double hdouble).append hclosing)

/-- The number in a spelling does not matter. -/
theorem balanced_withLength_iff (stem : String) (n : Nat) :
    IsBalanced (Spelling.withLength stem n).text.toList ↔ IsBalanced (stem ++ "()").toList := by
  have htext : (Spelling.withLength stem n).text.toList
      = (stem ++ "(").toList ++ ((toString n).toList ++ [')']) := by
    simp [Spelling.text]
  have hempty : (stem ++ "()").toList = (stem ++ "(").toList ++ [')'] := by
    simp
  rw [htext, hempty]
  exact (IsBalanced.nat n).insert_iff _ _

theorem balanced_spelling {t : Table} {c : Column} {s : Spelling}
    (h : b.dialect.spellColumn t c = .ok s) : IsBalanced s.text.toList := by
  obtain ⟨type, htype, hspell⟩ := Dialect.spellColumn_ok h
  let isBalanced (s : Spelling) : Bool := decide (IsBalanced s.text.toList)
  have hlength : ∀ stem n, isBalanced (.withLength stem n) = isBalanced (.withLength stem 0) := by
    intro stem n
    exact decide_eq_decide.2
      ((balanced_withLength_iff stem n).trans (balanced_withLength_iff stem 0).symm)
  have htable : (TypeTag.all.all fun tag =>
      (b.dialect.sqlType tag).all (SqlType.allSpellings isBalanced)) = true := by
    cases b <;> decide +kernel
  have hall : type.allSpellings isBalanced = true := by
    simpa [htype] using List.all_eq_true.1 htable c.type c.type.mem_all
  exact of_decide_eq_true (SqlType.spell_all hlength hall hspell)

/-! ## Clauses -/

theorem balanced_keyClause (c : Column) : IsBalanced (b.dialect.keyClause c).toList := by
  cases b with
  | sqlServer => exact (by decide : IsBalanced "PRIMARY KEY".toList)
  | mySql => exact (by decide : IsBalanced "PRIMARY KEY".toList)
  | sqlite =>
    simp only [dialect, Dialect.sqlite, Dialect.Sqlite.keyClause]
    split
    · decide
    · decide

theorem balanced_nullClause {c : Column} (h : c.refusesNull = true →
    ∀ literal, c.defaultValue = some literal → IsBalanced literal.toList) :
    IsBalanced (Dialect.nullClause c).toList := by
  unfold Dialect.nullClause
  split
  · decide
  · next hnull =>
    have hrefuses : c.refusesNull = true := by simpa [Column.refusesNull] using hnull
    split
    · next literal hdefault =>
      rw [String.toList_append]
      exact IsBalanced.append (by decide) (h hrefuses literal hdefault)
    · decide

theorem balanced_identity (a : AutoIncrement) :
    IsBalanced (Dialect.SqlServer.incrementClause a).toList := by
  have htext : (Dialect.SqlServer.incrementClause a).toList
      = "IDENTITY(".toList ++ ((toString a.seed.toInt).toList
        ++ (",".toList ++ ((toString a.step.toInt).toList ++ [')']))) := by
    simp [Dialect.SqlServer.incrementClause]
  have hempty : IsBalanced ("IDENTITY(,".toList ++ [')']) := by decide
  rw [htext, (IsBalanced.int a.seed.toInt).insert_iff]
  exact ((IsBalanced.int a.step.toInt).insert_iff "IDENTITY(,".toList [')']).2 hempty

theorem balanced_numberClause (c : Column) : IsBalanced (b.dialect.numberClause c).toList := by
  unfold Dialect.numberClause
  cases c.autoIncrement with
  | none => exact (by decide : IsBalanced "".toList)
  | some a =>
    cases b with
    | sqlServer =>
      have hclause : IsBalanced (" ".toList ++ (Dialect.SqlServer.incrementClause a).toList) :=
        IsBalanced.append (by decide) (balanced_identity a)
      rw [← String.toList_append] at hclause
      exact hclause
    | mySql => exact (by decide : IsBalanced " AUTO_INCREMENT".toList)
    | sqlite => exact (by decide : IsBalanced "".toList)

theorem balanced_tableOptions (t : Table) : IsBalanced (b.dialect.tableOptions t).toList := by
  cases b with
  | sqlServer => exact (by decide : IsBalanced "".toList)
  | sqlite => exact (by decide : IsBalanced "".toList)
  | mySql =>
    simp only [dialect, Dialect.mySql, Dialect.MySql.tableOptions]
    split
    · next a _ =>
      split
      · decide
      · rw [String.toList_append]
        exact IsBalanced.append (by decide) (.int a.seed.toInt)
    · decide

/-! ## Statements -/

/-- In front of the definitions the name of the table may stand twice, the first time in a literal that
stands between parentheses. -/
theorem balanced_createClause {name : String} (h : IsBalanced name.toList) :
    IsBalanced (b.dialect.createClause (b.dialect.quote name)).toList := by
  have hname := b.balanced_quote h
  have hplain : IsBalanced ("CREATE TABLE IF NOT EXISTS " ++ b.dialect.quote name).toList := by
    rw [String.toList_append]
    exact IsBalanced.append (by decide) hname
  cases b with
  | mySql => exact hplain
  | sqlite => exact hplain
  | sqlServer =>
    have hliteral : IsBalanced (Dialect.inLiteral (sqlServer.dialect.quote name)).toList := by
      rw [Dialect.inLiteral, String.toList_ofList]
      exact hname.double (by decide)
    have hguard : IsBalanced ("IF OBJECT_ID(N'".toList
        ++ ((Dialect.inLiteral (sqlServer.dialect.quote name)).toList
          ++ "', N'U') IS NULL CREATE TABLE ".toList)) :=
      (hliteral.insert_iff _ _).2 (by decide)
    have hclause := hguard.append hname
    rw [← String.toList_append, ← String.toList_append, ← String.toList_append,
      ← String.append_assoc] at hclause
    exact hclause

theorem balanced_definition {t : Table} {c : Column} {s : Spelling} (singleKey : Bool)
    (hspell : b.dialect.spellColumn t c = .ok s) (hname : IsBalanced c.name.toList)
    (hdefault : c.refusesNull = true →
      ∀ literal, c.defaultValue = some literal → IsBalanced literal.toList) :
    IsBalanced (b.dialect.definition singleKey c s.text).toList := by
  have hkey : IsBalanced
      (if singleKey && c.isPrimaryKey then " " ++ b.dialect.keyClause c else "").toList := by
    split
    · rw [String.toList_append]
      exact IsBalanced.append (by decide) (b.balanced_keyClause c)
    · decide
  simp only [Dialect.definition, String.toList_append]
  exact (((((b.balanced_quote hname).append (by decide)).append (b.balanced_spelling hspell)).append
    hkey).append (balanced_nullClause hdefault)).append (b.balanced_numberClause c)

theorem balanced_constraint {kind : String} (hkind : IsBalanced kind.toList) {columns : List Column}
    (h : ∀ c ∈ columns, IsBalanced c.name.toList) :
    IsBalanced (b.dialect.constraint kind columns).toList := by
  have hnames : IsBalanced (", ".intercalate (columns.map fun c => b.dialect.quote c.name)).toList := by
    rw [String.toList_intercalate]
    refine IsBalanced.intercalate (by decide) ?_
    simp only [List.map_map, List.forall_mem_map]
    exact fun c hc => b.balanced_quote (h c hc)
  have hlist := (hnames.insert_iff ['('] [')']).2 (by decide)
  simpa [Dialect.constraint] using hkind.append hlist

/-- **The parentheses of a statement are balanced** if those of the names and of the printed defaults
are. -/
theorem statement_balanced {b : Backend} {t : Table} {text : String}
    (h : (b.generator.generate t).result = .ok text) (hname : IsBalanced t.name.toList)
    (hcolumns : ∀ c ∈ t.columns, IsBalanced c.name.toList)
    (hdefaults : ∀ c ∈ t.columns, c.refusesNull = true →
      ∀ literal, c.defaultValue = some literal → IsBalanced literal.toList) :
    IsBalanced text.toList := by
  obtain ⟨l, hl, rfl⟩ := Dialect.createTable_ok (d := b.dialect) h
  have hordered : ∀ c ∈ t.orderedColumns, IsBalanced c.name.toList :=
    fun c hc => hcolumns c (Table.mem_of_mem_orderedColumns hc)
  have hdefinitions : ∀ p ∈ l,
      IsBalanced (b.dialect.definition (t.primaryKey.length == 1) p.1 p.2.text).toList := by
    intro p hp
    have hmem : p.1 ∈ t.orderedColumns := hl.columns ▸ List.mem_map_of_mem hp
    exact b.balanced_definition _ (hl.spelled p hp) (hordered p.1 hmem)
      (hdefaults p.1 (Table.mem_of_mem_orderedColumns hmem))
  have hfilter : ∀ (kind : String) (p : Column → Bool), IsBalanced kind.toList →
      IsBalanced (b.dialect.constraint kind (t.orderedColumns.filter p)).toList :=
    fun kind p hkind => b.balanced_constraint hkind
      fun c hc => hordered c (List.mem_of_mem_filter hc)
  have hparts : ∀ part ∈ b.dialect.parts t l, IsBalanced part.toList := by
    simp only [Dialect.parts, List.forall_mem_append, List.forall_mem_map]
    refine ⟨⟨hdefinitions, ?_⟩, ?_⟩
    · unfold Dialect.keyConstraints
      split
      · exact List.forall_mem_singleton.2 (hfilter "PRIMARY KEY" _ (by decide))
      · simp
    · unfold Dialect.uniqueConstraints
      dsimp only
      split
      · simp
      · exact List.forall_mem_singleton.2 (hfilter "UNIQUE" _ (by decide))
  have hlist : IsBalanced (", ".intercalate (b.dialect.parts t l)).toList := by
    rw [String.toList_intercalate]
    exact IsBalanced.intercalate (by decide) (by simpa using hparts)
  have hbody := (hlist.insert_iff " (".toList [')']).2 (by decide)
  have hstatement := ((b.balanced_createClause hname).append hbody).append (b.balanced_tableOptions t)
  simpa [Dialect.statement] using hstatement

/-- A table with parentheses in names and in defaults, one of which is not printed. -/
def sites : Table :=
  ⟨"sites (old)", [
    { Column.plain "id" .int64 with
      isPrimaryKey := true, nullable := false, autoIncrement := some ⟨-1, 2⟩ },
    { Column.plain "f(x)" .decimal with
      isUnique := true, nullable := false, defaultValue := some "(round(2.5))" },
    { Column.plain "text" .string with maxLength := some 20, defaultValue := some ")(" }]⟩

def sitesStatement : String :=
  "IF OBJECT_ID(N'[sites (old)]', N'U') IS NULL CREATE TABLE [sites (old)] ([id] BIGINT PRIMARY KEY "
    ++ "NOT NULL IDENTITY(-1,2), [f(x)] DECIMAL(18, 2) DEFAULT (round(2.5)), [text] NVARCHAR(20), "
    ++ "UNIQUE([f(x)]))"

theorem statement_balanced_sites :
    (sqlServer.generator.generate sites).result = .ok sitesStatement ∧
      IsBalanced sitesStatement.toList := by
  have hgenerated : (sqlServer.generator.generate sites).result = .ok sitesStatement := by
    have horder : sites.orderedColumns = sites.columns :=
      Table.orderedColumns_of_pairwise (by decide)
    simp only [generator, Generator.ofDialect, Dialect.createTable, Dialect.statement, horder]
    decide +kernel
  refine ⟨hgenerated, statement_balanced hgenerated (by decide) (by decide) ?_⟩
  intro c hc hnull literal hliteral
  simp only [sites, List.mem_cons, List.not_mem_nil, or_false] at hc
  rcases hc with rfl | rfl | rfl
  · cases hliteral
  · cases hliteral
    decide
  · exact absurd hnull (by decide)

end Backend

end Schemata
