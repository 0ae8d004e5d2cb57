import Schemata.Proofs.Statement.Refusal

/-!
# Warnings

A backend warns of a numbered column that it cannot number as described. SQLite numbers the column that
is the whole key and no other, always from one in steps of one; MySQL has no steps of its own; SQL
Server numbers every column as it is told. `Backend.Remark` is the line about a column, if there is one.

The warnings are given on the way through the columns, and the way ends at the first column that is
refused: `Backend.warnings_exact` says which lines there are, and in which order, whether or not there
is a statement in the end.
-/

namespace Schemata

/-- The lines of the warnings. -/
def Generated.lines {α : Type} (g : Generated α) : List String :=
  g.warnings.map Warning.message

namespace Dialect

variable {d : Dialect} {t : Table} {singleKey : Bool}

/-! ## The way through the columns -/

theorem warnings_append {before : List Column} (hbefore : ∀ c ∈ before, d.Accepts c)
    (rest : List Column) :
    (d.definitions t singleKey (before ++ rest)).warnings
      = before.filterMap (d.warning? t singleKey) ++ (d.definitions t singleKey rest).warnings := by
  induction before with
  | nil => rfl
  | cons c before ih =>
    obtain ⟨spelling, hspell⟩ := (accepts_iff t).1 (hbefore c List.mem_cons_self)
    have hothers := ih fun b hb => hbefore b (List.mem_cons_of_mem c hb)
    simp only [List.cons_append, definitions, hspell, hothers]
    cases hwarning : d.warning? t singleKey c with
    | none =>
      rw [List.filterMap_cons_none hwarning]
      rfl
    | some w =>
      rw [List.filterMap_cons_some hwarning]
      rfl

/-- A refused column is not warned of, nor is any column behind it. -/
theorem warnings_of_refused {rest : List Column}
    (h : ∀ c ∈ rest.head?, ∃ type, d.Refuses c type) :
    (d.definitions t singleKey rest).warnings = [] := by
  cases rest with
  | nil => rfl
  | cons c rest =>
    obtain ⟨type, hrefuses⟩ := h c rfl
    simp only [definitions, hrefuses.spellColumn]

theorem exists_accepted (d : Dialect) (cs : List Column) :
    ∃ before rest, cs = before ++ rest ∧ (∀ c ∈ before, d.Accepts c) ∧
      ∀ c ∈ rest.head?, ∃ type, d.Refuses c type := by
  induction cs with
  | nil => exact ⟨[], [], rfl, by simp, by simp⟩
  | cons c cs ih =>
    by_cases hc : d.Accepts c
    · obtain ⟨before, rest, rfl, hbefore, hrest⟩ := ih
      refine ⟨c :: before, rest, rfl, ?_, hrest⟩
      intro b hb
      rcases List.mem_cons.1 hb with rfl | hb
      · exact hc
      · exact hbefore b hb
    · refine ⟨[], c :: cs, rfl, by simp, ?_⟩
      rintro b ⟨⟩
      exact not_accepts_iff.1 hc

end Dialect

namespace Backend

/-! ## Lines about columns -/

/-- The line about a numbered column that a backend cannot number as described. -/
inductive Remark (t : Table) (c : Column) : Backend → String → Prop
  /-- The column is not numbered at all. -/
  | ignored {a : AutoIncrement} (numbered : c.autoIncrement = some a) (other : ¬ t.IsWholeKey c) :
    Remark t c .sqlite ("Sqlite only auto-increments a single-column primary key; ignoring it on `"
      ++ t.name ++ "`.`" ++ c.name ++ "`")
  /-- The numbers are not those that were asked for. -/
  | start {a : AutoIncrement} (numbered : c.autoIncrement = some a) (key : t.IsWholeKey c)
      (own : (a.seed, a.step) ≠ (1, 1)) :
    Remark t c .sqlite ("Sqlite has no identity seed or step; `" ++ t.name ++ "`.`" ++ c.name
      ++ "` starts at 1 and increments by 1")
  /-- The steps are those of the server. -/
  | step {a : AutoIncrement} (numbered : c.autoIncrement = some a) (own : a.step ≠ 1) :
    Remark t c .mySql ("MySql has no per-column increment step; `" ++ t.name ++ "`.`" ++ c.name
      ++ "` uses the server's auto_increment_increment")

/-- The lines about columns in turn: one for each column that there is a line about, and no others. -/
inductive Remarks (b : Backend) (t : Table) : List Column → List String → Prop
  | nil : Remarks b t [] []
  | silent {c : Column} {cs : List Column} {lines : List String} (h : ∀ line, ¬ Remark t c b line)
      (hcs : Remarks b t cs lines) : Remarks b t (c :: cs) lines
  | remark {c : Column} {line : String} {cs : List Column} {lines : List String}
      (h : Remark t c b line) (hcs : Remarks b t cs lines) : Remarks b t (c :: cs) (line :: lines)

variable {b : Backend} {t : Table} {c : Column}

theorem not_remark_of_none (h : c.autoIncrement = none) (line : String) : ¬ Remark t c b line := by
  intro hremark
  cases hremark with
  | ignored numbered => cases h.symm.trans numbered
  | start numbered => cases h.symm.trans numbered
  | step numbered => cases h.symm.trans numbered

theorem eq_standard_iff {a : AutoIncrement} : a = .standard ↔ (a.seed, a.step) = (1, 1) := by
  obtain ⟨seed, step⟩ := a
  simp [AutoIncrement.standard]

/-- A column gives the warning that says what there is to remark on it. -/
theorem warning?_remark (b : Backend) (hc : c ∈ t.orderedColumns) :
    match b.dialect.warning? t (t.primaryKey.length == 1) c with
    | some w => Remark t c b w.message
    | none => ∀ line, ¬ Remark t c b line := by
  cases hnumbered : c.autoIncrement with
  | none =>
    simp only [Dialect.warning?, hnumbered, Option.bind_none]
    exact not_remark_of_none hnumbered
  | some a =>
    have hown {a' : AutoIncrement} (numbered : c.autoIncrement = some a') : a' = a :=
      Option.some.inj (numbered.symm.trans hnumbered)
    simp only [Dialect.warning?, hnumbered, Option.bind_some]
    cases b with
    | sqlServer =>
      intro line hremark
      cases hremark
    | mySql =>
      simp only [dialect, Dialect.mySql, Dialect.MySql.incrementWarning]
      by_cases hstep : a.step = 1
      · rw [if_pos hstep]
        intro line hremark
        cases hremark with
        | step numbered own => exact own (hown numbered ▸ hstep)
      · rw [if_neg hstep]
        exact .step hnumbered hstep
    | sqlite =>
      simp only [dialect, Dialect.sqlite, Dialect.Sqlite.incrementWarning]
      by_cases hkey : t.IsWholeKey c
      · rw [(t.isWholeKey_iff hc).1 hkey, if_neg (by simp)]
        by_cases hstandard : a = .standard
        · rw [if_pos hstandard]
          intro line hremark
          cases hremark with
          | ignored _ other => exact other hkey
          | start numbered _ own => exact own (eq_standard_iff.1 (hown numbered ▸ hstandard))
        · rw [if_neg hstandard]
          exact .start hnumbered hkey fun h => hstandard (eq_standard_iff.2 h)
      · have hother : (t.primaryKey.length == 1 && c.isPrimaryKey) = false :=
          Bool.eq_false_iff.2 fun h => hkey ((t.isWholeKey_iff hc).2 h)
        rw [hother, if_pos Bool.not_false]
        exact .ignored hnumbered hkey

theorem remarks_filterMap (b : Backend) {cs : List Column} (hcs : ∀ c ∈ cs, c ∈ t.orderedColumns) :
    Remarks b t cs
      ((cs.filterMap (b.dialect.warning? t (t.primaryKey.length == 1))).map Warning.message) := by
  induction cs with
  | nil => exact .nil
  | cons c cs ih =>
    have hremark := warning?_remark b (hcs c List.mem_cons_self)
    have hothers := ih fun c' hc' => hcs c' (List.mem_cons_of_mem c hc')
    cases hwarning : b.dialect.warning? t (t.primaryKey.length == 1) c with
    | none =>
      rw [hwarning] at hremark
      rw [List.filterMap_cons_none hwarning]
      exact .silent hremark hothers
    | some w =>
      rw [hwarning] at hremark
      rw [List.filterMap_cons_some hwarning, List.map_cons]
      exact .remark hremark hothers

/-! ## Tables -/

/-- The lines of a table are about the columns up to the first that is refused. -/
theorem lines_generate (b : Backend) (t : Table) :
    ∃ before rest, t.orderedColumns = before ++ rest ∧ (∀ c ∈ before, b.dialect.Accepts c) ∧
      (∀ c ∈ rest.head?, ∃ type, b.dialect.Refuses c type) ∧
      Remarks b t before (b.generator.generate t).lines := by
  obtain ⟨before, rest, hsplit, hbefore, hrest⟩ := b.dialect.exists_accepted t.orderedColumns
  refine ⟨before, rest, hsplit, hbefore, hrest, ?_⟩
  have hwarnings : (b.generator.generate t).warnings
      = before.filterMap (b.dialect.warning? t (t.primaryKey.length == 1)) := by
    calc (b.dialect.createTable t).warnings
        = (b.dialect.definitions t (t.primaryKey.length == 1) (before ++ rest)).warnings := by
          rw [← hsplit]
          rfl
      _ = _ := by
          rw [Dialect.warnings_append hbefore, Dialect.warnings_of_refused hrest, List.append_nil]
  rw [Generated.lines, hwarnings]
  apply remarks_filterMap
  intro c hc
  rw [hsplit]
  exact List.mem_append_left rest hc

end Backend

namespace Generator

/-! ## Lists of tables -/

/-- The first table that has no statement still gives its warnings. -/
theorem lines_compile (g : Generator) (tables : List Table) :
    ∃ before rest, tables = before ++ rest ∧
      (∀ t ∈ before, ∃ text, (g.generate t).result = .ok text) ∧
      (∀ t ∈ rest.head?, ∃ e, (g.generate t).result = .error e) ∧
      (g.compile tables).lines = (before ++ rest.take 1).flatMap fun t => (g.generate t).lines := by
  induction tables with
  | nil => exact ⟨[], [], rfl, by simp, by simp, rfl⟩
  | cons t tables ih =>
    cases ht : (g.generate t).result with
    | error e =>
      refine ⟨[], t :: tables, rfl, by simp, ?_, ?_⟩
      · rintro u ⟨⟩
        exact ⟨e, ht⟩
      · simp [compile, Generated.andThen, ht, Generated.lines]
    | ok text =>
      obtain ⟨before, rest, rfl, hbefore, hrest, hlines⟩ := ih
      refine ⟨t :: before, rest, rfl, ?_, hrest, ?_⟩
      · intro u hu
        rcases List.mem_cons.1 hu with rfl | hu
        · exact ⟨text, ht⟩
        · exact hbefore u hu
      · rw [List.cons_append, List.flatMap_cons, ← hlines]
        simp [compile, Generated.andThen, ht, Generated.lines, Generated.map]

end Generator

namespace Backend

/-- **The warnings of a generation are exact**: each line is about a numbered column that the backend
cannot number as described, in the order of the statement, up to the first column that is refused. -/
theorem warnings_exact (b : Backend) (t : Table) (tables : List Table) (text : String) :
    (∃ before rest, t.orderedColumns = before ++ rest ∧ (∀ c ∈ before, b.dialect.Accepts c) ∧
      (∀ c ∈ rest.head?, ∃ type, b.dialect.Refuses c type) ∧
      -- There is a statement iff all columns are gone through;
      ((∃ statement, (b.generator.generate t).result = .ok statement) ↔ rest = []) ∧
      -- the lines are about those that were.
      Remarks b t before (b.generator.generate t).lines) ∧
    -- They are the same for a statement that is written behind a text.
    (b.generator.generateInto text t).1.lines = (b.generator.generate t).lines ∧
    -- A list of tables has the lines of its tables, up to the first that has no statement.
    ∃ before rest, tables = before ++ rest ∧
      (∀ u ∈ before, ∃ statement, (b.generator.generate u).result = .ok statement) ∧
      (∀ u ∈ rest.head?, ∃ e, (b.generator.generate u).result = .error e) ∧
      (b.generator.compile tables).lines
        = (before ++ rest.take 1).flatMap fun u => (b.generator.generate u).lines := by
  refine ⟨?_, ?_, b.generator.lines_compile tables⟩
  · obtain ⟨before, rest, hsplit, hbefore, hrest, hlines⟩ := lines_generate b t
    refine ⟨before, rest, hsplit, hbefore, hrest, ?_, hlines⟩
    have hok : (∃ statement, (b.generator.generate t).result = .ok statement) ↔
        ∀ c ∈ t.orderedColumns, b.dialect.Accepts c := by
      simp only [t.orderedColumns_perm.mem_iff]
      exact Dialect.createTable_ok_iff
    rw [hok, hsplit]
    constructor
    · intro haccepts
      cases rest with
      | nil => rfl
      | cons c rest =>
        obtain ⟨type, hrefuses⟩ := hrest c rfl
        exact absurd hrefuses (haccepts c (by simp) type)
    · rintro rfl
      rwa [List.append_nil]
  · rw [generateInto_eq]
    rfl

/-- The last column is declared behind one that MySQL refuses, and the third is moved to the front. -/
def sums : Table :=
  ⟨"Sum", [
    { Column.plain "no" .int32 with autoIncrement := some ⟨1, 5⟩ },
    { Column.plain "id" .int32 with isPrimaryKey := true, autoIncrement := some ⟨7, 1⟩ },
    { Column.plain "later" .int64 with autoIncrement := some ⟨1, 2⟩, ordinal := some 0 },
    Column.plain "total" .varNumeric,
    { Column.plain "last" .int64 with autoIncrement := some ⟨1, 3⟩ }]⟩

def sumLines : List String := [
  "MySql has no per-column increment step; `Sum`.`later` uses the server's auto_increment_increment",
  "MySql has no per-column increment step; `Sum`.`no` uses the server's auto_increment_increment"]

theorem warnings_exact_sums :
    (mySql.generator.generate sums).lines = sumLines ∧
    (mySql.generator.compile [sums, sums]).lines = sumLines ∧
    (∃ before rest, sums.orderedColumns = before ++ rest ∧ rest ≠ [] ∧
      Remarks mySql sums before sumLines) ∧
    (mySql.generator.generateInto "BEGIN; " sums).1.lines = sumLines := by
  have horder : sums.orderedColumns = [sums.columns[2], sums.columns[0], sums.columns[1],
      sums.columns[3], sums.columns[4]] := by
    simp [Table.orderedColumns, sums, List.zipIdx, List.mergeSort, Table.mayPrecede, Table.sortKey,
      Column.plain]
  have hgenerated : mySql.generator.generate sums
      = ⟨[.stepIgnored "Sum" "later", .stepIgnored "Sum" "no"],
        .error ⟨"MySql", "Sum", "total", "VarNumeric"⟩⟩ := by
    simp only [generator, Generator.ofDialect, Dialect.createTable, horder]
    cbv
  have hlines : (mySql.generator.generate sums).lines = sumLines := by
    rw [hgenerated]
    rfl
  obtain ⟨⟨before, rest, hsplit, -, -, hok, hremarks⟩, hinto, front, behind, htables, hfront, -,
    hcompile⟩ := warnings_exact mySql sums [sums, sums] "BEGIN; "
  have hfails : ¬ ∃ statement, (mySql.generator.generate sums).result = .ok statement := by
    rw [hgenerated]
    rintro ⟨statement, ⟨⟩⟩
  refine ⟨hlines, ?_, ⟨before, rest, hsplit, fun h => hfails (hok.2 h), hlines ▸ hremarks⟩,
    hinto.trans hlines⟩
  -- the first of the tables fails already
  cases front with
  | cons u front =>
    obtain ⟨rfl, -⟩ := List.cons.inj htables
    exact absurd (hfront sums List.mem_cons_self) hfails
  | nil =>
    rw [hcompile, ← show [sums, sums] = behind from htables]
    simpa using hlines

end Backend

end Schemata
