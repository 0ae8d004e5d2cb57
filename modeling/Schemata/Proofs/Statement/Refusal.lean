import Schemata.Backend
import Schemata.Proofs.Statement.Definitions

/-!
# Refused columns

A dialect refuses a column whose type it does not have, or whose length no index of the dialect takes
(`Dialect.Refuses`). This is the only way in which generating can fail: a table has a statement iff no
column of it is refused, and otherwise the error is that of the first refused column in the order of
the statement, wherever it was declared.

`Backend.generateInto_outcome` says so of a statement that is written behind a text, which a failure
leaves as it was, and of lists of tables, where the first table that has no statement decides.
-/

namespace Schemata

namespace Dialect

/-- The dialect has no spelling for a column; the text is the type as the error names it. -/
inductive Refuses (d : Dialect) (c : Column) : String → Prop
  /-- The dialect does not have the type. -/
  | type (missing : d.sqlType c.type = none) : Refuses d c c.type.name
  /-- The column is indexed, and longer than an index takes. -/
  | key {type : SizedType} {length : UInt32} (sized : d.sqlType c.type = some (.sized type))
      (keyed : c.isPrimaryKey = true ∨ c.isUnique = true) (given : c.maxLength = some length)
      (long : type.maxKey < length.toNat) :
    Refuses d c (c.type.name ++ "(" ++ toString length.toNat ++ ") as key")

def Accepts (d : Dialect) (c : Column) : Prop :=
  ∀ type, ¬ d.Refuses c type

/-- The error is about the first of the columns that the dialect refuses. -/
def RefusesFirst (d : Dialect) (t : Table) (cs : List Column) (e : UnsupportedType) : Prop :=
  ∃ before c after type, cs = before ++ c :: after ∧ (∀ b ∈ before, d.Accepts b) ∧
    d.Refuses c type ∧ e = ⟨d.name, t.name, c.name, type⟩

variable {d : Dialect} {t : Table} {c : Column}

/-! ## One column -/

theorem Refuses.spellColumn {type : String} (h : d.Refuses c type) :
    d.spellColumn t c = .error ⟨d.name, t.name, c.name, type⟩ := by
  cases h with
  | type missing => simp only [Dialect.spellColumn, missing]
  | key sized keyed given long =>
    have hkeyed : c.isKeyed = true := by
      simpa [Column.isKeyed] using keyed
    simp [Dialect.spellColumn, sized, SqlType.spell, given, hkeyed, long, keyTypeText]

/-- A type has no spelling only where the length is too long for an index. -/
theorem spell_eq_none {type : SqlType} {maxLength : Option UInt32} {keyed : Bool}
    (h : type.spell maxLength keyed = none) :
    ∃ sized length, type = .sized sized ∧ keyed = true ∧ maxLength = some length ∧
      sized.maxKey < length.toNat := by
  cases type with
  | plain text => cases h
  | sized sized =>
    cases maxLength with
    | none => cases h
    | some length =>
      simp only [SqlType.spell] at h
      split at h
      · next hlong => exact ⟨sized, length, rfl, hlong.1, rfl, hlong.2⟩
      · split at h <;> cases h

theorem exists_refuses {e : UnsupportedType} (h : d.spellColumn t c = .error e) :
    ∃ type, d.Refuses c type ∧ e = ⟨d.name, t.name, c.name, type⟩ := by
  unfold Dialect.spellColumn at h
  cases htype : d.sqlType c.type with
  | none =>
    simp only [htype, Except.error.injEq] at h
    exact ⟨_, .type htype, h.symm⟩
  | some type =>
    cases hspell : type.spell c.maxLength c.isKeyed with
    | some spelling => simp [htype, hspell] at h
    | none =>
      simp only [htype, hspell, Except.error.injEq] at h
      obtain ⟨sized, length, rfl, hkeyed, hlength, hlong⟩ := spell_eq_none hspell
      have hindexed : c.isPrimaryKey = true ∨ c.isUnique = true := by
        simpa [Column.isKeyed] using hkeyed
      refine ⟨_, .key htype hindexed hlength hlong, ?_⟩
      rw [← h, keyTypeText, hlength]
      rfl

theorem accepts_iff (t : Table) : d.Accepts c ↔ ∃ spelling, d.spellColumn t c = .ok spelling := by
  constructor
  · intro haccepts
    cases h : d.spellColumn t c with
    | ok spelling => exact ⟨spelling, rfl⟩
    | error e =>
      obtain ⟨type, hrefuses, -⟩ := exists_refuses h
      exact absurd hrefuses (haccepts type)
  · rintro ⟨spelling, h⟩ type hrefuses
    rw [hrefuses.spellColumn] at h
    cases h

theorem not_accepts_iff : ¬ d.Accepts c ↔ ∃ type, d.Refuses c type := by
  simp [Accepts]

/-! ## The columns of a statement -/

theorem definitions_error_iff {singleKey : Bool} {cs : List Column} {e : UnsupportedType} :
    (d.definitions t singleKey cs).result = .error e ↔ d.RefusesFirst t cs e := by
  have hok (c : Column) : (∃ text, (d.spellColumn t c).map (d.definition singleKey c ·.text)
      = .ok text) ↔ d.Accepts c := by
    rw [accepts_iff t]
    cases d.spellColumn t c <;> simp [Except.map]
  have herror (c : Column) : (d.spellColumn t c).map (d.definition singleKey c ·.text) = .error e
      ↔ ∃ type, d.Refuses c type ∧ e = ⟨d.name, t.name, c.name, type⟩ := by
    constructor
    · intro h
      cases hc : d.spellColumn t c with
      | ok s => simp [hc, Except.map] at h
      | error e' =>
        simp only [hc, Except.map, Except.error.injEq] at h
        exact h ▸ exists_refuses hc
    · rintro ⟨type, hrefuses, rfl⟩
      rw [hrefuses.spellColumn]
      rfl
  rw [definitions_result, Traversal.mapM_error_iff]
  simp only [hok, herror]
  constructor
  · rintro ⟨before, c, after, hsplit, hbefore, type, hrefuses, he⟩
    exact ⟨before, c, after, type, hsplit, hbefore, hrefuses, he⟩
  · rintro ⟨before, c, after, type, hsplit, hbefore, hrefuses, he⟩
    exact ⟨before, c, after, hsplit, hbefore, type, hrefuses, he⟩

theorem createTable_error_iff {e : UnsupportedType} :
    (d.createTable t).result = .error e ↔ d.RefusesFirst t t.orderedColumns e := by
  have hresult : (d.createTable t).result = .error e ↔
      (d.definitions t ((t.orderedColumns.filter (·.isPrimaryKey)).length == 1)
        t.orderedColumns).result = .error e := by
    simp only [createTable, Generated.map]
    cases (d.definitions t _ t.orderedColumns).result <;> simp [Except.map]
  rw [hresult, definitions_error_iff]

/-- Where a column is refused, there is a first one. -/
theorem exists_refusesFirst {cs : List Column} (hc : c ∈ cs) {type : String}
    (h : d.Refuses c type) : ∃ e, d.RefusesFirst t cs e := by
  induction cs with
  | nil => cases hc
  | cons b cs ih =>
    by_cases hb : d.Accepts b
    · have hcs : c ∈ cs := by
        rcases List.mem_cons.1 hc with rfl | hcs
        · exact absurd h (hb type)
        · exact hcs
      obtain ⟨e, before, c', after, type', rfl, hbefore, hrefuses, rfl⟩ := ih hcs
      refine ⟨_, b :: before, c', after, type', rfl, ?_, hrefuses, rfl⟩
      intro b' hb'
      rcases List.mem_cons.1 hb' with rfl | hb'
      · exact hb
      · exact hbefore b' hb'
    · obtain ⟨type', hrefuses⟩ := not_accepts_iff.1 hb
      exact ⟨_, [], b, cs, type', rfl, by simp, hrefuses, rfl⟩

theorem createTable_fails_iff :
    (∃ e, (d.createTable t).result = .error e) ↔ ∃ c ∈ t.columns, ∃ type, d.Refuses c type := by
  constructor
  · rintro ⟨e, he⟩
    obtain ⟨before, c, after, type, hsplit, -, hrefuses, -⟩ := createTable_error_iff.1 he
    have hc : c ∈ t.orderedColumns := by simp [hsplit]
    exact ⟨c, Table.mem_of_mem_orderedColumns hc, type, hrefuses⟩
  · rintro ⟨c, hc, type, hrefuses⟩
    have hc' : c ∈ t.orderedColumns := t.orderedColumns_perm.mem_iff.2 hc
    obtain ⟨e, hfirst⟩ := exists_refusesFirst (t := t) hc' hrefuses
    exact ⟨e, createTable_error_iff.2 hfirst⟩

theorem createTable_ok_iff :
    (∃ text, (d.createTable t).result = .ok text) ↔ ∀ c ∈ t.columns, d.Accepts c := by
  have hfails : (∃ text, (d.createTable t).result = .ok text) ↔
      ¬ ∃ e, (d.createTable t).result = .error e := by
    cases (d.createTable t).result <;> simp
  rw [hfails, createTable_fails_iff]
  simp [Accepts]

/-! ## Writing behind a text -/

/-- The pieces add up to the statement, and none is written where there is none. -/
theorem writeTable_eq (d : Dialect) (text : String) (t : Table) :
    d.writeTable text t = (⟨(d.createTable t).warnings, (d.createTable t).result.map fun _ => ()⟩,
      match (d.createTable t).result with
      | .ok statement => text ++ statement
      | .error _ => text) := by
  unfold writeTable createTable
  cases h : (d.definitions t ((t.orderedColumns.filter (·.isPrimaryKey)).length == 1)
      t.orderedColumns).result with
  | error e => simp [Generated.map, h, Except.map]
  | ok parts => simp [Generated.map, h, Except.map, statement, String.append_assoc]

end Dialect

/-! ## Lists of tables -/

namespace Generator

variable {g : Generator} {tables : List Table}

theorem compile_result (g : Generator) (tables : List Table) :
    (g.compile tables).result = tables.mapM fun t => (g.generate t).result := by
  induction tables with
  | nil => rfl
  | cons t tables ih =>
    rw [List.mapM_cons, ← ih]
    simp only [compile, Generated.andThen]
    cases (g.generate t).result with
    | error e => rfl
    | ok text =>
      simp only [Generated.map]
      cases (g.compile tables).result <;> rfl

theorem compile_ok_iff {statements : List String} :
    (g.compile tables).result = .ok statements ↔
      List.Forall₂ (fun t text => (g.generate t).result = .ok text) tables statements := by
  rw [compile_result, Traversal.mapM_ok_iff]

theorem compile_error_iff {e : UnsupportedType} :
    (g.compile tables).result = .error e ↔ ∃ before t after, tables = before ++ t :: after ∧
      (∀ u ∈ before, ∃ text, (g.generate u).result = .ok text) ∧
      (g.generate t).result = .error e := by
  rw [compile_result, Traversal.mapM_error_iff]

end Generator

namespace Backend

theorem generateInto_eq (b : Backend) (text : String) (t : Table) :
    b.generator.generateInto text t
      = (⟨(b.generator.generate t).warnings, (b.generator.generate t).result.map fun _ => ()⟩,
        match (b.generator.generate t).result with
        | .ok statement => text ++ statement
        | .error _ => text) :=
  Dialect.writeTable_eq b.dialect text t

/-- **Generation fails exactly when a column is refused**, with an error about the first one, and then
writes nothing. -/
theorem generateInto_outcome (b : Backend) (t : Table) (text : String) :
    let written := b.generator.generateInto text t
    -- It fails iff some column is refused;
    ((∃ e, written.1.result = .error e) ↔ ∃ c ∈ t.columns, ∃ type, b.dialect.Refuses c type) ∧
    -- the first of these in the order of the statement is named, and the text stays as it was.
    (∀ e, written.1.result = .error e ↔ b.dialect.RefusesFirst t t.orderedColumns e) ∧
    (∀ e, written.1.result = .error e → written.2 = text) ∧
    -- Otherwise the statement stands behind the text.
    (written.1.result = .ok () ↔ ∃ statement, (b.generator.generate t).result = .ok statement) ∧
    (∀ statement, (b.generator.generate t).result = .ok statement →
      written.2 = text ++ statement) ∧
    -- A list of tables has all statements in order, or fails like its first table that has none.
    (∀ tables statements, (b.generator.compile tables).result = .ok statements ↔
      List.Forall₂ (fun u statement => (b.generator.generate u).result = .ok statement)
        tables statements) ∧
    (∀ tables e, (b.generator.compile tables).result = .error e ↔
      ∃ before u after, tables = before ++ u :: after ∧
        (∀ u' ∈ before, ∃ statement, (b.generator.generate u').result = .ok statement) ∧
        (b.generator.generate u).result = .error e) := by
  intro written
  have hwritten : written = _ := b.generateInto_eq text t
  have herror (e : UnsupportedType) :
      written.1.result = .error e ↔ (b.generator.generate t).result = .error e := by
    rw [hwritten]
    cases (b.generator.generate t).result <;> simp [Except.map]
  have hfails : (∃ e, (b.generator.generate t).result = .error e) ↔ _ :=
    Dialect.createTable_fails_iff
  refine ⟨?_, fun e => ?_, fun e he => ?_, ?_, fun statement hok => ?_,
    fun _ _ => Generator.compile_ok_iff, fun _ _ => Generator.compile_error_iff⟩
  · simp only [herror, hfails]
  · exact (herror e).trans Dialect.createTable_error_iff
  · rw [hwritten, (herror e).1 he]
  · rw [hwritten]
    cases (b.generator.generate t).result <;> simp [Except.map]
  · rw [hwritten, hok]

/-- Both columns of the table are refused by MySQL. The one that is declared last comes first. -/
def journal : Table :=
  ⟨"Journal", [{ Column.plain "amount" .varNumeric with isPrimaryKey := true },
    { Column.plain "code" .string with isUnique := true, maxLength := some 769, ordinal := some 0 }]⟩

def codeRefused : UnsupportedType :=
  ⟨"MySql", "Journal", "code", "String(769) as key"⟩

theorem orderedColumns_journal : journal.orderedColumns = journal.columns.reverse := by
  simp [Table.orderedColumns, journal, List.zipIdx, List.mergeSort, Table.mayPrecede, Table.sortKey,
    Column.plain]

theorem generateInto_outcome_journal :
    let written := mySql.generator.generateInto "BEGIN; " journal
    written.1.result = .error codeRefused ∧ written.2 = "BEGIN; " ∧
    (mySql.generator.compile [⟨"Empty", []⟩, journal, journal]).result = .error codeRefused ∧
    (∃ statement, (sqlServer.generator.generate journal).result = .ok statement ∧
      (sqlServer.generator.generateInto "BEGIN; " journal).2 = "BEGIN; " ++ statement) := by
  have hfirst : mySql.dialect.RefusesFirst journal journal.orderedColumns codeRefused := by
    refine ⟨[], journal.columns[1], [journal.columns[0]], _, orderedColumns_journal, by simp,
      .key rfl (.inr rfl) rfl ?_, rfl⟩
    decide
  obtain ⟨-, hnamed, hunchanged, -, -, -, hcompile⟩ := generateInto_outcome mySql journal "BEGIN; "
  obtain ⟨-, -, -, -, hbehind, -, -⟩ := generateInto_outcome sqlServer journal "BEGIN; "
  have herror := (hnamed codeRefused).2 hfirst
  refine ⟨herror, hunchanged codeRefused herror, ?_, ?_⟩
  · refine (hcompile _ codeRefused).2 ⟨[⟨"Empty", []⟩], journal, [journal], rfl, ?_,
      Dialect.createTable_error_iff.2 hfirst⟩
    intro u hu
    obtain rfl := List.mem_singleton.1 hu
    exact Dialect.createTable_ok_iff.2 (by simp)
  · obtain ⟨statement, hstatement⟩ :
        ∃ statement, (sqlServer.generator.generate journal).result = .ok statement := by
      refine Dialect.createTable_ok_iff.2 ?_
      intro c hc
      rw [Dialect.accepts_iff journal]
      rcases List.mem_pair.1 hc with rfl | rfl <;> exact ⟨_, rfl⟩
    exact ⟨statement, hstatement, hbehind statement hstatement⟩

end Backend

end Schemata
