import Schemata.Backend
import Schemata.Proofs.Statement.Clauses
import Schemata.Proofs.Statement.Definitions

/-!
# Lengths of columns

An index does not take columns of unbounded length. So SQL Server and MySQL have to be told a length for
each column of the key and each unique column, and one that is not too long; any other column may become
unbounded, and does when its length is too long to be kept inside a row. Texts and binary data have four
numbers and three fixed spellings that decide this, and it depends on how these fit together
(`SizedType.Consistent`).

`Backend.lengths_limited` says that in every statement each column with a length keeps to the limits of
its type (`SizedType.Limits`). SQLite has no such limits on what an index takes, and no names for
unbounded types.
-/

namespace Schemata

/-- The words that make a type unbounded. -/
def unboundedWords : List String :=
  ["MAX", "LONGTEXT", "LONGBLOB"]

/-- The spelling says that there is no bound. -/
def Spelling.IsUnbounded (s : Spelling) : Prop :=
  ∃ word ∈ unboundedWords, word.toList <:+: s.text.toList

namespace SizedType

/-- The name of the type with a length behind it. -/
def textOf (type : SizedType) (length : Nat) : String :=
  type.stem ++ "(" ++ toString length ++ ")"

/-- How a column is spelled whose length may be configured. -/
structure Limits (type : SizedType) (c : Column) (s : Spelling) : Prop where
  /-- In an index it has a length that the index takes, and its own if it has one. -/
  keyed : c.isKeyed = true → ¬ s.IsUnbounded ∧ ∃ n ≤ type.maxKey, s.text = type.textOf n ∧
    ∀ length, c.maxLength = some length → length.toNat = n
  inline : c.isKeyed = false → ∀ length, c.maxLength = some length →
    length.toNat ≤ type.maxInline → s.text = type.textOf length.toNat
  unbounded : c.isKeyed = false → ∀ length, c.maxLength = some length →
    type.maxInline < length.toNat → s = type.unbounded ∧ s.IsUnbounded
  /-- No length is printed, or one that is kept inside a row. -/
  printed : (∀ a ∈ s.text.toList, a.isDigit = false) ∨
    ∃ n ≤ type.maxInline, s.text = type.textOf n

/-- The limits and spellings of a type fit together. -/
structure Consistent (type : SizedType) : Prop where
  /-- What an index takes is kept inside a row. -/
  maxKey_le : type.maxKey ≤ type.maxInline
  keyDefault : ∃ n ≤ type.maxKey, type.keyDefault = .withLength type.stem n
  unspecified : type.unspecified = type.unbounded ∨
    ∃ n ≤ type.maxInline, type.unspecified = .withLength type.stem n
  isUnbounded : type.unbounded.IsUnbounded
  noDigit : ∀ a ∈ type.unbounded.text.toList, a.isDigit = false
  /-- Each of the unbounded words has one of these letters. -/
  stem : 'M' ∉ type.stem.toList ∧ 'L' ∉ type.stem.toList

end SizedType

namespace SqlType

variable {type : SizedType} {maxLength : Option UInt32} {keyed : Bool} {s : Spelling}

/-- What decides the spelling of a type whose length may be configured. -/
theorem spell_sized (h : (sized type).spell maxLength keyed = some s) :
    (maxLength = none ∧ s = if keyed then type.keyDefault else type.unspecified) ∨
    ∃ length, maxLength = some length ∧ (keyed = true → length.toNat ≤ type.maxKey) ∧
      s = if type.maxInline < length.toNat then type.unbounded
        else .withLength type.stem length.toNat := by
  cases maxLength with
  | none =>
    simp only [spell, Option.some.injEq] at h
    exact .inl ⟨rfl, h.symm⟩
  | some length =>
    right
    simp only [spell] at h
    split at h
    · cases h
    · next hkey =>
      refine ⟨length, rfl, fun hkeyed => ?_, ?_⟩
      · by_contra hlong
        exact hkey ⟨hkeyed, Nat.lt_of_not_le hlong⟩
      · split at h
        · next hlong =>
          rw [if_pos hlong]
          exact (Option.some.inj h).symm
        · next hshort =>
          rw [if_neg hshort]
          exact (Option.some.inj h).symm

end SqlType

namespace Spelling

/-- The letters of a spelled length are those of the name in front of it. -/
theorem not_mem_withLength {stem : String} {n : Nat} {a : Char} (hstem : a ∉ stem.toList)
    (hdigit : a.isDigit = false) (hopen : a ≠ '(') (hclose : a ≠ ')') :
    a ∉ (withLength stem n).text.toList := by
  intro ha
  have htext : (withLength stem n).text.toList
      = stem.toList ++ '(' :: ((toString n).toList ++ [')']) := by
    simp [text]
  simp only [htext, List.mem_append, List.mem_cons, List.not_mem_nil, or_false] at ha
  rcases ha with ha | ha | ha | ha
  · exact hstem ha
  · exact hopen ha
  · rw [Outline.isDigit_of_mem_toString ha] at hdigit
    cases hdigit
  · exact hclose ha

theorem not_isUnbounded_withLength {stem : String} (h : 'M' ∉ stem.toList ∧ 'L' ∉ stem.toList)
    (n : Nat) : ¬ (withLength stem n).IsUnbounded := by
  rintro ⟨word, hword, hoccurs⟩
  have hmax : 'M' ∉ (withLength stem n).text.toList :=
    not_mem_withLength h.1 (by decide) (by decide) (by decide)
  have hlong : 'L' ∉ (withLength stem n).text.toList :=
    not_mem_withLength h.2 (by decide) (by decide) (by decide)
  simp only [unboundedWords, List.mem_cons, List.not_mem_nil, or_false] at hword
  rcases hword with rfl | rfl | rfl
  · exact hmax (hoccurs.subset (by decide))
  · exact hlong (hoccurs.subset (by decide))
  · exact hlong (hoccurs.subset (by decide))

end Spelling

namespace SizedType

variable {type : SizedType} {c : Column} {s : Spelling}

/-- Where the limits of a type fit together, its spellings keep to them. -/
theorem Consistent.limits (h : type.Consistent)
    (hs : (SqlType.sized type).spell c.maxLength c.isKeyed = some s) : type.Limits c s := by
  have hbounded (n : Nat) : ¬ (Spelling.withLength type.stem n).IsUnbounded :=
    Spelling.not_isUnbounded_withLength h.stem n
  rcases SqlType.spell_sized hs with ⟨hnone, rfl⟩ | ⟨length, hlength, hkey, rfl⟩
  · cases hkeyed : c.isKeyed with
    | true =>
      obtain ⟨n, hn, hdefault⟩ := h.keyDefault
      rw [if_pos rfl, hdefault]
      refine ⟨?_, by simp [hkeyed], by simp [hkeyed], .inr ⟨n, Nat.le_trans hn h.maxKey_le, rfl⟩⟩
      intro _
      exact ⟨hbounded n, n, hn, rfl, by simp [hnone]⟩
    | false =>
      rw [if_neg Bool.false_ne_true]
      refine ⟨by simp [hkeyed], by simp [hnone], by simp [hnone], ?_⟩
      rcases h.unspecified with hunbounded | ⟨n, hn, hlength⟩
      · rw [hunbounded]
        exact .inl h.noDigit
      · rw [hlength]
        exact .inr ⟨n, hn, rfl⟩
  · have hown : ∀ m, c.maxLength = some m → m = length := by
      intro m hm
      exact Option.some.inj (hm.symm.trans hlength)
    by_cases hlong : type.maxInline < length.toNat
    · have hkeyed : c.isKeyed ≠ true := by
        intro hkeyed
        have := hkey hkeyed
        have := h.maxKey_le
        omega
      rw [if_pos hlong]
      refine ⟨fun hindex => absurd hindex hkeyed, ?_, ?_, .inl h.noDigit⟩
      · intro _ m hm hinline
        obtain rfl := hown m hm
        omega
      · intro _ _ _ _
        exact ⟨rfl, h.isUnbounded⟩
    · rw [if_neg hlong]
      refine ⟨?_, ?_, ?_, .inr ⟨length.toNat, Nat.le_of_not_lt hlong, rfl⟩⟩
      · intro hkeyed
        refine ⟨hbounded _, length.toNat, hkey hkeyed, rfl, ?_⟩
        intro m hm
        rw [hown m hm]
      · intro _ m hm _
        obtain rfl := hown m hm
        rfl
      · intro _ m hm hm'
        obtain rfl := hown m hm
        exact absurd hm' hlong

end SizedType

namespace Backend

/-- The tables of SQL Server and MySQL. -/
theorem consistent {b : Backend} (hb : b ≠ .sqlite) {tag : TypeTag} {type : SizedType}
    (h : b.dialect.sqlType tag = some (.sized type)) : type.Consistent := by
  have hmax (stem : String) : (Spelling.word (stem ++ "(MAX)")).IsUnbounded :=
    ⟨"MAX", by decide, stem.toList ++ ['('], [')'], by simp [Spelling.text]⟩
  have hword {word : String} (h : word ∈ unboundedWords) : (Spelling.word word).IsUnbounded :=
    ⟨word, h, List.infix_rfl⟩
  have hdigit {text : String} (h : (text.toList.any Char.isDigit) = false) :
      ∀ a ∈ text.toList, a.isDigit = false := by
    intro a ha
    exact Bool.not_eq_true _ ▸ List.any_eq_false.1 h a ha
  cases b with
  | sqlite => exact absurd rfl hb
  | sqlServer =>
    cases tag <;> cases h
    · exact ⟨by decide, ⟨450, by decide, rfl⟩, .inl rfl, hmax "NVARCHAR", hdigit (by decide),
        by decide⟩
    · exact ⟨by decide, ⟨1, by decide, rfl⟩, .inr ⟨1, by decide, rfl⟩, hmax "NVARCHAR",
        hdigit (by decide), by decide⟩
    · exact ⟨by decide, ⟨900, by decide, rfl⟩, .inl rfl, hmax "VARBINARY", hdigit (by decide),
        by decide⟩
  | mySql =>
    cases tag <;> cases h
    · exact ⟨by decide, ⟨255, by decide, rfl⟩, .inl rfl, hword (by decide), hdigit (by decide),
        by decide⟩
    · exact ⟨by decide, ⟨1, by decide, rfl⟩, .inr ⟨1, by decide, rfl⟩, hword (by decide),
        hdigit (by decide), by decide⟩
    · exact ⟨by decide, ⟨255, by decide, rfl⟩, .inl rfl, hword (by decide), hdigit (by decide),
        by decide⟩

theorem exists_sized {b : Backend} (hb : b ≠ .sqlite) {tag : TypeTag} (h : tag.isSized = true) :
    ∃ type, b.dialect.sqlType tag = some (.sized type) := by
  cases b with
  | sqlite => exact absurd rfl hb
  | sqlServer => cases tag <;> cases h <;> exact ⟨_, rfl⟩
  | mySql => cases tag <;> cases h <;> exact ⟨_, rfl⟩

/-- **Columns of an index are bounded**, and every column whose length may be configured keeps to the
limits of its type, in each statement of SQL Server and MySQL. -/
theorem lengths_limited {b : Backend} (hb : b ≠ .sqlite) {t : Table} {text : String}
    (h : (b.generator.generate t).result = .ok text) :
    -- The definitions of the statement are those of the columns with these spellings.
    ∃ l, b.dialect.Spelled t t.orderedColumns l ∧
      text = b.dialect.statement t (b.dialect.parts t l) ∧
      ∀ p ∈ l, p.1.type.isSized = true →
        ∃ type, b.dialect.sqlType p.1.type = some (.sized type) ∧ type.Limits p.1 p.2 := by
  obtain ⟨l, hl, htext⟩ := Dialect.createTable_ok (d := b.dialect) h
  refine ⟨l, hl, htext, ?_⟩
  intro p hp hsized
  obtain ⟨type, htype⟩ := exists_sized hb hsized
  obtain ⟨type', htype', hspell⟩ := Dialect.spellColumn_ok (hl.spelled p hp)
  obtain rfl := Option.some.inj (htype.symm.trans htype')
  exact ⟨type, htype, (consistent hb htype).limits hspell⟩

def pathColumn : Column :=
  { Column.plain "path" .string with isPrimaryKey := true, maxLength := some 768 }

def bodyColumn : Column :=
  { Column.plain "body" .string with maxLength := some 16384 }

/-- Lengths at the limits of MySQL and behind them, and index columns with and without a length. -/
def limitTable : Table :=
  ⟨"Page", [
    pathColumn,
    { Column.plain "hash" .binary with isUnique := true },
    bodyColumn,
    { Column.plain "note" .string with maxLength := some 16383 },
    Column.plain "flag" .fixedChar]⟩

def limitStatement : String :=
  "CREATE TABLE IF NOT EXISTS `Page` (`path` VARCHAR(768) PRIMARY KEY, `hash` VARBINARY(255), "
    ++ "`body` LONGTEXT, `note` VARCHAR(16383), `flag` CHAR(1), UNIQUE(`hash`))"

theorem lengths_limited_page :
    mySql ≠ .sqlite ∧ (mySql.generator.generate limitTable).result = .ok limitStatement ∧
    (∃ s, mySql.dialect.spellColumn limitTable pathColumn = .ok s ∧ ¬ s.IsUnbounded) ∧
    ∃ s, mySql.dialect.spellColumn limitTable bodyColumn = .ok s ∧ s.IsUnbounded := by
  have horder : limitTable.orderedColumns = limitTable.columns :=
    Table.orderedColumns_of_pairwise (by decide)
  have hb : mySql ≠ .sqlite := by decide
  have hgenerated : (mySql.generator.generate limitTable).result = .ok limitStatement := by
    have hoptions : mySql.dialect.tableOptions limitTable = "" := by
      simp only [dialect, Dialect.mySql, Dialect.MySql.tableOptions, horder]
      rfl
    simp only [generator, Generator.ofDialect, Dialect.createTable, Dialect.statement, horder, hoptions]
    cbv
  obtain ⟨l, hl, -, hlimits⟩ := lengths_limited hb hgenerated
  refine ⟨hb, hgenerated, ?_, ?_⟩
  · obtain ⟨s, hs, hp⟩ := hl.exists_of_mem (c := pathColumn) (by rw [horder]; simp [limitTable])
    obtain ⟨type, -, hpath⟩ := hlimits _ hp rfl
    exact ⟨s, hs, (hpath.keyed rfl).1⟩
  · obtain ⟨s, hs, hp⟩ := hl.exists_of_mem (c := bodyColumn) (by rw [horder]; simp [limitTable])
    obtain ⟨type, htype, hbody⟩ := hlimits _ hp rfl
    cases htype
    exact ⟨s, hs, (hbody.unbounded rfl _ rfl (by decide)).2⟩

end Backend

end Schemata
