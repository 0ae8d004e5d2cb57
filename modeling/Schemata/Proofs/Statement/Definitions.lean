import Schemata.Dialect.CreateTable
import Schemata.Proofs.Traversal

/-!
# The definitions of a statement

When a statement is generated at all, every column has a spelled type, and the statement is written
from the columns with these spellings (`Dialect.createTable_ok`). `Dialect.Spelled` is that list.
-/

namespace Schemata

namespace SqlType

/-- A spelled type is one of the fixed spellings, or the name with a length. -/
theorem spell_cases {type : SqlType} {maxLength : Option UInt32} {keyed : Bool} {s : Spelling}
    (h : type.spell maxLength keyed = some s) :
    match type with
    | plain text => s = .word text
    | sized t => s = t.unspecified ∨ s = t.unbounded ∨ s = t.keyDefault
        ∨ ∃ n, s = .withLength t.stem n := by
  cases type with
  | plain text =>
    cases h
    rfl
  | sized t =>
    cases maxLength with
    | none =>
      simp only [spell, Option.some.injEq] at h
      cases keyed with
      | false => exact .inl h.symm
      | true => exact .inr (.inr (.inl h.symm))
    | some length =>
      simp only [spell] at h
      split at h
      · cases h
      · split at h
        · cases h
          exact .inr (.inl rfl)
        · cases h
          exact .inr (.inr (.inr ⟨_, rfl⟩))

/-- Whether every spelling of a type satisfies `p`, where lengths do not matter. -/
def allSpellings (p : Spelling → Bool) : SqlType → Bool
  | plain text => p (.word text)
  | sized t => [t.unspecified, t.unbounded, t.keyDefault, .withLength t.stem 0].all p

theorem spell_all {p : Spelling → Bool}
    (hlength : ∀ stem n, p (.withLength stem n) = p (.withLength stem 0)) {type : SqlType}
    (htype : type.allSpellings p = true) {maxLength : Option UInt32} {keyed : Bool} {s : Spelling}
    (h : type.spell maxLength keyed = some s) : p s = true := by
  have hcases := spell_cases h
  cases type with
  | plain text =>
    have hword : s = .word text := hcases
    rw [hword]
    exact htype
  | sized t =>
    simp only [allSpellings, List.all_cons, List.all_nil, Bool.and_true, Bool.and_eq_true] at htype
    obtain ⟨hunspecified, hunbounded, hkey, hstem⟩ := htype
    have hsized : s = t.unspecified ∨ s = t.unbounded ∨ s = t.keyDefault
        ∨ ∃ n, s = .withLength t.stem n := hcases
    rcases hsized with rfl | rfl | rfl | ⟨n, rfl⟩
    · exact hunspecified
    · exact hunbounded
    · exact hkey
    · exact (hlength t.stem n).trans hstem

end SqlType

/-! ## The whole key -/

namespace Table

variable {t : Table} {c : Column}

/-- The column is the only one of the key. -/
def IsWholeKey (t : Table) (c : Column) : Prop :=
  t.primaryKey = [c]

theorem isWholeKey_iff (hc : c ∈ t.orderedColumns) :
    t.IsWholeKey c ↔ (t.primaryKey.length == 1 && c.isPrimaryKey) = true := by
  rw [Bool.and_eq_true, beq_iff_eq]
  constructor
  · intro h
    have hkey : t.primaryKey = [c] := h
    have hmem : c ∈ t.primaryKey := by rw [hkey]; exact List.mem_singleton_self c
    exact ⟨by rw [hkey, List.length_singleton], (List.mem_filter.1 hmem).2⟩
  · rintro ⟨hlength, hprimary⟩
    obtain ⟨d, hd⟩ := List.length_eq_one_iff.1 hlength
    have hmem : c ∈ t.primaryKey := List.mem_filter.2 ⟨hc, hprimary⟩
    rw [hd, List.mem_singleton] at hmem
    rw [IsWholeKey, hd, hmem]

end Table

namespace Dialect

theorem spellColumn_ok {d : Dialect} {t : Table} {c : Column} {s : Spelling}
    (h : d.spellColumn t c = .ok s) :
    ∃ type, d.sqlType c.type = some type ∧ type.spell c.maxLength c.isKeyed = some s := by
  simp only [spellColumn] at h
  split at h
  · cases h
  · rename_i type htype
    split at h
    · cases h
    · rename_i spelling hspell
      cases h
      exact ⟨type, htype, hspell⟩

/-- The columns, each with the spelling of its type. -/
structure Spelled (d : Dialect) (t : Table) (cs : List Column) (l : List (Column × Spelling)) :
    Prop where
  columns : l.map Prod.fst = cs
  spelled : ∀ p ∈ l, d.spellColumn t p.1 = .ok p.2

namespace Spelled

variable {d : Dialect} {t : Table}

theorem nil : Spelled d t [] [] :=
  ⟨rfl, by simp⟩

theorem cons {c : Column} {s : Spelling} {cs : List Column} {l : List (Column × Spelling)}
    (hc : d.spellColumn t c = .ok s) (h : Spelled d t cs l) :
    Spelled d t (c :: cs) ((c, s) :: l) := by
  refine ⟨by simp [h.columns], ?_⟩
  intro p hp
  rcases List.mem_cons.1 hp with rfl | hp
  · exact hc
  · exact h.spelled p hp

theorem exists_of_mem {cs : List Column} {l : List (Column × Spelling)} (h : Spelled d t cs l)
    {c : Column} (hc : c ∈ cs) : ∃ s, d.spellColumn t c = .ok s ∧ (c, s) ∈ l := by
  rw [← h.columns] at hc
  obtain ⟨⟨_, s⟩, hp, rfl⟩ := List.mem_map.1 hc
  exact ⟨s, h.spelled _ hp, hp⟩

theorem mapM_ok {α : Type} {cs : List Column} {l : List (Column × Spelling)}
    (h : Spelled d t cs l) (f : Column → Spelling → α) :
    (cs.mapM fun c => (d.spellColumn t c).map (f c)) = .ok (l.map fun p => f p.1 p.2) := by
  obtain ⟨rfl, hs⟩ := h
  induction l with
  | nil => rfl
  | cons p l ih =>
    have hp := hs p List.mem_cons_self
    have hl := ih fun q hq => hs q (List.mem_cons_of_mem p hq)
    simp only [List.map_cons, List.mapM_cons, hp, hl]
    rfl

theorem exists_of_mapM {α : Type} {cs : List Column} {f : Column → Spelling → α} {answers : List α}
    (h : (cs.mapM fun c => (d.spellColumn t c).map (f c)) = .ok answers) :
    ∃ l, Spelled d t cs l ∧ answers = l.map fun p => f p.1 p.2 := by
  have hall := Traversal.mapM_ok_iff.1 h
  clear h
  induction hall with
  | nil => exact ⟨[], .nil, rfl⟩
  | @cons c answer cs answers hc _ ih =>
    obtain ⟨l, hl, rfl⟩ := ih
    cases hs : d.spellColumn t c with
    | error e => simp [hs, Except.map] at hc
    | ok s =>
      simp only [hs, Except.map, Except.ok.injEq] at hc
      subst hc
      exact ⟨(c, s) :: l, .cons hs hl, rfl⟩

end Spelled

/-- The definitions are those of a traversal of the columns. -/
theorem definitions_result (d : Dialect) (t : Table) (singleKey : Bool) (cs : List Column) :
    (d.definitions t singleKey cs).result
      = cs.mapM fun c => (d.spellColumn t c).map fun s => d.definition singleKey c s.text := by
  induction cs with
  | nil => rfl
  | cons c cs ih =>
    simp only [definitions, List.mapM_cons, ← ih]
    cases d.spellColumn t c with
    | error e => rfl
    | ok s => cases (d.definitions t singleKey cs).result <;> rfl

theorem definitions_ok {d : Dialect} {t : Table} {singleKey : Bool} {cs : List Column}
    {parts : List String} (h : (d.definitions t singleKey cs).result = .ok parts) :
    ∃ l, Spelled d t cs l ∧ parts = l.map fun p => d.definition singleKey p.1 p.2.text := by
  rw [definitions_result] at h
  exact Spelled.exists_of_mapM h

/-- The parts of the statement for a table whose columns are spelled. -/
def parts (d : Dialect) (t : Table) (l : List (Column × Spelling)) : List String :=
  (l.map fun p => d.definition (t.primaryKey.length == 1) p.1 p.2.text)
    ++ d.keyConstraints t.primaryKey ++ d.uniqueConstraints t.orderedColumns

/-- A statement that is generated is written from spelled columns. -/
theorem createTable_ok {d : Dialect} {t : Table} {text : String}
    (h : (d.createTable t).result = .ok text) :
    ∃ l, Spelled d t t.orderedColumns l ∧ text = d.statement t (d.parts t l) := by
  simp only [createTable, Generated.map] at h
  cases hr : (d.definitions t ((t.orderedColumns.filter (·.isPrimaryKey)).length == 1)
      t.orderedColumns).result with
  | error e => simp [hr, Except.map] at h
  | ok defs =>
    simp only [hr, Except.map, Except.ok.injEq] at h
    obtain ⟨l, hl, rfl⟩ := definitions_ok hr
    exact ⟨l, hl, h.symm⟩

end Dialect

end Schemata
