import Schemata.Proofs.Statement.Refusal

/-!
# Portable schemata

One dialect covers another when it has every type of the other and takes at least as long keys. Then it
accepts every column that the other accepts. SQL Server covers MySQL and SQLite covers SQL Server, so a
schema that compiles for MySQL compiles for every backend (`Backend.compiles_chain`).
-/

namespace Schemata

namespace Dialect

/-- Whatever keeps a column out of `d` keeps it out of `e` too. -/
structure Covers (d e : Dialect) : Prop where
  type : ∀ tag, d.sqlType tag = none → e.sqlType tag = none
  key : ∀ tag sized, d.sqlType tag = some (.sized sized) →
    e.sqlType tag = none ∨
      ∃ sized', e.sqlType tag = some (.sized sized') ∧ sized'.maxKey ≤ sized.maxKey

namespace Covers

variable {d e : Dialect}

theorem accepts (h : d.Covers e) {c : Column} (hc : e.Accepts c) : d.Accepts c := by
  intro text hrefuses
  cases hrefuses with
  | type missing => exact hc _ (.type (h.type c.type missing))
  | key sized keyed given long =>
    rcases h.key c.type _ sized with missing | ⟨sized', hsized', hle⟩
    · exact hc _ (.type missing)
    · exact hc _ (.key hsized' keyed given (Nat.lt_of_le_of_lt hle long))

end Covers

end Dialect

namespace Backend

theorem sqlServer_covers_mySql : sqlServer.dialect.Covers mySql.dialect where
  type tag h := by cases tag <;> cases h
  key tag sized h := by
    cases tag <;> cases h <;> exact .inr ⟨_, rfl, by decide⟩

theorem sqlite_covers_sqlServer : sqlite.dialect.Covers sqlServer.dialect where
  type tag h := by cases tag <;> cases h
  key tag sized h := by
    cases tag <;> cases h <;> exact .inr ⟨_, rfl, by decide⟩

/-- Every table of the list has a statement. -/
def Compiles (b : Backend) (tables : List Table) : Prop :=
  ∃ statements, (b.generator.compile tables).result = .ok statements

theorem compiles_iff {b : Backend} {tables : List Table} :
    b.Compiles tables ↔ ∀ t ∈ tables, ∀ c ∈ t.columns, b.dialect.Accepts c := by
  unfold Compiles
  simp only [Generator.compile_result, Traversal.exists_mapM_ok_iff]
  exact forall₂_congr fun t _ => Dialect.createTable_ok_iff

theorem Compiles.of_covers {b b' : Backend} (hcovers : b.dialect.Covers b'.dialect)
    {tables : List Table} (h : b'.Compiles tables) : b.Compiles tables := by
  rw [compiles_iff] at *
  intro t ht c hc
  exact hcovers.accepts (h t ht c hc)

/-- **Portability is a chain.** What MySQL compiles SQL Server compiles, and what that compiles SQLite
compiles. -/
theorem compiles_chain (tables : List Table) :
    (Compiles mySql tables → Compiles sqlServer tables) ∧
    (Compiles sqlServer tables → Compiles sqlite tables) ∧
    (Compiles mySql tables → ∀ b, Compiles b tables) := by
  have hserver (h : Compiles mySql tables) : Compiles sqlServer tables :=
    h.of_covers sqlServer_covers_mySql
  have hlite (h : Compiles sqlServer tables) : Compiles sqlite tables :=
    h.of_covers sqlite_covers_sqlServer
  refine ⟨hserver, hlite, ?_⟩
  intro h b
  cases b with
  | sqlServer => exact hserver h
  | mySql => exact h
  | sqlite => exact hlite (hserver h)

def path (length : UInt32) : Column :=
  { Column.plain "path" .string with isPrimaryKey := true, maxLength := some length }

/-- Keys that are as long as MySQL takes them, and a column that is too long for any key. -/
def longKeys : List Table :=
  [⟨"Page", [path 768, { Column.plain "hash" .binary with isUnique := true, maxLength := some 3072 }]⟩,
    ⟨"Text", [{ Column.plain "body" .string with maxLength := some 4294967295, ordinal := some 7 },
      { Column.plain "lang" .fixedChar with isPrimaryKey := true, maxLength := some 255 }]⟩]

/-- A key that is too long for MySQL. -/
def wideKey : List Table :=
  [⟨"Page", [path 769]⟩]

theorem compiles_chain_keys :
    (Compiles mySql longKeys ∧ ∀ b, Compiles b longKeys) ∧
    ¬ Compiles mySql wideKey ∧ Compiles sqlServer wideKey ∧ Compiles sqlite wideKey := by
  have hlong : Compiles mySql longKeys := by
    rw [compiles_iff]
    intro t ht c hc
    rw [Dialect.accepts_iff t]
    rcases List.mem_pair.1 ht with rfl | rfl <;> rcases List.mem_pair.1 hc with rfl | rfl <;>
      exact ⟨_, rfl⟩
  have hwide : Compiles sqlServer wideKey := by
    rw [compiles_iff]
    intro t ht c hc
    rw [Dialect.accepts_iff t]
    obtain rfl := List.mem_singleton.1 ht
    obtain rfl := List.mem_singleton.1 hc
    exact ⟨_, rfl⟩
  have hrefuses : ∃ type, mySql.dialect.Refuses (path 769) type := by
    refine ⟨_, .key rfl (.inl rfl) rfl ?_⟩
    decide
  refine ⟨⟨hlong, (compiles_chain longKeys).2.2 hlong⟩, ?_, hwide, (compiles_chain wideKey).2.1 hwide⟩
  rw [compiles_iff]
  intro h
  have haccepts := h ⟨"Page", [path 769]⟩ List.mem_cons_self (path 769) List.mem_cons_self
  exact Dialect.not_accepts_iff.2 hrefuses haccepts

end Backend

end Schemata
