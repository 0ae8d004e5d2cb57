import Schemata.Database
import Schemata.Proofs.Sqlite.Catalogue
import Schemata.Proofs.Statement.Refusal

/-!
# Migrations as transactions

A migration compiles all its tables before it carries anything out, and carries the statements out as
one transaction. `Database.migration_allOrNothing` says what follows: a table that has no
statement, or a statement that fails, leaves the database as it was; cancellation keeps the statements
carried out by then, and the report accounts for every table. The statements of the built-in dialects
leave existing tables alone, so a migration that has been carried out can be carried out again.
-/

namespace Schemata

/-! ## Carrying out statements one by one -/

section Execution

variable {σ : Type} {cancelled : Nat → Bool} {execute : σ → String → Option σ}

theorem executeWhile_append {before : List String} {done : Nat} {state s : σ}
    (hseen : ∀ k < before.length, cancelled (done + k) = false)
    (h : before.foldlM execute state = some s) (after : List String) :
    executeWhile cancelled execute done state (before ++ after)
      = executeWhile cancelled execute (done + before.length) s after := by
  induction before generalizing done state with
  | nil =>
    cases h
    rfl
  | cons text before ih =>
    rw [List.foldlM_cons, Option.bind_eq_bind, Option.bind_eq_some_iff] at h
    obtain ⟨next, htext, hbefore⟩ := h
    have hfirst : cancelled done = false := hseen 0 (by simp)
    have hrest : ∀ k < before.length, cancelled (done + 1 + k) = false := by
      intro k hk
      have := hseen (k + 1) (by simpa using hk)
      rwa [Nat.add_assoc, Nat.add_comm 1 k]
    rw [List.cons_append, executeWhile, hfirst, htext]
    simp only [Bool.false_eq_true, if_false]
    rw [ih hrest hbefore, List.length_cons, Nat.add_assoc, Nat.add_comm 1]

/-- What has been carried out when the work ends without a failure: all statements, or those before
cancellation was seen. -/
theorem executeWhile_eq_some {statements : List String} {done n : Nat} {state s : σ}
    (h : executeWhile cancelled execute done state statements = some (n, s)) :
    ∃ before after, statements = before ++ after ∧ n = done + before.length ∧
      before.foldlM execute state = some s ∧ (after = [] ∨ cancelled n = true) := by
  induction statements generalizing done state with
  | nil =>
    cases h
    exact ⟨[], [], rfl, rfl, rfl, .inl rfl⟩
  | cons text statements ih =>
    rw [executeWhile] at h
    split at h
    · rename_i hseen
      cases h
      exact ⟨[], text :: statements, rfl, rfl, rfl, .inr hseen⟩
    · split at h
      · cases h
      · rename_i next htext
        obtain ⟨before, after, rfl, rfl, hbefore, hafter⟩ := ih h
        refine ⟨text :: before, after, rfl, by simp; omega, ?_, hafter⟩
        rw [List.foldlM_cons, htext]
        exact hbefore

end Execution

/-! ## Compiling -/

namespace Generator

theorem mem_compile {g : Generator} {tables : List Table} {statements : List String}
    (h : (g.compile tables).result = .ok statements) {text : String} (htext : text ∈ statements) :
    ∃ t ∈ tables, (g.generate t).result = .ok text := by
  have hall := compile_ok_iff.1 h
  clear h
  induction hall with
  | nil => cases htext
  | cons ht _ ih =>
    rcases List.mem_cons.1 htext with rfl | htext
    · exact ⟨_, List.mem_cons_self, ht⟩
    · obtain ⟨u, hu, hgenerate⟩ := ih htext
      exact ⟨u, List.mem_cons_of_mem _ hu, hgenerate⟩

end Generator

/-! ## The whole migration -/

namespace Database

open Sqlite (Catalogue)

variable {d : Database} {batches : List (List Table)} {cancelled : Nat → Bool}

/-- A migration whose tables are registered batch by batch. -/
def migrateBatches (d : Database) (cancelled : Nat → Bool) (batches : List (List Table)) :
    MigrationRun Database :=
  let run := (batches.foldl Migrator.register d.migrator).run
    (transaction d.generator.name cancelled) d.catalogue
  ⟨run.journal, run.result, { d with catalogue := run.state }⟩

theorem foldl_register (m : Migrator) (batches : List (List Table)) :
    batches.foldl Migrator.register m = ⟨m.generator, m.tables ++ batches.flatten⟩ := by
  induction batches generalizing m with
  | nil => simp
  | cons tables batches ih => rw [List.foldl_cons, ih]; simp [Migrator.register]

/-- How tables are split into batches does not matter. -/
theorem migrateBatches_eq (d : Database) (cancelled : Nat → Bool) (batches : List (List Table)) :
    d.migrateBatches cancelled batches = d.migrate cancelled batches.flatten := by
  simp [migrateBatches, migrate, foldl_register, Migrator.register, migrator, Migrator.start]

section Run

variable {tables : List Table} {statements : List String}

theorem migrate_of_error {e : UnsupportedType}
    (h : (d.generator.compile tables).result = .error e) :
    (d.migrate cancelled tables).result = .error (.unsupported e)
      ∧ (d.migrate cancelled tables).state = d := by
  have hstatements : (d.migrator.register tables).statements.result = .error e := h
  simp only [migrate, Migrator.run, hstatements, and_self]

theorem migrate_of_failure (h : (d.generator.compile tables).result = .ok statements)
    (hrun : executeWhile cancelled Catalogue.execute? 0 d.catalogue statements = none) :
    (d.migrate cancelled tables).result = .error .statementFailed
      ∧ (d.migrate cancelled tables).state = d := by
  have hstatements : (d.migrator.register tables).statements.result = .ok statements := h
  simp only [migrate, Migrator.run, hstatements, transaction, hrun, and_self]

theorem migrate_of_success {n : Nat} {c : Catalogue}
    (h : (d.generator.compile tables).result = .ok statements)
    (hrun : executeWhile cancelled Catalogue.execute? 0 d.catalogue statements = some (n, c)) :
    (d.migrate cancelled tables).result = .ok ⟨n, statements.length - n⟩
      ∧ (d.migrate cancelled tables).state = { d with catalogue := c } := by
  have hstatements : (d.migrator.register tables).statements.result = .ok statements := h
  simp only [migrate, Migrator.run, hstatements, transaction, hrun, and_self]

theorem migrate_all {c : Catalogue} (h : (d.generator.compile tables).result = .ok statements)
    (hseen : ∀ k < statements.length, cancelled k = false)
    (hall : statements.foldlM Catalogue.execute? d.catalogue = some c) :
    (d.migrate cancelled tables).result = .ok ⟨statements.length, 0⟩
      ∧ (d.migrate cancelled tables).state = { d with catalogue := c } := by
  have hstart : ∀ k < statements.length, cancelled (0 + k) = false := by simpa using hseen
  have hrun : executeWhile cancelled Catalogue.execute? 0 d.catalogue statements
      = some (statements.length, c) := by
    simpa [executeWhile] using executeWhile_append hstart hall []
  simpa using migrate_of_success h hrun

/-- What a migration comes to: a table has no statement, a statement fails, or some of the statements
are carried out, all of them unless cancellation was seen. -/
theorem migrate_cases (d : Database) (cancelled : Nat → Bool) (tables : List Table) :
    (∃ e, (d.migrate cancelled tables).result = .error e ∧ (d.migrate cancelled tables).state = d) ∨
      ∃ before after c, (d.generator.compile tables).result = .ok (before ++ after)
        ∧ before.foldlM Catalogue.execute? d.catalogue = some c
        ∧ (d.migrate cancelled tables).result = .ok ⟨before.length, after.length⟩
        ∧ (d.migrate cancelled tables).state = { d with catalogue := c } := by
  cases h : (d.generator.compile tables).result with
  | error e => exact .inl ⟨_, migrate_of_error h⟩
  | ok statements =>
    cases hrun : executeWhile cancelled Catalogue.execute? 0 d.catalogue statements with
    | none => exact .inl ⟨_, migrate_of_failure h hrun⟩
    | some p =>
      obtain ⟨n, c⟩ := p
      obtain ⟨hresult, hstate⟩ := migrate_of_success h hrun
      obtain ⟨before, after, rfl, rfl, hbefore, -⟩ := executeWhile_eq_some hrun
      refine .inr ⟨before, after, c, rfl, hbefore, ?_, hstate⟩
      rw [hresult]
      simp

/-- Statements of a built-in dialect that have been carried out can be carried out again, which changes
nothing. -/
theorem migrate_again {b : Backend} {c : Catalogue} (hb : d.generator = b.generator)
    (hliterals : ∀ t ∈ tables, t.PrintsLiterals)
    (h : (d.generator.compile tables).result = .ok statements)
    (hall : statements.foldlM Catalogue.execute? d.catalogue = some c)
    (hseen : ∀ k < statements.length, cancelled k = false) :
    (migrate { d with catalogue := c } cancelled tables).result = .ok ⟨statements.length, 0⟩
      ∧ (migrate { d with catalogue := c } cancelled tables).state = { d with catalogue := c } := by
  have hsettles : ∀ text ∈ statements, Sqlite.Settles text := by
    intro text htext
    obtain ⟨t, ht, hgenerated⟩ := Generator.mem_compile h htext
    exact Sqlite.settles_generated (hb ▸ hgenerated) (hliterals t ht)
  have hagain := (Sqlite.Settles.foldlM hsettles hall).2 List.prefix_rfl
  exact migrate_all h hseen hagain

end Run

/-- **A migration is all or nothing, and can be repeated.** For every database and every way to
register the tables in batches:

* a table that has no statement ends the migration with the error of the first such table, and nothing
  is carried out;
* a statement that fails ends it, and whatever the migration ends with but a report, the database is
  what it was, also as looking up tables and columns shows it;
* if nothing fails and cancellation is not seen, all statements are carried out in order;
* if cancellation is first seen before a statement, exactly the statements before it are carried out;
* a report accounts for every table;
* with a built-in generator, and literals for the defaults that are printed, a migration that was
  carried out in full can be repeated, and then changes nothing. -/
theorem migration_allOrNothing (d : Database) (batches : List (List Table))
    (cancelled : Nat → Bool) :
    let run := d.migrateBatches cancelled batches
    let compiled := (batches.foldl Migrator.register d.migrator).statements.result
    (∀ before t after e, batches.flatten = before ++ t :: after →
      (∀ u ∈ before, ∃ text, (d.generator.generate u).result = .ok text) →
      (d.generator.generate t).result = .error e →
      run.result = .error (.unsupported e) ∧ run.state = d) ∧
    (∀ before text after c, compiled = .ok (before ++ text :: after) →
      (∀ k ≤ before.length, cancelled k = false) →
      before.foldlM Catalogue.execute? d.catalogue = some c → c.execute? text = none →
      run.result = .error .statementFailed) ∧
    (∀ e, run.result = .error e → run.state = d ∧ ∀ name,
      run.state.tableExists name = d.tableExists name ∧
        run.state.tableColumns name = d.tableColumns name) ∧
    (∀ statements c, compiled = .ok statements → (∀ k < statements.length, cancelled k = false) →
      statements.foldlM Catalogue.execute? d.catalogue = some c →
      run.result = .ok ⟨batches.flatten.length, 0⟩ ∧ run.state = { d with catalogue := c }) ∧
    (∀ before text after c, compiled = .ok (before ++ text :: after) →
      (∀ k < before.length, cancelled k = false) → cancelled before.length = true →
      before.foldlM Catalogue.execute? d.catalogue = some c →
      run.result = .ok ⟨before.length, batches.flatten.length - before.length⟩ ∧
        run.state = { d with catalogue := c }) ∧
    (∀ report, run.result = .ok report →
      report.executed + report.pending = batches.flatten.length) ∧
    (∀ b : Backend, d.generator = b.generator → (∀ t ∈ batches.flatten, t.PrintsLiterals) →
      run.result = .ok ⟨batches.flatten.length, 0⟩ →
      ∀ batches' cancelled', batches'.flatten = batches.flatten →
        (∀ k < batches.flatten.length, cancelled' k = false) →
        (run.state.migrateBatches cancelled' batches').result = .ok ⟨batches.flatten.length, 0⟩ ∧
          (run.state.migrateBatches cancelled' batches').state = run.state) := by
  have hcompiled : (batches.foldl Migrator.register d.migrator).statements.result
      = (d.generator.compile batches.flatten).result := by
    simp [foldl_register, Migrator.statements, migrator, Migrator.start]
  intro run compiled
  have hrun : run = d.migrate cancelled batches.flatten := migrateBatches_eq d cancelled batches
  generalize batches.flatten = tables at *
  simp only [compiled, hcompiled, hrun]
  have hlength {statements : List String}
      (h : (d.generator.compile tables).result = .ok statements) :
      statements.length = tables.length := (Generator.compile_ok_iff.1 h).length_eq.symm
  refine ⟨?_, ?_, ?_, ?_, ?_, ?_, ?_⟩
  · rintro before t after e rfl hbefore ht
    exact migrate_of_error (Generator.compile_error_iff.2 ⟨before, t, after, rfl, hbefore, ht⟩)
  · intro before text after c h hseen hbefore htext
    have hstart : ∀ k < before.length, cancelled (0 + k) = false := by
      intro k hk
      rw [Nat.zero_add]
      exact hseen k (Nat.le_of_lt hk)
    refine (migrate_of_failure h ?_).1
    rw [executeWhile_append hstart hbefore, executeWhile, Nat.zero_add, hseen _ (Nat.le_refl _), htext]
    rfl
  · intro e he
    rcases migrate_cases d cancelled tables with ⟨e', -, hstate⟩ | ⟨before, after, c, -, -, hok, -⟩
    · rw [hstate]
      exact ⟨rfl, fun name => ⟨rfl, rfl⟩⟩
    · rw [hok] at he
      cases he
  · intro statements c h hseen hall
    rw [← hlength h]
    exact migrate_all h hseen hall
  · intro before text after c h hseen hcancelled hbefore
    have hstart : ∀ k < before.length, cancelled (0 + k) = false := by simpa using hseen
    have hexecute : executeWhile cancelled Catalogue.execute? 0 d.catalogue (before ++ text :: after)
        = some (before.length, c) := by
      rw [executeWhile_append hstart hbefore, executeWhile, Nat.zero_add, hcancelled]
      rfl
    rw [← hlength h]
    exact migrate_of_success h hexecute
  · intro report hreport
    rcases migrate_cases d cancelled tables with ⟨e, he, -⟩ | ⟨before, after, c, h, -, hok, -⟩
    · rw [he] at hreport
      cases hreport
    · rw [hok] at hreport
      cases hreport
      rw [← hlength h, List.length_append]
  · intro b hb hliterals hcomplete batches' cancelled' hbatches hseen
    rw [migrateBatches_eq, hbatches]
    rcases migrate_cases d cancelled tables with ⟨e, he, -⟩ | ⟨before, after, c, h, hall, hok, hstate⟩
    · rw [he] at hcomplete
      cases hcomplete
    · rw [hok, Except.ok.injEq, Report.mk.injEq] at hcomplete
      obtain rfl := List.eq_nil_of_length_eq_zero hcomplete.2
      rw [List.append_nil] at h
      rw [hstate, ← hlength h]
      exact migrate_again hb hliterals h hall (by rwa [hlength h])

/-! ## A shop -/

/-- A table whose key is numbered. -/
def users : Table :=
  ⟨"users", [{ Column.plain "id" .int64 with
    isPrimaryKey := true, nullable := false, autoIncrement := some .standard }]⟩

/-- A table that prints a default. -/
def orders : Table :=
  ⟨"orders", [{ Column.plain "total" .varNumeric with
    nullable := false, defaultValue := some "-0.5" }]⟩

/-- A table without columns, which SQLite refuses. -/
def nothing : Table :=
  ⟨"nothing", []⟩

/-- An empty database of SQLite. -/
def shop : Database :=
  ⟨"sqlite", some .sqlite, Backend.sqlite.generator, Catalogue.empty⟩

def usersText : String :=
  "CREATE TABLE IF NOT EXISTS [users] ([id] INTEGER PRIMARY KEY AUTOINCREMENT NOT NULL)"

def ordersText : String :=
  "CREATE TABLE IF NOT EXISTS [orders] ([total] NUMERIC DEFAULT -0.5)"

def nothingText : String :=
  "CREATE TABLE IF NOT EXISTS [nothing] ()"

theorem generate_users : (shop.generator.generate users).result = .ok usersText := by
  cbv

theorem generate_orders : (shop.generator.generate orders).result = .ok ordersText := by
  cbv

theorem generate_nothing : (shop.generator.generate nothing).result = .ok nothingText := by
  cbv

theorem compile_pair {g : Generator} {t u : Table} {a b : String}
    (ht : (g.generate t).result = .ok a) (hu : (g.generate u).result = .ok b) :
    (g.compile [t, u]).result = .ok [a, b] := by
  simp [Generator.compile, Generated.andThen, Generated.map, ht, hu, Except.map]

theorem migration_allOrNothing_shop :
    let run := shop.migrateBatches (fun _ => false) [[users], [orders]]
    let again := run.state.migrateBatches (fun _ => false) [[users, orders]]
    let stopped := shop.migrateBatches (fun k => k == 1) [[users, orders]]
    let refused := shop.migrateBatches (fun _ => false) [[users], [nothing]]
    let foreign : Database := { shop with generator := Backend.mySql.generator }
    let unsupported := foreign.migrateBatches (fun _ => false) [[orders], [users]]
    run.result = .ok ⟨2, 0⟩ ∧ again.result = .ok ⟨2, 0⟩ ∧ again.state = run.state ∧
    stopped.result = .ok ⟨1, 1⟩ ∧
    refused.result = .error .statementFailed ∧ refused.state = shop ∧
    unsupported.result = .error (.unsupported ⟨"MySql", "orders", "total", "VarNumeric"⟩) ∧
    unsupported.state = foreign := by
  intro run again stopped refused foreign unsupported
  have hpair : ([[users], [orders]].foldl Migrator.register shop.migrator).statements.result
      = .ok [usersText, ordersText] := compile_pair generate_users generate_orders
  have htogether : ([[users, orders]].foldl Migrator.register shop.migrator).statements.result
      = .ok ([usersText] ++ ordersText :: []) := compile_pair generate_users generate_orders
  have hrefused : ([[users], [nothing]].foldl Migrator.register shop.migrator).statements.result
      = .ok ([usersText] ++ nothingText :: []) := compile_pair generate_users generate_nothing
  have hall : ([usersText, ordersText].foldlM Catalogue.execute? shop.catalogue).isSome = true := by
    decide +kernel
  have hfirst : (([usersText].foldlM Catalogue.execute? shop.catalogue).any fun c =>
      (c.execute? nothingText).isNone) = true := by
    decide +kernel
  obtain ⟨c, hc⟩ := Option.isSome_iff_exists.1 hall
  obtain ⟨c', hc', hnothing⟩ := (Option.any_eq_true _ _).1 hfirst
  have hliterals : ∀ t ∈ [[users], [orders]].flatten, t.PrintsLiterals := by
    have hliteral : Sqlite.isLiteral "-0.5" = true := by decide
    simp [Table.PrintsLiterals, users, orders, Column.plain, Column.refusesNull, hliteral]
  have hmySql : (foreign.generator.generate orders).result
      = .error ⟨"MySql", "orders", "total", "VarNumeric"⟩ := by
    cbv
  obtain ⟨-, -, -, hwhole, -, -, hrepeat⟩ :=
    migration_allOrNothing shop [[users], [orders]] fun _ => false
  obtain ⟨-, -, -, -, hcut, -, -⟩ := migration_allOrNothing shop [[users, orders]] fun k => k == 1
  obtain ⟨-, hfailure, hkept, -⟩ := migration_allOrNothing shop [[users], [nothing]] fun _ => false
  obtain ⟨hcompile, -⟩ := migration_allOrNothing foreign [[orders], [users]] fun _ => false
  have hrun := (hwhole _ c hpair (fun _ _ => rfl) hc).1
  have hagain :=
    hrepeat .sqlite rfl hliterals hrun [[users, orders]] (fun _ => false) rfl fun _ _ => rfl
  have hstopped := (hcut [usersText] ordersText [] c' htogether (by simp) rfl hc').1
  have herror := hfailure [usersText] nothingText [] c' hrefused (fun _ _ => rfl) hc'
    (Option.isNone_iff_eq_none.1 hnothing)
  have hforeign := hcompile [] orders [users] _ rfl (by simp) hmySql
  exact ⟨hrun, hagain.1, hagain.2, hstopped, herror, (hkept _ herror).1, hforeign.1, hforeign.2⟩

end Database

end Schemata
