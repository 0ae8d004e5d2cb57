import Schemata.Proofs.Migration.Transaction
import Schemata.Proofs.Sqlite.Columns

/-!
# What a migration leaves to be seen

The tables of a migration that starts on an empty database are there afterwards, with their columns in
order, if their names differ beyond the case of ASCII letters. Creating a table that is missing and
asking for columns ignore the case, while the list of tables is searched for the very name. So of tables
whose names agree up to case the first one is there, under its own name only, and its columns are the
answer for all of them (`Database.migration_shown`).
-/

namespace Schemata

/-- The names of the columns, in the order of a statement. -/
def Table.columnNames (t : Table) : List String :=
  t.orderedColumns.map (·.name)

/-- The first table of a list whose name agrees up to ASCII case. -/
def Table.named? (tables : List Table) (name : String) : Option Table :=
  tables.find? fun t => Text.eqIgnoreCase t.name name

theorem Table.named?_concat (tables : List Table) (t : Table) (name : String) :
    Table.named? (tables ++ [t]) name
      = (Table.named? tables name).or (if Text.eqIgnoreCase t.name name then some t else none) := by
  rw [Table.named?, List.find?_append, List.find?_singleton]
  rfl

theorem Table.named?_congr (tables : List Table) {a b : String} (h : Text.eqIgnoreCase a b = true) :
    Table.named? tables a = Table.named? tables b := by
  rw [Text.eqIgnoreCase_iff] at h
  simp only [Table.named?, Text.eqIgnoreCase, h]

/-- A table behind one whose name agrees up to case is never found. -/
theorem Table.named?_concat_of_isSome {tables : List Table} {t : Table}
    (h : (Table.named? tables t.name).isSome = true) (name : String) :
    Table.named? (tables ++ [t]) name = Table.named? tables name := by
  rw [Table.named?_concat]
  cases hname : Text.eqIgnoreCase t.name name with
  | false => simp
  | true =>
    rw [Table.named?_congr tables hname] at h
    obtain ⟨u, hu⟩ := Option.isSome_iff_exists.1 h
    simp [hu]

theorem Table.isSome_named? {tables : List Table} {t : Table} (ht : t ∈ tables) :
    (Table.named? tables t.name).isSome = true := by
  rw [Table.named?, List.find?_isSome]
  exact ⟨t, ht, Text.eqIgnoreCase_refl t.name⟩

theorem Table.named?_of_pairwise {tables : List Table}
    (hdistinct : tables.Pairwise fun t u => Text.eqIgnoreCase t.name u.name = false) {t : Table}
    (ht : t ∈ tables) : Table.named? tables t.name = some t := by
  induction hdistinct with
  | nil => cases ht
  | @cons u tables hu _ ih =>
    rcases List.mem_cons.1 ht with rfl | ht
    · simp [Table.named?, Text.eqIgnoreCase_refl]
    · rw [Table.named?, List.find?_cons_of_neg (by simp [hu t ht])]
      exact ih ht

/-! ## What a catalogue shows -/

namespace Sqlite

namespace Catalogue

/-- Names that agree up to case are both reserved or neither is. -/
theorem isReserved_congr {a b : String} (h : Text.eqIgnoreCase a b = true) :
    isReserved a = isReserved b := by
  rw [Text.eqIgnoreCase_iff] at h
  rw [isReserved, isReserved, h]

theorem findIn?_congr (c : Catalogue) (isTemporary : Bool) {a b : String}
    (h : Text.eqIgnoreCase a b = true) : c.findIn? isTemporary a = c.findIn? isTemporary b := by
  rw [Text.eqIgnoreCase_iff] at h
  simp only [findIn?, Text.eqIgnoreCase, h]

theorem findIn?_withTable (c : Catalogue) (t : StoredTable) (isTemporary : Bool) (name : String) :
    (c.withTable t).findIn? isTemporary name = (c.findIn? isTemporary name).or
      (if t.isTemporary == isTemporary && Text.eqIgnoreCase t.name name then some t else none) := by
  rw [findIn?, withTable, List.find?_append, List.find?_singleton]
  rfl

theorem contains_withTable (c : Catalogue) (t : StoredTable) (name : String) :
    (c.withTable t).contains name = (c.contains name || (t.name == name && !t.isTemporary)) := by
  simp [contains, withTable]

/-- The catalogue holds tables that were created one after another, each if it was missing. -/
structure Shows (c : Catalogue) (tables : List Table) : Prop where
  permanent : ∀ t ∈ c.tables, t.isTemporary = false
  unreserved : ∀ t ∈ tables, isReserved t.name = false
  found : ∀ name, isReserved name = false →
    (c.findIn? false name).map (·.definition.shownColumns)
      = (Table.named? tables name).map Table.columnNames
  listed : ∀ name, isReserved name = false →
    c.contains name = (Table.named? tables name).any (·.name == name)

namespace Shows

variable {c c' : Catalogue} {tables : List Table} {s : CreateTable} {t : Table}

theorem empty : Shows empty [] where
  permanent := by simp [Catalogue.empty]
  unreserved := by simp
  found _ _ := rfl
  listed _ _ := rfl

theorem named?_eq_none (h : Shows c tables) {name : String} (hname : isReserved name = false)
    (hmissing : c.findIn? false name = none) : Table.named? tables name = none := by
  have hfound := h.found name hname
  rw [hmissing, Option.map_none] at hfound
  exact Option.map_eq_none_iff.1 hfound.symm

theorem isSome_named? (h : Shows c tables) {name : String} (hname : isReserved name = false)
    (hfound : (c.findIn? false name).isSome = true) : (Table.named? tables name).isSome = true := by
  have hcolumns := congrArg Option.isSome (h.found name hname)
  rwa [Option.isSome_map, Option.isSome_map, hfound, eq_comm] at hcolumns

theorem withReserved (h : Shows c tables) {st : StoredTable} (hreserved : isReserved st.name = true)
    (hpermanent : st.isTemporary = false) : Shows (c.withTable st) tables := by
  have hother {name : String} (hname : isReserved name = false) :
      Text.eqIgnoreCase st.name name = false := by
    rw [Bool.eq_false_iff]
    intro hsame
    rw [isReserved_congr hsame, hname] at hreserved
    cases hreserved
  refine ⟨?_, h.unreserved, fun name hname => ?_, fun name hname => ?_⟩
  · simpa [Catalogue.withTable, or_imp, forall_and, hpermanent] using h.permanent
  · simpa [findIn?_withTable, hother hname] using h.found name hname
  · have hne : st.name ≠ name := by
      rintro rfl
      rw [hreserved] at hname
      cases hname
    rw [contains_withTable, beq_false_of_ne hne, Bool.false_and, Bool.or_false]
    exact h.listed name hname

theorem withCounter (h : Shows c tables) : Shows (c.withCounter false) tables := by
  rw [Catalogue.withCounter]
  split
  · exact h
  · exact h.withReserved (by decide) rfl

theorem concat_of_found (h : Shows c tables) (ht : isReserved t.name = false)
    (hfound : (c.findIn? false t.name).isSome = true) : Shows c (tables ++ [t]) := by
  have hnamed := Table.named?_concat_of_isSome (h.isSome_named? ht hfound)
  refine ⟨h.permanent, ?_, fun name hname => ?_, fun name hname => ?_⟩
  · simpa [or_imp, forall_and, ht] using h.unreserved
  · rw [hnamed, h.found name hname]
  · rw [hnamed, h.listed name hname]

theorem withTable (h : Shows c tables) (ht : isReserved t.name = false)
    (hmissing : c.findIn? false t.name = none) {st : StoredTable} (hname : st.name = t.name)
    (hpermanent : st.isTemporary = false)
    (hcolumns : st.definition.shownColumns = t.columnNames) :
    Shows (c.withTable st) (tables ++ [t]) := by
  refine ⟨?_, ?_, fun name hname' => ?_, fun name hname' => ?_⟩
  · simpa [Catalogue.withTable, or_imp, forall_and, hpermanent] using h.permanent
  · simpa [or_imp, forall_and, ht] using h.unreserved
  · rw [findIn?_withTable, Table.named?_concat, hname, hpermanent]
    cases hsame : Text.eqIgnoreCase t.name name with
    | false => simpa using h.found name hname'
    | true =>
      rw [findIn?_congr c false hsame] at hmissing
      simp [hmissing, h.named?_eq_none hname' hmissing, hcolumns]
  · rw [contains_withTable, Table.named?_concat, hname, hpermanent, h.listed name hname']
    cases hsame : Text.eqIgnoreCase t.name name with
    | false =>
      have hne : t.name ≠ name := by
        rintro rfl
        rw [Text.eqIgnoreCase_refl] at hsame
        cases hsame
      simp [hne]
    | true =>
      rw [findIn?_congr c false hsame] at hmissing
      simp [h.named?_eq_none hname' hmissing]

/-- A statement that is carried out adds its table to what is shown. -/
theorem createTable? (h : Shows c tables) (hs : s.CreatesIfMissing t.name)
    (hcolumns : (stored s t.name).definition.shownColumns = t.columnNames)
    (hc : c.createTable? s = some c') : Shows c' (tables ++ [t]) := by
  obtain ⟨ht, ⟨hfound, rfl⟩ | ⟨hmissing, counted, hcounted, rfl⟩⟩ := createTable?_cases hs hc
  · exact h.concat_of_found ht hfound
  · rcases hcounted with rfl | rfl
    · exact h.withTable ht hmissing rfl rfl hcolumns
    · have hmissing' : (c.withCounter false).findIn? false t.name = none := by
        have hnone := h.withCounter.found t.name ht
        rw [h.named?_eq_none ht hmissing, Option.map_none] at hnone
        exact Option.map_eq_none_iff.1 hnone
      exact h.withCounter.withTable ht hmissing' rfl rfl hcolumns

/-- So do the statements of a migration, one after another. -/
theorem foldlM {b : Backend} {more : List Table} {texts : List String}
    (hgenerated : List.Forall₂ (fun t text => (b.generator.generate t).result = .ok text) more texts)
    (hdefault : ∀ t ∈ more, t.PrintsNoDefault) (h : Shows c tables)
    (hc : texts.foldlM Catalogue.execute? c = some c') : Shows c' (tables ++ more) := by
  induction hgenerated generalizing c tables with
  | nil =>
    cases hc
    simpa using h
  | @cons t text more texts ht hmore ih =>
    rw [List.foldlM_cons, Option.bind_eq_bind, Option.bind_eq_some_iff] at hc
    obtain ⟨next, htext, hrest⟩ := hc
    obtain ⟨s, hs, hexecute, hcolumns⟩ :=
      execute?_columns ht (hdefault t List.mem_cons_self) htext
    rw [hexecute] at htext
    have hnext := h.createTable? hs hcolumns htext
    simpa using ih (fun u hu => hdefault u (List.mem_cons_of_mem t hu)) hnext hrest

/-- The columns of a table that is shown are found under its name. -/
theorem columns?_eq (h : Shows c tables) {name : String} (hname : isReserved name = false) {u : Table}
    (hu : Table.named? tables name = some u) : c.columns? name = some u.columnNames := by
  have htemporary : c.findIn? true name = none := by
    rw [findIn?, List.find?_eq_none]
    intro st hst
    simp [h.permanent st hst]
  have hfound := h.found name hname
  rw [hu, Option.map_some, Option.map_eq_some_iff] at hfound
  obtain ⟨st, hst, hcolumns⟩ := hfound
  simp [columns?, find?, htemporary, hst, hcolumns]

end Shows

end Catalogue

end Sqlite

/-! ## Migrations of an empty database -/

namespace Database

open Sqlite (Catalogue)

/-- **Migrated tables are there, as far as their names tell them apart.** After a complete migration of
an empty database, tables without printed defaults are there, with their columns in order: each under
the first table whose name agrees with its own up to ASCII case. If no two names agree, that is the
table itself. -/
theorem migration_shown {d : Database} {b : Backend} {cancelled : Nat → Bool} {tables : List Table}
    {report : Report} (hgenerator : d.generator = b.generator) (hbackend : d.backend = some .sqlite)
    (hempty : d.catalogue = Catalogue.empty) (hdefault : ∀ t ∈ tables, t.PrintsNoDefault)
    (hrun : (d.migrate cancelled tables).result = .ok report) (hcomplete : report.isComplete = true) :
    let after := (d.migrate cancelled tables).state
    (∀ t ∈ tables, ∃ u, Table.named? tables t.name = some u ∧
      after.tableExists t.name = .ok (u.name == t.name) ∧
      after.tableColumns t.name = .ok u.columnNames) ∧
    (tables.Pairwise (fun t u => Text.eqIgnoreCase t.name u.name = false) → ∀ t ∈ tables,
      after.tableExists t.name = .ok true ∧
      after.tableColumns t.name = .ok (t.orderedColumns.map (·.name))) := by
  rcases migrate_cases d cancelled tables with ⟨e, he, -⟩ | ⟨before, rest, c, h, hall, hok, hstate⟩
  · rw [he] at hrun
    cases hrun
  · rw [hok] at hrun
    cases hrun
    obtain rfl := List.eq_nil_of_length_eq_zero (by simpa [Report.isComplete] using hcomplete)
    rw [List.append_nil, hgenerator] at h
    rw [hempty] at hall
    have hshows : Catalogue.Shows c tables := by
      simpa using Catalogue.Shows.foldlM (Generator.compile_ok_iff.1 h) hdefault .empty hall
    intro after
    have hexists {t u : Table} (ht : t ∈ tables) (hu : Table.named? tables t.name = some u) :
        after.tableExists t.name = .ok (u.name == t.name) ∧
          after.tableColumns t.name = .ok u.columnNames := by
      have hname := hshows.unreserved t ht
      have hafter : after = { d with catalogue := c } := hstate
      rw [hafter]
      simp [tableExists, tableColumns, lookUp, hbackend, hshows.listed _ hname,
        hshows.columns?_eq hname hu, hu]
    refine ⟨fun t ht => ?_, fun hdistinct t ht => ?_⟩
    · obtain ⟨u, hu⟩ := Option.isSome_iff_exists.1 (Table.isSome_named? ht)
      exact ⟨u, hu, hexists ht hu⟩
    · simpa [Table.columnNames] using hexists ht (Table.named?_of_pairwise hdistinct ht)

/-! ## Tables of a shop -/

/-- A table whose columns do not stand in the order of their declaration. -/
def lines : Table :=
  ⟨"lines", [{ Column.plain "note" .string with ordinal := some 2, maxLength := some 80 },
    { Column.plain "position" .int32 with ordinal := some 1, nullable := false }]⟩

def linesText : String :=
  "CREATE TABLE IF NOT EXISTS [lines] ([position] INTEGER NOT NULL, [note] NVARCHAR(80))"

theorem orderedColumns_lines : lines.orderedColumns = lines.columns.reverse := by
  simp [Table.orderedColumns, lines, List.zipIdx, List.mergeSort, Table.mayPrecede, Table.sortKey,
    Column.plain]

theorem generate_lines : (shop.generator.generate lines).result = .ok linesText := by
  simp only [shop, Backend.generator, Generator.ofDialect, Dialect.createTable, Dialect.statement,
    orderedColumns_lines]
  cbv

theorem migration_shown_shop :
    let run := shop.migrate (fun _ => false) [users, lines]
    run.result = .ok ⟨2, 0⟩ ∧
    run.state.tableExists "users" = .ok true ∧ run.state.tableColumns "users" = .ok ["id"] ∧
    run.state.tableExists "lines" = .ok true ∧
    run.state.tableColumns "lines" = .ok ["position", "note"] := by
  intro run
  have hall : ([usersText, linesText].foldlM Catalogue.execute? shop.catalogue).isSome = true := by
    decide +kernel
  obtain ⟨c, hc⟩ := Option.isSome_iff_exists.1 hall
  have hrun : run.result = .ok ⟨2, 0⟩ :=
    (migrate_all (compile_pair generate_users generate_lines) (fun _ _ => rfl) hc).1
  have hdefault : ∀ t ∈ [users, lines], t.PrintsNoDefault := by
    simp [Table.PrintsNoDefault, users, lines, Column.plain]
  obtain ⟨-, hshown⟩ := migration_shown rfl rfl rfl hdefault hrun rfl
  have htables := hshown (by decide)
  obtain ⟨hexists, hcolumns⟩ := htables users (by simp)
  obtain ⟨hexists', hcolumns'⟩ := htables lines (by simp)
  rw [Table.orderedColumns_of_pairwise (by decide)] at hcolumns
  rw [orderedColumns_lines] at hcolumns'
  exact ⟨hrun, hexists, hcolumns, hexists', hcolumns'⟩

/-- A table whose name differs from that of another one in case only. -/
def capitals : Table :=
  ⟨"Users", [Column.plain "name" .string]⟩

def capitalsText : String :=
  "CREATE TABLE IF NOT EXISTS [Users] ([name] TEXT)"

theorem generate_capitals : (shop.generator.generate capitals).result = .ok capitalsText := by
  cbv

/-- The second of two tables whose names differ in case only is not there after a migration that
reports both as executed, and its columns are those of the first. -/
theorem migration_shown_capitals :
    let run := shop.migrate (fun _ => false) [users, capitals]
    users.name ≠ capitals.name ∧ users.PrintsNoDefault ∧ capitals.PrintsNoDefault ∧
    run.result = .ok ⟨2, 0⟩ ∧
    run.state.tableExists capitals.name = .ok false ∧
    run.state.tableColumns capitals.name = .ok ["id"] ∧
    capitals.orderedColumns.map (·.name) = ["name"] := by
  intro run
  have horder : capitals.orderedColumns = capitals.columns :=
    Table.orderedColumns_of_pairwise (by decide)
  have hall : (([usersText, capitalsText].foldlM Catalogue.execute? shop.catalogue).any fun c =>
      c.contains "Users" == false && c.columns? "Users" == some ["id"]) = true := by
    decide +kernel
  obtain ⟨c, hc, hshown⟩ := (Option.any_eq_true _ _).1 hall
  simp only [Bool.and_eq_true, beq_iff_eq] at hshown
  have hrun : run.result = .ok ⟨2, 0⟩ ∧ run.state = { shop with catalogue := c } :=
    migrate_all (compile_pair generate_users generate_capitals) (fun _ _ => rfl) hc
  have hdefault : users.PrintsNoDefault ∧ capitals.PrintsNoDefault := by
    simp [Table.PrintsNoDefault, users, capitals, Column.plain]
  refine ⟨by decide, hdefault.1, hdefault.2, hrun.1, ?_, ?_, by rw [horder]; rfl⟩
  · rw [hrun.2]
    simp [tableExists, lookUp, shop, capitals, hshown.1]
  · rw [hrun.2]
    simp [tableColumns, lookUp, shop, capitals, hshown.2]

end Database

end Schemata
