import Schemata.Proofs.Session.Frame

/-!
# Handles stay true

The handles that a session has given out stay in range whatever comes later, and each stands for one
thing: a table of a fixed name, or a column that only the settings accepted for this very handle have
changed since (`Session.handles_true`). The invariant is `Session.Valid`: every handle is in range, and
no two column handles are the same, so settings that go to one column cannot reach another.
-/

namespace Schemata

namespace Session

variable {s : Session}

/-! ## Handles in range -/

/-- Every handle is in range, and the column handles differ from each other. -/
structure Valid (s : Session) : Prop where
  tables : ∀ h ∈ s.tables, ∃ t, s.schema.table? h = some t
  columns : ∀ h ∈ s.columns, ∃ c, s.schema.column? h = some c
  nodup : s.columns.Nodup

namespace Valid

theorem start (naming : Naming) : (start naming).Valid where
  tables h hh := by cases hh
  columns h hh := by cases hh
  nodup := .nil

theorem declare (hs : s.Valid) {schema : Schema} {handles : List ColumnHandle}
    (hgrown : s.schema.Extends schema) (hnodup : handles.Nodup)
    (hnew : ∀ h ∈ handles, s.schema.column? h = none ∧ (schema.column? h).isSome) :
    Valid { s with schema, columns := s.columns ++ handles } where
  tables h hh := by
    obtain ⟨t, ht⟩ := hs.tables h hh
    obtain ⟨t', ht', -⟩ := hgrown.tables h.index t ht
    exact ⟨t', ht'⟩
  columns h hh := by
    rcases List.mem_append.1 hh with hh | hh
    · obtain ⟨c, hc⟩ := hs.columns h hh
      exact ⟨c, hgrown.columns h c hc⟩
    · exact Option.isSome_iff_exists.1 (hnew h hh).2
  nodup := by
    refine List.nodup_append.2 ⟨hs.nodup, hnodup, fun h hh h' hh' heq => ?_⟩
    obtain ⟨c, hc⟩ := hs.columns h hh
    rw [heq, (hnew h' hh').1] at hc
    cases hc

theorem grow (hs : s.Valid) {schema : Schema} (hgrown : s.schema.Extends schema) :
    Valid { s with schema } := by
  simpa using hs.declare hgrown .nil (by simp)

theorem push (hs : s.Valid) (e : Entity) (name : String) :
    Valid { s with
      schema := (s.schema.push e name).2, tables := s.tables ++ [(s.schema.push e name).1] } where
  tables h hh := by
    rcases List.mem_append.1 hh with hh | hh
    · exact (hs.grow (.push s.schema e name)).tables h hh
    · obtain rfl := List.mem_singleton.1 hh
      exact ⟨⟨name, []⟩, by simp [Schema.push, Schema.table?]⟩
  columns := (hs.grow (.push s.schema e name)).columns
  nodup := hs.nodup

theorem configure (hs : s.Valid) {h : ColumnHandle} {settings : List Setting} {schema : Schema}
    (hconfigure : s.schema.configure h settings = .ok schema) : Valid { s with schema } where
  tables h' hh := by
    obtain ⟨t, ht⟩ := hs.tables h' hh
    have hkeeps : s.schema.KeepsTables schema := by
      simpa [Schema.perform, hconfigure] using
        Schema.KeepsTables.perform s.schema (.configure h settings)
    obtain ⟨t', ht', -⟩ := hkeeps h'.index t ht
    exact ⟨t', ht'⟩
  columns h' hh := by
    obtain ⟨c, hc⟩ := hs.columns h' hh
    rw [Schema.column?_configure hconfigure h', hc]
    split
    · exact ⟨_, rfl⟩
    · exact ⟨c, rfl⟩
  nodup := hs.nodup

theorem step (hs : s.Valid) (st : Step) : (s.step st).2.Valid := by
  cases st with
  | defineTable entity name =>
    cases name with
    | none => exact hs.push entity _
    | some name => exact hs.push entity name
  | withColumn n selector settings =>
    simp only [Session.step]
    split
    · exact hs
    · split
      · exact hs
      · next hok =>
        obtain ⟨t, selection, -, -, happend⟩ := Schema.withColumn_ok_iff.1 hok
        obtain ⟨hold, hnew⟩ := Schema.column?_append happend
        exact hs.declare (.append happend) (by simp) (by simp [hold, hnew])
  | withEntityColumns n =>
    simp only [Session.step]
    split
    · exact hs
    · next h _ =>
      have hgrown : s.schema.Extends (s.schema.withEntityColumns h).2 := .withMembers _ _ _
      split
      · next herror =>
        rw [herror] at hgrown
        exact hs.grow hgrown
      · next hok =>
        rw [hok] at hgrown
        obtain ⟨hnodup, hnew⟩ := Schema.withMembers_handles hok
        exact hs.declare hgrown hnodup hnew
  | configure n settings =>
    simp only [Session.step]
    split
    · exact hs
    · split
      · exact hs
      · next hok => exact hs.configure hok
  | naming naming => exact hs.grow ⟨.refl _, fun _ _ hc => hc⟩

theorem run (hs : s.Valid) (steps : List Step) : (s.run steps).Valid :=
  run_induction (fun _ st h => h.step st) steps hs

end Valid

/-! ## What stays behind a handle -/

theorem handles_step (s : Session) (st : Step) :
    s.tables <+: (s.step st).2.tables ∧ s.columns <+: (s.step st).2.columns := by
  have hsame : s.tables <+: s.tables ∧ s.columns <+: s.columns :=
    ⟨List.prefix_refl _, List.prefix_refl _⟩
  cases st with
  | defineTable entity name => exact ⟨List.prefix_append _ _, hsame.2⟩
  | withColumn n selector settings =>
    simp only [step]
    split
    · exact hsame
    · split
      · exact hsame
      · exact ⟨hsame.1, List.prefix_append _ _⟩
  | withEntityColumns n =>
    simp only [step]
    split
    · exact hsame
    · split
      · exact hsame
      · exact ⟨hsame.1, List.prefix_append _ _⟩
  | configure n settings =>
    simp only [step]
    split
    · exact hsame
    · split <;> exact hsame
  | naming naming => exact hsame

theorem getElem?_of_isPrefixOf {α : Type} {l l' : List α} (h : l <+: l') {n : Nat} {a : α}
    (hn : l[n]? = some a) : l'[n]? = some a := by
  obtain ⟨tail, rfl⟩ := h
  obtain ⟨hlt, -⟩ := List.getElem?_eq_some_iff.1 hn
  rw [List.getElem?_append_left hlt, hn]

theorem handles_run (s : Session) (steps : List Step) :
    s.tables <+: (s.run steps).tables ∧ s.columns <+: (s.run steps).columns :=
  run_induction (P := fun s' => s.tables <+: s'.tables ∧ s.columns <+: s'.columns)
    (fun s' st h => ⟨h.1.trans (handles_step s' st).1, h.2.trans (handles_step s' st).2⟩) steps
    ⟨List.prefix_refl _, List.prefix_refl _⟩

theorem keepsTables_run (s : Session) (steps : List Step) :
    s.schema.KeepsTables (s.run steps).schema := by
  rw [schema_run]
  generalize s.schema = schema
  generalize s.calls steps = calls
  induction calls generalizing schema with
  | nil => exact .refl schema
  | cons call calls ih => exact (Schema.KeepsTables.perform schema call).trans (ih _)

/-- The settings that a step applies to the column behind a handle: those of a `configure` on this
handle that succeeds. -/
def settingsAt (s : Session) (n : Nat) : Step → List Setting
  | .configure m settings =>
    match (s.step (.configure m settings)).1 with
    | .ok _ => if m = n then settings else []
    | .error _ => []
  | _ => []

/-- The settings that the steps of a run apply to the column behind a handle, in order. -/
def settingsOver (s : Session) (n : Nat) : List Step → List Setting
  | [] => []
  | st :: steps => s.settingsAt n st ++ (s.step st).2.settingsOver n steps

theorem extends_step (s : Session) {st : Step} (hst : ∀ m settings, st ≠ .configure m settings) :
    s.schema.Extends (s.step st).2.schema := by
  rw [schema_step]
  cases hcall : s.call? st with
  | none => exact .refl s.schema
  | some call =>
    refine Schema.Extends.perform fun h settings heq => ?_
    subst heq
    cases st with
    | configure m settings => exact hst m settings rfl
    | _ => simp [call?] at hcall

/-- The settings that a step applies to a column: those of a `configure` on its handle that succeeds. -/
def appliedTo (s : Session) (h : ColumnHandle) : Step → List Setting
  | .configure n settings =>
    match (s.step (.configure n settings)).1 with
    | .ok _ => if s.columns[n]? = some h then settings else []
    | .error _ => []
  | _ => []

/-- The settings that the steps of a run apply to a column, in order. -/
def appliedOver (s : Session) (h : ColumnHandle) : List Step → List Setting
  | [] => []
  | st :: steps => s.appliedTo h st ++ (s.step st).2.appliedOver h steps

/-- A step changes a column by the settings it applies to it, and not otherwise. -/
theorem column?_step {h : ColumnHandle} {c : Column} (hc : s.schema.column? h = some c) (st : Step) :
    (s.step st).2.schema.column? h = some (c.configure (s.appliedTo h st)) := by
  cases st with
  | configure n settings =>
    cases hn : s.columns[n]? with
    | none =>
      simp only [step, appliedTo, hn]
      exact hc
    | some h' =>
      cases hok : s.schema.configure h' settings with
      | error e =>
        simp only [step, appliedTo, hn, hok]
        exact hc
      | ok schema =>
        simp only [step, appliedTo, hn, hok, Option.some.injEq]
        rw [Schema.column?_configure hok h, hc]
        by_cases heq : h' = h
        · rw [if_pos heq, if_pos heq.symm]
          rfl
        · rw [if_neg heq, if_neg (Ne.symm heq)]
          rfl
  | _ => exact (extends_step s (by simp)).columns h c hc

theorem column?_run {h : ColumnHandle} {c : Column} (hc : s.schema.column? h = some c)
    (steps : List Step) :
    (s.run steps).schema.column? h = some (c.configure (s.appliedOver h steps)) := by
  induction steps generalizing s c with
  | nil => exact hc
  | cons st steps ih =>
    rw [run_cons, ih (column?_step hc st), appliedOver, Column.configure_append]

/-- The handles differ from each other, so a column is addressed by one number only. -/
theorem settingsAt_eq (hs : s.Valid) {n : Nat} {h : ColumnHandle} (hn : s.columns[n]? = some h)
    (st : Step) : s.settingsAt n st = s.appliedTo h st := by
  cases st with
  | configure m settings =>
    cases hm : s.columns[m]? with
    | none => simp only [step, settingsAt, appliedTo, hm]
    | some h' =>
      obtain ⟨hlt, -⟩ := List.getElem?_eq_some_iff.1 hm
      have hsame : m = n ↔ h' = h := by
        rw [← List.getElem?_inj hlt hs.nodup, hm, hn, Option.some.injEq]
      simp only [settingsAt, appliedTo, hm, Option.some.injEq, hsame]
  | _ => rfl

theorem settingsOver_eq (hs : s.Valid) {n : Nat} {h : ColumnHandle} (hn : s.columns[n]? = some h)
    (steps : List Step) : s.settingsOver n steps = s.appliedOver h steps := by
  induction steps generalizing s with
  | nil => rfl
  | cons st steps ih =>
    have hn' : (s.step st).2.columns[n]? = some h := getElem?_of_isPrefixOf (handles_step s st).2 hn
    rw [settingsOver, appliedOver, settingsAt_eq hs hn, ih (hs.step st) hn']

theorem column_run (hs : s.Valid) {n : Nat} {h : ColumnHandle} (hn : s.columns[n]? = some h)
    {c : Column} (hc : s.schema.column? h = some c) (steps : List Step) :
    (s.run steps).schema.column? h = some (c.configure (s.settingsOver n steps)) := by
  rw [settingsOver_eq hs hn, column?_run hc]

/-! ## Steps that succeed and steps that fail -/

/-- A column is declared iff its selector selects and its name is free once it is configured. -/
theorem withColumn_step_ok_iff {n : Nat} {h : TableHandle} (hn : s.tables[n]? = some h) {t : Table}
    (ht : s.schema.table? h = some t) (selector : Selector) (settings : List Setting) :
    (∃ reply, (s.step (.withColumn n selector settings)).1 = .ok reply) ↔
      ∃ selection, selector.resolve h.entity t.name = .ok selection ∧
        ∀ c ∈ t.columns, Text.eqIgnoreCase c.name (s.schema.declared h selection settings).name
          = false := by
  constructor
  · rintro ⟨reply, hreply⟩
    simp only [step, hn] at hreply
    split at hreply
    · cases hreply
    · next hok =>
      obtain ⟨t', selection, ht', hselection, happend⟩ := Schema.withColumn_ok_iff.1 hok
      obtain rfl : t = t' := Option.some.inj (ht.symm.trans ht')
      obtain ⟨t', ht', hfree, -, -⟩ := Schema.append_ok_iff.1 happend
      obtain rfl : t = t' := Option.some.inj (ht.symm.trans ht')
      exact ⟨selection, hselection, Schema.hasName_eq_false.1 hfree⟩
  · rintro ⟨selection, hselection, hfree⟩
    have happend := Schema.append_ok_iff.2 ⟨t, ht, Schema.hasName_eq_false.2 hfree, rfl, rfl⟩
    have hok := Schema.withColumn_ok_iff.2 ⟨t, selection, ht, hselection, happend⟩
    exact ⟨.columns [s.columns.length], by simp only [step, hn, hok]⟩

/-- A declared column is the one new column of its table, behind the others, and has a new handle. -/
theorem withColumn_step {n : Nat} {h : TableHandle} (hn : s.tables[n]? = some h) {t : Table}
    (ht : s.schema.table? h = some t) {selector : Selector} {settings : List Setting}
    {selection : Selection} (hselection : selector.resolve h.entity t.name = .ok selection)
    {reply : Reply} (hreply : (s.step (.withColumn n selector settings)).1 = .ok reply) :
    s.step (.withColumn n selector settings) = (.ok (.columns [s.columns.length]), {
      schema := { s.schema with
        tables := s.schema.tables.set h.index
          { t with columns := t.columns ++ [s.schema.declared h selection settings] } }
      tables := s.tables
      columns := s.columns ++ [⟨h.index, t.columns.length⟩] }) := by
  obtain ⟨selection', hselection', hfree⟩ :=
    (withColumn_step_ok_iff hn ht selector settings).1 ⟨reply, hreply⟩
  obtain rfl : selection = selection' := Except.ok.inj (hselection.symm.trans hselection')
  have happend := Schema.append_ok_iff.2 ⟨t, ht, Schema.hasName_eq_false.2 hfree, rfl, rfl⟩
  have hok := Schema.withColumn_ok_iff.2 ⟨t, selection, ht, hselection, happend⟩
  simp only [step, hn, hok]
  rw [Schema.setColumns_eq_set ht]

/-- A step that fails leaves no trace, unless it declares the columns of an entity. -/
theorem step_error {st : Step} (hst : ∀ n, st ≠ .withEntityColumns n) {e : DeclarationError}
    (h : (s.step st).1 = .error e) : (s.step st).2 = s := by
  cases st with
  | defineTable entity name => cases h
  | withColumn n selector settings =>
    cases hn : s.tables[n]? with
    | none => simp only [step, hn]
    | some handle =>
      cases hok : s.schema.withColumn handle selector settings with
      | error e => simp only [step, hn, hok]
      | ok r =>
        simp only [step, hn, hok] at h
        cases h
  | withEntityColumns n => exact absurd rfl (hst n)
  | configure n settings =>
    cases hn : s.columns[n]? with
    | none => simp only [step, hn]
    | some handle =>
      cases hok : s.schema.configure handle settings with
      | error e => simp only [step, hn, hok]
      | ok schema =>
        simp only [step, hn, hok] at h
        cases h
  | naming naming => cases h

/-- **Handles stay true and failed steps leave no trace**, in every session and after any further
steps, whether they succeed or fail. -/
theorem handles_true (naming : Naming) (before more : List Step) :
    let s := (start naming).run before
    -- A table handle stays in range, and its table keeps its name.
    (∀ (n : Nat) (h : TableHandle), s.tables[n]? = some h →
      (s.run more).tables[n]? = some h ∧
      ∃ t t', s.schema.table? h = some t ∧ (s.run more).schema.table? h = some t' ∧
        t'.name = t.name) ∧
    -- A column handle stays in range, and only what was accepted for it has changed its column.
    (∀ (n : Nat) (h : ColumnHandle), s.columns[n]? = some h →
      (s.run more).columns[n]? = some h ∧
      ∃ c, s.schema.column? h = some c ∧
        (s.run more).schema.column? h = some (c.configure (s.settingsOver n more))) ∧
    -- A column is declared iff its selector selects and its configured name is free on its table,
    (∀ (n : Nat) (h : TableHandle) t selector settings,
      s.tables[n]? = some h → s.schema.table? h = some t →
      ((∃ reply, (s.step (.withColumn n selector settings)).1 = .ok reply) ↔
        ∃ selection, selector.resolve h.entity t.name = .ok selection ∧
          ∀ c ∈ t.columns, Text.eqIgnoreCase c.name
            (s.schema.declared h selection settings).name = false)) ∧
    -- and it is then the one new column, behind the others.
    (∀ (n : Nat) (h : TableHandle) t selector settings selection reply,
      s.tables[n]? = some h → s.schema.table? h = some t →
      selector.resolve h.entity t.name = .ok selection →
      (s.step (.withColumn n selector settings)).1 = .ok reply →
      s.step (.withColumn n selector settings) = (.ok (.columns [s.columns.length]), {
        schema := { s.schema with
          tables := s.schema.tables.set h.index
            { t with columns := t.columns ++ [s.schema.declared h selection settings] } }
        tables := s.tables
        columns := s.columns ++ [⟨h.index, t.columns.length⟩] })) ∧
    -- A step on a column that fails leaves everything as it was.
    (∀ n selector settings e, (s.step (.withColumn n selector settings)).1 = .error e →
      (s.step (.withColumn n selector settings)).2 = s) ∧
    (∀ n settings e, (s.step (.configure n settings)).1 = .error e →
      (s.step (.configure n settings)).2 = s) ∧
    -- What becomes of a table does not depend on the calls that address other tables.
    (∀ (n : Nat) (h : TableHandle), s.tables[n]? = some h →
      (s.run more).schema.table? h
        = (s.schema.performAll ((s.calls more).filter (·.concerns h.index))).table? h) := by
  intro s
  have hs : s.Valid := (Valid.start naming).run before
  refine ⟨fun n h hn => ?_, fun n h hn => ?_, ?_, ?_, ?_, ?_, fun n h hn => ?_⟩
  · obtain ⟨t, ht⟩ := hs.tables h (List.mem_of_getElem? hn)
    obtain ⟨t', ht', hname⟩ := keepsTables_run s more h.index t ht
    exact ⟨getElem?_of_isPrefixOf (handles_run s more).1 hn, t, t', ht, ht', hname⟩
  · obtain ⟨c, hc⟩ := hs.columns h (List.mem_of_getElem? hn)
    exact ⟨getElem?_of_isPrefixOf (handles_run s more).2 hn, c, hc, column_run hs hn hc more⟩
  · exact fun n h t selector settings hn ht => withColumn_step_ok_iff hn ht selector settings
  · exact fun n h t selector settings selection reply hn ht hselection hreply =>
      withColumn_step hn ht hselection hreply
  · exact fun n selector settings e h => step_error (by simp) h
  · exact fun n settings e h => step_error (by simp) h
  · obtain ⟨t, ht⟩ := hs.tables h (List.mem_of_getElem? hn)
    obtain ⟨hlt, -⟩ := List.getElem?_eq_some_iff.1 ht
    rw [schema_run]
    exact ((Schema.SameTable.refl h.index s.schema).performAll hlt (s.calls more)).table

/-- Two columns on a table of orders. -/
def orderSteps : List Step :=
  [.defineTable ⟨"Order", none, []⟩ none,
    .withColumn 0 (.named "Id" .int64) [.primaryKey],
    .withColumn 0 (.named "Note" .string) []]

/-- Steps on the second column between others: its first renaming is refused. -/
def noteSteps : List Step :=
  [.configure 1 [.unique, .name "ID"],
    .defineTable ⟨"Line", none, []⟩ none,
    .configure 1 [.maxLength 5],
    .withColumn 1 (.named "Id" .int64) [],
    .configure 2 [.name "Number"],
    .configure 1 [.name "Remark"]]

theorem handles_true_orders :
    let s := (start .asDeclared).run orderSteps
    (∃ t t', s.schema.table? ⟨⟨"Order", none, []⟩, 0⟩ = some t ∧
      (s.run noteSteps).schema.table? ⟨⟨"Order", none, []⟩, 0⟩ = some t' ∧ t'.name = t.name) ∧
    s.settingsOver 1 noteSteps = [.maxLength 5, .name "Remark"] ∧
    (∃ c, s.schema.column? ⟨0, 1⟩ = some c ∧
      (s.run noteSteps).schema.column? ⟨0, 1⟩ = some (c.configure (s.settingsOver 1 noteSteps))) ∧
    (s.step (.withColumn 0 (.named "id" .string) [])).2 = s ∧
    (s.step (.configure 1 [.unique, .name "ID"])).2 = s := by
  intro s
  obtain ⟨htable, hcolumn, -, -, hwithColumn, hconfigure, -⟩ :=
    handles_true .asDeclared orderSteps noteSteps
  exact ⟨(htable 0 ⟨⟨"Order", none, []⟩, 0⟩ (by decide +kernel)).2, by decide +kernel,
    (hcolumn 1 ⟨0, 1⟩ (by decide +kernel)).2,
    hwithColumn 0 (.named "id" .string) [] (.duplicateColumn "Order" "id") (by rfl),
    hconfigure 1 [.unique, .name "ID"] (.duplicateColumn "Order" "ID") (by rfl)⟩

end Session

end Schemata
