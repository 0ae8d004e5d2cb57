import Mathlib.Data.List.Induction
import Schemata.Proofs.Session.Handles

/-!
# The last writers of a column

A column is what the last call of each kind says about it, with the markers of its member for the kinds
that are never called: `Column.written` says so field by field, without settings that are applied one
after the other. Nullability is the one field with two writers. A key column does not take null, but
the last `allowNull` counts whether it comes before the key or behind it, and it still counts when the
column is opened again.

A session declares each of its columns in one step (`Session.Declares`) and may open it again in later
ones. `Session.column_lastWriters` says that the column is then the one that is written by the settings
of all of these steps together.
-/

namespace Schemata

namespace Setting

/-! ## The last call of a kind -/

inductive Kind where
  | primaryKey
  | unique
  | rowVersion
  | maxLength
  | defaultValue
  | autoIncrement
  | allowNull
  | ordinal
  | name
deriving DecidableEq

/-- What a setting of the kind carries. -/
abbrev Kind.Value : Kind → Type
  | .primaryKey | .unique | .rowVersion => Unit
  | .maxLength => UInt32
  | .defaultValue | .name => String
  | .autoIncrement => AutoIncrement
  | .allowNull => Bool
  | .ordinal => UInt64

def argument? : (k : Kind) → Setting → Option k.Value
  | .primaryKey, .primaryKey => some ()
  | .unique, .unique => some ()
  | .rowVersion, .rowVersion => some ()
  | .maxLength, .maxLength length => some length
  | .defaultValue, .defaultValue literal => some literal
  | .autoIncrement, .autoIncrement seed step => some ⟨seed, step⟩
  | .allowNull, .allowNull nullable => some nullable
  | .ordinal, .ordinal position => some position
  | .name, .name text => some text
  | _, _ => none

/-- What the last setting of the kind carries, if there is one. -/
def last? (k : Kind) (settings : List Setting) : Option k.Value :=
  (settings.filterMap (argument? k)).getLast?

/-- Two lists of settings with the same last setting of each kind. -/
def SameLast (settings settings' : List Setting) : Prop :=
  ∀ k, last? k settings = last? k settings'

theorem last?_append (k : Kind) (first second : List Setting) :
    last? k (first ++ second) = (last? k second).or (last? k first) := by
  unfold last?
  rw [List.filterMap_append, List.getLast?_append]

@[simp]
theorem last?_snoc (k : Kind) (settings : List Setting) (s : Setting) :
    last? k (settings ++ [s]) = (argument? k s).or (last? k settings) := by
  rw [last?_append]
  cases h : argument? k s <;> simp [last?, h]

theorem SameLast.append {first first' second second' : List Setting} (h : SameLast first first')
    (h' : SameLast second second') : SameLast (first ++ second) (first' ++ second') := by
  intro k
  rw [last?_append, last?_append, h k, h' k]

end Setting

open Setting

/-! ## What a column is -/

namespace Column

/-- The column of a selection as its member's markers and the last settings of each kind say. -/
def written (naming : Naming) (selection : Selection) (marked : Option Member)
    (settings : List Setting) : Column :=
  let isPrimaryKey := (last? .primaryKey settings).isSome || marked.any (·.isPrimaryKey)
  { name := (last? .name settings).getD
      ((marked.bind (·.columnName)).getD (naming.apply selection.member))
    type := if (last? .rowVersion settings).isSome || marked.any (·.isRowVersion) then .rowVersion
      else selection.type
    nullable := (last? .allowNull settings).getD (!isPrimaryKey)
    isPrimaryKey
    isUnique := (last? .unique settings).isSome || marked.any (·.isUnique)
    defaultValue := last? .defaultValue settings
    maxLength := (last? .maxLength settings).or (marked.bind (·.maxLength))
    autoIncrement := last? .autoIncrement settings
    ordinal := last? .ordinal settings
    nullableChosen := (last? .allowNull settings).isSome }

variable {naming : Naming} {selection : Selection} {marked : Option Member} {settings : List Setting}

theorem set_written (s : Setting) :
    (written naming selection marked settings).set s
      = written naming selection marked (settings ++ [s]) := by
  cases s with
  | primaryKey =>
    -- the key decides about null only as long as no setting has
    cases h : last? .allowNull settings <;> simp [written, set, argument?, h]
  | _ => simp [written, set, argument?]

theorem written_congr {settings' : List Setting} (h : SameLast settings settings') :
    written naming selection marked settings = written naming selection marked settings' := by
  simp only [written, h _]

end Column

namespace Schema

variable (naming : Naming) (selection : Selection) (marked : Option Member)

theorem newColumn_nil : newColumn naming selection marked [] = .written naming selection marked [] := by
  rcases marked with _ | ⟨name, typeText, _ | columnName, _ | _, _ | _, _ | length, _ | _⟩ <;> rfl

theorem newColumn_append (first second : List Setting) :
    newColumn naming selection marked (first ++ second)
      = (newColumn naming selection marked first).configure second := by
  unfold newColumn
  rw [Column.configure_append]

/-- A declared column is what its markers and its last settings say. -/
theorem newColumn_eq_written (settings : List Setting) :
    newColumn naming selection marked settings = .written naming selection marked settings := by
  induction settings using List.reverseRecOn with
  | nil => exact newColumn_nil naming selection marked
  | append_singleton settings s ih =>
    rw [newColumn_append, ih]
    exact Column.set_written s

theorem newColumn_congr {settings settings' : List Setting} (h : SameLast settings settings') :
    newColumn naming selection marked settings = newColumn naming selection marked settings' := by
  rw [newColumn_eq_written, newColumn_eq_written, Column.written_congr h]

end Schema

/-! ## Where a column comes from -/

namespace Schema

variable {s s' : Schema}

theorem column?_push (s : Schema) (e : Entity) (name : String) (h : ColumnHandle) :
    (s.push e name).2.column? h = s.column? h := by
  simp only [push, column?, List.getElem?_append]
  split
  · rfl
  · next hge =>
    rw [List.getElem?_eq_none (Nat.le_of_not_lt hge)]
    cases hlast : ([⟨name, []⟩] : List Table)[h.table - s.tables.length]? with
    | none => rfl
    | some t =>
      obtain rfl := List.mem_singleton.1 (List.mem_of_getElem? hlast)
      rfl

theorem column?_withColumn {table : TableHandle} {selector : Selector} {settings : List Setting}
    {h h' : ColumnHandle} {c : Column} (hold : s.column? h = none)
    (hok : s.withColumn table selector settings = .ok (h', s')) (hnew : s'.column? h = some c) :
    ∃ t selection, s.table? table = some t ∧ selector.resolve table.entity t.name = .ok selection ∧
      h = ⟨table.index, t.columns.length⟩ ∧ c = s.declared table selection settings := by
  obtain ⟨t, selection, ht, hselection, happend⟩ := withColumn_ok_iff.1 hok
  rw [column?_of_append happend] at hnew
  split at hnew
  · next heq =>
    obtain ⟨t', ht', -, rfl, -⟩ := append_ok_iff.1 happend
    obtain rfl : t = t' := Option.some.inj (ht.symm.trans ht')
    exact ⟨t, selection, ht, hselection, heq, (Option.some.inj hnew).symm⟩
  · rw [hold] at hnew
    cases hnew

theorem column?_withMembers {k : Nat} {ms : List Member} {h : ColumnHandle} {c : Column}
    (hold : s.column? h = none) (hnew : (s.withMembers k ms).2.column? h = some c) :
    ∃ t before m after type, s.tables[k]? = some t ∧ ms = before ++ m :: after ∧
      TypeTag.ofFieldType m.typeText = .ok type ∧ h = ⟨k, t.columns.length + before.length⟩ ∧
      c = newColumn s.naming ⟨m.name, type⟩ (some m) [] := by
  induction ms generalizing s with
  | nil =>
    rw [withMembers, hold] at hnew
    cases hnew
  | cons m ms ih =>
    unfold withMembers at hnew
    cases hm : s.withMember k m with
    | error e =>
      simp only [hm, hold] at hnew
      cases hnew
    | ok r =>
      obtain ⟨h', s'⟩ := r
      simp only [hm] at hnew
      obtain ⟨type, htype, happend⟩ := withMember_ok_iff.1 hm
      have hcolumn := column?_of_append happend h
      obtain ⟨t, ht, -, rfl, rfl⟩ := append_ok_iff.1 happend
      by_cases heq : h = ⟨k, t.columns.length⟩
      · -- the first member's column, which the others leave alone
        rw [if_pos heq] at hcolumn
        have hkept := (Extends.withMembers k ms _).columns h _ hcolumn
        rw [hnew, Option.some.injEq] at hkept
        exact ⟨t, [], m, ms, type, ht, rfl, htype, heq, hkept⟩
      · rw [if_neg heq, hold] at hcolumn
        obtain ⟨t', before, m', after, type', ht', rfl, htype', rfl, hc⟩ := ih hcolumn hnew
        rw [setColumns_self ht, Option.some.injEq] at ht'
        subst ht'
        refine ⟨t, m :: before, m', after, type', ht, rfl, htype', ?_, hc⟩
        simp only [List.length_append, List.length_cons, List.length_nil, ColumnHandle.mk.injEq,
          true_and]
        omega

end Schema

namespace Session

variable {s : Session}

/-- A step that declares a column: at which place, from which selection, with whose markers, and with
which settings. -/
inductive Declares (s : Session) :
    Step → ColumnHandle → Selection → Option Member → List Setting → Prop
  | column {n : Nat} {h : TableHandle} {t : Table} {selector : Selector} {settings : List Setting}
      {selection : Selection} (table : s.tables[n]? = some h) (declared : s.schema.table? h = some t)
      (selects : selector.resolve h.entity t.name = .ok selection) :
    Declares s (.withColumn n selector settings) ⟨h.index, t.columns.length⟩ selection
      (h.entity.member? selection.member) settings
  | member {n : Nat} {h : TableHandle} {t : Table} {before : List Member} {m : Member}
      {after : List Member} {type : TypeTag} (table : s.tables[n]? = some h)
      (declared : s.schema.table? h = some t) (members : h.entity.members = before ++ m :: after)
      (known : TypeTag.ofFieldType m.typeText = .ok type) :
    Declares s (.withEntityColumns n) ⟨h.index, t.columns.length + before.length⟩ ⟨m.name, type⟩
      (some m) []

theorem declares_of_new {h : ColumnHandle} {c : Column} {st : Step} (hold : s.schema.column? h = none)
    (hnew : (s.step st).2.schema.column? h = some c) :
    ∃ selection marked settings, s.Declares st h selection marked settings ∧
      c = Schema.newColumn s.schema.naming selection marked settings := by
  have habsent : s.schema.column? h ≠ some c := by simp [hold]
  cases st with
  | defineTable entity name =>
    refine absurd ?_ habsent
    cases name with
    | none => rwa [← Schema.column?_push s.schema entity]
    | some name => rwa [← Schema.column?_push s.schema entity name]
  | withColumn n selector settings =>
    simp only [step] at hnew
    split at hnew
    · exact absurd hnew habsent
    · next handle hn =>
      split at hnew
      · exact absurd hnew habsent
      · next hok =>
        obtain ⟨t, selection, ht, hselection, rfl, hc⟩ := Schema.column?_withColumn hold hok hnew
        exact ⟨selection, _, settings, .column hn ht hselection, hc⟩
  | withEntityColumns n =>
    cases hn : s.tables[n]? with
    | none =>
      simp only [step, hn] at hnew
      exact absurd hnew habsent
    | some handle =>
      have hschema : (s.step (.withEntityColumns n)).2.schema
          = (s.schema.withMembers handle.index handle.entity.members).2 := by
        rw [schema_step]
        simp only [call?, hn]
        rfl
      rw [hschema] at hnew
      obtain ⟨t, before, m, after, type, ht, hmembers, htype, rfl, hc⟩ :=
        Schema.column?_withMembers hold hnew
      exact ⟨_, _, _, .member hn ht hmembers htype, hc⟩
  | configure n settings =>
    simp only [step] at hnew
    split at hnew
    · exact absurd hnew habsent
    · split at hnew
      · exact absurd hnew habsent
      · next hok =>
        rw [Schema.column?_configure hok, hold] at hnew
        split at hnew <;> cases hnew
  | naming naming => exact absurd hnew habsent

/-- A column that a run brings is declared in one of its steps and opened again in those behind it. -/
theorem declares_of_run {h : ColumnHandle} {c : Column} {steps : List Step}
    (hold : s.schema.column? h = none) (hnew : (s.run steps).schema.column? h = some c) :
    ∃ before st after selection marked settings, steps = before ++ st :: after ∧
      (s.run before).schema.column? h = none ∧
      (s.run before).Declares st h selection marked settings ∧
      c = Schema.newColumn (s.run before).schema.naming selection marked
        (settings ++ ((s.run before).step st).2.appliedOver h after) := by
  induction steps generalizing s with
  | nil =>
    have hnew : s.schema.column? h = some c := hnew
    rw [hold] at hnew
    cases hnew
  | cons st steps ih =>
    rw [run_cons] at hnew
    cases hst : (s.step st).2.schema.column? h with
    | none =>
      obtain ⟨before, st', after, selection, marked, settings, rfl, hbefore, hdeclares, hc⟩ :=
        ih hst hnew
      exact ⟨st :: before, st', after, selection, marked, settings, rfl, hbefore, hdeclares, hc⟩
    | some c' =>
      obtain ⟨selection, marked, settings, hdeclares, rfl⟩ := declares_of_new hold hst
      refine ⟨[], st, steps, selection, marked, settings, rfl, hold, hdeclares, ?_⟩
      rw [column?_run hst, Option.some.injEq] at hnew
      rw [Schema.newColumn_append]
      exact hnew.symm

/-! ## Only the last settings count -/

variable {settings settings' : List Setting}

theorem step_withColumn_of_sameLast (s : Session) (h : SameLast settings settings') (n : Nat)
    (selector : Selector) :
    s.step (.withColumn n selector settings) = s.step (.withColumn n selector settings') := by
  have hschema (table : TableHandle) :
      s.schema.withColumn table selector settings = s.schema.withColumn table selector settings' := by
    simp only [Schema.withColumn, Schema.newColumn_congr _ _ _ h]
  simp only [step, hschema]

/-- A column that a run brings is the result of all its settings, so opening it again only adds to
their list. -/
theorem step_configure_of_sameLast {naming : Naming} {steps : List Step}
    (h : SameLast settings settings') (n : Nat) : let s := (start naming).run steps
    s.step (.configure n settings) = s.step (.configure n settings') := by
  intro s
  have hcolumn {handle : ColumnHandle} {c : Column} (hc : s.schema.column? handle = some c) :
      c.configure settings = c.configure settings' := by
    obtain ⟨_, _, _, selection, marked, earlier, _, _, _, rfl⟩ :=
      declares_of_run (s := start naming) (by rfl) hc
    rw [← Schema.newColumn_append, ← Schema.newColumn_append]
    exact Schema.newColumn_congr _ _ _ (SameLast.append (fun _ => rfl) h)
  have hschema (handle : ColumnHandle) :
      s.schema.configure handle settings = s.schema.configure handle settings' := by
    unfold Schema.configure
    cases ht : s.schema.tables[handle.table]? with
    | none => rfl
    | some t =>
      cases hc : t.columns[handle.column]? with
      | none => simp only [hc]
      | some c => simp only [hc, hcolumn (Schema.column?_eq_some_iff.2 ⟨t, ht, hc⟩)]
  simp only [step, hschema]

/-- **A column is what its last writers say**, in every session and whatever its steps are. -/
theorem column_lastWriters (naming : Naming) (steps : List Step) :
    let s := (start naming).run steps
    -- One step has declared it, and it is what the last of the settings of this step and of those that
    -- later steps were allowed to apply say, on top of its member's markers.
    (∀ h c, s.schema.column? h = some c →
      ∃ before st after selection marked settings, steps = before ++ st :: after ∧
        let s := (start naming).run before
        s.schema.column? h = none ∧ s.Declares st h selection marked settings ∧
        c = .written s.schema.naming selection marked
          (settings ++ (s.step st).2.appliedOver h after)) ∧
    -- So settings can be exchanged for others with the same last one of each kind.
    (∀ settings settings', SameLast settings settings' →
      (∀ n selector, s.step (.withColumn n selector settings)
        = s.step (.withColumn n selector settings')) ∧
      ∀ n, s.step (.configure n settings) = s.step (.configure n settings')) := by
  intro s
  constructor
  · intro h c hc
    obtain ⟨before, st, after, selection, marked, settings, hsteps, hold, hdeclares, rfl⟩ :=
      declares_of_run (s := start naming) (by rfl) hc
    exact ⟨before, st, after, selection, marked, settings, hsteps, hold, hdeclares,
      Schema.newColumn_eq_written _ _ _ _⟩
  · intro settings settings' hlast
    exact ⟨s.step_withColumn_of_sameLast hlast, step_configure_of_sameLast hlast⟩

/-- An article with a marked key, a row version and a member that no type belongs to. -/
def article : Entity :=
  ⟨"Article", none, [{ Member.plain "id" "i64" with isPrimaryKey := true, maxLength := some 40 },
    { Member.plain "changedAt" "Vec<u8>" with isRowVersion := true },
    Member.plain "links" "HashMap<String, String>"]⟩

/-- A column that is declared once and opened twice, the second time in vain, among the columns of its
entity, which are not all declared. -/
def articleSteps : List Step :=
  [.defineTable article none,
    .withColumn 0 (.named "id" .string) [.allowNull true, .maxLength 30, .name "Key", .maxLength 20],
    .naming .snakeCase,
    .withEntityColumns 0,
    .configure 0 [.primaryKey, .unique, .name "Code"],
    .configure 0 [.allowNull false, .name "ID"]]

theorem column_lastWriters_article :
    let s := (start .asDeclared).run articleSteps
    let code : Column := { Column.plain "Code" .string with
      isPrimaryKey := true, isUnique := true, maxLength := some 20, nullableChosen := true }
    s.schema.column? ⟨0, 0⟩ = some code ∧
    (∃ before st after selection marked settings, articleSteps = before ++ st :: after ∧
      let s := (start .asDeclared).run before
      s.schema.column? ⟨0, 0⟩ = none ∧ s.Declares st ⟨0, 0⟩ selection marked settings ∧
      code = .written s.schema.naming selection marked
        (settings ++ (s.step st).2.appliedOver ⟨0, 0⟩ after)) ∧
    s.schema.column? ⟨0, 2⟩ = some (Column.plain "changed_at" .rowVersion) ∧
    SameLast [.ordinal 3, .primaryKey, .ordinal 1] [.ordinal 1, .primaryKey, .primaryKey] ∧
    s.step (.configure 0 [.ordinal 3, .primaryKey, .ordinal 1])
      = s.step (.configure 0 [.ordinal 1, .primaryKey, .primaryKey]) := by
  intro s code
  obtain ⟨hcolumn, hlast⟩ := column_lastWriters .asDeclared articleSteps
  have hcode : s.schema.column? ⟨0, 0⟩ = some code := by decide +kernel
  have hsame : SameLast [.ordinal 3, .primaryKey, .ordinal 1]
      [.ordinal 1, .primaryKey, .primaryKey] := by
    intro k
    cases k <;> rfl
  exact ⟨hcode, hcolumn _ _ hcode, by decide +kernel, hsame, (hlast _ _ hsame).2 0⟩

end Session

end Schemata
