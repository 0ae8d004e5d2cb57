import Schemata.Schema.Session

/-!
# Calls on a schema

A step of a session names a handle by its number; a call carries the handle itself. `Schema.perform`
is the effect of a call, and `Session.schema_run` says that a run of steps has the effect of the calls
that the steps make. What every call does to the tables is said here once: `Schema.append_ok_iff` for
a new column, `Schema.configure_ok_iff` for a column that is opened again, and
`Schema.withMembers_induction` for the columns of an entity, which come one by one.
-/

namespace Schemata

namespace Schema

/-! ## Tables under a change of columns -/

theorem getElem?_setColumns (s : Schema) (k j : Nat) (columns : List Column) :
    (s.setColumns k columns).tables[j]?
      = (s.tables[j]?).map fun t => if k = j then { t with columns } else t := by
  simp only [setColumns, List.getElem?_modify]
  cases s.tables[j]? <;> by_cases h : k = j <;> simp [h]

theorem setColumns_self {s : Schema} {k : Nat} {t : Table} (ht : s.tables[k]? = some t)
    (columns : List Column) :
    (s.setColumns k columns).tables[k]? = some { t with columns } := by
  simp [getElem?_setColumns, ht]

theorem setColumns_of_ne {s : Schema} {k j : Nat} (h : k ≠ j) (columns : List Column) :
    (s.setColumns k columns).tables[j]? = s.tables[j]? := by
  rw [getElem?_setColumns]
  cases s.tables[j]? <;> simp [h]

theorem setColumns_eq_set {s : Schema} {k : Nat} {t : Table} (ht : s.tables[k]? = some t)
    (columns : List Column) :
    s.setColumns k columns = { s with tables := s.tables.set k { t with columns } } := by
  have htables : (s.setColumns k columns).tables = s.tables.set k { t with columns } := by
    refine List.ext_getElem? fun j => ?_
    rw [getElem?_setColumns, List.getElem?_set]
    split
    · next hkj =>
      subst hkj
      rw [ht, if_pos (List.getElem?_eq_some_iff.1 ht).1, Option.map_some]
    · simp
  rw [← htables]
  rfl

/-! ## What the operations do -/

theorem hasName_eq_false {columns : List Column} {name : String} :
    hasName columns name = false ↔ ∀ c ∈ columns, Text.eqIgnoreCase c.name name = false := by
  simp [hasName, Column.isNamed]

theorem append_ok_iff {s s' : Schema} {k : Nat} {c : Column} {h : ColumnHandle} :
    s.append k c = .ok (h, s') ↔
      ∃ t, s.tables[k]? = some t ∧ hasName t.columns c.name = false ∧
        h = ⟨k, t.columns.length⟩ ∧ s' = s.setColumns k (t.columns ++ [c]) := by
  unfold append
  cases ht : s.tables[k]? with
  | none => simp
  | some t =>
    by_cases hn : hasName t.columns c.name = true
    · simp [hn]
    · simp only [hn, Bool.false_eq_true, ↓reduceIte, Except.ok.injEq, Prod.mk.injEq,
        Option.some.injEq]
      constructor
      · rintro ⟨rfl, rfl⟩
        exact ⟨t, rfl, by simpa using hn, rfl, rfl⟩
      · rintro ⟨_, rfl, -, rfl, rfl⟩
        exact ⟨rfl, rfl⟩

/-- The column that a selection declares on a table of a schema. -/
def declared (s : Schema) (h : TableHandle) (selection : Selection) (settings : List Setting) :
    Column :=
  newColumn s.naming selection (h.entity.member? selection.member) settings

theorem withColumn_ok_iff {s s' : Schema} {h : TableHandle} {selector : Selector}
    {settings : List Setting} {handle : ColumnHandle} :
    s.withColumn h selector settings = .ok (handle, s') ↔
      ∃ t selection, s.table? h = some t ∧ selector.resolve h.entity t.name = .ok selection ∧
        s.append h.index (s.declared h selection settings) = .ok (handle, s') := by
  unfold withColumn
  cases ht : s.table? h with
  | none => simp
  | some t =>
    cases hs : selector.resolve h.entity t.name with
    | error e => simp [hs, bind, Except.bind]
    | ok selection => simp [hs, bind, Except.bind, declared]

theorem withMember_ok_iff {s s' : Schema} {k : Nat} {m : Member} {handle : ColumnHandle} :
    s.withMember k m = .ok (handle, s') ↔
      ∃ type, TypeTag.ofFieldType m.typeText = .ok type ∧
        s.append k (newColumn s.naming ⟨m.name, type⟩ (some m) []) = .ok (handle, s') := by
  unfold withMember
  cases TypeTag.ofFieldType m.typeText with
  | error e => simp [bind, Except.bind]
  | ok type => simp [bind, Except.bind]

theorem configure_ok_iff {s s' : Schema} {h : ColumnHandle} {settings : List Setting} :
    s.configure h settings = .ok s' ↔
      ∃ t c, s.tables[h.table]? = some t ∧ t.columns[h.column]? = some c ∧
        hasName (t.columns.eraseIdx h.column) (c.configure settings).name = false ∧
        s' = s.setColumns h.table (t.columns.set h.column (c.configure settings)) := by
  unfold configure
  cases ht : s.tables[h.table]? with
  | none => simp
  | some t =>
    cases hc : t.columns[h.column]? with
    | none => simp [hc]
    | some c =>
      by_cases hn : hasName (t.columns.eraseIdx h.column) (c.configure settings).name = true
      · simp only [hc, hn, ↓reduceIte, reduceCtorEq, Option.some.injEq, false_iff]
        rintro ⟨_, _, rfl, hc', hn', -⟩
        rw [hc, Option.some.injEq] at hc'
        subst hc'
        rw [hn] at hn'
        cases hn'
      · simp only [hc, hn, Bool.false_eq_true, ↓reduceIte, Except.ok.injEq, Option.some.injEq]
        constructor
        · rintro rfl
          exact ⟨t, c, rfl, hc, by simpa using hn, rfl⟩
        · rintro ⟨_, _, rfl, hc', -, rfl⟩
          rw [hc, Option.some.injEq] at hc'
          subst hc'
          rfl

/-- What every accepted column keeps, the columns of an entity keep, whether all are accepted or only
the first ones. -/
theorem withMembers_induction {P : Schema → Prop} {k : Nat}
    (step : ∀ {s s' c h}, P s → s.append k c = .ok (h, s') → P s') :
    ∀ (ms : List Member) {s : Schema}, P s → P (s.withMembers k ms).2
  | [], _, hs => hs
  | m :: ms, s, hs => by
    unfold withMembers
    cases hm : s.withMember k m with
    | error e => exact hs
    | ok r =>
      obtain ⟨h, s'⟩ := r
      obtain ⟨type, -, happend⟩ := withMember_ok_iff.1 hm
      exact withMembers_induction step ms (step hs happend)

/-! ## Calls -/

/-- An operation on a schema with the handles it works on. -/
inductive Call where
  /-- Declares a table, under an explicit name if there is one. -/
  | defineTable (entity : Entity) (name : Option String)
  | withColumn (table : TableHandle) (selector : Selector) (settings : List Setting)
  | withEntityColumns (table : TableHandle)
  | configure (column : ColumnHandle) (settings : List Setting)
  | naming (naming : Naming)
deriving DecidableEq

/-- The schema after a call. A refused call leaves it as it was, apart from the columns that
`withEntityColumns` added before the member it refused. -/
def perform (s : Schema) : Call → Schema
  | .defineTable entity (some name) => (s.defineTableAs entity name).2
  | .defineTable entity none => (s.defineTable entity).2
  | .withColumn h selector settings =>
    match s.withColumn h selector settings with
    | .ok (_, s') => s'
    | .error _ => s
  | .withEntityColumns h => (s.withEntityColumns h).2
  | .configure h settings =>
    match s.configure h settings with
    | .ok s' => s'
    | .error _ => s
  | .naming naming => s.withNaming naming

/-- The schema after calls, made in order. -/
def performAll (s : Schema) (calls : List Call) : Schema :=
  calls.foldl perform s

/-- Whether a call is of concern to the table declared at a place: it works on that table or on one of
its columns, or it changes the convention for names. -/
def Call.concerns (k : Nat) : Call → Bool
  | .withColumn h _ _ => h.index == k
  | .withEntityColumns h => h.index == k
  | .configure h _ => h.table == k
  | .defineTable _ _ => false
  | .naming _ => true

end Schema

namespace Session

/-- The call that a step makes, if the session has given out the handle that the step names. -/
def call? (s : Session) : Step → Option Schema.Call
  | .defineTable entity name => some (.defineTable entity name)
  | .withColumn n selector settings => (s.tables[n]?).map (.withColumn · selector settings)
  | .withEntityColumns n => (s.tables[n]?).map .withEntityColumns
  | .configure n settings => (s.columns[n]?).map (.configure · settings)
  | .naming naming => some (.naming naming)

def calls (s : Session) : List Step → List Schema.Call
  | [] => []
  | step :: steps => (s.call? step).toList ++ (s.step step).2.calls steps

theorem run_cons (s : Session) (step : Step) (steps : List Step) :
    s.run (step :: steps) = (s.step step).2.run steps := rfl

theorem run_induction {P : Session → Prop} (step : ∀ s st, P s → P (s.step st).2) :
    ∀ (steps : List Step) {s : Session}, P s → P (s.run steps)
  | [], _, hs => hs
  | st :: steps, s, hs => run_induction step steps (step s st hs)

theorem schema_step (s : Session) (st : Step) :
    (s.step st).2.schema = s.schema.performAll (s.call? st).toList := by
  cases st with
  | defineTable entity name => cases name <;> rfl
  | withColumn n selector settings =>
    cases hn : s.tables[n]? with
    | none => simp [step, call?, hn, Schema.performAll]
    | some h =>
      cases hc : s.schema.withColumn h selector settings with
      | error e => simp [step, call?, hn, hc, Schema.performAll, Schema.perform]
      | ok r => simp [step, call?, hn, hc, Schema.performAll, Schema.perform]
  | withEntityColumns n =>
    cases hn : s.tables[n]? with
    | none => simp [step, call?, hn, Schema.performAll]
    | some h =>
      rcases hc : s.schema.withEntityColumns h with ⟨_ | _, schema⟩ <;>
        simp [step, call?, hn, hc, Schema.performAll, Schema.perform]
  | configure n settings =>
    cases hn : s.columns[n]? with
    | none => simp [step, call?, hn, Schema.performAll]
    | some h =>
      cases hc : s.schema.configure h settings with
      | error e => simp [step, call?, hn, hc, Schema.performAll, Schema.perform]
      | ok r => simp [step, call?, hn, hc, Schema.performAll, Schema.perform]
  | naming naming => rfl

/-- The schema after a run is the schema after the calls that the run makes. -/
theorem schema_run (s : Session) (steps : List Step) :
    (s.run steps).schema = s.schema.performAll (s.calls steps) := by
  induction steps generalizing s with
  | nil => rfl
  | cons st steps ih =>
    rw [run_cons, ih, calls, schema_step, Schema.performAll, Schema.performAll, Schema.performAll,
      List.foldl_append]

end Session

end Schemata
