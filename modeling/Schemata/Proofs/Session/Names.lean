import Schemata.Proofs.Session.Calls

/-!
# Column names are distinct

Whatever a session does, and whether its steps succeed or fail, the columns of a table have names that
differ by more than the case of ASCII letters. So a name in any case finds the one column that has it
(`Session.names_distinct`). The invariant is `Table.NamesDistinct`; a call keeps it because a new or
renamed column is compared with all others after its settings have been applied.
-/

namespace Schemata

/-- No two columns have the same name, ASCII case ignored. -/
def Table.NamesDistinct (t : Table) : Prop :=
  t.columns.Pairwise fun a b => Text.eqIgnoreCase a.name b.name = false

namespace Schema

theorem namesDistinct_set {columns : List Column} {i : Nat} {c : Column}
    (h : columns.Pairwise fun a b => Text.eqIgnoreCase a.name b.name = false)
    (hc : hasName (columns.eraseIdx i) c.name = false) :
    (columns.set i c).Pairwise fun a b => Text.eqIgnoreCase a.name b.name = false := by
  rw [hasName_eq_false] at hc
  induction columns generalizing i with
  | nil => exact .nil
  | cons a columns ih =>
    obtain ⟨ha, hcolumns⟩ := List.pairwise_cons.1 h
    cases i with
    | zero =>
      refine List.pairwise_cons.2 ⟨fun b hb => ?_, hcolumns⟩
      rw [Text.eqIgnoreCase_comm]
      exact hc b hb
    | succ i =>
      refine List.pairwise_cons.2 ⟨fun b hb => ?_, ih hcolumns fun b hb => ?_⟩
      · rcases List.mem_or_eq_of_mem_set hb with hb | rfl
        · exact ha b hb
        · exact hc a List.mem_cons_self
      · exact hc b (List.mem_cons_of_mem a hb)

theorem namesDistinct_append {columns : List Column} {c : Column}
    (h : columns.Pairwise fun a b => Text.eqIgnoreCase a.name b.name = false)
    (hc : hasName columns c.name = false) :
    (columns ++ [c]).Pairwise fun a b => Text.eqIgnoreCase a.name b.name = false := by
  rw [hasName_eq_false] at hc
  refine List.pairwise_append.2 ⟨h, by simp, fun a ha b hb => ?_⟩
  rw [List.mem_singleton.1 hb]
  exact hc a ha

/-- The invariant of a schema: the names of every table are distinct. -/
def NamesDistinct (s : Schema) : Prop :=
  ∀ (k : Nat) (t : Table), s.tables[k]? = some t → t.NamesDistinct

namespace NamesDistinct

variable {s s' : Schema}

theorem setColumns (hs : s.NamesDistinct) {k : Nat} {columns : List Column}
    (h : columns.Pairwise fun a b => Text.eqIgnoreCase a.name b.name = false) :
    (s.setColumns k columns).NamesDistinct := by
  intro j t ht
  rw [getElem?_setColumns] at ht
  obtain ⟨u, hu, rfl⟩ := Option.map_eq_some_iff.1 ht
  split
  · exact h
  · exact hs j u hu

theorem push (hs : s.NamesDistinct) (e : Entity) (name : String) :
    (s.push e name).2.NamesDistinct := by
  intro j t ht
  simp only [Schema.push, List.getElem?_append] at ht
  split at ht
  · exact hs j t ht
  · obtain rfl := List.mem_singleton.1 (List.mem_of_getElem? ht)
    exact .nil

theorem append (hs : s.NamesDistinct) {k : Nat} {c : Column} {h : ColumnHandle}
    (happend : s.append k c = .ok (h, s')) : s'.NamesDistinct := by
  obtain ⟨t, ht, hc, -, rfl⟩ := append_ok_iff.1 happend
  exact hs.setColumns (namesDistinct_append (hs k t ht) hc)

theorem configure (hs : s.NamesDistinct) {h : ColumnHandle} {settings : List Setting}
    (hconfigure : s.configure h settings = .ok s') : s'.NamesDistinct := by
  obtain ⟨t, c, ht, -, hname, rfl⟩ := configure_ok_iff.1 hconfigure
  exact hs.setColumns (namesDistinct_set (hs h.table t ht) hname)

theorem perform (hs : s.NamesDistinct) (call : Call) : (s.perform call).NamesDistinct := by
  cases call with
  | defineTable entity name =>
    cases name with
    | none => exact hs.push entity _
    | some name => exact hs.push entity name
  | withColumn h selector settings =>
    simp only [Schema.perform]
    split
    · next hok =>
      obtain ⟨t, selection, -, -, happend⟩ := withColumn_ok_iff.1 hok
      exact hs.append happend
    · exact hs
  | withEntityColumns h =>
    exact withMembers_induction (P := NamesDistinct) (fun hs happend => hs.append happend) _ hs
  | configure h settings =>
    simp only [Schema.perform]
    split
    · next hok => exact hs.configure hok
    · exact hs
  | naming naming => exact hs

theorem performAll (hs : s.NamesDistinct) (calls : List Call) :
    (s.performAll calls).NamesDistinct := by
  induction calls generalizing s with
  | nil => exact hs
  | cons call calls ih => exact ih (hs.perform call)

end NamesDistinct

end Schema

namespace Table

theorem NamesDistinct.filter_isNamed {t : Table} (h : t.NamesDistinct) {c : Column}
    (hc : c ∈ t.columns) {name : String} (hname : Text.eqIgnoreCase c.name name = true) :
    t.columns.filter (·.isNamed name) = [c] := by
  have hmem : c ∈ t.columns.filter (·.isNamed name) := List.mem_filter.2 ⟨hc, hname⟩
  have hpair : (t.columns.filter (·.isNamed name)).Pairwise
      fun a b => Text.eqIgnoreCase a.name b.name = false :=
    List.Pairwise.sublist List.filter_sublist h
  have hall : ∀ d ∈ t.columns.filter (·.isNamed name), Text.eqIgnoreCase d.name name = true :=
    fun d hd => (List.mem_filter.1 hd).2
  cases hcolumns : t.columns.filter (·.isNamed name) with
  | nil =>
    rw [hcolumns] at hmem
    cases hmem
  | cons a rest =>
    cases rest with
    | nil =>
      rw [hcolumns, List.mem_singleton] at hmem
      rw [hmem]
    | cons b rest =>
      rw [hcolumns] at hall hpair
      have ha : Text.eqIgnoreCase a.name name = true :=
        hall a List.mem_cons_self
      have hb : Text.eqIgnoreCase b.name name = true :=
        hall b (List.mem_cons_of_mem a List.mem_cons_self)
      have hab : Text.eqIgnoreCase a.name b.name = false :=
        (List.pairwise_cons.1 hpair).1 b List.mem_cons_self
      rw [Text.eqIgnoreCase_comm] at hb
      rw [Text.eqIgnoreCase_trans ha hb] at hab
      cases hab

theorem column?_eq_head? (t : Table) (name : String) :
    t.column? name = (t.columns.filter (·.isNamed name)).head? :=
  (List.head?_filter ..).symm

end Table

namespace Session

/-- **Column names are distinct in every session**: after any steps, whether they succeed or fail,
the names of a table differ by more than the case of ASCII letters, and a name in any case finds the
one column that has it. -/
theorem names_distinct (naming : Naming) (steps : List Step) :
    ∀ t ∈ ((start naming).run steps).schema.tables,
      t.columns.Pairwise (fun a b => Text.eqIgnoreCase a.name b.name = false) ∧
      ∀ c ∈ t.columns, ∀ name, Text.eqIgnoreCase c.name name = true →
        t.column? name = some c ∧ t.columns.filter (·.isNamed name) = [c] := by
  intro t ht
  obtain ⟨k, hk⟩ := List.mem_iff_getElem?.1 ht
  have hstart : (start naming).schema.NamesDistinct := by
    intro k t ht
    cases ht
  have hdistinct : t.NamesDistinct := by
    rw [schema_run] at hk
    exact hstart.performAll _ k t hk
  refine ⟨hdistinct, fun c hc name hname => ?_⟩
  have hfilter := hdistinct.filter_isNamed hc hname
  exact ⟨by rw [Table.column?_eq_head?, hfilter, List.head?_cons], hfilter⟩

/-- Names that collide once the convention or a setting has been applied. The second column and the
renaming are refused. -/
def collidingSteps : List Step :=
  [.defineTable ⟨"Order", none, []⟩ none,
    .withColumn 0 (.named "orderId" .int64) [],
    .withColumn 0 (.named "r#OrderID" .string) [.unique],
    .withColumn 0 (.named "OrderID" .int64) [.name "Sum"],
    .naming .snakeCase,
    .configure 1 [.name "ORDERID"]]

/-- The one table that these steps leave. -/
def collidingTable : Table :=
  ⟨"Order", [Column.plain "orderId" .int64, Column.plain "Sum" .int64]⟩

theorem names_distinct_colliding :
    collidingTable ∈ ((start .asDeclared).run collidingSteps).schema.tables ∧
    collidingTable.column? "SUM" = some (Column.plain "Sum" .int64) ∧
    collidingTable.columns.filter (·.isNamed "SUM") = [Column.plain "Sum" .int64] := by
  have hmem : collidingTable ∈ ((start .asDeclared).run collidingSteps).schema.tables := by
    decide +kernel
  exact ⟨hmem, (names_distinct .asDeclared collidingSteps collidingTable hmem).2
    (Column.plain "Sum" .int64) (by decide) "SUM" (by decide)⟩

end Session

end Schemata
