import Mathlib.Data.List.Forall2
import Mathlib.Data.List.Induction
import Schemata.Proofs.Session.Frame

/-!
# The columns of an entity

`Schema.withEntityColumns` declares a column for each member of a table's entity. What that column is
follows from the member's markers alone: `Member.column` says it field by field, without settings that
are applied one after the other.

The members can all be declared (`Schema.Admits`) if each has a known type and a name that neither a
column of the table nor an earlier member has. Otherwise there is a first member that cannot, and
`Schema.Refuses` says why. `Schema.withEntityColumns_outcome` puts both together: what is answered,
which columns have been added, and that nothing else has changed.
-/

namespace Schemata

namespace Member

/-- The name of the member's column: the one that its markers give, or else the derived one. -/
def nameUnder (naming : Naming) (m : Member) : String :=
  m.columnName.getD (naming.apply m.name)

/-- The column that the markers of a member describe, given the tag of its type. -/
def column (naming : Naming) (tag : TypeTag) (m : Member) : Column where
  name := m.nameUnder naming
  type := if m.isRowVersion then .rowVersion else tag
  nullable := !m.isPrimaryKey
  isPrimaryKey := m.isPrimaryKey
  isUnique := m.isUnique
  defaultValue := none
  maxLength := m.maxLength
  autoIncrement := none
  ordinal := none
  nullableChosen := false

end Member

namespace Schema

/-- Applying the markers as settings gives the column that they describe. -/
theorem newColumn_eq_column (naming : Naming) (tag : TypeTag) (m : Member) :
    newColumn naming ⟨m.name, tag⟩ (some m) [] = m.column naming tag := by
  rcases m with ⟨name, typeText, _ | columnName, _ | _, _ | _, _ | length, _ | _⟩ <;> rfl

/-! ## Members that can be declared -/

/-- Whether a column, or the column of an earlier member, has the name of the member's column. -/
def NameTaken (naming : Naming) (columns : List Column) (earlier : List Member) (m : Member) : Prop :=
  (∃ c ∈ columns, Text.eqIgnoreCase c.name (m.nameUnder naming) = true) ∨
    ∃ m' ∈ earlier, Text.eqIgnoreCase (m'.nameUnder naming) (m.nameUnder naming) = true

/-- The members can all be declared besides the columns. -/
structure Admits (naming : Naming) (columns : List Column) (ms : List Member) : Prop where
  resolved : ∀ m ∈ ms, ∃ tag, TypeTag.ofFieldType m.typeText = .ok tag
  free : ∀ m ∈ ms, ∀ c ∈ columns, Text.eqIgnoreCase c.name (m.nameUnder naming) = false
  distinct : ms.Pairwise fun m m' =>
    Text.eqIgnoreCase (m.nameUnder naming) (m'.nameUnder naming) = false

/-- Why a member cannot be declared behind earlier ones: its type is unknown or, if it is known, its
name is taken. -/
inductive Refuses (naming : Naming) (t : Table) (earlier : List Member) (m : Member) :
    DeclarationError → Prop
  | type {e : DeclarationError} (unknown : TypeTag.ofFieldType m.typeText = .error e) :
    Refuses naming t earlier m e
  | name {tag : TypeTag} (known : TypeTag.ofFieldType m.typeText = .ok tag)
      (taken : NameTaken naming t.columns earlier m) :
    Refuses naming t earlier m (.duplicateColumn t.name (m.nameUnder naming))

/-- The columns of the members, one for each and in order. -/
def Declares (naming : Naming) (ms : List Member) (cs : List Column) : Prop :=
  List.Forall₂ (fun m c => ∃ tag, TypeTag.ofFieldType m.typeText = .ok tag ∧ c = m.column naming tag)
    ms cs

variable {naming : Naming} {columns : List Column}

theorem Declares.map_name {ms : List Member} {cs : List Column} (h : Declares naming ms cs) :
    cs.map (·.name) = ms.map (·.nameUnder naming) := by
  induction h with
  | nil => rfl
  | cons hc _ ih =>
    obtain ⟨tag, -, rfl⟩ := hc
    simp only [List.map_cons, ih]
    rfl

namespace Admits

theorem nil : Admits naming columns [] :=
  ⟨by simp, by simp, .nil⟩

theorem tail {m : Member} {ms : List Member} {tag : TypeTag} (h : Admits naming columns (m :: ms)) :
    Admits naming (columns ++ [m.column naming tag]) ms where
  resolved m' hm' := h.resolved m' (List.mem_cons_of_mem m hm')
  free m' hm' c hc := by
    rcases List.mem_append.1 hc with hc | hc
    · exact h.free m' (List.mem_cons_of_mem m hm') c hc
    · rw [List.mem_singleton.1 hc]
      exact (List.pairwise_cons.1 h.distinct).1 m' hm'
  distinct := (List.pairwise_cons.1 h.distinct).2

theorem snoc {m : Member} {ms : List Member} {tag : TypeTag} (h : Admits naming columns ms)
    (htag : TypeTag.ofFieldType m.typeText = .ok tag) (hfree : ¬ NameTaken naming columns ms m) :
    Admits naming columns (ms ++ [m]) where
  resolved m' hm' := by
    rcases List.mem_append.1 hm' with hm' | hm'
    · exact h.resolved m' hm'
    · rw [List.mem_singleton.1 hm']
      exact ⟨tag, htag⟩
  free m' hm' c hc := by
    rcases List.mem_append.1 hm' with hm' | hm'
    · exact h.free m' hm' c hc
    · rw [List.mem_singleton.1 hm', ← Bool.not_eq_true]
      exact fun hname => hfree (.inl ⟨c, hc, hname⟩)
  distinct := by
    refine List.pairwise_append.2 ⟨h.distinct, by simp, fun m' hm' m'' hm'' => ?_⟩
    rw [List.mem_singleton.1 hm'', ← Bool.not_eq_true]
    exact fun hname => hfree (.inr ⟨m', hm', hname⟩)

end Admits

/-- Either all members can be declared, or there is a first one that cannot. -/
theorem admits_or_refuses (naming : Naming) (t : Table) (ms : List Member) :
    Admits naming t.columns ms ∨
      ∃ before m after e, ms = before ++ m :: after ∧ Admits naming t.columns before ∧
        Refuses naming t before m e := by
  induction ms using List.reverseRecOn with
  | nil => exact .inl .nil
  | append_singleton ms m ih =>
    rcases ih with h | ⟨before, m', after, e, rfl, h, hrefuses⟩
    · cases htag : TypeTag.ofFieldType m.typeText with
      | error e => exact .inr ⟨ms, m, [], e, rfl, h, .type htag⟩
      | ok tag =>
        by_cases htaken : NameTaken naming t.columns ms m
        · exact .inr ⟨ms, m, [], _, rfl, h, .name htag htaken⟩
        · exact .inl (h.snoc htag htaken)
    · exact .inr ⟨before, m', after ++ [m], e, by simp, h, hrefuses⟩

/-! ## One member -/

variable {s s' : Schema} {k : Nat} {t : Table}

theorem withMember_of_type {m : Member} {tag : TypeTag}
    (h : TypeTag.ofFieldType m.typeText = .ok tag) :
    s.withMember k m = s.append k (m.column s.naming tag) := by
  unfold withMember
  rw [h, ← newColumn_eq_column]
  rfl

theorem withMember_of_admits (ht : s.tables[k]? = some t) {m : Member} {ms : List Member}
    {tag : TypeTag} (htag : TypeTag.ofFieldType m.typeText = .ok tag)
    (h : Admits s.naming t.columns (m :: ms)) :
    s.withMember k m
      = .ok (⟨k, t.columns.length⟩, s.setColumns k (t.columns ++ [m.column s.naming tag])) := by
  rw [withMember_of_type htag]
  have hname : hasName t.columns (m.column s.naming tag).name = false :=
    hasName_eq_false.2 (h.free m List.mem_cons_self)
  exact append_ok_iff.2 ⟨t, ht, hname, rfl, rfl⟩

/-- A member is refused for its type before its name is looked at. -/
theorem withMember_of_refuses {cs : List Column} {before : List Member}
    (ht : s.tables[k]? = some { t with columns := t.columns ++ cs })
    (hcs : Declares s.naming before cs) {m : Member} {e : DeclarationError}
    (h : Refuses s.naming t before m e) : s.withMember k m = .error e := by
  cases h with
  | type unknown =>
    unfold withMember
    rw [unknown]
    rfl
  | @name tag known taken =>
    have htaken : hasName (t.columns ++ cs) (m.nameUnder s.naming) = true := by
      simp only [hasName, List.any_append, Bool.or_eq_true]
      rcases taken with ⟨c, hc, hname⟩ | ⟨m', hm', hname⟩
      · exact .inl (List.any_eq_true.2 ⟨c, hc, hname⟩)
      · -- the column of the earlier member has that member's name
        have hmem : m'.nameUnder s.naming ∈ cs.map (·.name) := by
          rw [hcs.map_name]
          exact List.mem_map_of_mem hm'
        obtain ⟨c, hc, hcname⟩ := List.mem_map.1 hmem
        exact .inr (List.any_eq_true.2 ⟨c, hc, by rw [Column.isNamed, hcname, hname]⟩)
    rw [withMember_of_type known]
    unfold append
    simp only [ht]
    exact if_pos htaken

/-! ## All members -/

theorem setColumns_setColumns (s : Schema) (k : Nat) (columns columns' : List Column) :
    (s.setColumns k columns).setColumns k columns' = s.setColumns k columns' := by
  simp only [setColumns, List.modify_modify_eq]
  rfl

theorem setColumns_columns (ht : s.tables[k]? = some t) : s.setColumns k t.columns = s := by
  rw [setColumns_eq_set ht]
  obtain ⟨hlt, rfl⟩ := List.getElem?_eq_some_iff.1 ht
  rw [List.set_getElem_self]

/-- The handles of columns that are added behind others. -/
def handlesBehind (k first count : Nat) : List ColumnHandle :=
  (List.range' first count).map (⟨k, ·⟩)

/-- Members that are admitted are declared one behind the other. -/
theorem withMembers_of_admits {ms : List Member} (ht : s.tables[k]? = some t)
    (h : Admits s.naming t.columns ms) :
    ∃ cs, Declares s.naming ms cs ∧
      s.withMembers k ms
        = (.ok (handlesBehind k t.columns.length ms.length), s.setColumns k (t.columns ++ cs)) := by
  induction ms generalizing s t with
  | nil =>
    refine ⟨[], .nil, ?_⟩
    rw [List.append_nil, setColumns_columns ht]
    rfl
  | cons m ms ih =>
    obtain ⟨tag, htag⟩ := h.resolved m List.mem_cons_self
    have hm := withMember_of_admits ht htag h
    have htail : Admits s.naming (t.columns ++ [m.column s.naming tag]) ms := h.tail
    obtain ⟨cs, hcs, hms⟩ := ih (setColumns_self ht _) htail
    refine ⟨m.column s.naming tag :: cs, .cons ⟨tag, htag, rfl⟩ hcs, ?_⟩
    unfold withMembers
    simp only [hm, hms]
    rw [setColumns_setColumns]
    simp [handlesBehind, List.range'_succ, Except.map]

theorem withMembers_append {before : List Member} {handles : List ColumnHandle}
    (h : s.withMembers k before = (.ok handles, s')) (after : List Member) :
    s.withMembers k (before ++ after)
      = ((s'.withMembers k after).1.map (handles ++ ·), (s'.withMembers k after).2) := by
  induction before generalizing s handles with
  | nil =>
    cases h
    rcases hafter : s'.withMembers k after with ⟨_ | handles, u⟩ <;> simp [hafter, Except.map]
  | cons m before ih =>
    unfold withMembers at h
    cases hm : s.withMember k m with
    | error e => simp [hm] at h
    | ok r =>
      obtain ⟨c, u⟩ := r
      rcases hrest : u.withMembers k before with ⟨e | rest, u'⟩
      · simp [hm, hrest, Except.map] at h
      · simp only [hm, hrest, Except.map, Prod.mk.injEq, Except.ok.injEq] at h
        obtain ⟨rfl, rfl⟩ := h
        simp only [List.cons_append, withMembers, hm, ih hrest]
        cases (u'.withMembers k after).1 <;> rfl

/-- The members before the first that is refused are declared. -/
theorem withMembers_of_refuses {before : List Member} {m : Member} {e : DeclarationError}
    (ht : s.tables[k]? = some t) (h : Admits s.naming t.columns before)
    (hm : Refuses s.naming t before m e) (after : List Member) :
    ∃ cs, Declares s.naming before cs ∧
      s.withMembers k (before ++ m :: after) = (.error e, s.setColumns k (t.columns ++ cs)) := by
  obtain ⟨cs, hcs, hbefore⟩ := withMembers_of_admits ht h
  have herror : (s.setColumns k (t.columns ++ cs)).withMember k m = .error e :=
    withMember_of_refuses (setColumns_self ht _) hcs hm
  refine ⟨cs, hcs, ?_⟩
  rw [withMembers_append hbefore]
  simp only [withMembers, herror]
  rfl

theorem admits_of_withMembers_ok {ms : List Member} {handles : List ColumnHandle}
    (ht : s.tables[k]? = some t) (h : s.withMembers k ms = (.ok handles, s')) :
    Admits s.naming t.columns ms := by
  rcases admits_or_refuses s.naming t ms with hms | ⟨before, m, after, e, rfl, hbefore, hm⟩
  · exact hms
  · obtain ⟨cs, -, herror⟩ := withMembers_of_refuses ht hbefore hm after
    cases herror.symm.trans h

theorem column?_handlesBehind (ht : s.tables[k]? = some t) (cs : List Column) :
    (handlesBehind k t.columns.length cs.length).map (s.setColumns k (t.columns ++ cs)).column?
      = cs.map some := by
  refine List.ext_getElem (by simp [handlesBehind]) fun i hi hi' => ?_
  have hlt : i < cs.length := by simpa using hi'
  have hbehind : (t.columns ++ cs)[t.columns.length + i]? = some cs[i] := by
    rw [List.getElem?_append_right (Nat.le_add_right _ _), Nat.add_sub_cancel_left,
      List.getElem?_eq_getElem hlt]
  simp [handlesBehind, column?, setColumns_self ht, hbehind]

/-- **The columns of an entity follow from its markers**, on any table and under any convention for
names. -/
theorem withEntityColumns_outcome {h : TableHandle} (ht : s.table? h = some t) :
    -- All members are declared iff every type is known and every name is free.
    ((∃ handles s', s.withEntityColumns h = (.ok handles, s')) ↔
      Admits s.naming t.columns h.entity.members) ∧
    -- Then the columns of the members stand behind those of the table, with their handles in order,
    (∀ handles s', s.withEntityColumns h = (.ok handles, s') →
      ∃ cs, Declares s.naming h.entity.members cs ∧
        handles = handlesBehind h.index t.columns.length cs.length ∧
        handles.map s'.column? = cs.map some ∧
        s' = { s with tables := s.tables.set h.index { t with columns := t.columns ++ cs } }) ∧
    -- and else those of the members before the first that is refused.
    (∀ e s', s.withEntityColumns h = (.error e, s') →
      ∃ before m after cs, h.entity.members = before ++ m :: after ∧
        Admits s.naming t.columns before ∧ Refuses s.naming t before m e ∧
        Declares s.naming before cs ∧
        s' = { s with tables := s.tables.set h.index { t with columns := t.columns ++ cs } }) := by
  have hadmits := fun hms : Admits s.naming t.columns h.entity.members => withMembers_of_admits ht hms
  refine ⟨⟨fun ⟨handles, s', hs'⟩ => admits_of_withMembers_ok ht hs', fun hms => ?_⟩,
    fun handles s' hs' => ?_, fun e' s' hs' => ?_⟩
  · obtain ⟨cs, -, hok⟩ := hadmits hms
    exact ⟨_, _, hok⟩
  · obtain ⟨cs, hcs, hok⟩ := hadmits (admits_of_withMembers_ok ht hs')
    have hlength : h.entity.members.length = cs.length := hcs.length_eq
    obtain ⟨hhandles, hschema⟩ := Prod.mk.inj (hok.symm.trans hs')
    obtain rfl := Except.ok.inj hhandles
    subst hschema
    rw [hlength]
    exact ⟨cs, hcs, rfl, column?_handlesBehind ht cs, setColumns_eq_set ht _⟩
  · rcases admits_or_refuses s.naming t h.entity.members with
      hms | ⟨before, m, after, e, hsplit, hbefore, hm⟩
    · obtain ⟨cs, -, hok⟩ := hadmits hms
      cases hok.symm.trans hs'
    · obtain ⟨cs, hcs, herror⟩ := withMembers_of_refuses ht hbefore hm after
      rw [← hsplit] at herror
      obtain ⟨he, hschema⟩ := Prod.mk.inj (herror.symm.trans hs')
      obtain rfl := Except.error.inj he
      subst hschema
      exact ⟨before, m, after, cs, hsplit, hbefore, hm, hcs, setColumns_eq_set ht _⟩

/-- Members of an order line. Under snake case the last one has the name of the first. -/
def lineMembers : List Member := [
  { Member.plain "orderId" "i64" with isPrimaryKey := true },
  { Member.plain "note" "Option<String>" with columnName := some "Remark", maxLength := some 80 },
  { Member.plain "version" "Vec<u8>" with isRowVersion := true, isUnique := true },
  Member.plain "ORDER_ID" "u8"]

def lineHandle : TableHandle :=
  ⟨⟨"Line", none, lineMembers⟩, 1⟩

/-- A table that already has a column, behind another table. -/
def lines (columns : List Column) : Schema :=
  ⟨.snakeCase, [⟨"Order", []⟩, ⟨"Line", Column.plain "total" .decimal :: columns⟩]⟩

/-- The columns of all members but the last. -/
def lineColumns : List Column := [
  { Column.plain "order_id" .int64 with nullable := false, isPrimaryKey := true },
  { Column.plain "Remark" .string with maxLength := some 80 },
  { Column.plain "version" .rowVersion with isUnique := true }]

theorem withEntityColumns_outcome_lines :
    (lines []).table? lineHandle = some ⟨"Line", [Column.plain "total" .decimal]⟩ ∧
    (lines []).withEntityColumns lineHandle
      = (.error (.duplicateColumn "Line" "order_id"), lines lineColumns) ∧
    ∃ before m after cs, lineMembers = before ++ m :: after ∧
      Admits .snakeCase [Column.plain "total" .decimal] before ∧
      Refuses .snakeCase ⟨"Line", [Column.plain "total" .decimal]⟩ before m
        (.duplicateColumn "Line" "order_id") ∧
      Declares .snakeCase before cs ∧ lines lineColumns = lines cs := by
  have htable : (lines []).table? lineHandle = some ⟨"Line", [Column.plain "total" .decimal]⟩ := rfl
  have herror : (lines []).withEntityColumns lineHandle
      = (.error (.duplicateColumn "Line" "order_id"), lines lineColumns) := by decide +kernel
  exact ⟨htable, herror, (withEntityColumns_outcome htable).2.2 _ _ herror⟩

end Schema

end Schemata
