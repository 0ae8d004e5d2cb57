import Mathlib.Data.List.Nodup
import Schemata.Proofs.Record.Members
import Schemata.Proofs.Session.EntityColumns
import Schemata.Proofs.Type.Grammar

/-!
# Columns of a derived entity

A member of a derived entity can be declared in two ways. Its typed selector knows the value type and
needs no text; `Schema.withEntityColumns` reads the tag off the recorded type text. Both declare the
same column (`Record.Source.derive_columns`) for every type that `WrittenType` spells, since the text is
read back to the tag of the value type. The exception is an optional type that holds a lifetime: its
text is refused.
-/

namespace Schemata

theorem Entity.member?_of_nodup {e : Entity} {m : Member} (hm : m ∈ e.members)
    (hnodup : (e.members.map (·.name)).Nodup) : e.member? m.name = some m := by
  unfold member?
  cases hfind : e.members.find? fun m' => m'.name == m.name with
  | none => exact absurd (List.find?_eq_none.1 hfind m hm) (by simp)
  | some m' =>
    have hname : m'.name = m.name := by
      have := List.find?_some (p := fun m' : Member => m'.name == m.name) hfind
      simpa using this
    exact congrArg some (List.inj_on_of_nodup_map hnodup (List.mem_of_find?_eq_some hfind) hm hname)

namespace Schema

variable {s s' : Schema} {h : TableHandle} {m : Member} {type : ValueType}

/-- The typed selector of a member declares what the member declares. -/
theorem withColumn_typed (hm : h.entity.member? m.name = some m)
    (htag : TypeTag.ofFieldType m.typeText = .ok type.tag) :
    s.withColumn h (.typed ⟨m.name, type⟩) [] = s.withMember h.index m := by
  unfold withColumn withMember
  rw [htag]
  cases ht : s.table? h with
  | none =>
    have hforeign : ∀ c, s.append h.index c = .error .foreignHandle := by
      intro c
      unfold table? at ht
      simp only [append, ht]
    exact (hforeign _).symm
  | some t =>
    simp only [Selector.resolve, bind, Except.bind, hm]

variable {t : Table} {tag : TypeTag}

/-- A member whose type is known and whose name is free can be declared. -/
theorem withMember_column (ht : s.table? h = some t)
    (htag : TypeTag.ofFieldType m.typeText = .ok tag)
    (hfree : ∀ c ∈ t.columns, Text.eqIgnoreCase c.name (m.nameUnder s.naming) = false) :
    ∃ k u, s.withMember h.index m = .ok (k, u) ∧ u.column? k = some (m.column s.naming tag) := by
  have hadmits : Admits s.naming t.columns [m] :=
    ⟨by simpa using ⟨tag, htag⟩, by simpa using hfree, List.pairwise_singleton _ m⟩
  refine ⟨_, _, withMember_of_admits ht htag hadmits, ?_⟩
  simpa [handlesBehind] using column?_handlesBehind ht [m.column s.naming tag]

/-- If all columns of an entity can be declared, then so can any of them alone, and is the same
column. -/
theorem withEntityColumns_column {i : Nat} {handles : List ColumnHandle}
    (ht : s.table? h = some t) (hi : h.entity.members[i]? = some m)
    (htag : TypeTag.ofFieldType m.typeText = .ok tag)
    (hok : s.withEntityColumns h = (.ok handles, s')) :
    (∃ k, handles[i]? = some k ∧ s'.column? k = some (m.column s.naming tag)) ∧
      ∃ k u, s.withMember h.index m = .ok (k, u) ∧ u.column? k = some (m.column s.naming tag) := by
  have hadmits : Admits s.naming t.columns h.entity.members := admits_of_withMembers_ok ht hok
  refine ⟨?_, withMember_column ht htag (hadmits.free m (List.mem_of_getElem? hi))⟩
  obtain ⟨cs, hcs, hok'⟩ := withMembers_of_admits ht hadmits
  obtain ⟨hhandles, hschema⟩ := Prod.mk.inj (hok'.symm.trans hok)
  obtain rfl := Except.ok.inj hhandles
  obtain ⟨c, hc, tag', htag', rfl⟩ := Record.exists_getElem?_of_forall₂ hcs hi
  obtain rfl := Except.ok.inj (htag'.symm.trans htag)
  have hcolumns := congrArg (·[i]?) (column?_handlesBehind ht cs)
  have hlength : h.entity.members.length = cs.length := hcs.length_eq
  rw [← hlength, hschema] at hcolumns
  simpa [hc] using hcolumns

end Schema

namespace Record

/-- The tokens of the field's type are those of the written type, up to joints. -/
def Field.Spells (f : Field) (w : WrittenType) : Prop :=
  ∃ ts, Record.tokens? f.typeText = some ts ∧ Reads ts w.tokens

/-- The grammar reads the field's type as the written type. -/
def Field.Declares (f : Field) (w : WrittenType) : Prop :=
  ∃ ts, Record.tokens? f.typeText = some ts ∧ settleType ts = .ok w.tokens

theorem Field.Spells.declares {f : Field} {w : WrittenType} (h : f.Spells w) (hw : w.IsReadable) :
    f.Declares w := by
  obtain ⟨ts, hread, hts⟩ := h
  exact ⟨ts, hread, settleType_tokens hw hts⟩

theorem Field.Gives.typeText_of_declares {f : Field} {m : Member} {w : WrittenType}
    (hm : f.Gives m) (hw : f.Declares w) :
    m.typeText = String.ofList (Record.typeText w.tokens) := by
  obtain ⟨ts, type, hread, hsettle, htext⟩ := hm.type
  obtain ⟨ts', hread', hsettle'⟩ := hw
  obtain rfl := Option.some.inj (hread.symm.trans hread')
  rw [htext, Except.ok.inj (hsettle.symm.trans hsettle')]

/-- What is read off the text that is recorded for a written type. -/
theorem ofFieldType_of_declares {f : Field} {m : Member} {w : WrittenType} (hm : f.Gives m)
    (hw : f.Declares w) :
    TypeTag.ofFieldType m.typeText = if w.hidesLifetime
      then .error (.unsupportedType (Text.trimmed m.typeText)) else .ok w.type.tag := by
  have hread : TypeTag.ofWritten? m.typeText.toList
      = if w.hidesLifetime then none else some w.type.tag := by
    rw [hm.typeText_of_declares hw, String.toList_ofList, w.ofWritten?_typeText]
  rw [TypeTag.ofFieldType, hread]
  cases w.hidesLifetime <;> rfl

/-- **A derived member has one column**, whichever way it is declared. -/
theorem Source.derive_columns {src : Source} {d : Derived} (hd : src.derive = .ok d) {i : Nat}
    {f : Field} (hf : src.fields[i]? = some f) (w : WrittenType) :
    -- A field declares the type that its text spells.
    (w.IsReadable → f.Spells w → f.Declares w) ∧
    (f.Declares w → ∃ m constant, d.entity.members[i]? = some m ∧
      d.selectors[i]? = some (constant, m.name) ∧
      -- The tag that is read off the recorded text is that of the value type, unless an optional type
      -- holds a lifetime.
      TypeTag.ofFieldType m.typeText = (if w.hidesLifetime
        then .error (.unsupportedType (Text.trimmed m.typeText)) else .ok w.type.tag) ∧
      -- So the typed selector declares what the member declares, on any schema, and if all columns of
      -- the entity can be declared, it declares the same column alone.
      (w.hidesLifetime = false → (d.entity.members.map (·.name)).Nodup →
        ∀ (s : Schema) (h : TableHandle), h.entity = d.entity →
          s.withColumn h (.typed ⟨m.name, w.type⟩) [] = s.withMember h.index m ∧
          ∀ t handles s', s.table? h = some t → s.withEntityColumns h = (.ok handles, s') →
            ∃ k k' u, handles[i]? = some k ∧
              s.withColumn h (.typed ⟨m.name, w.type⟩) [] = .ok (k', u) ∧
              s'.column? k = u.column? k' ∧
              u.column? k' = some (m.column s.naming w.type.tag))) := by
  refine ⟨fun hw hspells => hspells.declares hw, fun hw => ?_⟩
  obtain ⟨hgives, hselectors⟩ := src.derive_fields hd
  obtain ⟨m, hm, hfm⟩ := exists_getElem?_of_forall₂ hgives hf
  have hselector : (d.selectors[i]?).map (·.2) = some m.name := by
    rw [← List.getElem?_map, hselectors, List.getElem?_map, hm, Option.map_some]
  obtain ⟨⟨constant, name⟩, hconstant, rfl⟩ := Option.map_eq_some_iff.1 hselector
  have hread := ofFieldType_of_declares hfm hw
  refine ⟨m, constant, hm, hconstant, hread, fun hhidden hnodup s h he => ?_⟩
  have htag : TypeTag.ofFieldType m.typeText = .ok w.type.tag := by
    rw [hread, hhidden]
    rfl
  rw [← he] at hm hnodup
  have htyped : s.withColumn h (.typed ⟨m.name, w.type⟩) [] = s.withMember h.index m :=
    Schema.withColumn_typed (Entity.member?_of_nodup (List.mem_of_getElem? hm) hnodup) htag
  refine ⟨htyped, fun t handles s' ht hok => ?_⟩
  obtain ⟨⟨k, hk, hkcolumn⟩, k', u, hmember, hcolumn⟩ :=
    Schema.withEntityColumns_column ht hm htag hok
  exact ⟨k, k', u, hk, htyped.trans hmember, hkcolumn.trans hcolumn.symm, hcolumn⟩

/-- A visit with two optional members, the second of the given type. -/
def visit (noteType : String) : Source where
  kind := .named
  name := "Visit"
  parameters := ""
  attributes := []
  fields := [
    ⟨"id", "i64", ["schema(key)"]⟩,
    ⟨"seenAt", "Option< ::core::option::Option<chrono::DateTime<Utc>>>", ["schema(unique)"]⟩,
    ⟨"note", noteType, []⟩]

/-- The type of the first optional member. -/
def visitSeenAt : WrittenType :=
  .option ⟨false, []⟩ (.option ⟨true, [⟨"core".toList, by decide⟩, ⟨"option".toList, by decide⟩]⟩
    (.dateTime ⟨false, [⟨"chrono".toList, by decide⟩]⟩ [.name "Utc".toList]))

/-- An optional borrowed string, perhaps under a lifetime. -/
def visitNote (label : Option Word) : WrittenType :=
  .option ⟨false, []⟩ (.str label)

/-- What is derived, given the recorded text of the last member. -/
def visitDerived (noteText : String) : Derived where
  entity := ⟨"Visit", none, [
    { Member.plain "id" "i64" with isPrimaryKey := true },
    { Member.plain "seenAt" "Option<::core::option::Option<chrono::DateTime<Utc>>>" with
      isUnique := true },
    Member.plain "note" noteText]⟩
  moduleName := "visit_fields"
  selectors := [("ID", "id"), ("SEEN_AT", "seenAt"), ("NOTE", "note")]

/-- A schema with a table for visits, and its handle. -/
def visits (noteText : String) : TableHandle × Schema :=
  (Schema.empty .snakeCase).defineTable (visitDerived noteText).entity

theorem derive_columns_visit :
    (visit "Option<&str>").derive = .ok (visitDerived "Option<&str>") ∧
    (∃ f, (visit "Option<&str>").fields[1]? = some f ∧ visitSeenAt.IsReadable ∧ f.Spells visitSeenAt) ∧
    ∃ handles s' k k' u,
      (visits "Option<&str>").2.withEntityColumns (visits "Option<&str>").1 = (.ok handles, s') ∧
      handles[1]? = some k ∧
      (visits "Option<&str>").2.withColumn (visits "Option<&str>").1
        (.typed ⟨"seenAt", visitSeenAt.type⟩) [] = .ok (k', u) ∧
      s'.column? k = u.column? k' ∧
      u.column? k' = some { Column.plain "seen_at" .dateTimeWithOffset with isUnique := true } := by
  have hd : (visit "Option<&str>").derive = .ok (visitDerived "Option<&str>") := by decide +kernel
  have hf : (visit "Option<&str>").fields[1]?
      = some ⟨"seenAt", "Option< ::core::option::Option<chrono::DateTime<Utc>>>",
        ["schema(unique)"]⟩ := rfl
  have hreadable : visitSeenAt.IsReadable := by
    have hzone : IsSegment "Utc".toList := by decide
    refine ⟨?_, ?_, ?_, ⟨false, []⟩, _, ?_, hzone, rfl⟩ <;> decide +kernel
  have hspells : Field.Spells ⟨"seenAt", "Option< ::core::option::Option<chrono::DateTime<Utc>>>",
      ["schema(unique)"]⟩ visitSeenAt := by
    refine ⟨(Record.tokens? "Option< ::core::option::Option<chrono::DateTime<Utc>>>").getD [], ?_, ?_⟩
    · decide +kernel
    · decide +kernel
  refine ⟨hd, ⟨_, hf, hreadable, hspells⟩, ?_⟩
  obtain ⟨hdeclares, hmember⟩ := Source.derive_columns hd hf visitSeenAt
  obtain ⟨m, constant, hm, -, -, hcolumns⟩ := hmember (hdeclares hreadable hspells)
  obtain rfl := Option.some.inj hm
  obtain ⟨-, hsame⟩ := hcolumns rfl (by decide) (visits "Option<&str>").2 (visits "Option<&str>").1 rfl
  rcases hok : (visits "Option<&str>").2.withEntityColumns (visits "Option<&str>").1 with
    ⟨e | handles, s'⟩
  · have hfails : ((visits "Option<&str>").2.withEntityColumns (visits "Option<&str>").1).1.isOk
        = true := by decide +kernel
    rw [hok] at hfails
    cases hfails
  · obtain ⟨k, k', u, hk, htyped, hsame, hcolumn⟩ := hsame _ handles s' rfl hok
    exact ⟨handles, s', k, k', u, rfl, hk, htyped, hsame, hcolumn⟩

/-- A lifetime inside an optional type: the typed selector declares a column, the recorded text is
refused. -/
theorem derive_columns_lifetime :
    (visit "Option<&'static str>").derive = .ok (visitDerived "Option<&'static str>") ∧
    (visitNote (some ⟨"static".toList, by decide⟩)).type.tag = .string ∧
    (visits "Option<&'static str>").2.withMember 0 (Member.plain "note" "Option<&'static str>")
      = .error (.unsupportedType "Option<&'static str>") ∧
    ((visits "Option<&'static str>").2.withEntityColumns (visits "Option<&'static str>").1).1
      = .error (.unsupportedType "Option<&'static str>") ∧
    ∃ u, (visits "Option<&'static str>").2.withColumn (visits "Option<&'static str>").1
        (.typed ⟨"note", (visitNote (some ⟨"static".toList, by decide⟩)).type⟩) []
      = .ok (⟨0, 0⟩, u) ∧ u.column? ⟨0, 0⟩ = some (Column.plain "note" .string) := by
  refine ⟨by decide +kernel, rfl, by decide +kernel, by decide +kernel, _, rfl, by decide +kernel⟩

end Record

end Schemata
