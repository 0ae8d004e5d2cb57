import Schemata.Proofs.Record.Members
import Schemata.Proofs.Session.SelectorGrammar

/-!
# Raw members in selector texts

A member is declared without its raw mark, so no member of a derived entity has the mark in its name. A
selector text may write it all the same (`SelectorText.spelled_parses_iff`), but the member is looked
for under the name as it is written. A raw text is read and then finds nothing, where the plain text
finds the member (`Session.step_raw`); only the naming conventions drop the mark.
-/

namespace Schemata

/-! ## Texts of a member and a type -/

namespace SelectorText

variable {name type : List Char} {cast : Option (List Char)}

/-- The text of a selector: a member, and a type behind ` as ` if there is one. -/
def spelled (name : List Char) : Option (List Char) → List Char
  | none => name
  | some type => name ++ [' ', 'a', 's', ' '] ++ type

theorem read_spelled (hname₀ : name ≠ []) (hname : ∀ c ∈ name, Text.isBlank c = false)
    (hcast : ∀ type ∈ cast, ∃ c ∈ type, Text.isBlank c = false) :
    read (spelled name cast) = ⟨name, cast.map Text.trim⟩ := by
  let unpadded : Text.Blanks := ⟨[], by simp⟩
  cases cast with
  | none => simpa [spelled, unpadded] using read_member hname unpadded unpadded
  | some type =>
    have htype := Text.trim_ne_nil_iff.2 (hcast type rfl)
    simpa [spelled, unpadded] using read_cast hname hname₀ htype unpadded unpadded

/-- Where only blanks stand behind ` as `, they are trimmed before it is looked for. -/
theorem read_spelled_blank (hname₀ : name ≠ []) (hname : ∀ c ∈ name, Text.isBlank c = false)
    (htype : ∀ c ∈ type, Text.isBlank c = true) :
    read (spelled name (some type)) = ⟨name ++ [' ', 'a', 's'], none⟩ := by
  have htrim : Text.trim (spelled name (some type)) = name ++ [' ', 'a', 's'] := by
    have hblank : ∀ c ∈ ' ' :: type, Text.isBlank c = true :=
      List.forall_mem_cons.2 ⟨rfl, htype⟩
    have has : ∀ c ∈ ['a', 's'], Text.isBlank c = false := by
      simp only [List.forall_mem_cons]
      exact ⟨rfl, rfl, by simp⟩
    have hwords := @Text.trim_words [] name ['a', 's'] (' ' :: type) (by simp) hblank hname
      has hname₀ (by simp) [' ']
    simpa [spelled] using hwords
  have hsplit : Text.splitFirst [' ', 'a', 's', ' '] (name ++ [' ', 'a', 's']) = none := by
    rw [Option.eq_none_iff_forall_ne_some]
    rintro ⟨before, behind⟩ hsplit
    -- the text has a single blank, and what would be looked for has two
    have hcount := congrArg (List.count ' ') (Text.eq_append_of_splitFirst hsplit)
    have hspace : List.count ' ' name = 0 :=
      List.count_eq_zero.2 fun hmem => absurd (hname ' ' hmem) (by decide)
    simp [hspace] at hcount
    omega
  simp only [read, htrim, hsplit]

theorem spelled_parses_iff (hname₀ : name ≠ []) (hname : ∀ c ∈ name, Text.isBlank c = false) :
    (∃ parts, Parses (spelled name cast) parts) ↔
      Text.IsIdentifier name ∧ ∀ type ∈ cast, ∃ c ∈ type, Text.isBlank c = false := by
  rw [parses_read_iff]
  by_cases hcast : ∀ type ∈ cast, ∃ c ∈ type, Text.isBlank c = false
  · have htypes : cast.map Text.trim ≠ some [] := by
      rw [Ne, Option.map_eq_some_iff]
      rintro ⟨type, htype, htrim⟩
      exact Text.trim_ne_nil_iff.2 (hcast type htype) htrim
    rw [read_spelled hname₀ hname hcast, ← Text.isIdentifier_iff]
    simpa [isWellFormed, htypes] using fun _ => hcast
  · cases cast with
    | none => exact absurd (by simp) hcast
    | some type =>
      have htype : ∀ c ∈ type, Text.isBlank c = true := by simpa using hcast
      rw [read_spelled_blank hname₀ hname htype]
      refine iff_of_false (fun hformed => ?_) fun h => hcast h.2
      have hidentifier := Text.isIdentifier_iff.1 (Bool.and_eq_true_iff.1 hformed).1
      exact absurd (hidentifier.blanks.2 ' ' (by simp)) (by decide)

end SelectorText

namespace Text

/-- How a name may be written: as it is, or raw. -/
inductive Spells (name : String) : String → Prop
  | plain : Spells name name
  | raw : Spells name ("r#" ++ name)

namespace Spells

variable {name written : String} (h : Spells name written)
  (hname : isDeclaredName name.toList = true)

include h hname

theorem unraw_eq : unraw written.toList = name.toList := by
  cases h with
  | plain => exact unraw_of_not_mem (mark_not_mem hname)
  | raw =>
    rw [String.toList_append]
    rfl

theorem isIdentifier_iff : IsIdentifier written.toList ↔ IsName name.toList := by
  rw [← Text.isIdentifier_iff, h.unraw_eq hname, isPlainIdentifier_iff]

theorem blanks : written.toList ≠ [] ∧ ∀ c ∈ written.toList, isBlank c = false := by
  have hblank : ∀ c ∈ name.toList, isBlank c = false :=
    fun c hc => not_isBlank_of_continues (continuesName_of_declared hname c hc)
  cases h with
  | plain =>
    refine ⟨fun hnil => ?_, hblank⟩
    rw [hnil] at hname
    cases hname
  | raw =>
    rw [String.toList_append]
    refine ⟨by simp, List.forall_mem_cons.2 ⟨rfl, List.forall_mem_cons.2 ⟨rfl, hblank⟩⟩⟩

end Spells

end Text

/-! ## Members of derived entities -/

namespace Record

/-- The members of a derived entity have declared names, without the mark. -/
theorem Source.derive_declared {s : Source} {d : Derived} (h : s.derive = .ok d)
    (hfields : ∀ f ∈ s.fields, Text.isDeclaredName (Text.unraw f.name.toList) = true) :
    ∀ m ∈ d.entity.members, Text.isDeclaredName m.name.toList = true := by
  intro m hm
  obtain ⟨hgives, -⟩ := s.derive_fields h
  obtain ⟨i, hi⟩ := List.mem_iff_getElem?.1 hm
  obtain ⟨f, hf, hgive⟩ := exists_getElem?_of_forall₂ hgives.flip hi
  rw [hgive.name, String.toList_ofList]
  exact hfields f (List.mem_of_getElem? hf)

end Record

namespace Selector

/-- The text that selects a member, with a type if there is one. -/
def spelling (name : String) (cast : Option String) : String :=
  String.ofList (SelectorText.spelled name.toList (cast.map String.toList))

/-- A text can name the member if this is made of letters, digits and underscores, and the type if that
is not blank. -/
def Expressible (name : String) (cast : Option String) : Prop :=
  Text.IsName name.toList ∧ ∀ type ∈ cast, ∃ c ∈ type.toList, Text.isBlank c = false

/-- The tag of the column: that of the type behind ` as `, or else that of the member. -/
def tagOf (m : Member) : Option String → Except DeclarationError TypeTag
  | some type => SelectorText.castTag (Text.trimmed type)
  | none => TypeTag.ofFieldType m.typeText

theorem tagOf_error {m : Member} {cast : Option String} {err : DeclarationError}
    (h : tagOf m cast = .error err) : ∃ type, err = .unsupportedType type := by
  have hfield : ∀ {type}, TypeTag.ofFieldType type = .error err →
      ∃ type, err = .unsupportedType type := by
    intro type h
    unfold TypeTag.ofFieldType at h
    split at h <;> cases h
    exact ⟨_, rfl⟩
  have htext : ∀ {type}, SelectorText.castTag type = .error err →
      ∃ type, err = .unsupportedType type := by
    intro type h
    unfold SelectorText.castTag at h
    split at h
    · cases h
    · unfold TypeTag.ofTagText at h
      split at h <;> cases h
      exact ⟨_, rfl⟩
  cases cast with
  | none => exact hfield h
  | some type => exact htext h

variable {e : Entity} {name : String} {cast : Option String}

theorem parses_spelling_iff (hname₀ : name.toList ≠ [])
    (hname : ∀ c ∈ name.toList, Text.isBlank c = false) :
    (∃ parts, SelectorText.Parses (spelling name cast).toList parts) ↔
      Text.IsIdentifier name.toList ∧
        ∀ type ∈ cast, ∃ c ∈ type.toList, Text.isBlank c = false := by
  rw [spelling, String.toList_ofList, SelectorText.spelled_parses_iff hname₀ hname]
  simp

/-- What becomes of a text that names a member, there or not. -/
theorem resolve_spelling (hname : Text.IsIdentifier name.toList)
    (hcast : ∀ type ∈ cast, ∃ c ∈ type.toList, Text.isBlank c = false) (table : String) :
    (text (spelling name cast)).resolve e table = match e.member? name with
      | none => .error (.unknownMember e.typeName name)
      | some m => (tagOf m cast).map fun tag => ⟨name, tag⟩ := by
  obtain ⟨hname₀, hblank⟩ := hname.blanks
  have hread := @SelectorText.read_spelled _ (cast.map String.toList) hname₀ hblank
    (by simpa using hcast)
  have hformed := SelectorText.parses_read_iff.1 ((parses_spelling_iff hname₀ hblank).2 ⟨hname, hcast⟩)
  rw [spelling, String.toList_ofList] at hformed
  simp only [resolve, resolveText, spelling, String.toList_ofList, if_pos hformed]
  rw [hread]
  simp only [String.ofList_toList]
  cases e.member? name with
  | none => rfl
  | some m => cases cast <;> rfl

end Selector

theorem Naming.apply_spells (convention : Naming) {name written : String}
    (h : Text.Spells name written) (hname : Text.isDeclaredName name.toList = true) :
    convention.apply written = convention.apply name := by
  unfold apply
  simp only [h.unraw_eq hname, Text.Spells.plain.unraw_eq hname]

namespace Session

open Selector

variable {s : Session} {n : Nat} {h : TableHandle} {t : Table}

theorem step_withColumn_of_error {σ : Selector} {err : DeclarationError}
    (hh : s.tables[n]? = some h) (ht : s.schema.table? h = some t)
    (hresolve : σ.resolve h.entity t.name = .error err) (settings : List Setting) :
    s.step (.withColumn n σ settings) = (.error err, s) := by
  have hcolumn : s.schema.withColumn h σ settings = .error err := by
    simp only [Schema.withColumn, ht, hresolve]
    rfl
  simp only [step, hh, hcolumn]

/-- Only a text can name a member that there is not. -/
theorem step_named_ne_unknown (s : Session) (n : Nat) (name : String) (tag : TypeTag)
    (settings : List Setting) (e member : String) :
    (s.step (.withColumn n (.named name tag) settings)).1 ≠ .error (.unknownMember e member) := by
  have happend : ∀ index column, s.schema.append index column ≠ .error (.unknownMember e member) := by
    intro index column
    unfold Schema.append
    split
    · simp
    · split <;> simp
  have hcolumn : ∀ h, s.schema.withColumn h (.named name tag) settings
      ≠ .error (.unknownMember e member) := by
    intro h
    unfold Schema.withColumn
    split
    · simp
    · exact happend h.index _
  simp only [step]
  split
  · simp
  · next h _ =>
    split
    · next err herr =>
      intro hunknown
      cases hunknown
      exact hcolumn h herr
    · simp

section Spelling

variable {name : String} {cast : Option String} (hh : s.tables[n]? = some h)
  (ht : s.schema.table? h = some t) (hname : Text.IsIdentifier name.toList)
  (hcast : ∀ type ∈ cast, ∃ c ∈ type.toList, Text.isBlank c = false) (settings : List Setting)

include hh ht hname hcast

theorem step_spelling_unknown (hm : h.entity.member? name = none) :
    s.step (.withColumn n (.text (spelling name cast)) settings)
      = (.error (.unknownMember h.entity.typeName name), s) := by
  refine step_withColumn_of_error hh ht ?_ settings
  rw [resolve_spelling hname hcast, hm]

/-- A text that names a member does what the name does with the tag, unless there is no tag. -/
theorem step_spelling {m : Member} (hm : h.entity.member? name = some m) :
    s.step (.withColumn n (.text (spelling name cast)) settings) = match tagOf m cast with
      | .ok tag => s.step (.withColumn n (.named name tag) settings)
      | .error err => (.error err, s) := by
  have hresolve : ∀ table, (Selector.text (spelling name cast)).resolve h.entity table
      = (tagOf m cast).map fun tag => ⟨name, tag⟩ := by
    intro table
    rw [resolve_spelling hname hcast, hm]
  cases htag : tagOf m cast with
  | ok tag => exact step_withColumn_congr hh (fun table => by rw [hresolve, htag]; rfl) settings
  | error err => exact step_withColumn_of_error hh ht (by rw [hresolve, htag]; rfl) settings

end Spelling

/-- What a text that finds its member answers is never that there is no such member. -/
theorem step_tagOf_ne_unknown (m : Member) (name : String) (cast : Option String)
    (settings : List Setting) (e member : String) : (match tagOf m cast with
      | .ok tag => s.step (.withColumn n (.named name tag) settings)
      | .error err => (.error err, s)).1 ≠ .error (.unknownMember e member) := by
  cases htag : tagOf m cast with
  | ok tag => exact step_named_ne_unknown s n name tag settings e member
  | error err =>
    obtain ⟨type, rfl⟩ := tagOf_error htag
    exact fun hsame => nomatch hsame

/-- **A raw member is not found**, although the plain one is. -/
theorem step_raw {src : Record.Source} {d : Record.Derived} (hderive : src.derive = .ok d)
    (hfields : ∀ f ∈ src.fields, Text.isDeclaredName (Text.unraw f.name.toList) = true) {m : Member}
    (hm : m ∈ d.entity.members) (hh : s.tables[n]? = some h) (he : h.entity = d.entity)
    (ht : s.schema.table? h = some t) (cast : Option String) (settings : List Setting) :
    -- Where a text can name the member, the raw text is refused and nothing changes,
    (Expressible m.name cast →
      s.step (.withColumn n (.text (spelling ("r#" ++ m.name) cast)) settings)
        = (.error (.unknownMember d.entity.typeName ("r#" ++ m.name)), s) ∧
      -- whereas the plain one declares the column of the member and the tag, unless there is no tag.
      ∃ m', d.entity.member? m.name = some m' ∧
        s.step (.withColumn n (.text (spelling m.name cast)) settings) = (match tagOf m' cast with
          | .ok tag => s.step (.withColumn n (.named m.name tag) settings)
          | .error err => (.error err, s)) ∧
        (s.step (.withColumn n (.text (spelling m.name cast)) settings)).1
          ≠ (s.step (.withColumn n (.text (spelling ("r#" ++ m.name) cast)) settings)).1) ∧
    -- Otherwise both texts are refused, each as it is written.
    (¬ Expressible m.name cast → ∀ written, Text.Spells m.name written →
      s.step (.withColumn n (.text (spelling written cast)) settings)
        = (.error (.unsupportedSelector t.name (Text.trimmed (spelling written cast))), s)) ∧
    -- For a convention, the two names are the same.
    ∀ convention : Naming, convention.apply ("r#" ++ m.name) = convention.apply m.name := by
  have hnames := src.derive_declared hderive hfields
  have hname := hnames m hm
  rw [← he] at hm hnames ⊢
  refine ⟨fun hcast => ?_, fun hcast written hspells => ?_,
    fun convention => convention.apply_spells .raw hname⟩
  · have hnone : h.entity.member? ("r#" ++ m.name) = none := by
      refine member?_eq_none_iff.2 fun m' hm' hsame => Text.mark_not_mem (hnames m' hm') ?_
      rw [hsame, String.toList_append]
      simp
    obtain ⟨m', hm'⟩ : ∃ m', h.entity.member? m.name = some m' := by
      rw [← Option.isSome_iff_exists]
      simpa [Entity.member?] using ⟨m, hm, rfl⟩
    have hraw := step_spelling_unknown hh ht ((Text.Spells.raw.isIdentifier_iff hname).2 hcast.1)
      hcast.2 settings hnone
    have hplain := step_spelling hh ht (.plain hcast.1) hcast.2 settings hm'
    rw [hraw, hplain]
    exact ⟨rfl, m', hm', rfl, step_tagOf_ne_unknown m' m.name cast settings _ _⟩
  · have hnot : ¬ ∃ parts, SelectorText.Parses (spelling written cast).toList parts := by
      obtain ⟨hwritten₀, hblank⟩ := hspells.blanks hname
      rwa [parses_spelling_iff hwritten₀ hblank, hspells.isIdentifier_iff hname]
    exact step_withColumn_of_error hh ht (resolve_text_of_not_parses hnot h.entity t.name) settings

/-- A record whose member has to be written raw. -/
def rawSource : Record.Source :=
  ⟨.named, "Row", "", [], [⟨"r#type", "String", []⟩]⟩

/-- A session with a table for this record. -/
def rawSession : Session :=
  ((start .snakeCase).step (.defineTable ⟨"Row", none, [Member.plain "type" "String"]⟩ none)).2

theorem step_raw_type :
    rawSession.step (.withColumn 0 (.text "r#type as u8") [.unique])
      = (.error (.unknownMember "Row" "r#type"), rawSession) ∧
    rawSession.step (.withColumn 0 (.text "type as u8") [.unique])
      = rawSession.step (.withColumn 0 (.named "type" .uint8) [.unique]) := by
  have hderive : rawSource.derive = .ok ⟨⟨"Row", none, [Member.plain "type" "String"]⟩, "row_fields",
      [("TYPE", "type")]⟩ := by decide +kernel
  have hexpressible : Expressible "type" (some "u8") := by
    refine ⟨Text.isPlainIdentifier_iff.1 (by decide +kernel), ?_⟩
    rintro type ⟨⟩
    exact ⟨'u', by decide, rfl⟩
  obtain ⟨hraw, -⟩ := step_raw (n := 0) hderive (by decide +kernel)
    (List.mem_singleton_self (Member.plain "type" "String")) (s := rawSession) rfl rfl rfl (some "u8")
    [.unique]
  obtain ⟨hrefused, m, hm, hplain, -⟩ := hraw hexpressible
  cases hm
  have htag : tagOf (Member.plain "type" "String") (some "u8") = .ok .uint8 := by
    decide +kernel
  rw [htag] at hplain
  exact ⟨hrefused, hplain⟩

/-- The member that the declaration writes raw is found by its plain name only. -/
theorem step_raw_unknown :
    rawSource.derive = .ok ⟨⟨"Row", none, [Member.plain "type" "String"]⟩, "row_fields",
      [("TYPE", "type")]⟩ ∧
    rawSession.step (.withColumn 0 (.text "r#type") [])
      = (.error (.unknownMember "Row" "r#type"), rawSession) ∧
    (rawSession.step (.withColumn 0 (.text "type") [])).1 = .ok (.columns [0]) := by
  decide +kernel

end Session

end Schemata
