import Schemata.Proofs.Record.Members
import Schemata.Proofs.Type.Recorded

/-!
# What is read off a recorded type text

Deriving records the type of each field with its blanks collapsed. Reading that text gives what reading
the plain text of the type's tokens gives, with one exception: a reference with a lifetime, to a type
that begins with a separator (`Source.derive_typeTexts`). There the recorded text no longer shows where
the lifetime ends, so that a known type may be refused, and an unknown one may be read as known.
-/

namespace Schemata.Record

/-- The text of a type's tokens, with a blank between them. -/
def plainText (type : List Token) : String :=
  String.ofList (Token.spaced type)

/-- The grammar reads the field's type as these tokens. -/
def Field.HasType (f : Field) (type : List Token) : Prop :=
  ∃ ts, Record.tokens? f.typeText = some ts ∧ settleType ts = .ok type

variable {f : Field} {type referred : List Token}

theorem settleType_ok {ts : List Token} (h : settleType ts = .ok type) :
    readType ts = some (type, []) := by
  unfold settleType at h
  split at h
  · cases h
  · next hread =>
    split at h
    · next hrest =>
      cases h
      rw [hread, List.isEmpty_iff.1 hrest]
    · cases h

theorem Field.HasType.unique {type' : List Token} (h : f.HasType type) (h' : f.HasType type') :
    type = type' := by
  obtain ⟨ts, hts, hsettle⟩ := h
  obtain ⟨ts', hts', hsettle'⟩ := h'
  obtain rfl := Option.some.inj (hts.symm.trans hts')
  exact Except.ok.inj (hsettle.symm.trans hsettle')

theorem ofWritten?_typeText_of_hasType (h : f.HasType type) (hcrowded : crowded? type = none) :
    TypeTag.ofWritten? (typeText type) = TypeTag.ofWritten? (Token.spaced type) := by
  obtain ⟨ts, hts, hsettle⟩ := h
  exact TypeTag.ofWritten?_congr
    (read?_typeText (settleType_ok hsettle) (isWord_of_tokens? hts) hcrowded)

theorem ofWritten?_typeText_of_crowded (h : f.HasType type) (hcrowded : crowded? type = some referred) :
    TypeTag.ofWritten? (Token.spaced type) = TypeTag.ofReferent? (typeText referred) ∧
    TypeTag.ofWritten? (typeText type)
      = TypeTag.ofReferent? ((typeText referred).dropWhile fun c => !Text.isBlank c) := by
  obtain ⟨ts, hts, hsettle⟩ := h
  obtain ⟨hplain, hrecorded⟩ :=
    read?_typeText_crowded (settleType_ok hsettle) (isWord_of_tokens? hts) hcrowded
  exact ⟨by rw [TypeTag.ofWritten?_eq_bind, hplain]; rfl,
    by rw [TypeTag.ofWritten?_eq_bind, hrecorded]; rfl⟩

/-- **A type is read off its recorded text as off its tokens**, unless a separator crowds its
lifetime. -/
theorem Source.derive_typeTexts {s : Source} {d : Derived} (hd : s.derive = .ok d) {i : Nat} {f : Field}
    (hf : s.fields[i]? = some f) : (∃ type, f.HasType type) ∧ ∀ type, f.HasType type →
      ∃ m, d.entity.members[i]? = some m ∧ m.typeText = String.ofList (typeText type) ∧
        -- Both texts have the same tag, or none of them has one.
        (crowded? type = none → (TypeTag.ofFieldType m.typeText).toOption
          = (TypeTag.ofFieldType (plainText type)).toOption) ∧
        ∀ referred, crowded? type = some referred →
          -- The plain text is read as the type that the reference refers to, the recorded one as what
          -- stands behind the first blank in the text of that type.
          (TypeTag.ofFieldType (plainText type)).toOption = TypeTag.ofReferent? (typeText referred) ∧
          (TypeTag.ofFieldType m.typeText).toOption = TypeTag.ofReferent?
            ((typeText referred).dropWhile fun c => !Text.isBlank c) ∧
          -- If there is no blank in it, nothing is left to be read.
          ((∀ c ∈ typeText referred, Text.isBlank c = false) →
            (TypeTag.ofFieldType m.typeText).toOption = none) := by
  obtain ⟨m, hm, hgives⟩ := exists_getElem?_of_forall₂ (s.derive_fields hd).1 hf
  obtain ⟨ts, type, hts, hsettle, htext⟩ := hgives.type
  have htype : f.HasType type := ⟨ts, hts, hsettle⟩
  refine ⟨⟨type, htype⟩, fun type' htype' => ?_⟩
  obtain rfl := htype.unique htype'
  refine ⟨m, hm, htext, ?_⟩
  simp only [TypeTag.toOption_ofFieldType, plainText, htext, String.toList_ofList]
  refine ⟨ofWritten?_typeText_of_hasType htype, fun referred hcrowded => ?_⟩
  obtain ⟨hplain, hrecorded⟩ := ofWritten?_typeText_of_crowded htype hcrowded
  refine ⟨hplain, hrecorded, fun hblank => ?_⟩
  have hnothing : (typeText referred).dropWhile (fun c => !Text.isBlank c) = [] :=
    List.dropWhile_eq_nil_iff.2 fun c hc => by simp [hblank c hc]
  rw [hrecorded, hnothing]
  decide +kernel

/-- A page with a borrowed title, and a note of the given type. -/
def page (noteType : String) : Source where
  kind := .named
  name := "Page"
  parameters := ""
  attributes := []
  fields := [⟨"title", "&'static std :: vec::Vec < u8 >", []⟩, ⟨"note", noteType, []⟩]

/-- What is derived, given the recorded text of the note's type. -/
def pageDerived (noteText : String) : Derived where
  entity := ⟨"Page", none,
    [Member.plain "title" "&'static std::vec::Vec<u8>", Member.plain "note" noteText]⟩
  moduleName := "page_fields"
  selectors := [("TITLE", "title"), ("NOTE", "note")]

/-- The tokens of the title's type. -/
def titleType : List Token :=
  [.punct '&' false, .lifetime "static".toList, .name "std".toList] ++ separator
    ++ [.name "vec".toList] ++ separator
    ++ [.name "Vec".toList, .punct '<' false, .name "u8".toList, .punct '>' false]

/-- The tokens of a type that a trait names. -/
def traitType : List Token :=
  [.punct '&' false, .lifetime "static".toList, .punct '<' false, .name "Foo".toList,
    .name "as".toList, .name "Trait".toList, .punct '>' false] ++ separator ++ [.name "String".toList]

/-- The tokens of a borrowed string by its full name. -/
def primitiveType : List Token :=
  [.punct '&' false, .lifetime "static".toList] ++ separator ++ [.name "core".toList] ++ separator
    ++ [.name "primitive".toList] ++ separator ++ [.name "str".toList]

theorem derive_typeTexts_page :
    (page "&'static <Foo as Trait>::String").derive
      = .ok (pageDerived "&'static<Foo as Trait>::String") ∧
    Field.HasType ⟨"title", "&'static std :: vec::Vec < u8 >", []⟩ titleType ∧
    crowded? titleType = none ∧
    (TypeTag.ofFieldType "&'static std::vec::Vec<u8>").toOption
      = (TypeTag.ofFieldType (plainText titleType)).toOption ∧
    (TypeTag.ofFieldType (plainText titleType)).toOption = some .binary ∧
    Field.HasType ⟨"note", "&'static <Foo as Trait>::String", []⟩ traitType ∧
    crowded? traitType = some (traitType.drop 2) ∧
    (TypeTag.ofFieldType (plainText traitType)).toOption = none ∧
    (TypeTag.ofFieldType "&'static<Foo as Trait>::String").toOption = some .string := by
  have hd : (page "&'static <Foo as Trait>::String").derive
      = .ok (pageDerived "&'static<Foo as Trait>::String") := by decide +kernel
  have htitle : Field.HasType ⟨"title", "&'static std :: vec::Vec < u8 >", []⟩ titleType := by
    refine ⟨(Record.tokens? "&'static std :: vec::Vec < u8 >").getD [], ?_, ?_⟩ <;> decide +kernel
  have hnote : Field.HasType ⟨"note", "&'static <Foo as Trait>::String", []⟩ traitType := by
    refine ⟨(Record.tokens? "&'static <Foo as Trait>::String").getD [], ?_, ?_⟩ <;> decide +kernel
  obtain ⟨m, hm, -, hsame, -⟩ := (Source.derive_typeTexts (i := 0) hd rfl).2 titleType htitle
  obtain ⟨m', hm', -, -, hcrowded⟩ := (Source.derive_typeTexts (i := 1) hd rfl).2 traitType hnote
  obtain ⟨hplain, hrecorded, -⟩ := hcrowded (traitType.drop 2) rfl
  obtain rfl := Option.some.inj hm
  obtain rfl := Option.some.inj hm'
  refine ⟨hd, htitle, rfl, hsame rfl, by decide +kernel, hnote, rfl, hplain.trans ?_,
    hrecorded.trans ?_⟩ <;> decide +kernel

/-- A string borrowed by its full name: the plain text is read, the recorded text is refused. -/
theorem derive_typeTexts_primitive :
    (page "&'static ::core::primitive::str").derive
      = .ok (pageDerived "&'static::core::primitive::str") ∧
    Field.HasType ⟨"note", "&'static ::core::primitive::str", []⟩ primitiveType ∧
    plainText primitiveType = "& 'static :: core :: primitive :: str" ∧
    TypeTag.ofFieldType "& 'static :: core :: primitive :: str" = .ok .string ∧
    TypeTag.ofFieldType "&'static::core::primitive::str"
      = .error (.unsupportedType "&'static::core::primitive::str") := by
  refine ⟨by decide +kernel,
    ⟨(Record.tokens? "&'static ::core::primitive::str").getD [], ?_, ?_⟩, ?_, ?_, ?_⟩ <;>
    decide +kernel

end Schemata.Record
