import Schemata.Proofs.Session.Selectors

/-!
# The grammar of selector texts

A selector text is an identifier with blanks around it, on its own or with ` as ` and a type behind it.
`SelectorText.Parses` is this grammar, together with what a text of it holds. The reader trims before
and after it looks for the first ` as `, so any blank may stand around the words, whereas the two blanks
of ` as ` itself are spaces; a member may be called `as`, and the type may hold ` as ` again.

The reader is sound and complete for the grammar (`SelectorText.parses_iff`), which makes it
unambiguous. `Selector.resolve_text` is what becomes of a selector text: it is refused exactly if it is
not in the grammar, and else its parts say what it selects (`Selector.Selects`).
-/

namespace Schemata

namespace SelectorText

/-! ## The grammar -/

/-- The texts of the grammar, and the member and the type that they hold. -/
inductive Parses : List Char → SelectorText → Prop
  | member (p : Text.Blanks) {name : List Char} (hname : Text.IsIdentifier name) (q : Text.Blanks) :
    Parses (p.chars ++ name ++ q.chars) ⟨name, none⟩
  | cast (p : Text.Blanks) {name : List Char} (hname : Text.IsIdentifier name) (q : Text.Blanks)
      {type : List Char} (htype : ∃ c ∈ type, Text.isBlank c = false) :
    Parses (p.chars ++ name ++ q.chars ++ [' ', 'a', 's', ' '] ++ type)
      ⟨name, some (Text.trim type)⟩

variable {cs : List Char} {parts : SelectorText}

theorem Parses.read (h : Parses cs parts) : SelectorText.read cs = parts := by
  cases h with
  | member p hname q => exact read_member hname.blanks.2 p q
  | cast p hname q htype =>
    exact read_cast hname.blanks.2 hname.blanks.1 (Text.trim_ne_nil_iff.2 htype) p q

theorem Parses.isWellFormed (h : Parses cs parts) : parts.isWellFormed = true := by
  cases h with
  | member p hname q => simp [SelectorText.isWellFormed, Text.isIdentifier_iff.2 hname]
  | cast p hname q htype =>
    simp [SelectorText.isWellFormed, Text.isIdentifier_iff.2 hname, Text.trim_ne_nil_iff.2 htype]

theorem Parses.trim_cast (h : Parses cs parts) : ∀ type ∈ parts.cast, Text.trim type = type := by
  intro type htype
  cases h with
  | member => cases htype
  | cast =>
    cases htype
    exact Text.trim_trim _

/-- A type that is announced is there: the text would end with the blank of ` as ` otherwise, and that
is trimmed before ` as ` is looked for. -/
theorem cast_read (cs : List Char) : (read cs).cast ≠ some [] := by
  intro hempty
  simp only [read] at hempty
  split at hempty
  · next member type hsplit =>
    have htype : ∀ c ∈ type, Text.isBlank c = true :=
      Text.trim_eq_nil_iff.1 (Option.some.inj hempty)
    have hwhole := Text.eq_append_of_splitFirst hsplit
    have hlast : ∃ c ∈ (Text.trim cs).getLast?, Text.isBlank c = true := by
      rw [hwhole, List.getLast?_append]
      cases hend : type.getLast? with
      | none => exact ⟨' ', List.getLast?_append .., rfl⟩
      | some c => exact ⟨c, rfl, htype c (List.mem_of_getLast? hend)⟩
    obtain ⟨c, hc, hblank⟩ := hlast
    rw [Text.not_isBlank_getLast c hc] at hblank
    cases hblank
  · cases hempty

theorem parses_read (h : Text.IsIdentifier (read cs).member) : Parses cs (read cs) := by
  obtain ⟨before, behind, hcs, hbefore, hbehind⟩ := Text.exists_padding cs
  cases hsplit : Text.splitFirst [' ', 'a', 's', ' '] (Text.trim cs) with
  | none =>
    have hread : read cs = ⟨Text.trim cs, none⟩ := by simp only [read, hsplit]
    rw [hread] at h ⊢
    have hparses := Parses.member ⟨before, hbefore⟩ h ⟨behind, hbehind⟩
    rwa [← hcs] at hparses
  | some split =>
    obtain ⟨member, type⟩ := split
    have hread : read cs = ⟨Text.trim member, some (Text.trim type)⟩ := by simp only [read, hsplit]
    have hcast := cast_read cs
    rw [hread] at h hcast ⊢
    obtain ⟨front, back, hmember, hfront, hback⟩ := Text.exists_padding member
    obtain ⟨c, hc, hblank⟩ := Text.trim_ne_nil_iff.1 fun htrim => hcast (congrArg some htrim)
    have hpad : ∀ c ∈ before ++ front, Text.isBlank c = true :=
      fun c hc => (List.mem_append.1 hc).elim (hbefore c) (hfront c)
    have hparses := Parses.cast ⟨before ++ front, hpad⟩ h ⟨back, hback⟩
      ⟨c, List.mem_append_left behind hc, hblank⟩
    -- around the member stand the blanks that were trimmed off the text and off the member
    have hchars : before ++ front ++ Text.trim member ++ back ++ [' ', 'a', 's', ' ']
        ++ (type ++ behind) = cs := by
      calc before ++ front ++ Text.trim member ++ back ++ [' ', 'a', 's', ' '] ++ (type ++ behind)
          = before ++ ((front ++ Text.trim member ++ back) ++ [' ', 'a', 's', ' '] ++ type)
              ++ behind := by simp only [List.append_assoc]
        _ = before ++ Text.trim cs ++ behind := by
          rw [← hmember, ← Text.eq_append_of_splitFirst hsplit]
        _ = cs := hcs.symm
    rwa [hchars, Text.trim_append hbehind] at hparses

/-- **The reader reads the grammar**, so a text holds at most one member and type. -/
theorem parses_iff : Parses cs parts ↔ read cs = parts ∧ parts.isWellFormed = true := by
  constructor
  · intro h
    exact ⟨h.read, h.isWellFormed⟩
  · rintro ⟨rfl, hformed⟩
    have hname := (Bool.and_eq_true_iff.1 hformed).1
    exact parses_read (Text.isIdentifier_iff.1 hname)

theorem parses_read_iff : (∃ parts, Parses cs parts) ↔ (read cs).isWellFormed = true := by
  constructor
  · rintro ⟨parts, h⟩
    obtain ⟨rfl, hformed⟩ := parses_iff.1 h
    exact hformed
  · intro hformed
    exact ⟨read cs, parses_iff.2 ⟨rfl, hformed⟩⟩

end SelectorText

namespace Selector

/-! ## What a text selects -/

/-- What becomes of a member and a type that a text of the grammar holds. -/
inductive Selects (e : Entity) : SelectorText → Except DeclarationError Selection → Prop
  /-- The member is looked for before its type is. -/
  | unknown {parts : SelectorText} (h : ∀ m ∈ e.members, m.name ≠ String.ofList parts.member) :
    Selects e parts (.error (.unknownMember e.typeName (String.ofList parts.member)))
  | declared {name : List Char} {m : Member} {tag : TypeTag}
      (hm : e.member? (String.ofList name) = some m)
      (htag : TypeTag.ofWritten? m.typeText.toList = some tag) :
    Selects e ⟨name, none⟩ (.ok ⟨String.ofList name, tag⟩)
  | undeclared {name : List Char} {m : Member} (hm : e.member? (String.ofList name) = some m)
      (htag : TypeTag.ofWritten? m.typeText.toList = none) :
    Selects e ⟨name, none⟩ (.error (.unsupportedType (Text.trimmed m.typeText)))
  | written {name type : List Char} {m : Member} {tag : TypeTag}
      (hm : e.member? (String.ofList name) = some m) (htag : TypeTag.ofWritten? type = some tag) :
    Selects e ⟨name, some type⟩ (.ok ⟨String.ofList name, tag⟩)
  /-- The name of a tag counts if the text is no written type. -/
  | tagName {name type : List Char} {m : Member} {tag : TypeTag}
      (hm : e.member? (String.ofList name) = some m) (hwritten : TypeTag.ofWritten? type = none)
      (htag : TypeTag.parse? (String.ofList type) = some tag) :
    Selects e ⟨name, some type⟩ (.ok ⟨String.ofList name, tag⟩)
  | unknownType {name type : List Char} {m : Member}
      (hm : e.member? (String.ofList name) = some m) (hwritten : TypeTag.ofWritten? type = none)
      (htag : TypeTag.parse? (String.ofList type) = none) :
    Selects e ⟨name, some type⟩ (.error (.unsupportedType (String.ofList type)))

variable {e : Entity} {expression : String} {parts : SelectorText}

theorem member?_eq_none_iff {name : String} :
    e.member? name = none ↔ ∀ m ∈ e.members, m.name ≠ name := by
  simp [Entity.member?]

theorem exists_selects (e : Entity) (parts : SelectorText) : ∃ outcome, Selects e parts outcome := by
  obtain ⟨name, cast⟩ := parts
  cases hm : e.member? (String.ofList name) with
  | none => exact ⟨_, .unknown (member?_eq_none_iff.1 hm)⟩
  | some m =>
    cases cast with
    | none =>
      cases htag : TypeTag.ofWritten? m.typeText.toList with
      | none => exact ⟨_, .undeclared hm htag⟩
      | some tag => exact ⟨_, .declared hm htag⟩
    | some type =>
      cases hwritten : TypeTag.ofWritten? type with
      | some tag => exact ⟨_, .written hm hwritten⟩
      | none =>
        cases htag : TypeTag.parse? (String.ofList type) with
        | none => exact ⟨_, .unknownType hm hwritten htag⟩
        | some tag => exact ⟨_, .tagName hm hwritten htag⟩

theorem resolve_selects (h : SelectorText.Parses expression.toList parts)
    {outcome : Except DeclarationError Selection} (hselects : Selects e parts outcome)
    (table : String) : (text expression).resolve e table = outcome := by
  obtain ⟨hread, hformed⟩ := SelectorText.parses_iff.1 h
  have htrim := h.trim_cast
  simp only [resolve, resolveText, hread, if_pos hformed]
  cases hselects with
  | unknown hm => simp only [member?_eq_none_iff.2 hm]
  | declared hm htag =>
    simp only [hm, TypeTag.ofFieldType, htag]
    rfl
  | undeclared hm htag =>
    simp only [hm, TypeTag.ofFieldType, htag]
    rfl
  | written hm htag =>
    simp only [hm, SelectorText.castTag, String.toList_ofList, htag]
    rfl
  | tagName hm hwritten htag =>
    simp only [hm, SelectorText.castTag, String.toList_ofList, hwritten, TypeTag.ofTagText, htag]
    rfl
  | @unknownType name type m hm hwritten htag =>
    have htext : Text.trimmed (String.ofList type) = String.ofList type := by
      rw [Text.trimmed, String.toList_ofList, htrim type rfl]
    simp only [hm, SelectorText.castTag, String.toList_ofList, hwritten, TypeTag.ofTagText, htag,
      htext]
    rfl

theorem resolve_text_iff (h : SelectorText.Parses expression.toList parts) (table : String)
    {outcome : Except DeclarationError Selection} :
    (text expression).resolve e table = outcome ↔ Selects e parts outcome := by
  constructor
  · rintro rfl
    obtain ⟨outcome, hselects⟩ := exists_selects e parts
    rwa [resolve_selects h hselects table]
  · intro hselects
    exact resolve_selects h hselects table

theorem resolve_text_of_not_parses (h : ¬ ∃ parts, SelectorText.Parses expression.toList parts)
    (e : Entity) (table : String) : (text expression).resolve e table
      = .error (.unsupportedSelector table (Text.trimmed expression)) := by
  rw [SelectorText.parses_read_iff] at h
  simp only [resolve, resolveText, if_neg h]

/-- **A selector text is accepted exactly if it is in the grammar**, and its parts alone say what it
selects. -/
theorem resolve_text (e : Entity) (table expression : String) :
    ((∃ t s, (text expression).resolve e table = .error (.unsupportedSelector t s)) ↔
      ¬ ∃ parts, SelectorText.Parses expression.toList parts) ∧
    -- The text is named without the blanks around it.
    (∀ t s, (text expression).resolve e table = .error (.unsupportedSelector t s) →
      t = table ∧ s = Text.trimmed expression) ∧
    -- It is never an announced type that is missing.
    (SelectorText.read expression.toList).cast ≠ some [] ∧
    ∀ parts, SelectorText.Parses expression.toList parts →
      (∀ parts', SelectorText.Parses expression.toList parts' → parts' = parts) ∧
      (∀ outcome, (text expression).resolve e table = outcome ↔ Selects e parts outcome) ∧
      -- Another text with these parts selects the same.
      ∀ expression', SelectorText.Parses expression'.toList parts →
        (text expression').resolve e table = (text expression).resolve e table := by
  -- what becomes of a text of the grammar is never this error
  have hrefused : ∀ t s, (text expression).resolve e table = .error (.unsupportedSelector t s) →
      ¬ ∃ parts, SelectorText.Parses expression.toList parts := by
    rintro t s herror ⟨parts, hparses⟩
    cases (resolve_text_iff hparses table).1 herror
  refine ⟨⟨?_, ?_⟩, ?_, SelectorText.cast_read expression.toList, ?_⟩
  · rintro ⟨t, s, herror⟩
    exact hrefused t s herror
  · intro h
    exact ⟨table, Text.trimmed expression, resolve_text_of_not_parses h e table⟩
  · intro t s herror
    rw [resolve_text_of_not_parses (hrefused t s herror) e table] at herror
    cases herror
    exact ⟨rfl, rfl⟩
  · intro parts hparses
    refine ⟨?_, ?_, ?_⟩
    · intro parts' hparses'
      exact hparses'.read.symm.trans hparses.read
    · intro outcome
      exact resolve_text_iff hparses table
    · intro expression' hparses'
      exact resolve_selects hparses' ((resolve_text_iff hparses table).1 rfl) table

/-- An entity whose member is called like the word in front of a type. -/
def asEntity : Entity :=
  ⟨"Row", none, [Member.plain "as" "NaiveDateTime"]⟩

theorem resolve_text_as :
    SelectorText.Parses "\tas\n as  Option<as > as Date\r".toList
      ⟨"as".toList, some "Option<as > as Date".toList⟩ ∧
    Selects asEntity ⟨"as".toList, some "Option<as > as Date".toList⟩
      (.error (.unsupportedType "Option<as > as Date")) ∧
    (text "\tas\n as  Option<as > as Date\r").resolve asEntity "rows"
      = .error (.unsupportedType "Option<as > as Date") ∧
    (text "as\tas date").resolve asEntity "rows"
      = .error (.unsupportedSelector "rows" "as\tas date") := by
  have hparses : SelectorText.Parses "\tas\n as  Option<as > as Date\r".toList
      ⟨"as".toList, some "Option<as > as Date".toList⟩ :=
    SelectorText.parses_iff.2 (by decide +kernel)
  obtain ⟨-, -, -, hparts⟩ := resolve_text asEntity "rows" "\tas\n as  Option<as > as Date\r"
  obtain ⟨-, houtcome, -⟩ := hparts _ hparses
  have hselects : Selects asEntity ⟨"as".toList, some "Option<as > as Date".toList⟩
      (.error (.unsupportedType "Option<as > as Date")) :=
    .unknownType (m := Member.plain "as" "NaiveDateTime") rfl
      (TypeTag.ofWritten?_of_unread (by decide)) (by decide)
  have hnot : ¬ ∃ parts, SelectorText.Parses "as\tas date".toList parts := by
    rw [SelectorText.parses_read_iff]
    decide +kernel
  exact ⟨hparses, hselects, (houtcome _).2 hselects,
    resolve_text_of_not_parses hnot asEntity "rows"⟩

end Selector

end Schemata
