import Schemata.Proofs.Text.Identifier
import Schemata.Proofs.Type.Reading
import Schemata.Schema.Session

/-!
# Selector texts

A selector text may have blanks around the member and around the type behind ` as `. They do not count:
`SelectorText.read_member` and `SelectorText.read_cast` take such a text apart. Behind ` as ` may stand
the name of a tag, in any ASCII case, although a written type is looked for first.
`SelectorText.castTag_of_eqIgnoreCase` says when the two readings differ: the name `DateTime`, in
exactly this spelling, is a written type with another tag.

So a column that a text declares is the one that the member's name and a tag declare
(`Session.step_text`), up to this one name.
-/

namespace Schemata

/-! ## Names of tags -/

namespace TypeTag

theorem eq_of_eqIgnoreCase {tag tag' : TypeTag} (h : Text.eqIgnoreCase tag.name tag'.name = true) :
    tag = tag' := by
  have hall : ∀ tag ∈ all, ∀ tag' ∈ all, Text.eqIgnoreCase tag.name tag'.name = true → tag = tag' := by
    decide +kernel
  exact hall tag (mem_all tag) tag' (mem_all tag') h

theorem parse?_of_eqIgnoreCase {tag : TypeTag} {name : String} (htrim : Text.trimmed name = name)
    (h : Text.eqIgnoreCase tag.name name = true) : parse? name = some tag := by
  rw [parse?, htrim]
  cases hfind : all.find? fun tag => Text.eqIgnoreCase tag.name name with
  | none => exact absurd h (List.find?_eq_none.1 hfind tag (mem_all tag))
  | some tag' =>
    have htag' : Text.eqIgnoreCase tag'.name name = true :=
      List.find?_some (p := fun tag : TypeTag => Text.eqIgnoreCase tag.name name) hfind
    rw [Text.eqIgnoreCase_comm] at h
    rw [eq_of_eqIgnoreCase (Text.eqIgnoreCase_trans htag' h)]

/-- A written type that is also the name of a tag has this tag, unless it is `DateTime`. -/
theorem plainTypes_agree : ∀ row ∈ plainTypes, ∀ tag ∈ all, Text.eqIgnoreCase tag.name row.1 = true →
    row.2 = if row.1 = "DateTime" then dateTimeWithOffset else tag := by
  decide +kernel

/-- A case variant of a tag's name is a word of letters and digits. -/
theorem word_of_eqIgnoreCase {tag : TypeTag} {name : String}
    (h : Text.eqIgnoreCase tag.name name = true) :
    name.toList ≠ [] ∧ ∀ c ∈ name.toList, c.toLower.isAlphanum = true := by
  have hall : ∀ tag ∈ all, tag.name.toList.map Char.toLower ≠ [] ∧
      (tag.name.toList.map Char.toLower).all Char.isAlphanum = true := by
    decide +kernel
  have hname := hall tag (mem_all tag)
  rw [Text.eqIgnoreCase_iff.1 h] at hname
  refine ⟨fun hnil => hname.1 (by rw [hnil]; rfl), fun c hc => ?_⟩
  exact List.all_eq_true.1 hname.2 c.toLower (List.mem_map_of_mem hc)

end TypeTag

namespace Text

/-- A text of blanks. -/
structure Blanks where
  chars : List Char
  blank : ∀ c ∈ chars, isBlank c = true

/-- A word with blanks around it. -/
def padded (before : Blanks) (word : String) (behind : Blanks) : List Char :=
  before.chars ++ word.toList ++ behind.chars

end Text

namespace SelectorText

open TypeTag

/-- **The type that a tag's name announces**, in any case, is that tag, unless the name is exactly that
of the written type `DateTime`. -/
theorem castTag_of_eqIgnoreCase {tag : TypeTag} {name : String}
    (h : Text.eqIgnoreCase tag.name name = true) :
    castTag name = .ok (if name = "DateTime" then .dateTimeWithOffset else tag) := by
  obtain ⟨-, hchars⟩ := word_of_eqIgnoreCase h
  have hblank : ∀ c ∈ name.toList, Text.isBlank c = false :=
    fun c hc => Text.not_isBlank_of_toLower (hchars c hc)
  have hsymbol : ∀ {c : Char}, c.toLower.isAlphanum = false → c ∉ name.toList :=
    fun hc hmem => absurd (hchars _ hmem) (by simp [hc])
  have hplain : ofWritten? name.toList = ofPlain? name.toList :=
    ofWritten?_name hblank (hsymbol (by decide)) (hsymbol (by decide)) (hsymbol (by decide))
  rw [castTag, hplain, ofPlain?]
  cases hfind : plainTypes.find? fun row => row.1.toList == name.toList with
  | some row =>
    have hrow : row.1 = name := by
      have := List.find?_some hfind
      exact String.toList_injective (beq_iff_eq.1 this)
    have hagree := plainTypes_agree row (List.mem_of_find?_eq_some hfind) tag (mem_all tag)
    rw [hrow] at hagree
    rw [Option.map_some, hagree h]
  | none =>
    have hne : name ≠ "DateTime" := by
      rintro rfl
      exact absurd hfind (by decide)
    have htrim : Text.trimmed name = name := by
      rw [Text.trimmed, Text.trim_of_forall hblank, String.ofList_toList]
    rw [Option.map_none, ofTagText, parse?_of_eqIgnoreCase htrim h, if_neg hne]

/-! ## Texts with blanks around their parts -/

/-- A selector text with a type behind ` as `. -/
def casting (member cast : List Char) : String :=
  String.ofList (member ++ [' ', 'a', 's', ' '] ++ cast)

theorem read_member {name : List Char} (hname : ∀ c ∈ name, Text.isBlank c = false)
    (p q : Text.Blanks) : read (p.chars ++ name ++ q.chars) = ⟨name, none⟩ := by
  have htrim : Text.trim (p.chars ++ name ++ q.chars) = name := Text.trim_word p.blank q.blank hname
  have hsplit : Text.splitFirst [' ', 'a', 's', ' '] name = none :=
    Text.splitFirst_of_not_mem fun hmem => absurd (hname ' ' hmem) (by decide)
  simp only [read, htrim, hsplit]

/-- A text is taken apart at the first ` as ` behind the member, whatever follows it. -/
theorem read_cast {name type : List Char} (hname : ∀ c ∈ name, Text.isBlank c = false)
    (hname₀ : name ≠ []) (htype : Text.trim type ≠ []) (p q : Text.Blanks) :
    read (p.chars ++ name ++ q.chars ++ [' ', 'a', 's', ' '] ++ type)
      = ⟨name, some (Text.trim type)⟩ := by
  obtain ⟨before, behind, htext, hbefore, hbehind⟩ := Text.exists_padding type
  -- what stands between the first character of the member and the last one of the type
  have hwhole : Text.trim (p.chars ++ name ++ q.chars ++ [' ', 'a', 's', ' '] ++ type)
      = name ++ q.chars ++ [' ', 'a', 's', ' '] ++ (before ++ Text.trim type) := by
    have hhead : ∀ c ∈ (name ++ q.chars ++ [' ', 'a', 's', ' '] ++ (before ++ Text.trim type)).head?,
        Text.isBlank c = false := by
      obtain ⟨d, name, rfl⟩ := List.exists_cons_of_ne_nil hname₀
      rintro c ⟨⟩
      exact hname d List.mem_cons_self
    have hlast : ∀ c ∈ (name ++ q.chars ++ [' ', 'a', 's', ' ']
        ++ (before ++ Text.trim type)).getLast?, Text.isBlank c = false := by
      intro c hc
      have hend := List.getLast?_eq_some_getLast htype
      rw [← List.append_assoc, List.getLast?_append, hend, Option.some_or, ← hend] at hc
      exact Text.not_isBlank_getLast c hc
    have hchars := congrArg (p.chars ++ name ++ q.chars ++ [' ', 'a', 's', ' '] ++ ·) htext
    have htrim := Text.trim_padded p.blank hbehind hhead hlast
    rw [← htrim]
    apply congrArg Text.trim
    simpa only [List.append_assoc] using hchars
  have hsplit := @Text.splitFirst_append_blanks ' ' 'a' ['s', ' '] _ _ rfl rfl hname q.blank
    (before ++ Text.trim type)
  have hmember : Text.trim (name ++ q.chars) = name :=
    @Text.trim_word [] q.chars name (by simp) q.blank hname
  have hcast : Text.trim (before ++ Text.trim type) = Text.trim type := by
    simpa using @Text.trim_padded_trim before [] hbefore (by simp) type
  simp only [read, hwhole, hsplit, hmember, hcast]

end SelectorText

/-! ## Columns that a text declares -/

namespace Selector

variable {e : Entity} {m : Member}

theorem resolve_padded {name : String} (hm : e.member? name = some m)
    (hname : Text.isPlainIdentifier (Text.unraw name.toList) = true) {tag : TypeTag}
    (htag : TypeTag.ofFieldType m.typeText = .ok tag) (p q : Text.Blanks) (table : String) :
    (text (String.ofList (Text.padded p name q))).resolve e table
      = (named name tag).resolve e table := by
  have hread : SelectorText.read (Text.padded p name q) = ⟨name.toList, none⟩ :=
    SelectorText.read_member (Text.isIdentifier_iff.1 hname).blanks.2 p q
  have hformed : SelectorText.isWellFormed ⟨name.toList, none⟩ = true := by
    simp [SelectorText.isWellFormed, hname]
  simp only [resolve, resolveText, String.toList_ofList, hread, hformed, String.ofList_toList, hm,
    htag]
  rfl

theorem resolve_casting {name cast : String} (hm : e.member? name = some m)
    (hname : Text.isPlainIdentifier (Text.unraw name.toList) = true) {tag : TypeTag}
    (hcast : Text.eqIgnoreCase tag.name cast = true) (p q p' q' : Text.Blanks) (table : String) :
    (text (SelectorText.casting (Text.padded p name q) (Text.padded p' cast q'))).resolve e table
      = (named name (if cast = "DateTime" then .dateTimeWithOffset else tag)).resolve e table := by
  obtain ⟨hname₀, hnameBlank⟩ := (Text.isIdentifier_iff.1 hname).blanks
  obtain ⟨hcast₀, hchars⟩ := TypeTag.word_of_eqIgnoreCase hcast
  have hcastBlank : ∀ c ∈ cast.toList, Text.isBlank c = false :=
    fun c hc => Text.not_isBlank_of_toLower (hchars c hc)
  have htrim : Text.trim (Text.padded p' cast q') = cast.toList :=
    Text.trim_word p'.blank q'.blank hcastBlank
  have hread : SelectorText.read
      (SelectorText.casting (Text.padded p name q) (Text.padded p' cast q')).toList
      = ⟨name.toList, some cast.toList⟩ := by
    rw [SelectorText.casting, String.toList_ofList, Text.padded,
      SelectorText.read_cast hnameBlank hname₀ (by rwa [htrim]) p q, htrim]
  have hformed : SelectorText.isWellFormed ⟨name.toList, some cast.toList⟩ = true := by
    simp [SelectorText.isWellFormed, hname, hcast₀]
  simp only [resolve, resolveText, hread, hformed, String.ofList_toList, hm,
    SelectorText.castTag_of_eqIgnoreCase hcast]
  rfl

end Selector

/-- What a selector declares depends on what it stands for only. -/
theorem Schema.withColumn_congr {s : Schema} {h : TableHandle} {σ τ : Selector}
    (hresolve : ∀ table, σ.resolve h.entity table = τ.resolve h.entity table)
    (settings : List Setting) : s.withColumn h σ settings = s.withColumn h τ settings := by
  unfold withColumn
  cases s.table? h with
  | none => rfl
  | some t => simp only [hresolve]

namespace Session

theorem step_withColumn_congr {s : Session} {n : Nat} {h : TableHandle} {σ τ : Selector}
    (hh : s.tables[n]? = some h)
    (hresolve : ∀ table, σ.resolve h.entity table = τ.resolve h.entity table)
    (settings : List Setting) :
    s.step (.withColumn n σ settings) = s.step (.withColumn n τ settings) := by
  simp only [step, hh, Schema.withColumn_congr hresolve]

/-- **A selector text declares the column that the member's name and a tag declare**, with any blanks
around its words: the answer is the same, and so is the session behind it. -/
theorem step_text {s : Session} {n : Nat} {h : TableHandle} {name : String} {m : Member}
    (hh : s.tables[n]? = some h) (hm : h.entity.member? name = some m)
    (hname : Text.isPlainIdentifier (Text.unraw name.toList) = true) (p q : Text.Blanks)
    (settings : List Setting) :
    -- Behind ` as `, the name of a tag stands for this tag in any case, unless it is spelled as the
    -- written type `DateTime`.
    (∀ (tag : TypeTag) (cast : String) (p' q' : Text.Blanks),
      Text.eqIgnoreCase tag.name cast = true →
      s.step (.withColumn n
          (.text (SelectorText.casting (Text.padded p name q) (Text.padded p' cast q'))) settings)
        = s.step (.withColumn n
          (.named name (if cast = "DateTime" then .dateTimeWithOffset else tag)) settings)) ∧
    -- Without a cast, the tag is that of the declared type.
    ∀ tag, TypeTag.ofFieldType m.typeText = .ok tag →
      s.step (.withColumn n (.text (String.ofList (Text.padded p name q))) settings)
        = s.step (.withColumn n (.named name tag) settings) := by
  constructor
  · intro tag cast p' q' hcast
    exact step_withColumn_congr hh (Selector.resolve_casting hm hname hcast p q p' q') settings
  · intro tag htag
    exact step_withColumn_congr hh (Selector.resolve_padded hm hname htag p q) settings

/-- A session with a table for an event. -/
def eventSession : Session :=
  ((start .snakeCase).step
    (.defineTable ⟨"Event", none, [Member.plain "startsAt" "NaiveDateTime"]⟩ none)).2

theorem step_text_event :
    eventSession.tables[0]?
      = some ⟨⟨"Event", none, [Member.plain "startsAt" "NaiveDateTime"]⟩, 0⟩ ∧
    eventSession.step (.withColumn 0 (.text "\tstartsAt   as  dATEtIME ") [.unique])
      = eventSession.step (.withColumn 0 (.named "startsAt" .dateTime) [.unique]) ∧
    eventSession.step (.withColumn 0 (.text "\tstartsAt  ") [.unique])
      = eventSession.step (.withColumn 0 (.named "startsAt" .dateTime) [.unique]) := by
  have htable : eventSession.tables[0]?
      = some ⟨⟨"Event", none, [Member.plain "startsAt" "NaiveDateTime"]⟩, 0⟩ := rfl
  have hname : Text.isPlainIdentifier (Text.unraw "startsAt".toList) = true := by decide +kernel
  obtain ⟨hcast, hplain⟩ := step_text htable rfl hname
    ⟨['\t'], List.all_eq_true.1 rfl⟩ ⟨[' ', ' '], List.all_eq_true.1 rfl⟩ [.unique]
  have hblank : ∀ c ∈ [' '], Text.isBlank c = true := List.all_eq_true.1 rfl
  exact ⟨htable, hcast .dateTime "dATEtIME" ⟨[' '], hblank⟩ ⟨[' '], hblank⟩ (by decide),
    hplain .dateTime (TypeTag.ofFieldType_of_written (by decide +kernel))⟩

/-- The name of the tag for points in time without an offset, as it is written, stands for the tag with
an offset. -/
theorem step_text_dateTime :
    Text.eqIgnoreCase TypeTag.dateTime.name "DateTime" = true ∧
    (eventSession.step (.withColumn 0 (.text "startsAt as DateTime") [])).2.column? 0
      = some (Column.plain "starts_at" .dateTimeWithOffset) ∧
    (eventSession.step (.withColumn 0 (.named "startsAt" .dateTime) [])).2.column? 0
      = some (Column.plain "starts_at" .dateTime) := by
  decide +kernel

end Session

end Schemata
