import Schemata.Proofs.Statement.Definitions
import Schemata.Proofs.Statement.Lexical

/-!
# Types and clauses

What the built-in dialects write behind a quoted name: a type, then perhaps that the column is the key,
that it refuses null, and that it is numbered. No type has a word that begins a clause
(`isTypeText_spellColumn`), and every clause begins with one, so the words show where the type ends.
-/

namespace Schemata

namespace Outline

/-! ## Texts of types -/

/-- Whether a text may stand as a type: its parentheses are closed and no word of it begins a clause. -/
def isTypeText (cs : List Char) : Bool :=
  isEnclosed 0 cs && (Text.splitAll ' ' cs).all fun word => !isClauseWord word

theorem isEnclosed_of_plain {cs : List Char} (h : ∀ c ∈ cs, c ≠ '(' ∧ c ≠ ')' ∧ c ≠ ',') :
    isEnclosed 0 cs = true := by
  induction cs with
  | nil => rfl
  | cons c cs ih =>
    obtain ⟨hopen, hclose, hcomma⟩ := h c List.mem_cons_self
    have hcs := ih fun d hd => h d (List.mem_cons_of_mem c hd)
    simp [isEnclosed, nest, hopen, hclose, hcomma, hcs]

theorem isDigit_ne {c : Char} (h : c.isDigit = true) :
    c ≠ '(' ∧ c ≠ ')' ∧ c ≠ ',' ∧ c ≠ ' ' := by
  refine ⟨?_, ?_, ?_, ?_⟩ <;> (rintro rfl; revert h; decide)

theorem isDigit_of_mem_toString {n : Nat} {c : Char} (h : c ∈ (toString n).toList) :
    c.isDigit = true := by
  have hc : c ∈ Nat.toDigits 10 n := by simpa [Nat.toList_repr] using h
  exact Nat.isDigit_of_mem_toDigits (by decide) (by decide) hc

theorem ne_of_mem_toString {i : Int} {c : Char} (h : c ∈ (toString i).toList) :
    c ≠ '(' ∧ c ≠ ')' ∧ c ≠ ',' ∧ c ≠ ' ' := by
  rw [Int.toString_eq_repr, Int.repr_eq_if] at h
  split at h
  · exact isDigit_ne (isDigit_of_mem_toString h)
  · rw [String.toList_append, List.mem_append] at h
    rcases h with h | h
    · obtain rfl : c = '-' := by simpa using h
      decide
    · exact isDigit_ne (isDigit_of_mem_toString h)

/-- Whether a name may stand in front of a length: it is free of punctuation, and neither it nor what
it may grow into begins a clause. -/
def isStem (cs : List Char) : Bool :=
  (cs.all fun c => c != '(' && c != ')' && c != ',' && c != ' ')
    && clauseStarts.all fun start => !start.toList.isPrefixOf cs && !cs.isPrefixOf start.toList

theorem isClauseWord_append {cs : List Char} (h : isStem cs = true) (tail : List Char) :
    isClauseWord (cs ++ tail) = false := by
  simp only [isStem, Bool.and_eq_true, List.all_eq_true, Bool.not_eq_true'] at h
  simp only [isClauseWord, List.any_eq_false]
  intro start hstart hprefix
  obtain ⟨hshort, hlong⟩ := h.2 start hstart
  rcases List.prefix_or_prefix_of_prefix (List.isPrefixOf_iff_prefix.1 hprefix)
    (List.prefix_append cs tail) with hp | hp
  · rw [List.isPrefixOf_iff_prefix.2 hp] at hshort
    cases hshort
  · rw [List.isPrefixOf_iff_prefix.2 hp] at hlong
    cases hlong

theorem isTypeText_withLength {stem : String} (hstem : isStem stem.toList = true) (n : Nat) :
    isTypeText (Spelling.withLength stem n).text.toList = true := by
  have htext : (Spelling.withLength stem n).text.toList
      = stem.toList ++ '(' :: ((toString n).toList ++ [')']) := by
    simp [Spelling.text]
  have hplain : ∀ c ∈ stem.toList, c ≠ '(' ∧ c ≠ ')' ∧ c ≠ ',' ∧ c ≠ ' ' := by
    simp only [isStem, Bool.and_eq_true, List.all_eq_true, bne_iff_ne] at hstem
    intro c hc
    obtain ⟨⟨⟨hopen, hclose⟩, hcomma⟩, hblank⟩ := hstem.1 c hc
    exact ⟨hopen, hclose, hcomma, hblank⟩
  have hdigits : ∀ c ∈ (toString n).toList, c ≠ '(' ∧ c ≠ ')' ∧ c ≠ ',' ∧ c ≠ ' ' :=
    fun c hc => isDigit_ne (isDigit_of_mem_toString hc)
  have henclosed : isEnclosed 0 (Spelling.withLength stem n).text.toList = true := by
    rw [htext]
    refine isEnclosed_append
      (isEnclosed_of_plain fun c hc => ⟨(hplain c hc).1, (hplain c hc).2.1, (hplain c hc).2.2.1⟩) ?_
    exact isEnclosed_parenthesized fun c hc => ⟨(hdigits c hc).1, (hdigits c hc).2.1⟩
  have hblank : ' ' ∉ (Spelling.withLength stem n).text.toList := by
    rw [htext]
    intro hmem
    simp only [List.mem_append, List.mem_cons, Char.reduceEq, List.not_mem_nil, or_false,
      false_or] at hmem
    rcases hmem with hmem | hmem
    · exact (hplain _ hmem).2.2.2 rfl
    · exact (hdigits _ hmem).2.2.2 rfl
  rw [isTypeText, henclosed, Text.splitAll_of_not_mem hblank, htext]
  simp [isClauseWord_append hstem]

/-- Whether every spelling of a type may stand as a type. -/
def hasTypeTexts : SqlType → Bool
  | .plain text => isTypeText text.toList
  | .sized t =>
    ([t.unspecified, t.unbounded, t.keyDefault].all fun s => isTypeText s.text.toList)
      && isStem t.stem.toList

theorem isTypeText_spell {type : SqlType} (h : hasTypeTexts type = true)
    {maxLength : Option UInt32} {keyed : Bool} {s : Spelling}
    (hs : type.spell maxLength keyed = some s) : isTypeText s.text.toList = true := by
  have hcases := SqlType.spell_cases hs
  cases type with
  | plain text =>
    obtain rfl : s = .word text := hcases
    exact h
  | sized t =>
    simp only [hasTypeTexts, List.all_cons, List.all_nil, Bool.and_true, Bool.and_eq_true] at h
    obtain ⟨⟨hunspecified, hunbounded, hkey⟩, hstem⟩ := h
    have hsized : s = t.unspecified ∨ s = t.unbounded ∨ s = t.keyDefault
        ∨ ∃ n, s = .withLength t.stem n := hcases
    rcases hsized with rfl | rfl | rfl | ⟨n, rfl⟩
    · exact hunspecified
    · exact hunbounded
    · exact hkey
    · exact isTypeText_withLength hstem n

theorem hasTypeTexts_sqlType {b : Backend} {tag : TypeTag} {type : SqlType}
    (h : b.dialect.sqlType tag = some type) : hasTypeTexts type = true := by
  have table : (TypeTag.all.all fun tag => (b.dialect.sqlType tag).all hasTypeTexts) = true := by
    cases b <;> decide +kernel
  simpa [h] using List.all_eq_true.1 table tag tag.mem_all

theorem isTypeText_spellColumn {b : Backend} {t : Table} {c : Column} {s : Spelling}
    (h : b.dialect.spellColumn t c = .ok s) : isTypeText s.text.toList = true := by
  obtain ⟨type, htype, hspell⟩ := Dialect.spellColumn_ok h
  exact isTypeText_spell (hasTypeTexts_sqlType htype) hspell

/-! ## Clauses -/

/-- A text behind a type: it adds words to what stands before it, the first of them begins a clause,
and together they say whether the column is the key and whether it refuses null. -/
structure IsClause (text : List Char) (words : List (List Char)) (isKey notNull : Bool) : Prop where
  enclosed : isEnclosed 0 text = true
  splits : ∀ before, Text.splitAll ' ' (before ++ text) = Text.splitAll ' ' before ++ words
  leads : ∀ word ∈ words.head?, isClauseWord word = true
  key : words.contains "PRIMARY".toList = isKey
  null : words.contains "NOT".toList = notNull

namespace IsClause

theorem empty : IsClause [] [] false false :=
  ⟨rfl, by simp, by simp, rfl, rfl⟩

theorem blank {text : List Char} {words : List (List Char)} {isKey notNull : Bool}
    (henclosed : isEnclosed 0 text = true) (hwords : Text.splitAll ' ' text = words)
    (hleads : ∀ word ∈ words.head?, isClauseWord word = true)
    (hkey : words.contains "PRIMARY".toList = isKey)
    (hnull : words.contains "NOT".toList = notNull) :
    IsClause (' ' :: text) words isKey notNull :=
  ⟨by simp [isEnclosed, nest, henclosed],
    fun before => hwords ▸ Text.splitAll_append ' ' before text, hleads, hkey, hnull⟩

theorem append {text text' : List Char} {words words' : List (List Char)}
    {isKey isKey' notNull notNull' : Bool} (h : IsClause text words isKey notNull)
    (h' : IsClause text' words' isKey' notNull') :
    IsClause (text ++ text') (words ++ words') (isKey || isKey') (notNull || notNull') := by
  refine ⟨isEnclosed_append h.enclosed h'.enclosed, fun before => ?_, fun word hword => ?_, ?_, ?_⟩
  · rw [← List.append_assoc, h'.splits, h.splits, List.append_assoc]
  · cases words with
    | nil => exact h'.leads word hword
    | cons first words => exact h.leads word hword
  · rw [List.contains_append, h.key, h'.key]
  · rw [List.contains_append, h.null, h'.null]

end IsClause

theorem isClause_keyClause (b : Backend) (c : Column) :
    ∃ words, IsClause (" " ++ b.dialect.keyClause c).toList words true false := by
  have plain : IsClause " PRIMARY KEY".toList ["PRIMARY".toList, "KEY".toList] true false :=
    .blank (by decide) (by decide) (by decide) (by decide) (by decide)
  cases b with
  | sqlServer => exact ⟨_, plain⟩
  | mySql => exact ⟨_, plain⟩
  | sqlite =>
    have numbered : IsClause " PRIMARY KEY AUTOINCREMENT".toList
        ["PRIMARY".toList, "KEY".toList, "AUTOINCREMENT".toList] true false :=
      .blank (by decide) (by decide) (by decide) (by decide) (by decide)
    simp only [Backend.dialect, Dialect.sqlite, Dialect.Sqlite.keyClause]
    split
    · exact ⟨_, numbered⟩
    · exact ⟨_, plain⟩

theorem isClause_nullClause {c : Column} (h : c.refusesNull = true → c.defaultValue = none) :
    ∃ words, IsClause (Dialect.nullClause c).toList words false c.refusesNull := by
  cases hc : c.refusesNull with
  | false =>
    have hempty : Dialect.nullClause c = "" := by
      simp only [Column.refusesNull, Bool.and_eq_false_iff, Bool.not_eq_false'] at hc
      simp only [Dialect.nullClause, Bool.or_eq_true, if_pos hc]
    rw [hempty]
    exact ⟨[], .empty⟩
  | true =>
    have hnotNull : Dialect.nullClause c = " NOT NULL" := by
      have hdefault := h hc
      simp only [Column.refusesNull, Bool.and_eq_true, Bool.not_eq_true'] at hc
      simp [Dialect.nullClause, hc.1, hc.2, hdefault]
    rw [hnotNull]
    exact ⟨["NOT".toList, "NULL".toList],
      .blank (by decide) (by decide) (by decide) (by decide) (by decide)⟩

theorem isClause_identity (a : AutoIncrement) :
    ∃ words, IsClause (" " ++ Dialect.SqlServer.incrementClause a).toList words false false := by
  have hword : (Dialect.SqlServer.incrementClause a).toList = "IDENTITY".toList
      ++ '(' :: (((toString a.seed.toInt).toList ++ ',' :: (toString a.step.toInt).toList) ++ [')'])
      := by
    simp [Dialect.SqlServer.incrementClause]
  have hinside : ∀ c ∈ (toString a.seed.toInt).toList ++ ',' :: (toString a.step.toInt).toList,
      c ≠ '(' ∧ c ≠ ')' ∧ c ≠ ' ' := by
    intro c hc
    simp only [List.mem_append, List.mem_cons] at hc
    rcases hc with hc | rfl | hc
    · obtain ⟨hopen, hclose, -, hblank⟩ := ne_of_mem_toString hc
      exact ⟨hopen, hclose, hblank⟩
    · decide
    · obtain ⟨hopen, hclose, -, hblank⟩ := ne_of_mem_toString hc
      exact ⟨hopen, hclose, hblank⟩
  have hblank : ' ' ∉ (Dialect.SqlServer.incrementClause a).toList := by
    rw [hword]
    intro hmem
    rcases List.mem_append.1 hmem with hmem | hmem
    · revert hmem
      decide
    · rcases List.mem_cons.1 hmem with hmem | hmem
      · cases hmem
      · rcases List.mem_append.1 hmem with hmem | hmem
        · exact (hinside _ hmem).2.2 rfl
        · revert hmem
          decide
  rw [String.toList_append]
  refine ⟨_, .blank ?_ (Text.splitAll_of_not_mem hblank) ?_ ?_ ?_⟩
  · rw [hword]
    exact isEnclosed_append (by decide)
      (isEnclosed_parenthesized fun c hc => ⟨(hinside c hc).1, (hinside c hc).2.1⟩)
  · rw [hword]
    rintro _ ⟨⟩
    rfl
  · rw [hword]
    rfl
  · rw [hword]
    rfl

theorem isClause_numberClause (b : Backend) (c : Column) :
    ∃ words, IsClause (b.dialect.numberClause c).toList words false false := by
  simp only [Dialect.numberClause]
  cases c.autoIncrement with
  | none => exact ⟨[], .empty⟩
  | some a =>
    cases b with
    | sqlServer => exact isClause_identity a
    | mySql =>
      have hword : IsClause " AUTO_INCREMENT".toList ["AUTO_INCREMENT".toList] false false :=
        .blank (by decide) (by decide) (by decide) (by decide) (by decide)
      exact ⟨_, hword⟩
    | sqlite => exact ⟨[], .empty⟩

end Outline

end Schemata
