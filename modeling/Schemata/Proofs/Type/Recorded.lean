import Schemata.Proofs.Record.Lexer
import Schemata.Proofs.Type.Opening
import Schemata.Proofs.Type.Written

/-!
# The recorded text of a type and its tokens

A type is recorded with its blanks collapsed. The tag that is read off it depends on blanks at one place
only: the blank behind the lifetime of a reference ends that lifetime. If the type behind it begins with
an angle bracket or a path separator, that blank is collapsed away, and the type is `crowded?`. Any
other type is read off its recorded text as off its tokens with blanks between them (`read?_typeText`).
Of a crowded one, the recorded text is read from the next blank on (`read?_typeText_crowded`).
-/

namespace Schemata.Record

/-! ## The first character of a type -/

/-- A token that a type may begin with, by its first character. -/
structure Token.Leads (t : Token) (c : Char) : Prop where
  spelling : ∃ cs, t.spelling = c :: cs
  isSpaced : ∀ l, (Token.lifetime l).isSpaced t = true
  not_isBlank : Text.isBlank c = false
  not_mem : c ∉ [' ', '>', ',']
  of_mark : c ∈ ['&', ':', '<'] → ∃ joined, t = .punct c joined
  of_apostrophe : c = '\'' → ∃ l, t = .lifetime l

namespace Token.Leads

variable {t : Token} {c : Char}

theorem exists_spaced (h : t.Leads c) (more : List Token) :
    ∃ cs, Token.spaced (t :: more) = c :: cs := by
  obtain ⟨cs, hcs⟩ := h.spelling
  cases more with
  | nil => exact ⟨cs, by rw [Token.spaced, hcs]⟩
  | cons u more => exact ⟨_, by rw [Token.spaced, hcs, List.append_assoc]; rfl⟩

theorem head?_squeeze (h : t.Leads c) (more : List Token) :
    (Text.squeeze (spelled (t :: more))).head? = some c := by
  obtain ⟨cs, hcs⟩ := h.spelling
  rw [spelled_cons, hcs, List.cons_append, Text.squeeze,
    List.filter_cons_of_pos (by simp [h.not_isBlank]), List.head?_cons]

theorem name {n : List Char} (h : (Token.name n).IsWord) : ∃ c, (Token.name n).Leads c := by
  have hcontinues := Word.continues ⟨n, h⟩
  cases n with
  | nil => cases h
  | cons c cs =>
    have hsymbol : ∀ d, Text.continuesName d = false → d ≠ '#' → c ≠ d := by
      rintro d hd hmark rfl
      rcases hcontinues c List.mem_cons_self with hc | hc
      · rw [hd] at hc
        cases hc
      · exact hmark hc
    have hblank := (Word.isPath ⟨c :: cs, h⟩).not_isBlank c List.mem_cons_self
    refine ⟨c, ⟨cs, rfl⟩, fun l => rfl, hblank, ?_, ?_, ?_⟩
    · simp [hsymbol ' ' (by decide) (by decide), hsymbol '>' (by decide) (by decide),
        hsymbol ',' (by decide) (by decide)]
    · simp [hsymbol '&' (by decide) (by decide), hsymbol ':' (by decide) (by decide),
        hsymbol '<' (by decide) (by decide)]
    · exact fun heq => absurd heq (hsymbol '\'' (by decide) (by decide))

end Token.Leads

theorem Opening.exists_leads {ts type : List Token} (h : Opening ts type) (hts : ∀ t ∈ ts, t.IsWord) :
    ∃ t more c, type = t :: more ∧ t.Leads c := by
  cases h with
  | name n ts type =>
    obtain ⟨c, hc⟩ := Token.Leads.name (hts _ List.mem_cons_self)
    exact ⟨_, _, c, rfl, hc⟩
  | lifetime l ts type =>
    exact ⟨_, _, '\'', rfl, ⟨l, rfl⟩, fun _ => rfl, rfl, by decide, by simp, fun _ => ⟨l, rfl⟩⟩
  | bracket b ts type =>
    cases b <;> exact ⟨_, _, _, rfl, ⟨[], rfl⟩, fun _ => rfl, rfl, by decide, by simp, by simp⟩
  | @mark c hc joined joined' ts type =>
    have hmarks : ∀ c ∈ openingMarks, Text.isBlank c = false ∧ c ∉ [' ', '>', ','] ∧ c ≠ '\'' := by
      simp [openingMarks, Text.isBlank]
    obtain ⟨hblank, hmem, hapostrophe⟩ := hmarks c hc
    exact ⟨_, _, c, rfl, ⟨[], rfl⟩, fun _ => rfl, hblank, hmem, fun _ => ⟨joined', rfl⟩,
      fun heq => absurd heq hapostrophe⟩
  | path joined n ts type =>
    exact ⟨_, _, ':', rfl, ⟨[], rfl⟩, fun _ => rfl, rfl, by decide, fun _ => ⟨true, rfl⟩, by simp⟩

/-! ## Reading with blanks and without -/

/-- The type that a reference with a lifetime refers to, if its text begins with a separator that the
blank in front of it is collapsed with. -/
def crowded? : List Token → Option (List Token)
  | .punct '&' _ :: .lifetime _ :: .punct c joined :: rest =>
    if c = ':' ∨ c = '<' then some (.punct c joined :: rest) else none
  | _ => none

theorem spaced_labelled {t : Token} {c : Char} (h : t.Leads c) (l : List Char) (more : List Token) :
    Token.spaced (.punct '&' false :: .lifetime l :: t :: more)
      = '&' :: ' ' :: '\'' :: (l ++ ' ' :: Token.spaced (t :: more)) := by
  have hspaced : (Token.punct '&' false).isSpaced (.lifetime l) = true := rfl
  rw [Token.spaced, Token.spaced, if_pos hspaced, if_pos (h.isSpaced l)]
  simp [Token.spelling]

theorem typeText_labelled {t : Token} {c : Char} (h : t.Leads c) (l : Word) (more : List Token) :
    typeText (.punct '&' false :: .lifetime l.chars :: t :: more)
      = '&' :: '\'' :: (l.chars ++ collapse (' ' :: Token.spaced (t :: more))) := by
  rw [typeText, spaced_labelled h, collapse_label l.not_mem_symbols]

/-- With blanks around it, the lifetime does not count. -/
theorem read?_spaced_labelled {t : Token} {c : Char} (h : t.Leads c) (l : Word) (more : List Token) :
    PathType.read? (Token.spaced (.punct '&' false :: .lifetime l.chars :: t :: more))
      = PathType.ofCompact? (Text.squeeze (spelled (t :: more))) := by
  have hread := @PathType.read?_labelled [' '] l.chars (by simp [Text.isBlank]) l.isPath.not_isBlank
    (' ' :: Token.spaced (t :: more))
  rw [spaced_labelled h, ← squeeze_spaced]
  exact hread

/-- Without them, it may go on in the type behind it. -/
theorem read?_typeText_labelled {t : Token} {c : Char} (h : t.Leads c) (l : Word)
    (more : List Token) : PathType.read? (typeText (.punct '&' false :: .lifetime l.chars :: t :: more))
      = PathType.ofCompact? (Text.squeeze
        ((collapse (' ' :: Token.spaced (t :: more))).dropWhile fun c => !Text.isBlank c)) := by
  rw [typeText_labelled h]
  exact @PathType.read?_labelled [] l.chars (by simp) l.isPath.not_isBlank _

/-- A type that is not crowded keeps the blank behind the lifetime. -/
theorem collapse_spaced {l : List Char} {t : Token} {c : Char} {more : List Token} (h : t.Leads c)
    (hcrowded : crowded? (.punct '&' false :: .lifetime l :: t :: more) = none) :
    collapse (' ' :: Token.spaced (t :: more)) = ' ' :: typeText (t :: more) := by
  have hc : c ∉ [' ', ':', '<', '>', ','] := by
    have hnot := h.not_mem
    have hmark : ¬ (c = ':' ∨ c = '<') := by
      intro hc
      obtain ⟨joined, rfl⟩ := h.of_mark (by rcases hc with rfl | rfl <;> decide)
      simp [crowded?, hc] at hcrowded
    simp only [List.mem_cons, List.not_mem_nil, or_false, not_or] at hnot hmark ⊢
    exact ⟨hnot.1, hmark.1, hmark.2, hnot.2.1, hnot.2.2⟩
  obtain ⟨cs, hcs⟩ := h.exists_spaced more
  rw [typeText, hcs, collapse_blank hc]

/-- A crowded one does not. -/
theorem collapse_spaced_crowded {l : List Char} {ts type referred : List Token} (h : Opening ts type)
    (hts : ∀ t ∈ ts, t.IsWord)
    (hcrowded : crowded? (.punct '&' false :: .lifetime l :: type) = some referred) :
    referred = type ∧ collapse (' ' :: Token.spaced type) = typeText type := by
  cases h with
  | name | lifetime | bracket => cases hcrowded
  | @mark c hc joined joined' ts type =>
    simp only [crowded?, Option.ite_none_right_eq_some, Option.some.injEq] at hcrowded
    obtain ⟨rfl | rfl, rfl⟩ := hcrowded
    · exact absurd hc (by decide)
    · refine ⟨rfl, ?_⟩
      have hleads : (Token.punct '<' joined').Leads '<' :=
        ⟨⟨[], rfl⟩, fun _ => rfl, rfl, by decide, fun _ => ⟨joined', rfl⟩, by simp⟩
      obtain ⟨cs, hcs⟩ := hleads.exists_spaced type
      rw [typeText, hcs, collapse_bracket]
  | path joined n ts type =>
    refine ⟨(Option.some.inj hcrowded).symm, ?_⟩
    obtain ⟨c, hc⟩ := Token.Leads.name (hts (.name n) (by simp))
    obtain ⟨cs, hcs⟩ := hc.exists_spaced type
    have hspaced : Token.spaced (.punct ':' true :: .punct ':' false :: .name n :: type)
        = ':' :: ':' :: ' ' :: c :: cs := by
      rw [Token.spaced, Token.spaced, hcs]
      rfl
    have hseparator : c ∉ [' ', ':'] := by
      rintro hmem
      rcases List.mem_pair.1 hmem with rfl | rfl
      · exact absurd hc.not_isBlank (by decide)
      · obtain ⟨joined, heq⟩ := hc.of_mark (by decide)
        cases heq
    rw [typeText, hspaced, collapse_separator hseparator]

section Readings

variable {depth : Nat} {sums : Bool} {ts rest type : List Token}
  (hrun : (readForm depth (.type sums)).run ts = some (type, rest)) (hts : ∀ t ∈ ts, t.IsWord)
include hrun hts

/-- **A type that is not crowded is read off its recorded text** as off its tokens with blanks between
them. -/
theorem read?_typeText (hcrowded : crowded? type = none) :
    PathType.read? (typeText type) = PathType.read? (Token.spaced type) := by
  obtain ⟨t, more, c, rfl, hleads⟩ := (opens_readForm depth sums ts type rest hrun).exists_leads hts
  by_cases hc : c = '&'
  · obtain ⟨joined, rfl⟩ := hleads.of_mark (by simp [hc])
    subst hc
    obtain ⟨joined', us, rfl, hreference⟩ := exists_reference hrun
    have hus : ∀ t ∈ us, t.IsWord := fun t ht => hts t (List.mem_cons_of_mem _ ht)
    cases hreference with
    | @labelled l us type h =>
      obtain ⟨t, more, c, rfl, hleads⟩ := h.exists_leads fun t ht => hus t (List.mem_cons_of_mem _ ht)
      have hlabel : (Token.lifetime l).IsWord := hus _ List.mem_cons_self
      have hrecorded := read?_typeText_labelled hleads ⟨l, hlabel⟩ more
      rw [collapse_spaced hleads hcrowded] at hrecorded
      have hblank : Text.squeeze ((' ' :: typeText (t :: more)).dropWhile fun c => !Text.isBlank c)
          = Text.squeeze (typeText (t :: more)) := rfl
      rw [hrecorded, hblank, squeeze_typeText]
      exact (read?_spaced_labelled hleads ⟨l, hlabel⟩ more).symm
    | @plain us type h hlabel =>
      obtain ⟨t, more, c, rfl, hleads⟩ := h.exists_leads hus
      have hreference : Text.squeeze (spelled (.punct '&' false :: t :: more))
          = '&' :: Text.squeeze (spelled (t :: more)) := rfl
      have htype : (Text.squeeze (spelled (t :: more))).head? ≠ some '\'' := by
        rw [hleads.head?_squeeze]
        intro heq
        obtain ⟨l, rfl⟩ := hleads.of_apostrophe (Option.some.inj heq)
        exact hlabel l more rfl
      rw [PathType.read?_of_reference (by rw [squeeze_typeText, hreference]) htype,
        PathType.read?_of_reference (by rw [squeeze_spaced, hreference]) htype]
  · have hhead : (Text.squeeze (spelled (t :: more))).head? ≠ some '&' := by
      rw [hleads.head?_squeeze]
      exact fun heq => hc (Option.some.inj heq)
    rw [PathType.read?_of_head (by rwa [squeeze_typeText]),
      PathType.read?_of_head (by rwa [squeeze_spaced]), squeeze_typeText, squeeze_spaced]

/-- **A crowded type is read from the next blank on.** -/
theorem read?_typeText_crowded {referred : List Token} (hcrowded : crowded? type = some referred) :
    PathType.read? (Token.spaced type) = PathType.ofCompact? (Text.squeeze (typeText referred)) ∧
    PathType.read? (typeText type) = PathType.ofCompact?
      (Text.squeeze ((typeText referred).dropWhile fun c => !Text.isBlank c)) := by
  have hbegins : ∃ joined l more, type = .punct '&' joined :: .lifetime l :: more := by
    unfold crowded? at hcrowded
    split at hcrowded
    · exact ⟨_, _, _, rfl⟩
    · cases hcrowded
  obtain ⟨joined, l, type, rfl⟩ := hbegins
  obtain ⟨joined', us, rfl, hreference⟩ := exists_reference hrun
  have hus : ∀ t ∈ us, t.IsWord := fun t ht => hts t (List.mem_cons_of_mem _ ht)
  cases hreference with
  | plain h hlabel => exact absurd rfl (hlabel l type)
  | @labelled _ us _ h =>
    have hus' : ∀ t ∈ us, t.IsWord := fun t ht => hus t (List.mem_cons_of_mem _ ht)
    obtain ⟨rfl, hcollapse⟩ := collapse_spaced_crowded h hus' hcrowded
    obtain ⟨t, more, c, rfl, hleads⟩ := h.exists_leads hus'
    have hlabel : (Token.lifetime l).IsWord := hus _ List.mem_cons_self
    have hrecorded := read?_typeText_labelled hleads ⟨l, hlabel⟩ more
    rw [hcollapse] at hrecorded
    refine ⟨?_, hrecorded⟩
    rw [read?_spaced_labelled hleads ⟨l, hlabel⟩, squeeze_typeText]

end Readings

end Schemata.Record
