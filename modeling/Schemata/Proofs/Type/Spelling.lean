import Schemata.Proofs.Text.Identifier
import Schemata.Proofs.Type.Reading

/-!
# Spellings of a type

A type without references can be spelled in many ways: with blanks anywhere in it, with a path in front
of it, and as the argument of an optional type, which may have a path of its own. `Respells` is any
number of these changes, one upon the other, and none of them changes the tag
(`TypeTag.ofWritten?_respells`).

A text has no tag if some part of it is unknown, under any number of optional types
(`TypeTag.Unknown`). Whatever part this is, the error names the text as a whole
(`TypeTag.ofFieldType_spelling`).
-/

namespace Schemata

/-- Identifiers in front of a type, each with a separator behind it. -/
structure TypePath where
  names : List (List Char)
  identifiers : ∀ n ∈ names, Text.IsIdentifier n

/-! ## Paths -/

namespace TypePath

def chars (p : TypePath) : List Char :=
  p.names.flatMap fun n => n ++ PathType.separator

variable (p : TypePath)

theorem eq_nil_or_append : p.chars = [] ∨ ∃ front, p.chars = front ++ PathType.separator := by
  rcases List.eq_nil_or_concat p.names with hnames | ⟨names, n, hnames⟩
  · exact .inl (by rw [chars, hnames]; rfl)
  · refine .inr ⟨(names.flatMap fun n => n ++ PathType.separator) ++ n, ?_⟩
    simp [chars, hnames]

theorem not_mem {c : Char} (hc : Text.isAlphanumeric c = false) (hother : c ∉ ['_', '#', ':']) :
    c ∉ p.chars := by
  simp only [List.mem_cons, List.not_mem_nil, or_false, not_or] at hother
  obtain ⟨hline, hmark, hcolon⟩ := hother
  intro hmem
  obtain ⟨n, hn, hmem⟩ := List.mem_flatMap.1 hmem
  rcases List.mem_append.1 hmem with hmem | hmem
  · exact (p.identifiers n hn).not_mem hc hline hmark hmem
  · simp [hcolon] at hmem

theorem open_not_mem : '<' ∉ p.chars :=
  p.not_mem (by decide +kernel) (by decide)

theorem reference_not_mem : '&' ∉ p.chars :=
  p.not_mem (by decide +kernel) (by decide)

theorem not_isBlank : ∀ c ∈ p.chars, Text.isBlank c = false := by
  intro c hc
  obtain ⟨n, hn, hmem⟩ := List.mem_flatMap.1 hc
  rcases List.mem_append.1 hmem with hmem | hmem
  · exact (p.identifiers n hn).blanks.2 c hmem
  · obtain rfl : c = ':' := by simpa using hmem
    rfl

theorem squeeze_optional (text : List Char) :
    Text.squeeze (p.chars ++ "Option<".toList ++ text ++ ">".toList)
      = p.chars ++ "Option".toList ++ '<' :: Text.squeeze text ++ ['>'] := by
  have hopen : Text.squeeze "Option<".toList = "Option".toList ++ ['<'] := by decide
  have hclose : Text.squeeze ">".toList = ['>'] := by decide
  rw [Text.squeeze_append, Text.squeeze_append, Text.squeeze_append, hopen, hclose,
    Text.squeeze_of_forall p.not_isBlank]
  simp

end TypePath

namespace PathType

variable {front text : List Char}

/-- A path in front of a type is left out with its separator. -/
theorem ofCompact?_append (hopen : '<' ∉ front) (hhead : text.head? ≠ some ':') :
    ofCompact? (front ++ separator ++ text) = ofCompact? text := by
  have hfront : '<' ∉ front ++ separator := by simp [hopen]
  by_cases hargument : '<' ∈ text
  -- the argument begins at the first bracket of the text, since the path has none
  · obtain ⟨path, inside, rfl, hpath⟩ := List.eq_append_cons_of_mem hargument
    have hpathHead : path.head? ≠ some ':' := by
      cases path with
      | nil => simp
      | cons c path => exact hhead
    have hwhole : '<' ∉ front ++ separator ++ path := List.not_mem_append hfront hpath
    have hsplit := @Text.splitFirst_append_of_not_mem '<' [] path hpath inside
    have hsplitWhole := @Text.splitFirst_append_of_not_mem '<' [] _ hwhole inside
    have htext : ∀ ds : List Char, ds ++ '<' :: inside = ds ++ ['<'] ++ inside := by simp
    rw [ofCompact?, ofCompact?, ← List.append_assoc, htext, htext, hsplit, hsplitWhole]
    simp only [Text.behindLast_append_of_head hpathHead]
  · have hwhole : '<' ∉ front ++ separator ++ text := List.not_mem_append hfront hargument
    rw [ofCompact?_plain hwhole, ofCompact?_plain hargument, Text.behindLast_append_of_head hhead]

end PathType

/-! ## Respelling -/

/-- The second text is another spelling of the first. -/
inductive Respells (text : List Char) : List Char → Prop
  | refl : Respells text text
  /-- Blanks come and go at any place. -/
  | blanks {text' text'' : List Char} (h : Respells text text')
      (hsame : Text.squeeze text'' = Text.squeeze text') : Respells text text''
  /-- A path that a type goes on with behind its separator. -/
  | path {text' : List Char} (h : Respells text text') (p : TypePath)
      (hhead : (Text.squeeze text').head? ≠ some ':') : Respells text (p.chars ++ text')
  | option {text' : List Char} (h : Respells text text') (p : TypePath) :
    Respells text (p.chars ++ "Option<".toList ++ text' ++ ">".toList)

/-- No spelling has a reference that another has not. -/
theorem Respells.not_mem {text text' : List Char} (h : Respells text text')
    (hreference : '&' ∉ text) : '&' ∉ text' := by
  induction h with
  | refl => exact hreference
  | blanks h hsame ih =>
    intro hmem
    have hsqueezed := Text.mem_squeeze.2 ⟨hmem, rfl⟩
    rw [hsame] at hsqueezed
    exact ih (Text.mem_squeeze.1 hsqueezed).1
  | path h p hhead ih =>
    simp only [List.mem_append, not_or]
    exact ⟨p.reference_not_mem, ih⟩
  | option h p ih =>
    simp only [List.mem_append, not_or]
    exact ⟨⟨⟨p.reference_not_mem, by decide⟩, ih⟩, by decide⟩

namespace TypeTag

variable {text text' : List Char}

/-- Blanks do not count in a text without references. -/
theorem ofWritten?_of_squeeze (h : '&' ∉ text) (hsame : Text.squeeze text' = Text.squeeze text) :
    ofWritten? text' = ofWritten? text := by
  have h' : '&' ∉ text' := (Respells.refl.blanks hsame).not_mem h
  apply ofWritten?_congr
  rw [PathType.read?_of_not_mem h, PathType.read?_of_not_mem h', hsame]

theorem ofWritten?_path (h : '&' ∉ text) (hhead : (Text.squeeze text).head? ≠ some ':')
    (p : TypePath) : ofWritten? (p.chars ++ text) = ofWritten? text := by
  have h' : '&' ∉ p.chars ++ text := (Respells.refl.path p hhead).not_mem h
  apply ofWritten?_congr
  rw [PathType.read?_of_not_mem h, PathType.read?_of_not_mem h', Text.squeeze_append,
    Text.squeeze_of_forall p.not_isBlank]
  rcases p.eq_nil_or_append with hnil | ⟨front, hfront⟩
  · rw [hnil, List.nil_append]
  · have hopen : '<' ∉ front := by
      intro hmem
      apply p.open_not_mem
      rw [hfront]
      exact List.mem_append_left _ hmem
    rw [hfront]
    exact PathType.ofCompact?_append hopen hhead

theorem ofWritten?_optional (h : '&' ∉ text) (p : TypePath) :
    ofWritten? (p.chars ++ "Option<".toList ++ text ++ ">".toList) = ofWritten? text := by
  have h' : '&' ∉ p.chars ++ "Option<".toList ++ text ++ ">".toList :=
    (Respells.refl.option p).not_mem h
  have hopen : '<' ∉ p.chars ++ "Option".toList := by
    simp only [List.mem_append, not_or]
    exact ⟨p.open_not_mem, by decide⟩
  have hread : PathType.read? (p.chars ++ "Option<".toList ++ text ++ ">".toList)
      = some ⟨"Option".toList, some (Text.squeeze text)⟩ := by
    rw [PathType.read?_of_not_mem h', p.squeeze_optional, PathType.ofCompact?_applied hopen,
      PathType.behindLast_path p.eq_nil_or_append (by decide)]
  rw [ofWritten?_option hread, ofWritten?_of_squeeze h (Text.squeeze_squeeze text)]

/-- **Spelling does not matter**: a type has the same tag in every spelling. -/
theorem ofWritten?_respells (h : Respells text text') (hreference : '&' ∉ text) :
    ofWritten? text' = ofWritten? text := by
  induction h with
  | refl => rfl
  | blanks h hsame ih => exact (ofWritten?_of_squeeze (h.not_mem hreference) hsame).trans ih
  | path h p hhead ih => exact (ofWritten?_path (h.not_mem hreference) hhead p).trans ih
  | option h p ih => exact (ofWritten?_optional (h.not_mem hreference) p).trans ih

/-! ## Unknown types -/

/-- Some part of the text is no type, or none that a tag belongs to. -/
inductive Unknown : List Char → Prop
  | unread {text : List Char} (h : PathType.read? text = none) : Unknown text
  | plain {text segment : List Char} (h : PathType.read? text = some ⟨segment, none⟩)
      (hsegment : ofPlain? segment = none) : Unknown text
  | applied {text segment argument : List Char}
      (h : PathType.read? text = some ⟨segment, some argument⟩) (hother : segment ≠ "Option".toList)
      (hsegment : ofApplied? segment argument = none) : Unknown text
  /-- The part may be inside an optional type, at any depth. -/
  | option {text argument : List Char}
      (h : PathType.read? text = some ⟨"Option".toList, some argument⟩)
      (hargument : Unknown argument) : Unknown text

theorem unknown_of_ofWritten? (h : ofWritten? text = none) : Unknown text := by
  -- the reader goes on inside an optional type only, so that is the one case with a hypothesis
  induction text using ofWritten?.induct with
  | case1 text hread => exact .unread hread
  | case2 text p hread hargument =>
    obtain ⟨segment, argument⟩ := p
    cases hargument
    exact .plain hread ((ofWritten?_plain hread).symm.trans h)
  | case3 text p hread argument hargument hoption ih =>
    obtain ⟨segment, argument'⟩ := p
    cases hargument
    cases hoption
    exact .option hread (ih ((ofWritten?_option hread).symm.trans h))
  | case4 text p hread argument hargument hother =>
    obtain ⟨segment, argument'⟩ := p
    cases hargument
    exact .applied hread hother ((ofWritten?_applied hread hother).symm.trans h)

theorem ofWritten?_eq_none_iff : ofWritten? text = none ↔ Unknown text := by
  constructor
  · exact unknown_of_ofWritten?
  · intro h
    induction h with
    | unread h => exact ofWritten?_of_unread h
    | plain h hsegment => rw [ofWritten?_plain h, hsegment]
    | applied h hother hsegment => rw [ofWritten?_applied h hother, hsegment]
    | option h _ ih => rw [ofWritten?_option h, ih]

theorem ofFieldType_eq_error_iff {text : String} {e : DeclarationError} :
    ofFieldType text = .error e ↔
      Unknown text.toList ∧ e = .unsupportedType (Text.trimmed text) := by
  rw [← ofWritten?_eq_none_iff, ofFieldType]
  cases ofWritten? text.toList with
  | none => simp [eq_comm]
  | some tag => simp

/-- The error of an inner type is replaced by one of the whole type. -/
theorem ofFieldType_option {text inner : String}
    (h : PathType.read? text.toList = some ⟨"Option".toList, some inner.toList⟩) :
    ofFieldType text
      = (ofFieldType inner).mapError fun _ => .unsupportedType (Text.trimmed text) := by
  rw [ofFieldType, ofFieldType, ofWritten?_option h]
  cases ofWritten? inner.toList <;> rfl

/-- **The spelling of a type does not matter**: without references, every spelling has the same tag or
has none. Where there is none, the error names the text as it was given, without the blanks around
it. -/
theorem ofFieldType_spelling (text : String) :
    ('&' ∉ text.toList → ∀ text' : String, Respells text.toList text'.toList →
      (ofFieldType text').toOption = (ofFieldType text).toOption) ∧
    -- At every level of optional types, the error is that of this level.
    (∀ inner : String,
      PathType.read? text.toList = some ⟨"Option".toList, some inner.toList⟩ →
      ofFieldType text
        = (ofFieldType inner).mapError fun _ => .unsupportedType (Text.trimmed text)) ∧
    ∀ e, ofFieldType text = .error e ↔
      Unknown text.toList ∧ e = .unsupportedType (Text.trimmed text) := by
  have htag : ∀ text : String, (ofFieldType text).toOption = ofWritten? text.toList := by
    intro text
    rw [ofFieldType]
    cases ofWritten? text.toList <;> rfl
  refine ⟨?_, fun inner => ofFieldType_option, fun e => ofFieldType_eq_error_iff⟩
  intro hreference text' hrespells
  rw [htag, htag, ofWritten?_respells hrespells hreference]

/-- A point in time inside two optional types, with paths and blanks, and a type that is not known. -/
theorem ofFieldType_spelling_nested :
    Respells "DateTime<Utc>".toList
      " std :: option::Option<Option< chrono ::Date\tTime<Utc>\n> >".toList ∧
    (ofFieldType " std :: option::Option<Option< chrono ::Date\tTime<Utc>\n> >").toOption
      = some .dateTimeWithOffset ∧
    Unknown " Option< Vec<Foo> >\n".toList ∧
    ofFieldType " Option< Vec<Foo> >\n" = .error (.unsupportedType "Option< Vec<Foo> >") := by
  have hname : ∀ n ∈ ["std".toList, "option".toList, "chrono".toList], Text.IsIdentifier n := by
    have hall : ∀ n ∈ ["std".toList, "option".toList, "chrono".toList],
        Text.isPlainIdentifier (Text.unraw n) = true := by decide +kernel
    exact fun n hn => Text.isIdentifier_iff.1 (hall n hn)
  have hpath : ∀ names : List (List Char),
      names ⊆ ["std".toList, "option".toList, "chrono".toList] →
      ∀ n ∈ names, Text.IsIdentifier n := fun names hnames n hn => hname n (hnames hn)
  have hrespells : Respells "DateTime<Utc>".toList
      " std :: option::Option<Option< chrono ::Date\tTime<Utc>\n> >".toList := by
    have hchrono := Respells.path .refl ⟨["chrono".toList], hpath _ (by decide)⟩
      (show (Text.squeeze "DateTime<Utc>".toList).head? ≠ some ':' by decide)
    have hinner := hchrono.option ⟨[], hpath _ (by decide)⟩
    have houter := hinner.option ⟨["std".toList, "option".toList], hpath _ (by decide)⟩
    exact houter.blanks rfl
  obtain ⟨htag, -, -⟩ := ofFieldType_spelling "DateTime<Utc>"
  obtain ⟨-, -, herror⟩ := ofFieldType_spelling " Option< Vec<Foo> >\n"
  have hplain : ofFieldType "DateTime<Utc>" = .ok .dateTimeWithOffset :=
    ofFieldType_of_written (by decide +kernel)
  have hunknown : Unknown " Option< Vec<Foo> >\n".toList :=
    @Unknown.option _ "Vec<Foo>".toList (by decide +kernel)
      (@Unknown.applied _ "Vec".toList "Foo".toList (by decide +kernel) (by decide) (by decide))
  refine ⟨hrespells, ?_, hunknown, (herror _).2 ⟨hunknown, by decide +kernel⟩⟩
  rw [htag (by decide) _ hrespells, hplain]
  rfl

end TypeTag

end Schemata
