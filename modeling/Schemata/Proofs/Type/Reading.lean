import Schemata.Proofs.Text.Split
import Schemata.Proofs.Traversal
import Schemata.Selector

/-!
# How a written type is read

`TypeTag.ofWritten?` reads a type by its path and argument. Here each way in which a text can be read is
an equation: a type without an argument, an optional type, and any other type with an argument. A text
that does not begin with a reference is read off its characters without the blanks
(`PathType.read?_of_head`).
-/

namespace Schemata

/-! ## Paths and arguments -/

namespace PathType

/-- The path separator. -/
abbrev separator : List Char := [':', ':']

theorem referent_of_head {text : List Char} (h : (Text.squeeze text).head? ≠ some '&') :
    referent text = Text.trim text := by
  rw [← Text.head?_trim] at h
  unfold referent
  split
  · next heq =>
    rw [heq] at h
    exact absurd rfl h
  · rfl

/-- A lifetime extends up to the next blank. -/
theorem referent_padded {text pad label rest : List Char} (hpad : ∀ c ∈ pad, Text.isBlank c = true)
    (hlabel : ∀ c ∈ label, Text.isBlank c = false) (hrest : ∀ c ∈ rest.head?, Text.isBlank c = true)
    (htrim : Text.trim text = '&' :: (pad ++ '\'' :: (label ++ rest))) :
    referent text = rest.drop 1 := by
  have hstart : Text.trimStart (pad ++ '\'' :: (label ++ rest)) = '\'' :: (label ++ rest) := by
    rw [Text.trimStart_append hpad]
    refine Text.trimStart_of_head fun c hc => ?_
    obtain rfl : '\'' = c := by simpa using hc
    rfl
  have hdrop : (label ++ rest).dropWhile (fun c => !Text.isBlank c) = rest :=
    Traversal.dropWhile_run (fun c hc => by simp [hlabel c hc]) fun c hc => by simp [hrest c hc]
  simp only [referent, htrim, hstart, hdrop]

theorem referent_labelled {text label rest : List Char}
    (htrim : Text.trim text = '&' :: '\'' :: (label ++ rest))
    (hlabel : ∀ c ∈ label, Text.isBlank c = false) (hrest : ∀ c ∈ rest.head?, Text.isBlank c = true) :
    referent text = rest.drop 1 :=
  @referent_padded _ [] _ _ (by simp) hlabel hrest htrim

/-- Blanks do not count in a text that does not begin with a reference. -/
theorem read?_of_head {text : List Char} (h : (Text.squeeze text).head? ≠ some '&') :
    read? text = ofCompact? (Text.squeeze text) := by
  rw [read?, referent_of_head h, Text.squeeze_trim]

/-- Such a text is read as it is without its blanks. -/
theorem read?_squeeze {text : List Char} (h : (Text.squeeze text).head? ≠ some '&') :
    read? (Text.squeeze text) = read? text := by
  rw [read?_of_head h, read?_of_head (by rwa [Text.squeeze_squeeze]), Text.squeeze_squeeze]

theorem read?_of_not_mem {text : List Char} (h : '&' ∉ text) :
    read? text = ofCompact? (Text.squeeze text) := by
  apply read?_of_head
  intro hhead
  exact h (Text.mem_squeeze.1 (List.mem_of_mem_head? hhead)).1

/-- Nor do they in a text that begins with a reference without a lifetime. -/
theorem read?_of_reference {text type : List Char} (h : Text.squeeze text = '&' :: type)
    (htype : type.head? ≠ some '\'') : read? text = ofCompact? type := by
  have hhead : (Text.trim text).head? = some '&' := by
    rw [Text.head?_trim, h, List.head?_cons]
  obtain ⟨rest, hrest⟩ := List.head?_eq_some_iff.1 hhead
  have hsqueeze : Text.squeeze rest = type := by
    have hwhole := (Text.squeeze_trim text).trans h
    rw [hrest] at hwhole
    exact (List.cons.inj hwhole).2
  have hreferent : referent text = Text.trimStart rest := by
    unfold referent
    simp only [hrest]
    split
    · next label hlabel =>
      rw [← hsqueeze, ← Text.squeeze_trimStart, hlabel] at htype
      exact absurd rfl htype
    · rfl
  rw [read?, hreferent, Text.squeeze_trimStart, hsqueeze]

/-- A lifetime and the blanks around it do not count. -/
theorem read?_ended {pad label rest : List Char} (hpad : ∀ c ∈ pad, Text.isBlank c = true)
    (hlabel : ∀ c ∈ label, Text.isBlank c = false) (hrest : ∀ c ∈ rest.head?, Text.isBlank c = true) :
    read? ('&' :: (pad ++ '\'' :: (label ++ rest))) = ofCompact? (Text.squeeze rest) := by
  have hlast : ∀ c ∈ ('&' :: (pad ++ '\'' :: label)).getLast?, Text.isBlank c = false := by
    intro c hc
    rw [← List.cons_append, List.getLast?_append] at hc
    have hmem : c ∈ '\'' :: label := List.mem_of_getLast? (by simpa using hc)
    rcases List.mem_cons.1 hmem with rfl | hmem
    · rfl
    · exact hlabel c hmem
  have htrim : Text.trim ('&' :: (pad ++ '\'' :: (label ++ rest)))
      = '&' :: (pad ++ '\'' :: (label ++ Text.trimEnd rest)) := by
    have hstart := @Text.trimStart_of_head ('&' :: (pad ++ '\'' :: (label ++ rest))) (by
      intro c hc
      obtain rfl : '&' = c := by simpa using hc
      rfl)
    have hend := Text.trimEnd_append_of_getLast hlast rest
    rw [Text.trim, hstart]
    simpa using hend
  have hhead : ∀ c ∈ (Text.trimEnd rest).head?, Text.isBlank c = true := by
    intro c hc
    obtain ⟨end', hrest'⟩ := Text.trimEnd_prefix rest
    rw [← hrest', List.head?_append, Option.mem_def.1 hc, Option.some_or] at hrest
    exact hrest c rfl
  rw [read?, referent_padded hpad hlabel hhead htrim, Text.squeeze_drop_one hhead, Text.squeeze_trimEnd]

/-- A reference with a lifetime is read from the first blank behind the label on. -/
theorem read?_labelled {pad label : List Char} (hpad : ∀ c ∈ pad, Text.isBlank c = true)
    (hlabel : ∀ c ∈ label, Text.isBlank c = false) (text : List Char) :
    read? ('&' :: (pad ++ '\'' :: (label ++ text)))
      = ofCompact? (Text.squeeze (text.dropWhile fun c => !Text.isBlank c)) := by
  -- the lifetime goes on up to there
  have hlabels : ∀ c ∈ label ++ text.takeWhile (fun c => !Text.isBlank c), Text.isBlank c = false := by
    intro c hc
    rcases List.mem_append.1 hc with hc | hc
    · exact hlabel c hc
    · simpa using List.mem_takeWhile_imp hc
  have hrest : ∀ c ∈ (text.dropWhile fun c => !Text.isBlank c).head?, Text.isBlank c = true := by
    intro c hc
    have hhead := List.head?_dropWhile_not (fun c => !Text.isBlank c) text
    rw [Option.mem_def.1 hc] at hhead
    simpa using hhead
  have hread := read?_ended hpad hlabels hrest
  rwa [List.append_assoc, List.takeWhile_append_dropWhile] at hread

/-- Behind the last separator of a path stands the name. -/
theorem behindLast_path {path name : List Char}
    (hpath : path = [] ∨ ∃ front, path = front ++ separator) (hname : ':' ∉ name) :
    Text.behindLast separator (path ++ name) = name := by
  rcases hpath with rfl | ⟨front, rfl⟩
  · exact @Text.behindLast_of_not_mem ':' [':'] name hname
  · exact @Text.behindLast_append ':' [':'] name hname front

theorem ofCompact?_plain {path : List Char} (h : '<' ∉ path) :
    ofCompact? path = some ⟨Text.behindLast separator path, none⟩ := by
  simp only [ofCompact?, Text.splitFirst_of_not_mem h]

theorem ofCompact?_applied {path : List Char} (h : '<' ∉ path) (argument : List Char) :
    ofCompact? (path ++ '<' :: argument ++ ['>'])
      = some ⟨Text.behindLast separator path, some argument⟩ := by
  have hsplit : Text.splitFirst ['<'] (path ++ '<' :: argument ++ ['>'])
      = some (path, argument ++ ['>']) := by
    simpa using @Text.splitFirst_append_of_not_mem '<' [] path h (argument ++ ['>'])
  have hlast : (argument ++ ['>']).getLast? = some '>' := List.getLast?_concat ..
  simp only [ofCompact?, hsplit, if_pos hlast, List.dropLast_concat]

end PathType

/-- The tag of a type that is read as this path. -/
def PathType.tag? (p : PathType) : Option TypeTag :=
  match p.argument with
  | none => TypeTag.ofPlain? p.segment
  | some argument =>
    if p.segment = "Option".toList then TypeTag.ofWritten? argument
    else TypeTag.ofApplied? p.segment argument

namespace TypeTag

/-- The tag of what a reference refers to, given its text. -/
def ofReferent? (text : List Char) : Option TypeTag :=
  (PathType.ofCompact? (Text.squeeze text)).bind PathType.tag?

variable {text segment argument : List Char}

/-- The tag depends on the path and the argument only. -/
theorem ofWritten?_eq_bind (text : List Char) :
    ofWritten? text = (PathType.read? text).bind PathType.tag? := by
  rw [ofWritten?]
  split
  · next hnone => rw [hnone, Option.bind_none]
  · next p hp =>
    rw [hp, Option.bind_some, PathType.tag?]
    split <;> next hargument => rw [hargument]

theorem ofWritten?_of_read? {p : PathType} (h : PathType.read? text = some p) :
    ofWritten? text = match p.argument with
      | none => ofPlain? p.segment
      | some argument =>
        if p.segment = "Option".toList then ofWritten? argument
        else ofApplied? p.segment argument := by
  rw [ofWritten?_eq_bind, h]
  rfl

theorem ofWritten?_of_unread (h : PathType.read? text = none) : ofWritten? text = none := by
  rw [ofWritten?_eq_bind, h, Option.bind_none]

theorem ofWritten?_congr {text' : List Char} (h : PathType.read? text = PathType.read? text') :
    ofWritten? text = ofWritten? text' := by
  rw [ofWritten?_eq_bind, h, ← ofWritten?_eq_bind]

theorem ofWritten?_plain (h : PathType.read? text = some ⟨segment, none⟩) :
    ofWritten? text = ofPlain? segment :=
  ofWritten?_of_read? h

theorem ofWritten?_option (h : PathType.read? text = some ⟨"Option".toList, some argument⟩) :
    ofWritten? text = ofWritten? argument := by
  rw [ofWritten?_of_read? h]
  exact if_pos rfl

theorem ofWritten?_applied (h : PathType.read? text = some ⟨segment, some argument⟩)
    (hsegment : segment ≠ "Option".toList) : ofWritten? text = ofApplied? segment argument := by
  rw [ofWritten?_of_read? h]
  exact if_neg hsegment

theorem ofWritten?_name {name : List Char} (hblank : ∀ c ∈ name, Text.isBlank c = false)
    (hreference : '&' ∉ name) (hopen : '<' ∉ name) (hcolon : ':' ∉ name) :
    ofWritten? name = ofPlain? name := by
  have hsqueeze : Text.squeeze name = name := Text.squeeze_of_forall hblank
  have hhead : (Text.squeeze name).head? ≠ some '&' := by
    rw [hsqueeze]
    exact fun h => hreference (List.mem_of_mem_head? h)
  have hsegment : Text.behindLast PathType.separator name = name :=
    @Text.behindLast_of_not_mem ':' [':'] name hcolon
  apply ofWritten?_plain
  rw [PathType.read?_of_head hhead, hsqueeze, PathType.ofCompact?_plain hopen, hsegment]

theorem ofFieldType_of_written {text : String} {tag : TypeTag}
    (h : ofWritten? text.toList = some tag) : ofFieldType text = .ok tag := by
  simp only [ofFieldType, h]

theorem toOption_ofFieldType (text : String) :
    (ofFieldType text).toOption = ofWritten? text.toList := by
  unfold ofFieldType
  split <;> next h => rw [h]; rfl

end TypeTag

end Schemata
