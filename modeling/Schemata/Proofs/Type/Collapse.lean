import Schemata.Proofs.Text.Split
import Schemata.Record.TypeText

/-!
# What collapsing blanks does to a text

Collapsing takes blanks away and leaves the rest as it is (`squeeze_collapse`). Of a blank in front of a
type it depends on the type whether it stays: it does (`collapse_blank`) unless the type begins with an
angle bracket (`collapse_bracket`) or with a path separator (`collapse_separator`).
-/

namespace Schemata.Record

/-! ## The rows of the collapse -/

/-- One replacement. -/
def replaceRow (text : List Char) (row : String × String) : List Char :=
  Text.replaceAll row.1.toList row.2.toList text

theorem collapse_eq_foldl (text : List Char) : collapse text = collapses.foldl replaceRow text :=
  rfl

/-- A row replaces a blank in front of a separator, or what stays in front of a blank. -/
theorem exists_of_mem_collapses {row : String × String} (h : row ∈ collapses) :
    ∃ a b old, row.1.toList = a :: b :: old ∧ b ∉ ['&', '\''] ∧
      (a = ' ' ∧ b ∈ [':', '<', '>', ','] ∨ a ∈ [':', '<', '&'] ∧ row.2.toList.head? = some a) := by
  simp only [collapses, List.mem_cons, List.not_mem_nil, or_false] at h
  rcases h with rfl | rfl | rfl | rfl | rfl | rfl | rfl
  · exact ⟨' ', ':', [':', ' '], rfl, by decide, .inl (by decide)⟩
  · exact ⟨':', ':', [' '], rfl, by decide, .inr (by decide)⟩
  · exact ⟨' ', '<', [], rfl, by decide, .inl (by decide)⟩
  · exact ⟨'<', ' ', [], rfl, by decide, .inr (by decide)⟩
  · exact ⟨' ', '>', [], rfl, by decide, .inl (by decide)⟩
  · exact ⟨' ', ',', [], rfl, by decide, .inl (by decide)⟩
  · exact ⟨'&', ' ', [], rfl, by decide, .inr (by decide)⟩

section Rows

variable {row : String × String} {c : Char} {cs : List Char}

theorem head?_replaceRow (h : row ∈ collapses) (hc : c ≠ ' ') :
    (replaceRow (c :: cs) row).head? = some c := by
  obtain ⟨a, b, old, hold, -, ⟨rfl, -⟩ | ⟨-, hnew⟩⟩ := exists_of_mem_collapses h
  · rw [replaceRow, hold]
    exact Text.head?_replaceAll fun heq => absurd heq.symm hc
  · rw [replaceRow, hold]
    exact Text.head?_replaceAll fun heq => heq ▸ hnew

/-- A row leaves a blank alone that does not stand in front of the separator it looks for. -/
theorem replaceRow_blank (h : row ∈ collapses) (hc : ¬ [' ', c] <+: row.1.toList) :
    replaceRow (' ' :: c :: cs) row = ' ' :: replaceRow (c :: cs) row := by
  obtain ⟨a, b, old, hold, -, -⟩ := exists_of_mem_collapses h
  refine Text.replaceAll_cons ?_
  rw [hold] at hc ⊢
  rw [List.cons_prefix_cons, List.cons_prefix_cons]
  rintro ⟨rfl, rfl, -⟩
  exact hc (List.prefix_append [' ', _] old)

/-- All rows but the last leave a label behind an ampersand alone. -/
theorem replaceRow_label (h : row ∈ collapses.take 6) {label : List Char}
    (hlabel : ∀ a ∈ ['&', ' ', ':', '<'], a ∉ label) (cs : List Char) :
    replaceRow ('&' :: ' ' :: '\'' :: (label ++ cs)) row
      = '&' :: ' ' :: '\'' :: (label ++ replaceRow cs row) := by
  obtain ⟨a, b, old, hold, hb, hab⟩ := exists_of_mem_collapses (List.mem_of_mem_take h)
  have hampersand : a ≠ '&' := by
    have hrows : ∀ row ∈ collapses.take 6, row.1.toList.head? ≠ some '&' := by decide
    have hhead := hrows row h
    rwa [hold, List.head?_cons, Ne, Option.some.injEq] at hhead
  have ha : a ∈ ['&', ' ', ':', '<'] ∧ a ≠ '\'' := by
    rcases hab with ⟨rfl, -⟩ | ⟨hmem, -⟩
    · decide
    · simp only [List.mem_cons, List.not_mem_nil, or_false] at hmem
      rcases hmem with rfl | rfl | rfl <;> decide
  -- the blank in front of the label is no occurrence either, as an apostrophe follows
  have hblank : ¬ a :: b :: old <+: ' ' :: '\'' :: (label ++ cs) := by
    rw [List.cons_prefix_cons, List.cons_prefix_cons]
    rintro ⟨-, rfl, -⟩
    exact hb (by decide)
  simp only [replaceRow, hold]
  rw [Text.replaceAll_cons (by simp [List.cons_prefix_cons, hampersand]), Text.replaceAll_cons hblank,
    Text.replaceAll_cons (by simp [List.cons_prefix_cons, ha.2]),
    Text.replaceAll_append (hlabel a ha.1)]

end Rows

theorem squeeze_collapse (text : List Char) : Text.squeeze (collapse text) = Text.squeeze text := by
  have hrows : ∀ r ∈ collapses,
      Text.squeeze r.1.toList = Text.squeeze r.2.toList ∧ r.1.toList ≠ [] := by decide
  unfold collapse
  generalize collapses = rows at hrows
  induction rows generalizing text with
  | nil => rfl
  | cons r rows ih =>
    obtain ⟨hsqueeze, hold⟩ := hrows r List.mem_cons_self
    rw [List.foldl_cons, ih _ fun r' hr' => hrows r' (List.mem_cons_of_mem r hr')]
    exact Text.squeeze_replaceAll hsqueeze hold text

/-! ## The blank in front of a type -/

/-- The blank stays if no separator is behind it. -/
theorem collapse_blank {c : Char} (hc : c ∉ [' ', ':', '<', '>', ',']) (cs : List Char) :
    collapse (' ' :: c :: cs) = ' ' :: collapse (c :: cs) := by
  -- what is left behind the blank goes on beginning with the same character
  have hfold : collapses.foldl replaceRow (' ' :: c :: cs)
        = ' ' :: collapses.foldl replaceRow (c :: cs) ∧
      (collapses.foldl replaceRow (c :: cs)).head? = some c := by
    refine @List.foldl_rel _ _ _ collapses replaceRow replaceRow _ _
      (fun text text' => text = ' ' :: text' ∧ text'.head? = some c) ⟨rfl, rfl⟩ ?_
    rintro row hrow _ text ⟨rfl, hhead⟩
    obtain ⟨text, rfl⟩ := List.head?_eq_some_iff.1 hhead
    refine ⟨replaceRow_blank hrow ?_, head?_replaceRow hrow (fun heq => hc (by simp [heq]))⟩
    obtain ⟨a, b, old, hold, -, hab⟩ := exists_of_mem_collapses hrow
    rw [hold, List.cons_prefix_cons, List.cons_prefix_cons]
    rintro ⟨rfl, rfl, -⟩
    rcases hab with ⟨-, hb⟩ | ⟨ha, -⟩
    · exact hc (List.mem_cons_of_mem ' ' hb)
    · exact absurd ha (by decide)
  exact hfold.1

/-- The blank in front of an angle bracket goes. -/
theorem collapse_bracket (cs : List Char) : collapse (' ' :: '<' :: cs) = collapse ('<' :: cs) := by
  have hrows : collapses = (" :: ", "::") :: (":: ", "::") :: (" <", "<") :: collapses.drop 3 := rfl
  obtain ⟨text, htext⟩ := List.head?_eq_some_iff.1
    (@head?_replaceRow (" :: ", "::") '<' cs (by decide) (by decide))
  obtain ⟨text', htext'⟩ := List.head?_eq_some_iff.1
    (@head?_replaceRow (":: ", "::") '<' text (by decide) (by decide))
  rw [collapse_eq_foldl, collapse_eq_foldl, hrows]
  simp only [List.foldl_cons]
  rw [replaceRow_blank (by decide) (by decide), htext, replaceRow_blank (by decide) (by decide), htext']
  -- the third row puts back the bracket that it finds behind the blank
  have hthird : replaceRow (' ' :: '<' :: text') (" <", "<") = replaceRow ('<' :: text') (" <", "<") :=
    rfl
  rw [hthird]

/-- The blanks on both sides of a path separator go. -/
theorem collapse_separator {c : Char} (hc : c ∉ [' ', ':']) (cs : List Char) :
    collapse (' ' :: ':' :: ':' :: ' ' :: c :: cs) = collapse (':' :: ':' :: ' ' :: c :: cs) := by
  have hrows : collapses = (" :: ", "::") :: (":: ", "::") :: collapses.drop 2 := rfl
  have hblank : ' ' ≠ c := fun heq => hc (heq ▸ by decide)
  have hcolon : ':' ≠ c := fun heq => hc (heq ▸ by decide)
  obtain ⟨text, htext⟩ := List.head?_eq_some_iff.1
    (@head?_replaceRow (" :: ", "::") c cs (by decide) hblank.symm)
  -- the first row takes both blanks, where it finds the first
  have hfirst : replaceRow (' ' :: ':' :: ':' :: ' ' :: c :: cs) (" :: ", "::")
      = ':' :: ':' :: c :: text :=
    (Text.replaceAll_occurrence ' ' [':', ':', ' '] [':', ':'] (c :: cs)).trans
      (congrArg ([':', ':'] ++ ·) htext)
  have hfirst' : replaceRow (':' :: ':' :: ' ' :: c :: cs) (" :: ", "::")
      = ':' :: ':' :: ' ' :: c :: text := by
    rw [← htext, ← replaceRow_blank (by decide) (by simp [List.cons_prefix_cons, hcolon.symm])]
    exact @Text.replaceAll_append ' ' [':', ':', ' '] [':', ':'] [':', ':'] (by decide) _
  -- where it does not, the second row takes the other
  have hsecond : replaceRow (':' :: ':' :: c :: text) (":: ", "::")
      = ':' :: ':' :: replaceRow (c :: text) (":: ", "::") := by
    refine (Text.replaceAll_cons ?_).trans (congrArg (':' :: ·) (Text.replaceAll_cons ?_))
    · simp [List.cons_prefix_cons, hblank]
    · simp [List.cons_prefix_cons, hcolon]
  have hsecond' : replaceRow (':' :: ':' :: ' ' :: c :: text) (":: ", "::")
      = ':' :: ':' :: replaceRow (c :: text) (":: ", "::") :=
    Text.replaceAll_occurrence ':' [':', ' '] [':', ':'] (c :: text)
  rw [collapse_eq_foldl, collapse_eq_foldl, hrows]
  simp only [List.foldl_cons]
  rw [hfirst, hfirst', hsecond, hsecond']

/-- Behind an ampersand, a label loses the blank in front of it, and nothing else. -/
theorem collapse_label {label : List Char} (hlabel : ∀ a ∈ ['&', ' ', ':', '<'], a ∉ label)
    (cs : List Char) :
    collapse ('&' :: ' ' :: '\'' :: (label ++ cs)) = '&' :: '\'' :: (label ++ collapse cs) := by
  have hrows : collapses = collapses.take 6 ++ [("& ", "&")] := rfl
  have hfront : (collapses.take 6).foldl replaceRow ('&' :: ' ' :: '\'' :: (label ++ cs))
      = '&' :: ' ' :: '\'' :: (label ++ (collapses.take 6).foldl replaceRow cs) := by
    refine @List.foldl_rel _ _ _ (collapses.take 6) replaceRow replaceRow _ _
      (fun text text' => text = '&' :: ' ' :: '\'' :: (label ++ text')) rfl ?_
    rintro row hrow _ text rfl
    exact replaceRow_label hrow hlabel text
  have hampersand : '&' ∉ '\'' :: label := by
    simpa using hlabel '&' (by decide)
  rw [collapse_eq_foldl, collapse_eq_foldl, hrows, List.foldl_append, List.foldl_append, hfront]
  -- the last row takes the blank behind the ampersand
  refine (Text.replaceAll_occurrence '&' [' '] ['&'] _).trans (congrArg ('&' :: ·) ?_)
  exact @Text.replaceAll_append '&' [' '] ['&'] ('\'' :: label) hampersand _

end Schemata.Record
