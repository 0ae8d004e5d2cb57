import Schemata.Proofs.Statement.Outline

/-!
# Reading pieces of a statement back

Each reader of a piece takes back what was written and stops right behind it, whatever follows, as
long as what follows does not continue the piece: `readName_quote` for names, `takeEnclosed_append`
for the text behind a name, and `readItems_intercalate`, which carries the reading of one item through
a list of any length.
-/

namespace Schemata

/-! ## Words -/

namespace Text

theorem splitAll_ne_nil (s : Char) (cs : List Char) : splitAll s cs ≠ [] := by
  cases cs with
  | nil => simp [splitAll]
  | cons c cs =>
    simp only [splitAll]
    split
    · simp
    · split <;> simp

theorem splitAll_cons_of_ne {s c : Char} (h : c ≠ s) {cs part : List Char}
    {parts : List (List Char)} (hcs : splitAll s cs = part :: parts) :
    splitAll s (c :: cs) = (c :: part) :: parts := by
  simp [splitAll, h, hcs]

theorem splitAll_append (s : Char) (cs ds : List Char) :
    splitAll s (cs ++ s :: ds) = splitAll s cs ++ splitAll s ds := by
  induction cs with
  | nil => simp [splitAll]
  | cons c cs ih =>
    by_cases hc : c = s
    · simp [splitAll, hc, ih]
    · obtain ⟨part, parts, hcs⟩ := List.exists_cons_of_ne_nil (splitAll_ne_nil s cs)
      rw [List.cons_append, splitAll_cons_of_ne hc (by rw [ih, hcs, List.cons_append]),
        splitAll_cons_of_ne hc hcs, List.cons_append]

theorem splitAll_of_not_mem {s : Char} {cs : List Char} (h : s ∉ cs) : splitAll s cs = [cs] := by
  induction cs with
  | nil => rfl
  | cons c cs ih =>
    have hc : c ≠ s := fun e => h (by simp [e])
    exact splitAll_cons_of_ne hc (ih fun hs => h (List.mem_cons_of_mem c hs))

theorem intercalate_splitAll (s : Char) (cs : List Char) : [s].intercalate (splitAll s cs) = cs := by
  induction cs with
  | nil => rfl
  | cons c cs ih =>
    obtain ⟨part, parts, hcs⟩ := List.exists_cons_of_ne_nil (splitAll_ne_nil s cs)
    by_cases hc : c = s
    · rw [hcs] at ih
      simp [splitAll, hc, hcs, List.intercalate_cons_cons, ih]
    · rw [splitAll_cons_of_ne hc hcs]
      rw [hcs] at ih
      cases parts with
      | nil => simpa using ih
      | cons next parts => simpa [List.intercalate_cons_cons] using ih

end Text

namespace Outline

/-! ## Fixed texts and names -/

theorem expect_append (text : String) (rest : List Char) :
    expect text (text.toList ++ rest) = some rest := by
  have h : text.toList.isPrefixOf (text.toList ++ rest) = true := by simp
  simp [expect, h]

theorem expect_of_head_ne {text : String} {c d : Char} {cs ds : List Char}
    (ht : text.toList = c :: cs) (h : c ≠ d) : expect text (d :: ds) = none := by
  simp [expect, ht, h]

/-- A quoted name is read back, unless the closing quote follows once more. -/
theorem readName_quote (b : Backend) (name : String) (rest : List Char)
    (h : rest.head? ≠ some b.dialect.closeQuote) :
    readName b ((b.dialect.quote name).toList ++ rest) = some (name, rest) := by
  simp [readName, Dialect.quote, Text.Quoted.toList_quote, Text.Quoted.enclose,
    Text.Quoted.scan_append h]

/-! ## Enclosed texts -/

/-- Whether a text closes the parentheses that are open before it and its own, with no comma and no
further closing parenthesis outside of them. -/
def isEnclosed : Nat → List Char → Bool
  | depth, [] => depth == 0
  | depth, c :: cs => !(depth == 0 && (c == ',' || c == ')')) && isEnclosed (nest depth c) cs

theorem isEnclosed_append {cs ds : List Char} {depth : Nat} (hc : isEnclosed depth cs = true)
    (hd : isEnclosed 0 ds = true) : isEnclosed depth (cs ++ ds) = true := by
  induction cs generalizing depth with
  | nil =>
    have h0 : depth = 0 := by simpa [isEnclosed] using hc
    rw [h0, List.nil_append, hd]
  | cons c cs ih =>
    simp only [isEnclosed, Bool.and_eq_true] at hc
    simp only [List.cons_append, isEnclosed, Bool.and_eq_true]
    exact ⟨hc.1, ih hc.2⟩

theorem isEnclosed_parenthesized {cs : List Char} (h : ∀ c ∈ cs, c ≠ '(' ∧ c ≠ ')') :
    isEnclosed 0 ('(' :: (cs ++ [')'])) = true := by
  have inside : isEnclosed 1 (cs ++ [')']) = true := by
    induction cs with
    | nil => rfl
    | cons c cs ih =>
      have hc := h c List.mem_cons_self
      have hcs := ih fun d hd => h d (List.mem_cons_of_mem c hd)
      simp [isEnclosed, nest, hc.1, hc.2, hcs]
  simpa [isEnclosed, nest] using inside

theorem takeEnclosed_append {cs rest : List Char} {depth : Nat} {c : Char}
    (h : isEnclosed depth cs = true) (hc : c = ',' ∨ c = ')') :
    takeEnclosed depth (cs ++ c :: rest) = (cs, c :: rest) := by
  induction cs generalizing depth with
  | nil =>
    have h0 : depth = 0 := by simpa [isEnclosed] using h
    simp [takeEnclosed, h0, hc]
  | cons d cs ih =>
    simp only [isEnclosed, Bool.and_eq_true, Bool.not_eq_true', Bool.and_eq_false_iff,
      Bool.or_eq_false_iff, beq_eq_false_iff_ne] at h
    have hd : ¬ (depth = 0 ∧ (d = ',' ∨ d = ')')) := by
      rintro ⟨h0, hd⟩
      rcases h.1 with hne | hne
      · exact hne h0
      · exact hd.elim hne.1 hne.2
    simp only [List.cons_append, takeEnclosed, if_neg hd, ih h.2]

/-! ## Lists of items -/

/-- What may follow an item: the comma before the next one, or the closing parenthesis. -/
def EndsItem (rest : List Char) : Prop :=
  (∃ tail, rest = ',' :: ' ' :: tail) ∨ ∃ tail, rest = ')' :: tail

/-- An item is read back from its text, whatever may follow it. -/
def ReadsBack {α : Type} (item : List Char → Option (α × List Char)) (x : α) (text : List Char) :
    Prop :=
  ∀ rest, EndsItem rest → item (text ++ rest) = some (x, rest)

/-- Items that are read back one by one are read back as a list. -/
theorem readItems_intercalate {α : Type} {item : List Char → Option (α × List Char)}
    {l : List (α × List Char)} {bound : Nat} {rest : List Char} (hl : l ≠ [])
    (hbound : l.length ≤ bound) (h : ∀ p ∈ l, ReadsBack item p.1 p.2) :
    readItems item bound ([',', ' '].intercalate (l.map (·.2)) ++ ')' :: rest)
      = some (l.map (·.1), rest) := by
  induction l generalizing bound with
  | nil => exact absurd rfl hl
  | cons p l ih =>
    obtain ⟨bound, rfl⟩ : ∃ n, bound = n + 1 := ⟨bound - 1, by simp at hbound; omega⟩
    have hp := h p List.mem_cons_self
    cases l with
    | nil =>
      have hread := hp (')' :: rest) (.inr ⟨rest, rfl⟩)
      simp [readItems, hread]
    | cons q l =>
      have htail := ih (by simp) (by simpa using hbound)
        fun r hr => h r (List.mem_cons_of_mem p hr)
      have hread := hp _ (.inl ⟨[',', ' '].intercalate ((q :: l).map (·.2)) ++ ')' :: rest, rfl⟩)
      simp only [List.map_cons, List.intercalate_cons_cons, List.append_assoc, List.cons_append,
        List.nil_append] at htail hread ⊢
      simp only [readItems, hread, htail, Option.map_some]

theorem length_le_intercalate (l : List (List Char)) :
    l.length ≤ ([',', ' '].intercalate l).length + 1 := by
  induction l with
  | nil => simp
  | cons p l ih =>
    cases l with
    | nil => simp
    | cons q l =>
      simp only [List.intercalate_cons_cons, List.length_append, List.length_cons,
        List.length_nil] at ih ⊢
      omega

theorem readItems_text {α : Type} {item : List Char → Option (α × List Char)}
    {l : List (α × List Char)} (text rest : List Char) (hl : l ≠ [])
    (h : ∀ p ∈ l, ReadsBack item p.1 p.2)
    (htext : text = [',', ' '].intercalate (l.map (·.2)) ++ ')' :: rest) :
    readItems item text.length text = some (l.map (·.1), rest) := by
  have hbound : l.length ≤ text.length := by
    have hlength := length_le_intercalate (l.map (·.2))
    simp only [List.length_map] at hlength
    simp only [htext, List.length_append, List.length_cons]
    omega
  exact htext ▸ readItems_intercalate hl (htext ▸ hbound) h

end Outline

end Schemata
