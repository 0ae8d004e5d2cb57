import Schemata.Text.Blank
import Schemata.Text.DeclaredName
import Schemata.Text.Identifier

/-!
# Blanks around and inside a text

Trimming takes off what was put around a text (`trim_padded`) and nothing else (`exists_padding`). What
only moves blanks does not change the text without its blanks. No name holds a blank, since the blanks
are few and none of them is in the tables of letters (`not_isBlank_of_continues`).
-/

namespace Schemata.Text

/-! ## Trimming -/

theorem trimStart_append {pad : List Char} (hpad : ∀ c ∈ pad, isBlank c = true) (cs : List Char) :
    trimStart (pad ++ cs) = trimStart cs := by
  induction pad with
  | nil => rfl
  | cons c pad ih =>
    have hc := hpad c List.mem_cons_self
    rw [List.cons_append, trimStart, List.dropWhile_cons_of_pos hc]
    exact ih fun d hd => hpad d (List.mem_cons_of_mem c hd)

theorem trimEnd_append {pad : List Char} (hpad : ∀ c ∈ pad, isBlank c = true) (cs : List Char) :
    trimEnd (cs ++ pad) = trimEnd cs := by
  have hreverse : ∀ c ∈ pad.reverse, isBlank c = true :=
    fun c hc => hpad c (List.mem_reverse.1 hc)
  unfold trimEnd
  rw [List.reverse_append]
  exact congrArg List.reverse (trimStart_append hreverse cs.reverse)

theorem trimStart_of_head {cs : List Char} (h : ∀ c ∈ cs.head?, isBlank c = false) :
    trimStart cs = cs := by
  cases cs with
  | nil => rfl
  | cons c cs =>
    have hc : isBlank c = false := h c rfl
    exact List.dropWhile_cons_of_neg (by simp [hc])

theorem trimEnd_of_getLast {cs : List Char} (h : ∀ c ∈ cs.getLast?, isBlank c = false) :
    trimEnd cs = cs := by
  have hreverse : trimStart cs.reverse = cs.reverse :=
    trimStart_of_head (by simpa using h)
  rw [trimEnd, ← trimStart, hreverse, List.reverse_reverse]

/-- A text that does not end with a blank is left whole in front of another. -/
theorem trimEnd_append_of_getLast {front : List Char} (h : ∀ c ∈ front.getLast?, isBlank c = false)
    (cs : List Char) : trimEnd (front ++ cs) = front ++ trimEnd cs := by
  have hfront : (front.reverse.dropWhile isBlank).reverse = front := trimEnd_of_getLast h
  simp only [trimEnd, List.reverse_append, List.dropWhile_append]
  split
  · next hblank => rw [hfront, List.isEmpty_iff.1 hblank, List.reverse_nil, List.append_nil]
  · rw [List.reverse_append, List.reverse_reverse]

/-- Trimming takes off the blanks around a text that neither begins nor ends with one. -/
theorem trim_padded {before behind cs : List Char} (hbefore : ∀ c ∈ before, isBlank c = true)
    (hbehind : ∀ c ∈ behind, isBlank c = true) (hhead : ∀ c ∈ cs.head?, isBlank c = false)
    (hlast : ∀ c ∈ cs.getLast?, isBlank c = false) : trim (before ++ cs ++ behind) = cs := by
  rw [List.append_assoc, trim, trimStart_append hbefore]
  cases cs with
  | nil =>
    have hnil : trimStart behind = [] := by
      simpa [trimStart] using trimStart_append hbehind []
    rw [List.nil_append, hnil]
    rfl
  | cons c cs =>
    rw [trimStart_of_head (by simpa using hhead), trimEnd_append hbehind, trimEnd_of_getLast hlast]

theorem trim_word {before behind word : List Char} (hbefore : ∀ c ∈ before, isBlank c = true)
    (hbehind : ∀ c ∈ behind, isBlank c = true) (hword : ∀ c ∈ word, isBlank c = false) :
    trim (before ++ word ++ behind) = word :=
  trim_padded hbefore hbehind (fun c hc => hword c (List.mem_of_mem_head? hc))
    fun c hc => hword c (List.mem_of_getLast? hc)

theorem trim_words {before first last behind : List Char} (hbefore : ∀ c ∈ before, isBlank c = true)
    (hbehind : ∀ c ∈ behind, isBlank c = true) (hfirst : ∀ c ∈ first, isBlank c = false)
    (hlast : ∀ c ∈ last, isBlank c = false) (hfirst₀ : first ≠ []) (hlast₀ : last ≠ [])
    (between : List Char) :
    trim (before ++ (first ++ between ++ last) ++ behind) = first ++ between ++ last := by
  refine trim_padded hbefore hbehind (fun c hc => hfirst c ?_) fun c hc => hlast c ?_
  · obtain ⟨d, first, rfl⟩ := List.exists_cons_of_ne_nil hfirst₀
    obtain rfl : d = c := by simpa using hc
    exact List.mem_cons_self
  · rw [List.getLast?_append, List.getLast?_eq_some_getLast hlast₀] at hc
    obtain rfl : last.getLast hlast₀ = c := by simpa using hc
    exact List.getLast_mem hlast₀

theorem trim_of_forall {cs : List Char} (h : ∀ c ∈ cs, isBlank c = false) : trim cs = cs := by
  have hword : trim ([] ++ cs ++ []) = cs := trim_word (by simp) (by simp) h
  simpa using hword

/-! ## Leaving blanks out -/

theorem squeeze_append (cs ds : List Char) : squeeze (cs ++ ds) = squeeze cs ++ squeeze ds :=
  List.filter_append ..

theorem squeeze_of_forall {cs : List Char} (h : ∀ c ∈ cs, isBlank c = false) : squeeze cs = cs := by
  refine List.filter_eq_self.2 fun c hc => ?_
  rw [h c hc]
  rfl

theorem mem_squeeze {c : Char} {cs : List Char} : c ∈ squeeze cs ↔ c ∈ cs ∧ isBlank c = false := by
  simp [squeeze]

theorem squeeze_squeeze (cs : List Char) : squeeze (squeeze cs) = squeeze cs := by
  simp [squeeze]

theorem squeeze_reverse (cs : List Char) : squeeze cs.reverse = (squeeze cs).reverse :=
  List.filter_reverse ..

theorem squeeze_trimStart (cs : List Char) : squeeze (trimStart cs) = squeeze cs := by
  induction cs with
  | nil => rfl
  | cons c cs ih =>
    by_cases hc : isBlank c = true
    · rw [trimStart, List.dropWhile_cons_of_pos hc]
      rw [squeeze, squeeze, List.filter_cons_of_neg (by simp [hc])]
      exact ih
    · rw [trimStart, List.dropWhile_cons_of_neg hc]

theorem squeeze_trimEnd (cs : List Char) : squeeze (trimEnd cs) = squeeze cs := by
  rw [trimEnd, ← trimStart, squeeze_reverse, squeeze_trimStart, squeeze_reverse, List.reverse_reverse]

theorem squeeze_trim (cs : List Char) : squeeze (trim cs) = squeeze cs := by
  rw [trim, squeeze_trimEnd, squeeze_trimStart]

theorem squeeze_drop_one {cs : List Char} (h : ∀ c ∈ cs.head?, isBlank c = true) :
    squeeze (cs.drop 1) = squeeze cs := by
  cases cs with
  | nil => rfl
  | cons c cs => exact (List.filter_cons_of_neg (by simp [h c rfl])).symm

/-! ## What trimming leaves -/

/-- Trimming takes off blanks, and nothing else. -/
theorem exists_padding (cs : List Char) : ∃ before behind, cs = before ++ trim cs ++ behind ∧
    (∀ c ∈ before, isBlank c = true) ∧ ∀ c ∈ behind, isBlank c = true := by
  have hblank : ∀ ds, ∀ c ∈ List.takeWhile isBlank ds, isBlank c = true :=
    fun ds c hc => List.all_eq_true.1 (@List.all_takeWhile _ isBlank ds) c hc
  have hend : ∀ ds, ds = trimEnd ds ++ (ds.reverse.takeWhile isBlank).reverse := by
    intro ds
    rw [trimEnd, ← List.reverse_append, List.takeWhile_append_dropWhile, List.reverse_reverse]
  refine ⟨cs.takeWhile isBlank, ((trimStart cs).reverse.takeWhile isBlank).reverse, ?_, hblank cs, ?_⟩
  · rw [List.append_assoc, trim, ← hend, trimStart, List.takeWhile_append_dropWhile]
  · intro c hc
    exact hblank _ c (List.mem_reverse.1 hc)

theorem trimEnd_prefix (cs : List Char) : trimEnd cs <+: cs := by
  have hsuffix := List.dropWhile_suffix isBlank (l := cs.reverse)
  simpa [trimEnd] using List.reverse_prefix.2 hsuffix

theorem not_isBlank_head {cs : List Char} : ∀ c ∈ (trimStart cs).head?, isBlank c = false := by
  intro c hc
  have hhead := List.head?_dropWhile_not isBlank cs
  rw [← trimStart, Option.mem_def.1 hc] at hhead
  simpa using hhead

theorem not_isBlank_getLast {cs : List Char} : ∀ c ∈ (trim cs).getLast?, isBlank c = false := by
  intro c hc
  rw [trim, trimEnd, List.getLast?_reverse] at hc
  exact @not_isBlank_head (trimStart cs).reverse c hc

theorem not_isBlank_head_trim {cs : List Char} : ∀ c ∈ (trim cs).head?, isBlank c = false := by
  intro c hc
  obtain ⟨rest, hrest⟩ := trimEnd_prefix (trimStart cs)
  rw [← trim] at hrest
  cases htrim : trim cs with
  | nil =>
    rw [htrim] at hc
    cases hc
  | cons d ds =>
    rw [htrim] at hc hrest
    cases hc
    exact @not_isBlank_head cs c (by rw [← hrest]; rfl)

theorem trim_padded_trim {before behind : List Char} (hbefore : ∀ c ∈ before, isBlank c = true)
    (hbehind : ∀ c ∈ behind, isBlank c = true) (cs : List Char) :
    trim (before ++ trim cs ++ behind) = trim cs :=
  trim_padded hbefore hbehind not_isBlank_head_trim not_isBlank_getLast

theorem trim_trim (cs : List Char) : trim (trim cs) = trim cs := by
  simpa using @trim_padded_trim [] [] (by simp) (by simp) cs

theorem trim_append {pad : List Char} (hpad : ∀ c ∈ pad, isBlank c = true) (cs : List Char) :
    trim (cs ++ pad) = trim cs := by
  obtain ⟨before, behind, hcs, hbefore, hbehind⟩ := exists_padding cs
  have hpads : ∀ c ∈ behind ++ pad, isBlank c = true :=
    fun c hc => (List.mem_append.1 hc).elim (hbehind c) (hpad c)
  calc trim (cs ++ pad)
      = trim (before ++ trim cs ++ (behind ++ pad)) := by rw [← List.append_assoc, ← hcs]
    _ = trim cs := trim_padded_trim hbefore hpads cs

theorem trim_eq_nil_iff {cs : List Char} : trim cs = [] ↔ ∀ c ∈ cs, isBlank c = true := by
  obtain ⟨before, behind, hcs, hbefore, hbehind⟩ := exists_padding cs
  constructor
  · intro htrim c hc
    rw [hcs, htrim, List.append_nil] at hc
    exact (List.mem_append.1 hc).elim (hbefore c) (hbehind c)
  · intro hblank
    cases htrim : trim cs with
    | nil => rfl
    | cons c rest =>
      have hc : isBlank c = false := @not_isBlank_head_trim cs c (by rw [htrim]; rfl)
      rw [hblank c (by rw [hcs, htrim]; simp)] at hc
      cases hc

theorem trim_ne_nil_iff {cs : List Char} : trim cs ≠ [] ↔ ∃ c ∈ cs, isBlank c = false := by
  simp [Ne, trim_eq_nil_iff]

theorem head?_trim (cs : List Char) : (trim cs).head? = (squeeze cs).head? := by
  rw [← squeeze_trim]
  cases htrim : trim cs with
  | nil => rfl
  | cons c rest =>
    have hc : isBlank c = false := @not_isBlank_head_trim cs c (by rw [htrim]; rfl)
    simp [squeeze, hc]

/-! ## Names hold no blanks -/

/-- The code points of the blanks. -/
def blankPoints : List Nat :=
  List.range' 9 5 ++ [0x20, 0x85, 0xA0, 0x1680] ++ List.range' 0x2000 11
    ++ [0x2028, 0x2029, 0x202F, 0x205F, 0x3000]

theorem mem_blankPoints {c : Char} (h : isBlank c = true) : c.toNat ∈ blankPoints := by
  simp only [isBlank, Bool.or_eq_true, Bool.and_eq_true, decide_eq_true_eq, beq_iff_eq] at h
  simp only [blankPoints, List.mem_append, List.mem_range'_1, List.mem_cons, List.not_mem_nil]
  omega

/-- Whether characters of a kind are never blank can be looked up. -/
theorem not_isBlank_of {P : Char → Bool}
    (htable : (blankPoints.all fun n => !P (Char.ofNat n)) = true) {c : Char} (h : P c = true) :
    isBlank c = false := by
  rw [← Bool.not_eq_true]
  intro hblank
  have hnot := List.all_eq_true.1 htable c.toNat (mem_blankPoints hblank)
  rw [Char.ofNat_toNat, h] at hnot
  cases hnot

theorem not_isBlank_of_alphanumeric {c : Char} (h : (isAlphanumeric c || c == '_') = true) :
    isBlank c = false :=
  not_isBlank_of (P := fun c => isAlphanumeric c || c == '_') (by decide +kernel) h

theorem not_isBlank_of_continues {c : Char} (h : continuesName c = true) : isBlank c = false :=
  not_isBlank_of (by decide +kernel) h

/-- A table that has the rows of another holds its code points. -/
theorem anyContains_of_subset {table table' : List Progression} (h : table ⊆ table') {n : Nat}
    (hn : Progression.anyContains table n = true) : Progression.anyContains table' n = true := by
  obtain ⟨row, hrow, hcontains⟩ := List.any_eq_true.1 hn
  exact List.any_eq_true.2 ⟨row, h hrow, hcontains⟩

theorem continuesName_of_startsName {c : Char} (h : startsName c = true) :
    continuesName c = true := by
  unfold startsName at h
  unfold continuesName
  split at h
  · next hascii =>
    rw [if_pos hascii]
    simp only [Bool.or_eq_true, Char.isAlphanum] at h ⊢
    exact h.imp .inl id
  · next hascii =>
    rw [if_neg hascii]
    have hrows : unnamedTable ⊆ trailingTable := by decide
    simp only [Bool.or_eq_true, Bool.and_eq_true, Bool.not_eq_true', beq_iff_eq] at h ⊢
    rcases h with (⟨halphabetic, htrailing⟩ | hsign) | hsign
    · refine .inl ⟨halphabetic, ?_⟩
      rw [← Bool.not_eq_true] at htrailing ⊢
      exact fun hunnamed => htrailing (anyContains_of_subset hrows hunnamed)
    · right
      rw [hsign]
      decide +kernel
    · right
      rw [hsign]
      decide +kernel

/-- Every character of a declared name continues it. -/
theorem continuesName_of_declared {cs : List Char} (h : isDeclaredName cs = true) :
    ∀ c ∈ cs, continuesName c = true := by
  cases cs with
  | nil => cases h
  | cons d cs =>
    simp only [isDeclaredName, Bool.and_eq_true, List.all_eq_true] at h
    intro c hc
    rcases List.mem_cons.1 hc with rfl | hc
    · exact continuesName_of_startsName h.1
    · exact h.2 c hc

theorem not_isBlank_of_toLower {c : Char} (h : c.toLower.isAlphanum = true) : isBlank c = false :=
  not_isBlank_of (P := fun c => c.toLower.isAlphanum) (by decide) h

end Schemata.Text
