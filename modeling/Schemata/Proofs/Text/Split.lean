import Schemata.Proofs.Text.Blank
import Schemata.Text.Split

/-!
# First and last occurrences, and replacements

A text is taken apart at the first place where the separator stands (`splitFirst_append`); behind its
last occurrence stands what holds none of it (`behindLast_append`). A replacement that only takes blanks
away leaves everything else as it is (`squeeze_replaceAll`).
-/

namespace Schemata.Text

/-! ## Taking apart -/

theorem splitFirst_of_not_mem {a : Char} {separator cs : List Char} (h : a ∉ cs) :
    splitFirst (a :: separator) cs = none := by
  induction cs with
  | nil => rfl
  | cons c cs ih =>
    have hne : a ≠ c := fun e => h (by simp [e])
    have htail := ih fun ha => h (List.mem_cons_of_mem c ha)
    simp [splitFirst, hne, htail]

theorem eq_append_of_splitFirst {separator cs before behind : List Char}
    (h : splitFirst separator cs = some (before, behind)) : cs = before ++ separator ++ behind := by
  induction cs generalizing before with
  | nil =>
    unfold splitFirst at h
    split at h
    · next hempty =>
      cases h
      rw [List.isEmpty_iff.1 hempty]
      rfl
    · cases h
  | cons c cs ih =>
    unfold splitFirst at h
    split at h
    · next hprefix =>
      cases h
      exact (List.prefix_iff_eq_append.1 (List.isPrefixOf_iff_prefix.1 hprefix)).symm
    · obtain ⟨⟨front, rest⟩, hsplit, heq⟩ := Option.map_eq_some_iff.1 h
      cases heq
      rw [ih hsplit]
      rfl

/-- The text is taken apart in front of `behind` if the separator does not begin earlier. -/
theorem splitFirst_append {separator before behind : List Char} (hseparator : separator ≠ [])
    (h : ∀ front c rest, before = front ++ c :: rest →
      ¬ separator <+: c :: rest ++ separator ++ behind) :
    splitFirst separator (before ++ separator ++ behind) = some (before, behind) := by
  induction before with
  | nil =>
    obtain ⟨a, separator, rfl⟩ := List.exists_cons_of_ne_nil hseparator
    simp [splitFirst]
  | cons c before ih =>
    have hhere : separator.isPrefixOf (c :: (before ++ separator ++ behind)) = false := by
      rw [← Bool.not_eq_true, List.isPrefixOf_iff_prefix]
      exact h [] c before rfl
    have hlater := ih fun front d rest heq => h (c :: front) d rest (by rw [heq]; rfl)
    simp only [List.cons_append, splitFirst, hhere, hlater]
    rfl

theorem splitFirst_append_of_not_mem {a : Char} {separator before : List Char} (h : a ∉ before)
    (behind : List Char) :
    splitFirst (a :: separator) (before ++ a :: separator ++ behind) = some (before, behind) := by
  apply splitFirst_append (by simp)
  intro front c rest heq hprefix
  have hmem : c ∈ before := by simp [heq]
  obtain ⟨tail, htail⟩ := hprefix
  simp only [List.cons_append, List.cons.injEq] at htail
  exact h (htail.1 ▸ hmem)

/-- Blanks in front of the separator are part of what stands before it, although the separator begins
with a blank itself. -/
theorem splitFirst_append_blanks {a b : Char} {separator name pad : List Char}
    (ha : isBlank a = true) (hb : isBlank b = false) (hname : ∀ c ∈ name, isBlank c = false)
    (hpad : ∀ c ∈ pad, isBlank c = true) (behind : List Char) :
    splitFirst (a :: b :: separator) (name ++ pad ++ a :: b :: separator ++ behind)
      = some (name ++ pad, behind) := by
  apply splitFirst_append (by simp)
  intro front c rest heq hprefix
  obtain ⟨tail, htail⟩ := hprefix
  simp only [List.cons_append, List.cons.injEq] at htail
  -- the separator would have to begin among the blanks, with a blank behind its first character
  have hrest : ∀ d ∈ rest, isBlank d = true := by
    intro d hd
    rcases List.append_eq_append_iff.1 heq with ⟨front', hfront, hpads⟩ | ⟨rest', hnames, hrests⟩
    · exact hpad d (by rw [hpads]; simp [hd])
    · cases rest' with
      | nil =>
        simp only [List.nil_append] at hrests
        exact hpad d (by rw [← hrests]; simp [hd])
      | cons c' rest' =>
        simp only [List.cons_append, List.cons.injEq] at hrests
        have hc := hname c' (by simp [hnames])
        rw [← hrests.1, ← htail.1, ha] at hc
        cases hc
  cases rest with
  | nil =>
    obtain ⟨hba, -⟩ := List.cons.inj htail.2
    rw [hba, ha] at hb
    cases hb
  | cons d rest =>
    simp only [List.cons_append, List.cons.injEq] at htail
    rw [htail.2.1, hrest d List.mem_cons_self] at hb
    cases hb

theorem behindLast_of_not_mem {a : Char} {separator cs : List Char} (h : a ∉ cs) :
    behindLast (separator ++ [a]) cs = cs := by
  have hreverse : a ∉ cs.reverse := fun ha => h (List.mem_reverse.1 ha)
  simp only [behindLast, List.reverse_append, List.reverse_cons, List.reverse_nil, List.nil_append,
    List.cons_append, splitFirst_of_not_mem hreverse]

/-- Behind its last occurrence stands what does not hold the end of the separator. -/
theorem behindLast_append {a : Char} {separator cs : List Char} (h : a ∉ cs) (before : List Char) :
    behindLast (separator ++ [a]) (before ++ (separator ++ [a]) ++ cs) = cs := by
  have hreverse : a ∉ cs.reverse := fun ha => h (List.mem_reverse.1 ha)
  have hsplit : splitFirst (a :: separator.reverse)
      (cs.reverse ++ a :: separator.reverse ++ before.reverse) = some (cs.reverse, before.reverse) :=
    splitFirst_append_of_not_mem hreverse before.reverse
  have htext : (before ++ (separator ++ [a]) ++ cs).reverse
      = cs.reverse ++ a :: separator.reverse ++ before.reverse := by simp
  have hseparator : (separator ++ [a]).reverse = a :: separator.reverse := by simp
  simp only [behindLast, hseparator, htext, hsplit, List.reverse_reverse]

/-- A doubled character is found no later for being put behind a text, unless that ends with the
character. -/
theorem splitFirst_double {a : Char} {cs : List Char} (h : cs.getLast? ≠ some a) (ds : List Char) :
    (splitFirst [a, a] (cs ++ a :: a :: ds)).map Prod.fst
      = some (((splitFirst [a, a] cs).map Prod.fst).getD cs) := by
  induction cs with
  | nil => simp [splitFirst]
  | cons c cs ih =>
    have htail : cs.getLast? ≠ some a := by
      intro hlast
      cases cs with
      | nil => cases hlast
      | cons d cs => exact h (by rw [List.getLast?_cons_cons, hlast])
    -- an occurrence that begins here does not reach beyond the text
    have hhere : [a, a].isPrefixOf (c :: (cs ++ a :: a :: ds)) = [a, a].isPrefixOf (c :: cs) := by
      cases cs with
      | nil =>
        have hne : a ≠ c := fun heq => h (congrArg some heq.symm)
        simp [List.isPrefixOf, hne]
      | cons d cs => rfl
    rw [List.cons_append, splitFirst, splitFirst, hhere]
    cases hprefix : [a, a].isPrefixOf (c :: cs) with
    | true => rfl
    | false =>
      have hlater := ih htail
      cases hwhole : splitFirst [a, a] (cs ++ a :: a :: ds) with
      | none =>
        rw [hwhole] at hlater
        cases hlater
      | some split =>
        rw [hwhole] at hlater
        cases hcs : splitFirst [a, a] cs with
        | none =>
          rw [hcs] at hlater
          simpa using hlater
        | some split' =>
          rw [hcs] at hlater
          simpa using hlater

/-- A separator in front of what does not continue it is not the last one, if there is another. -/
theorem behindLast_append_of_head {a : Char} {cs : List Char} (h : cs.head? ≠ some a)
    (before : List Char) : behindLast [a, a] (before ++ [a, a] ++ cs) = behindLast [a, a] cs := by
  have hbehind : ∀ ds, behindLast [a, a] ds
      = (((splitFirst [a, a] ds.reverse).map Prod.fst).getD ds.reverse).reverse := by
    intro ds
    have hseparator : [a, a].reverse = [a, a] := rfl
    rw [behindLast, hseparator]
    cases splitFirst [a, a] ds.reverse with
    | none => exact (List.reverse_reverse ds).symm
    | some split => rfl
  have hlast : cs.reverse.getLast? ≠ some a := by
    rwa [List.getLast?_reverse]
  have htext : (before ++ [a, a] ++ cs).reverse = cs.reverse ++ a :: a :: before.reverse := by simp
  rw [hbehind, hbehind, htext, splitFirst_double hlast, Option.getD_some]

/-! ## Replacements -/

theorem replaceAll_cons {old new cs : List Char} {c : Char} (h : ¬ old <+: c :: cs) :
    replaceAll old new (c :: cs) = c :: replaceAll old new cs := by
  rw [← List.isPrefixOf_iff_prefix] at h
  simp only [replaceAll, replaceFrom, if_neg h]

/-- A text without the first character of what is replaced is left alone in front of another. -/
theorem replaceAll_append {a : Char} {old new front : List Char} (h : a ∉ front) (cs : List Char) :
    replaceAll (a :: old) new (front ++ cs) = front ++ replaceAll (a :: old) new cs := by
  induction front with
  | nil => rfl
  | cons c front ih =>
    have hprefix : ¬ a :: old <+: c :: (front ++ cs) := by
      rw [List.cons_prefix_cons]
      rintro ⟨rfl, -⟩
      exact h List.mem_cons_self
    rw [List.cons_append, replaceAll_cons hprefix, ih fun ha => h (List.mem_cons_of_mem c ha)]
    rfl

theorem replaceFrom_skip (old new front cs : List Char) :
    replaceFrom old new front.length (front ++ cs) = replaceAll old new cs := by
  induction front with
  | nil => rfl
  | cons c front ih => exact ih

/-- An occurrence at the front is replaced. -/
theorem replaceAll_occurrence (a : Char) (old new cs : List Char) :
    replaceAll (a :: old) new (a :: (old ++ cs)) = new ++ replaceAll (a :: old) new cs := by
  have hprefix : (a :: old).isPrefixOf (a :: (old ++ cs)) = true := by simp
  rw [replaceAll, replaceFrom, if_pos hprefix, List.length_cons, Nat.add_sub_cancel, replaceFrom_skip]

/-- What is not replaced at the front is left there. -/
theorem head?_replaceAll {a c : Char} {old new cs : List Char} (h : a = c → new.head? = some c) :
    (replaceAll (a :: old) new (c :: cs)).head? = some c := by
  by_cases hprefix : a :: old <+: c :: cs
  · obtain ⟨rfl, rest, rfl⟩ := List.cons_prefix_cons.1 hprefix
    rw [replaceAll_occurrence, List.head?_append, h rfl, Option.some_or]
  · rw [replaceAll_cons hprefix, List.head?_cons]

theorem squeeze_replaceFrom {old new : List Char} (hsqueeze : squeeze old = squeeze new)
    (hold : old ≠ []) (skip : Nat) (cs : List Char) :
    squeeze (replaceFrom old new skip cs) = squeeze (cs.drop skip) := by
  induction cs generalizing skip with
  | nil => cases skip <;> rfl
  | cons c cs ih =>
    cases skip with
    | succ skip => exact ih skip
    | zero =>
      rw [List.drop_zero]
      by_cases hprefix : old.isPrefixOf (c :: cs) = true
      · obtain ⟨a, old, rfl⟩ := List.exists_cons_of_ne_nil hold
        obtain ⟨rest, hrest⟩ := List.isPrefixOf_iff_prefix.1 hprefix
        have hdrop : cs.drop old.length = rest := by
          have hcs : old ++ rest = cs := (List.cons.inj hrest).2
          rw [← hcs, List.drop_left]
        simp only [replaceFrom, if_pos hprefix, squeeze_append, ih, List.length_cons,
          Nat.add_sub_cancel, hdrop]
        rw [← hsqueeze, ← squeeze_append, hrest]
      · have hcons : ∀ ds, squeeze (c :: ds) = squeeze [c] ++ squeeze ds := squeeze_append [c]
        simp only [replaceFrom, if_neg hprefix]
        rw [hcons, ih, hcons cs, List.drop_zero]

/-- A replacement that differs from what it replaces in blanks only does not change the rest. -/
theorem squeeze_replaceAll {old new : List Char} (hsqueeze : squeeze old = squeeze new)
    (hold : old ≠ []) (cs : List Char) : squeeze (replaceAll old new cs) = squeeze cs :=
  squeeze_replaceFrom hsqueeze hold 0 cs

end Schemata.Text
