import Schemata.Proofs.Text.Blank

/-!
# Identifiers, raw or not

`IsIdentifier` says which texts `isPlainIdentifier` accepts behind a raw mark, or without one. They are
made of alphanumeric characters, underscores and the mark, so no symbol is in them
(`IsIdentifier.not_mem`).
-/

namespace Schemata.Text

/-- A letter or an underscore, and behind it letters, digits and underscores. -/
inductive IsName : List Char → Prop
  | mk {c : Char} {cs : List Char} (first : isAlphabetic c = true ∨ c = '_')
    (others : ∀ d ∈ cs, isAlphanumeric d = true ∨ d = '_') : IsName (c :: cs)

inductive IsIdentifier : List Char → Prop
  | plain {name : List Char} (h : IsName name) : IsIdentifier name
  | raw {name : List Char} (h : IsName name) : IsIdentifier ('r' :: '#' :: name)

variable {cs : List Char}

/-! ## Raw marks -/

theorem unraw_of_not_mem (h : '#' ∉ cs) : unraw cs = cs := by
  unfold unraw
  split
  · exact absurd (by simp) h
  · rfl

theorem mark_not_mem (h : isDeclaredName cs = true) : '#' ∉ cs := by
  intro hmem
  exact absurd (continuesName_of_declared h '#' hmem) (by decide +kernel)

/-! ## Plain identifiers -/

theorem isPlainIdentifier_iff : isPlainIdentifier cs = true ↔ IsName cs := by
  constructor
  · intro h
    cases cs with
    | nil => cases h
    | cons c cs =>
      simp only [isPlainIdentifier, Bool.and_eq_true, Bool.or_eq_true, beq_iff_eq,
        List.all_eq_true] at h
      exact .mk h.1 h.2
  · rintro ⟨first, others⟩
    simp only [isPlainIdentifier, Bool.and_eq_true, Bool.or_eq_true, beq_iff_eq, List.all_eq_true]
    exact ⟨first, others⟩

theorem IsName.continues (h : IsName cs) : ∀ c ∈ cs, isAlphanumeric c = true ∨ c = '_' := by
  obtain ⟨first, others⟩ := h
  intro c hc
  rcases List.mem_cons.1 hc with rfl | hc
  · exact first.imp_left fun hletter => by rw [isAlphanumeric, hletter, Bool.true_or]
  · exact others c hc

theorem IsName.not_mem {c : Char} (h : IsName cs) (hc : isAlphanumeric c = false) (hline : c ≠ '_') :
    c ∉ cs := by
  intro hmem
  rcases h.continues c hmem with hcontinues | hcontinues
  · rw [hc] at hcontinues
    cases hcontinues
  · exact hline hcontinues

theorem IsName.blanks (h : IsName cs) : cs ≠ [] ∧ ∀ c ∈ cs, isBlank c = false := by
  constructor
  · rintro rfl
    cases h
  · intro c hc
    have hcontinues := h.continues c hc
    exact not_isBlank_of_alphanumeric (by simpa using hcontinues)

/-- A name does not begin with the raw mark. -/
theorem IsName.unraw (h : IsName cs) : unraw cs = cs := by
  unfold Text.unraw
  split
  · exact absurd (List.mem_cons_of_mem _ List.mem_cons_self)
      (h.not_mem (c := '#') (by decide +kernel) (by decide))
  · rfl

theorem isIdentifier_iff : isPlainIdentifier (unraw cs) = true ↔ IsIdentifier cs := by
  constructor
  · intro h
    unfold unraw at h
    split at h
    · exact .raw (isPlainIdentifier_iff.1 h)
    · exact .plain (isPlainIdentifier_iff.1 h)
  · intro h
    cases h with
    | plain h =>
      rw [h.unraw]
      exact isPlainIdentifier_iff.2 h
    | raw h => exact isPlainIdentifier_iff.2 h

namespace IsIdentifier

/-- An identifier is not empty and holds no blank. -/
theorem blanks (h : IsIdentifier cs) : cs ≠ [] ∧ ∀ c ∈ cs, isBlank c = false := by
  cases h with
  | plain h => exact h.blanks
  | raw h =>
    refine ⟨by simp, ?_⟩
    simp only [List.forall_mem_cons]
    exact ⟨rfl, rfl, h.blanks.2⟩

theorem not_mem {c : Char} (h : IsIdentifier cs) (hc : isAlphanumeric c = false) (hline : c ≠ '_')
    (hmark : c ≠ '#') : c ∉ cs := by
  cases h with
  | plain h => exact h.not_mem hc hline
  | @raw name h =>
    have hr : c ≠ 'r' := by
      rintro rfl
      exact absurd hc (by decide +kernel)
    simp only [List.mem_cons, not_or]
    exact ⟨hr, hmark, h.not_mem hc hline⟩

end IsIdentifier

end Schemata.Text
