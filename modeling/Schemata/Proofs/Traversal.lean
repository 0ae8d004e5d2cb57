import Mathlib.Data.List.Forall2
import Mathlib.Data.List.TakeWhile

/-!
# Passes over a list

A pass applies a function to the members of a list, one after the other, and stops at the first that
fails. It succeeds with the answers of all members (`Traversal.mapM_ok_iff`), or it fails with the error
of a member that comes behind successful ones only (`Traversal.mapM_error_iff`).

A reader that takes members for as long as they satisfy a predicate takes the same of a longer list, if
the first member behind does not satisfy it (`Traversal.takeWhile_append_stop`,
`Traversal.dropWhile_append_stop`).
-/

namespace Schemata

namespace Traversal

variable {α β ε : Type} {f : α → Except ε β}

theorem bind_eq_ok {x : Except ε α} {f : α → Except ε β} {b : β} (h : (x >>= f) = .ok b) :
    ∃ a, x = .ok a ∧ f a = .ok b := by
  cases x with
  | error e => cases h
  | ok a => exact ⟨a, rfl, h⟩

theorem mapM_ok_iff {as : List α} {bs : List β} :
    as.mapM f = .ok bs ↔ List.Forall₂ (fun a b => f a = .ok b) as bs := by
  constructor
  · intro h
    induction as generalizing bs with
    | nil =>
      cases h
      exact .nil
    | cons a as ih =>
      rw [List.mapM_cons] at h
      obtain ⟨b, hb, h⟩ := bind_eq_ok h
      obtain ⟨bs', hbs', h⟩ := bind_eq_ok h
      cases h
      exact .cons hb (ih hbs')
  · intro h
    induction h with
    | nil => rfl
    | cons hb _ ih =>
      rw [List.mapM_cons, hb, ih]
      rfl

theorem mapM_cons_of_ok {a : α} {b : β} (h : f a = .ok b) {as : List α} {e : ε} :
    (a :: as).mapM f = .error e ↔ as.mapM f = .error e := by
  rw [List.mapM_cons, h]
  cases as.mapM f with
  | error e' => exact Iff.rfl
  | ok bs => constructor <;> intro h <;> cases h

theorem exists_mapM_ok_iff {as : List α} :
    (∃ bs, as.mapM f = .ok bs) ↔ ∀ a ∈ as, ∃ b, f a = .ok b := by
  induction as with
  | nil => exact ⟨fun _ a ha => absurd ha List.not_mem_nil, fun _ => ⟨[], rfl⟩⟩
  | cons a as ih =>
    rw [List.forall_mem_cons, ← ih]
    constructor
    · rintro ⟨bs, h⟩
      rw [List.mapM_cons] at h
      obtain ⟨b, hb, h⟩ := bind_eq_ok h
      obtain ⟨bs', hbs', -⟩ := bind_eq_ok h
      exact ⟨⟨b, hb⟩, bs', hbs'⟩
    · rintro ⟨⟨b, hb⟩, bs, hbs⟩
      exact ⟨b :: bs, mapM_ok_iff.2 (.cons hb (mapM_ok_iff.1 hbs))⟩

/-- The members behind the first that fails do not matter. -/
theorem mapM_error_iff {as : List α} {e : ε} :
    as.mapM f = .error e ↔ ∃ before a after, as = before ++ a :: after ∧
      (∀ a' ∈ before, ∃ b, f a' = .ok b) ∧ f a = .error e := by
  induction as with
  | nil =>
    constructor
    · intro h
      cases h
    · rintro ⟨before, a, after, hsplit, -⟩
      cases before <;> cases hsplit
  | cons a as ih =>
    cases ha : f a with
    | error e' =>
      constructor
      · intro h
        rw [List.mapM_cons, ha] at h
        cases h
        exact ⟨[], a, as, rfl, by simp, ha⟩
      · rintro ⟨_ | ⟨a', before⟩, a'', after, hsplit, hbefore, herror⟩
        · cases hsplit
          rw [List.mapM_cons, herror]
          rfl
        · cases hsplit
          obtain ⟨b, hb⟩ := hbefore a List.mem_cons_self
          cases ha.symm.trans hb
    | ok b =>
      rw [mapM_cons_of_ok ha, ih]
      constructor
      · rintro ⟨before, a', after, rfl, hbefore, herror⟩
        refine ⟨a :: before, a', after, rfl, ?_, herror⟩
        intro a'' ha''
        rcases List.mem_cons.1 ha'' with rfl | ha''
        · exact ⟨b, ha⟩
        · exact hbefore a'' ha''
      · rintro ⟨_ | ⟨a', before⟩, a'', after, hsplit, hbefore, herror⟩
        · cases hsplit
          cases ha.symm.trans herror
        · cases hsplit
          exact ⟨before, a'', after, rfl, fun a' h => hbefore a' (List.mem_cons_of_mem a h), herror⟩

/-! ## Up to the first member that is different -/

section Runs

variable {p : α → Bool} {cs rest : List α}

theorem takeWhile_append_stop (h : ∀ c ∈ rest.head?, p c = false) :
    (cs ++ rest).takeWhile p = cs.takeWhile p := by
  induction cs with
  | nil =>
    cases rest with
    | nil => rfl
    | cons c rest => simp [h c rfl]
  | cons c cs ih => simp only [List.cons_append, List.takeWhile_cons, ih]

theorem dropWhile_append_stop (h : ∀ c ∈ rest.head?, p c = false) :
    (cs ++ rest).dropWhile p = cs.dropWhile p ++ rest := by
  induction cs with
  | nil =>
    cases rest with
    | nil => rfl
    | cons c rest => simp [h c rfl]
  | cons c cs ih =>
    simp only [List.cons_append, List.dropWhile_cons, ih]
    split <;> rfl

/-- A whole run is taken. -/
theorem takeWhile_run (hcs : ∀ c ∈ cs, p c = true) (h : ∀ c ∈ rest.head?, p c = false) :
    (cs ++ rest).takeWhile p = cs := by
  rw [takeWhile_append_stop h, List.takeWhile_eq_self_iff.2 hcs]

theorem dropWhile_run (hcs : ∀ c ∈ cs, p c = true) (h : ∀ c ∈ rest.head?, p c = false) :
    (cs ++ rest).dropWhile p = rest := by
  rw [dropWhile_append_stop h, List.dropWhile_eq_nil_iff.2 hcs, List.nil_append]

end Runs

end Traversal

end Schemata
