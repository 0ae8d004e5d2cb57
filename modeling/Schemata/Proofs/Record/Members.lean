import Schemata.Proofs.Traversal
import Schemata.Record

/-!
# The members of a derived entity

Deriving goes over the fields of a declaration three times. It reads their tokens, settles their types,
and then derives a member and a selector from each. Every pass keeps their number and order, so that
`Source.derive_fields` can say field by field what the members are: a member has its field's name
without the raw mark and its type as the grammar reads it, whatever its markers are.
-/

namespace Schemata

namespace Record

/-! ## Passes over a list -/

section Passes

variable {α β γ : Type}

theorem forall₂_of_mapM_some {f : α → Option β} {as : List α} {bs : List β}
    (h : as.mapM f = some bs) : List.Forall₂ (fun a b => f a = some b) as bs := by
  induction as generalizing bs with
  | nil =>
    cases h
    exact .nil
  | cons a as ih =>
    rw [List.mapM_cons] at h
    obtain ⟨b, hb, h⟩ := Option.bind_eq_some_iff.1 h
    obtain ⟨bs', hbs', h⟩ := Option.bind_eq_some_iff.1 h
    cases h
    exact .cons hb (ih hbs')

theorem exists_getElem?_of_forall₂ {r : α → β → Prop} {as : List α} {bs : List β}
    (h : List.Forall₂ r as bs) {i : Nat} {a : α} (ha : as[i]? = some a) :
    ∃ b, bs[i]? = some b ∧ r a b := by
  induction h generalizing i with
  | nil => cases ha
  | cons hab _ ih =>
    cases i with
    | zero =>
      cases ha
      exact ⟨_, rfl, hab⟩
    | succ i => exact ih ha

/-- Two passes one behind the other. -/
theorem forall₂_comp {r : α → β → Prop} {r' : β → γ → Prop} {as : List α} {bs : List β} {cs : List γ}
    (h : List.Forall₂ r as bs) (h' : List.Forall₂ r' bs cs) :
    List.Forall₂ (fun a c => ∃ b, r a b ∧ r' b c) as cs := by
  induction h generalizing cs with
  | nil =>
    cases h'
    exact .nil
  | cons hab _ ih =>
    cases h' with
    | cons hbc h' => exact .cons ⟨_, hab, hbc⟩ (ih h')

end Passes

theorem deriveFields_eq_mapM (fs : List TokenField) :
    deriveFields fs = fs.mapM TokenField.derive := by
  induction fs with
  | nil => rfl
  | cons f fs ih =>
    rw [List.mapM_cons, ← ih]
    rfl

/-! ## One member -/

theorem mark_name_typeText (m : Member) (marker : MemberMarker) :
    (mark m marker).name = m.name ∧ (mark m marker).typeText = m.typeText := by
  cases marker <;> exact ⟨rfl, rfl⟩

theorem marked_name_typeText (m : Member) (markers : List MemberMarker) :
    (marked m markers).name = m.name ∧ (marked m markers).typeText = m.typeText := by
  unfold marked
  induction markers generalizing m with
  | nil => exact ⟨rfl, rfl⟩
  | cons marker markers ih =>
    obtain ⟨hname, htype⟩ := ih (mark m marker)
    obtain ⟨hname', htype'⟩ := mark_name_typeText m marker
    exact ⟨hname.trans hname', htype.trans htype'⟩

theorem TokenField.derive_ok {f : TokenField} {m : Member × String} (h : f.derive = .ok m) :
    m.1.name = f.member ∧ m.1.typeText = String.ofList (typeText f.type) := by
  obtain ⟨markers, -, h⟩ := Traversal.bind_eq_ok h
  dsimp only at h
  split at h
  · cases h
    exact marked_name_typeText _ markers
  · cases h

theorem TokenField.settle_ok {f : TokenField} {r : TokenField × List Token}
    (h : f.settle = .ok r) : settleType f.type = .ok r.1.type ∧ r.1.name = f.name := by
  obtain ⟨rests, -, h⟩ := Traversal.bind_eq_ok h
  obtain ⟨type, htype, h⟩ := Traversal.bind_eq_ok h
  cases h
  exact ⟨htype, rfl⟩

theorem Field.tokens?_some {f : Field} {t : TokenField} (h : f.tokens? = some t) :
    Record.tokens? f.typeText = some t.type ∧ t.name = f.name := by
  obtain ⟨type, htype, h⟩ := Option.bind_eq_some_iff.1 h
  obtain ⟨attributes, -, h⟩ := Option.bind_eq_some_iff.1 h
  cases h
  exact ⟨htype, rfl⟩

/-- The member that a field gives. -/
structure Field.Gives (f : Field) (m : Member) : Prop where
  name : m.name = String.ofList (Text.unraw f.name.toList)
  type : ∃ ts type, Record.tokens? f.typeText = some ts ∧ settleType ts = .ok type ∧
    m.typeText = String.ofList (Record.typeText type)

/-! ## All members -/

theorem TokenSource.settle_ok {s t : TokenSource} (h : s.settle = .ok t) :
    t.kind = s.kind ∧ (s.kind.hasMembers = true → List.Forall₂
      (fun f g => settleType f.type = .ok g.type ∧ g.name = f.name) s.fields t.fields) := by
  obtain ⟨rests, -, h⟩ := Traversal.bind_eq_ok h
  dsimp only at h
  split at h
  · obtain ⟨fields, hfields, h⟩ := Traversal.bind_eq_ok h
    split at h
    · cases h
      refine ⟨rfl, fun _ => ?_⟩
      rw [List.forall₂_map_right_iff]
      exact (Traversal.mapM_ok_iff.1 hfields).imp fun _ _ => TokenField.settle_ok
    · cases h
  · next hkind =>
    obtain ⟨fields, -, h⟩ := Traversal.bind_eq_ok h
    split at h
    · cases h
      exact ⟨rfl, fun hmembers => absurd hmembers hkind⟩
    · cases h

theorem TokenSource.derive_ok {s : TokenSource} {d : Derived} (h : s.derive = .ok d) :
    s.kind = .named ∧ ∃ markers ms, deriveFields s.fields = .ok ms ∧
      Text.isDeclaredName (moduleName s.name) = true ∧ d = {
        entity := ⟨s.name, tableName? markers, ms.map (·.1)⟩
        moduleName := String.ofList (moduleName s.name)
        selectors := ms.map fun m => (m.2, m.1.name) } := by
  unfold derive at h
  split at h
  · cases h
  · split at h
    · cases h
    · cases h
    · cases h
    · cases h
    · next hkind =>
      obtain ⟨markers, -, h⟩ := Traversal.bind_eq_ok h
      obtain ⟨ms, hms, h⟩ := Traversal.bind_eq_ok h
      split at h
      · next hmodule =>
        cases h
        exact ⟨hkind, markers, ms, hms, hmodule, rfl⟩
      · cases h

/-- **The members of a derived entity** are those that the fields give, in order, and there is a
selector for each. -/
theorem Source.derive_fields {s : Source} {d : Derived} (h : s.derive = .ok d) :
    List.Forall₂ Field.Gives s.fields d.entity.members ∧
      d.selectors.map (·.2) = d.entity.members.map (·.name) := by
  unfold derive at h
  split at h
  · cases h
  · next ts hts =>
    obtain ⟨ts', hsettle, h⟩ := Traversal.bind_eq_ok h
    obtain ⟨hkind, markers, ms, hms, -, rfl⟩ := TokenSource.derive_ok h
    obtain ⟨hkind', hsettled⟩ := TokenSource.settle_ok hsettle
    rw [hkind] at hkind'
    obtain ⟨parameters, -, hts⟩ := Option.bind_eq_some_iff.1 hts
    obtain ⟨attributes, -, hts⟩ := Option.bind_eq_some_iff.1 hts
    obtain ⟨fields, hfields, hts⟩ := Option.bind_eq_some_iff.1 hts
    cases hts
    have hsettle := hsettled (by rw [← hkind']; rfl)
    rw [deriveFields_eq_mapM] at hms
    have hgives := forall₂_comp (forall₂_of_mapM_some hfields)
      (forall₂_comp hsettle (Traversal.mapM_ok_iff.1 hms))
    rw [List.forall₂_map_right_iff]
    refine ⟨hgives.imp ?_, by simp⟩
    rintro f m ⟨t, hread, t', ⟨hsettle, hname⟩, hderive⟩
    obtain ⟨hread, hname'⟩ := Field.tokens?_some hread
    obtain ⟨hmember, htext⟩ := TokenField.derive_ok hderive
    refine ⟨?_, t.type, t'.type, hread, hsettle, htext⟩
    rw [hmember, TokenField.member, hname, hname']

end Record

end Schemata
