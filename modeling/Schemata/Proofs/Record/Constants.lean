import Schemata.Proofs.Naming.Words
import Schemata.Proofs.Record.Reports

/-!
# The constants of selectors

Every member gets a selector, named by a constant: the words of its name in upper case. That need not be
a name any more, since what separates the words is dropped and a digit may come to the front.
`Source.derive_unusable` says for which records deriving stops at that, and that it does so for no other
reason. Nor need the constants of two members differ: `Source.derive_selectors` says when they do.
-/

namespace Schemata

namespace Record

open Naming

/-! ## Names that stay -/

theorem TokenSource.settle_name {s t : TokenSource} (h : s.settle = .ok t) : t.name = s.name := by
  obtain ⟨rests, -, h⟩ := Traversal.bind_eq_ok h
  dsimp only at h
  split at h
  · obtain ⟨fields, -, h⟩ := Traversal.bind_eq_ok h
    split at h <;> cases h
    rfl
  · obtain ⟨fields, -, h⟩ := Traversal.bind_eq_ok h
    split at h <;> cases h
    rfl

/-- Reading a declaration of named members keeps all names. -/
theorem Source.read_names {s : Source} {t : TokenSource} (h : s.read = .ok t)
    (hkind : t.kind = .named) :
    t.name = s.name ∧ t.fields.map (·.name) = s.fields.map (·.name) := by
  unfold read at h
  split at h
  · cases h
  · next u hu =>
    obtain ⟨parameters, -, hu⟩ := Option.bind_eq_some_iff.1 hu
    obtain ⟨attributes, -, hu⟩ := Option.bind_eq_some_iff.1 hu
    obtain ⟨fields, hfields, hu⟩ := Option.bind_eq_some_iff.1 hu
    cases hu
    refine ⟨TokenSource.settle_name h, ?_⟩
    obtain ⟨hsame, hsettled⟩ := TokenSource.settle_ok h
    rw [hkind] at hsame
    have hpasses := forall₂_comp (forall₂_of_mapM_some hfields) (hsettled (by rw [← hsame]; rfl))
    rw [← List.forall₂_eq_eq_eq, List.forall₂_map_right_iff, List.forall₂_map_left_iff]
    refine (hpasses.imp ?_).flip
    rintro f g ⟨field, hread, -, hname⟩
    exact hname.trans (Field.tokens?_some hread).2

/-! ## Constants that are no names -/

/-- The markers of a member can be read. -/
def TokenField.IsMarked (f : TokenField) : Prop :=
  ∃ ms, readAttributes readMemberMarker f.attributes = .ok ms

/-- Deriving stops at a member if its constant is no name and nothing before it is wrong. -/
def StopsAt (f : TokenField) (fs : List TokenField) : Prop :=
  ∃ before behind, fs = before ++ f :: behind ∧
    (∀ g ∈ before, g.IsMarked ∧ OpensUpper g.member.toList) ∧
    f.IsMarked ∧ ¬ OpensUpper f.member.toList

section Members

variable {f : TokenField} {fs : List TokenField}

/-- A member whose name is a declared one, raw or not. -/
def TokenField.IsNamed (f : TokenField) : Prop :=
  Text.isDeclaredName f.member.toList = true

theorem nameable_of_declared {cs : List Char} (h : Text.isDeclaredName cs = true) : Nameable cs :=
  fun c hc _ => Text.continuesName_of_declared h c hc

theorem TokenField.constant_declared_iff (hf : f.IsNamed) :
    Text.isDeclaredName f.constant = true ↔ OpensUpper f.member.toList :=
  shoutySnake_declared_iff (nameable_of_declared hf)

theorem TokenField.derive_ok_iff (hf : f.IsNamed) :
    (∃ m, f.derive = .ok m) ↔ f.IsMarked ∧ OpensUpper f.member.toList := by
  rw [f.derive_eq, ← f.constant_declared_iff hf, IsMarked]
  cases readAttributes readMemberMarker f.attributes with
  | error e => simp [bind, Except.bind]
  | ok ms => cases Text.isDeclaredName f.constant <;> simp [bind, Except.bind]

theorem TokenField.derive_unusable_iff (hf : f.IsNamed) :
    f.derive = .error .unusableName ↔ f.IsMarked ∧ ¬ OpensUpper f.member.toList := by
  have hread := readAttributes_ne_unusable readMemberMarker_ne_unusable f.attributes
  rw [f.derive_eq, ← f.constant_declared_iff hf, IsMarked]
  cases hmarkers : readAttributes readMemberMarker f.attributes with
  | error e =>
    rw [hmarkers] at hread
    simpa [bind, Except.bind] using hread
  | ok ms => simp [bind, Except.bind]

theorem deriveFields_ok_iff (hfs : ∀ f ∈ fs, f.IsNamed) :
    (∃ ms, deriveFields fs = .ok ms) ↔ ∀ f ∈ fs, f.IsMarked ∧ OpensUpper f.member.toList := by
  rw [deriveFields_eq_mapM, Traversal.exists_mapM_ok_iff]
  exact forall₂_congr fun f hf => TokenField.derive_ok_iff (hfs f hf)

theorem deriveFields_unusable_iff (hfs : ∀ f ∈ fs, f.IsNamed) :
    deriveFields fs = .error .unusableName ↔ ∃ f, StopsAt f fs := by
  rw [deriveFields_eq_mapM, Traversal.mapM_error_iff]
  constructor
  · rintro ⟨before, f, behind, rfl, hbefore, hf⟩
    refine ⟨f, before, behind, rfl, fun g hg => ?_, ?_⟩
    · exact (TokenField.derive_ok_iff (hfs g (by simp [hg]))).1 (hbefore g hg)
    · exact (TokenField.derive_unusable_iff (hfs f (by simp))).1 hf
  · rintro ⟨f, before, behind, rfl, hbefore, hf⟩
    refine ⟨before, f, behind, rfl, fun g hg => ?_, ?_⟩
    · exact (TokenField.derive_ok_iff (hfs g (by simp [hg]))).2 (hbefore g hg)
    · exact (TokenField.derive_unusable_iff (hfs f (by simp))).2 hf

end Members

theorem nameable_of_unraw {cs : List Char} (h : Text.isDeclaredName (Text.unraw cs) = true) :
    Nameable cs := by
  unfold Text.unraw at h
  split at h
  · next rest =>
    intro c hc halphanumeric
    rcases List.mem_cons.1 hc with rfl | hc
    · decide +kernel
    · rcases List.mem_cons.1 hc with rfl | hc
      · exact absurd halphanumeric (by decide +kernel)
      · exact nameable_of_declared h c hc halphanumeric
  · exact nameable_of_declared h

theorem moduleName_declared_iff {name : String} (h : Nameable name.toList) :
    Text.isDeclaredName (moduleName name) = true ↔ OpensLower name.toList :=
  snake_declared_iff h (List.all_eq_true.1 (by decide +kernel))

theorem TokenSource.named_of_unusable {t : TokenSource} (h : t.derive = .error .unusableName) :
    t.kind = .named := by
  unfold derive at h
  split at h
  · simp at h
  · split at h
    · simp at h
    · simp at h
    · simp at h
    · simp at h
    · assumption

/-- Deriving from a declaration that has been read stops at a derived name: the record is one with named
members and no parameters, its own markers can be read, and either a member gives no constant, or all
members do and the module has no name. -/
structure TokenSource.StopsAtName (t : TokenSource) : Prop where
  named : t.kind = .named
  plain : hasParameter t.parameters = false
  marked : ∃ ms, readAttributes readRecordMarker t.attributes = .ok ms
  stops : (∃ f, StopsAt f t.fields) ∨
    (∀ f ∈ t.fields, f.IsMarked ∧ OpensUpper f.member.toList) ∧ ¬ OpensLower t.name.toList

theorem TokenSource.derive_unusable_iff {t : TokenSource} (hname : Nameable t.name.toList)
    (hfields : ∀ f ∈ t.fields, f.IsNamed) : t.derive = .error .unusableName ↔ t.StopsAtName := by
  have hstops : t.StopsAtName ↔ t.kind = .named ∧ hasParameter t.parameters = false ∧
      (∃ ms, readAttributes readRecordMarker t.attributes = .ok ms) ∧
      (deriveFields t.fields = .error .unusableName ∨
        (∃ ms, deriveFields t.fields = .ok ms) ∧ ¬ Text.isDeclaredName (moduleName t.name) = true) := by
    rw [deriveFields_unusable_iff hfields, deriveFields_ok_iff hfields, moduleName_declared_iff hname]
    exact ⟨fun ⟨h₁, h₂, h₃, h₄⟩ => ⟨h₁, h₂, h₃, h₄⟩, fun ⟨h₁, h₂, h₃, h₄⟩ => ⟨h₁, h₂, h₃, h₄⟩⟩
  rw [hstops]
  unfold derive
  cases hparameters : hasParameter t.parameters with
  | true => simp
  | false =>
    cases hkind : t.kind with
    | named =>
      have hread := readAttributes_ne_unusable readRecordMarker_ne_unusable t.attributes
      cases hmarkers : readAttributes readRecordMarker t.attributes with
      | error e =>
        rw [hmarkers] at hread
        simpa [bind, Except.bind] using hread
      | ok ms =>
        cases hmembers : deriveFields t.fields with
        | error e => simp [bind, Except.bind]
        | ok members =>
          cases Text.isDeclaredName (moduleName t.name) <;>
            simp [bind, Except.bind, pure, Except.pure, throw, throwThe, MonadExceptOf.throw]
    | _ => simp

section Sources

variable {s : Source} {t : TokenSource}

/-- The members of a declaration that has been read have the names of its fields. -/
theorem Source.exists_field (hread : s.read = .ok t) (hkind : t.kind = .named) {f : TokenField}
    (hf : f ∈ t.fields) : ∃ g ∈ s.fields, f.member.toList = Text.unraw g.name.toList := by
  obtain ⟨-, hnames⟩ := Source.read_names hread hkind
  obtain ⟨g, hg, hsame⟩ := List.mem_map.1 (hnames ▸ List.mem_map_of_mem hf)
  exact ⟨g, hg, by rw [TokenField.member, String.toList_ofList, hsame]⟩

/-- **When deriving stops at a derived name.** -/
theorem Source.derive_unusable (hname : Text.isDeclaredName (Text.unraw s.name.toList) = true)
    (hfields : ∀ f ∈ s.fields, Text.isDeclaredName (Text.unraw f.name.toList) = true) :
    (s.derive = .error .unusableName ↔ ∃ t, s.read = .ok t ∧ t.StopsAtName) ∧
    -- It never does so where the first letter or digit of every name may start a name itself.
    ((∀ c ∈ s.name.toList.find? Text.isAlphanumeric, Text.startsName c = true) →
      (∀ f ∈ s.fields, ∃ c ∈ (Text.unraw f.name.toList).find? Text.isAlphanumeric,
        Text.startsName c = true) →
      s.derive ≠ .error .unusableName) := by
  have hread : ∀ {t}, s.read = .ok t → t.kind = .named →
      (t.derive = .error .unusableName ↔ t.StopsAtName) := by
    intro t hread hkind
    refine TokenSource.derive_unusable_iff ?_ fun f hf => ?_
    · rw [(Source.read_names hread hkind).1]
      exact nameable_of_unraw hname
    · obtain ⟨g, hg, hmember⟩ := Source.exists_field hread hkind hf
      rw [TokenField.IsNamed, hmember, hfields g hg]
  have hstops : s.derive = .error .unusableName ↔ ∃ t, s.read = .ok t ∧ t.StopsAtName := by
    have hnot := s.read_ne_unusable
    rw [s.derive_eq]
    cases hs : s.read with
    | error e =>
      rw [hs] at hnot
      simpa [bind, Except.bind] using hnot
    | ok t =>
      constructor
      · intro h
        exact ⟨t, rfl, (hread hs (TokenSource.named_of_unusable h)).1 h⟩
      · rintro ⟨t', ht, h⟩
        cases ht
        exact (hread hs h.named).2 h
  refine ⟨hstops, fun hmodule hmembers h => ?_⟩
  obtain ⟨t, hs, ht⟩ := hstops.1 h
  rcases ht.stops with ⟨f, before, behind, hsplit, -, -, hf⟩ | ⟨-, hlower⟩
  · obtain ⟨g, hg, hmember⟩ := Source.exists_field hs ht.named (f := f) (by rw [hsplit]; simp)
    obtain ⟨c, hc, hstarts⟩ := hmembers g hg
    rw [hmember] at hf
    exact hf ⟨c, hc, (Text.upperChar_standsFor c).starts hstarts⟩
  · rw [(Source.read_names hs ht.named).1] at hlower
    exact hlower fun c hc => (Text.lowerChar_standsFor c).starts (hmodule c hc)

end Sources

/-- A record with a member of a certain name, behind another one. -/
def row (member : String) : Source :=
  ⟨.named, "Row", "", [], [⟨"id", "i64", []⟩, ⟨member, "i32", []⟩]⟩

theorem derive_unusable_row :
    (row "_1").derive = .error .unusableName ∧ (row "_a1").derive ≠ .error .unusableName := by
  constructor
  · have hread : (row "_1").read = .ok ⟨.named, "Row", [], [],
        [⟨"id", [.name "i64".toList], []⟩, ⟨"_1", [.name "i32".toList], []⟩]⟩ := by decide +kernel
    refine (Source.derive_unusable (by decide +kernel) (by decide +kernel)).1.2 ⟨_, hread, ?_⟩
    refine ⟨rfl, rfl, ⟨[], rfl⟩, .inl ⟨_, [_], [], rfl, ?_, ⟨[], rfl⟩, by decide +kernel⟩⟩
    intro g hg
    rw [List.mem_singleton.1 hg]
    exact ⟨⟨[], rfl⟩, by decide +kernel⟩
  · have hname : "Row".toList.find? Text.isAlphanumeric = some 'R' := by decide +kernel
    have hid : "id".toList.find? Text.isAlphanumeric = some 'i' := by decide +kernel
    have ha : "_a1".toList.find? Text.isAlphanumeric = some 'a' := by decide +kernel
    refine (Source.derive_unusable (by decide +kernel) (by decide +kernel)).2 ?_ ?_
    · intro c hc
      cases hname.symm.trans hc
      decide +kernel
    · exact List.forall_mem_cons.2 ⟨⟨'i', hid, by decide +kernel⟩,
        List.forall_mem_singleton.2 ⟨'a', ha, by decide +kernel⟩⟩

/-- A digit behind an underscore comes to the front. -/
theorem derive_unusable_digit :
    Text.isDeclaredName "Row".toList = true ∧ Text.isDeclaredName "_1".toList = true ∧
    (⟨.named, "Row", "", [], [⟨"_1", "i32", []⟩]⟩ : Source).derive = .error .unusableName := by
  decide +kernel

/-! ## Constants that are names -/

theorem TokenField.derive_constant {f : TokenField} {m : Member × String} (h : f.derive = .ok m) :
    m.1.name = f.member ∧ m.2 = String.ofList f.constant ∧ Text.isDeclaredName f.constant = true := by
  refine ⟨(TokenField.derive_ok h).1, ?_⟩
  rw [f.derive_eq] at h
  obtain ⟨ms, -, h⟩ := Traversal.bind_eq_ok h
  split at h
  · next hconstant =>
    cases h
    exact ⟨rfl, hconstant⟩
  · cases h

/-- The selectors of members that could be derived. -/
theorem selectors_of_deriveFields {fs : List TokenField} {ms : List (Member × String)}
    (h : deriveFields fs = .ok ms) :
    ms.map (fun m => (m.2, m.1.name)) = fs.map (fun f => (String.ofList f.constant, f.member)) ∧
      ∀ f ∈ fs, Text.isDeclaredName f.constant = true := by
  rw [deriveFields_eq_mapM, Traversal.mapM_ok_iff] at h
  induction h with
  | nil => simp
  | cons hm _ ih =>
    obtain ⟨hmember, hconstant, hdeclared⟩ := TokenField.derive_constant hm
    obtain ⟨hmap, hnames⟩ := ih
    rw [List.map_cons, List.map_cons, hmap, hmember, hconstant]
    exact ⟨rfl, List.forall_mem_cons.2 ⟨hdeclared, hnames⟩⟩

/-- The constant that a field's name gives. -/
def Field.constant (f : Field) : List Char :=
  shoutySnake (Text.unraw f.name.toList)

/-- The words that a field's constant consists of. -/
def Field.constantWords (f : Field) : List (List Char) :=
  (words (Text.unraw f.name.toList)).map Text.upperText

theorem map_selector_of_names {ts : List TokenField} {fs : List Field}
    (h : ts.map (·.name) = fs.map (·.name)) :
    ts.map (fun t => (String.ofList t.constant, t.member))
      = fs.map fun f => (String.ofList f.constant, String.ofList (Text.unraw f.name.toList)) := by
  let selector (name : String) : String × String :=
    (String.ofList (shoutySnake (Text.unraw name.toList)), String.ofList (Text.unraw name.toList))
  have hts : ts.map (fun t => (String.ofList t.constant, t.member))
      = (ts.map (·.name)).map selector := by
    rw [List.map_map]
    refine List.map_congr_left fun t _ => ?_
    simp [selector, TokenField.constant, TokenField.member]
  have hfs : fs.map (fun f => (String.ofList f.constant, String.ofList (Text.unraw f.name.toList)))
      = (fs.map (·.name)).map selector := by
    rw [List.map_map]
    rfl
  rw [hts, hfs, h]

theorem nodup_map_iff {α β γ : Type} {f : α → β} {g : α → γ} (h : ∀ a b, f a = f b ↔ g a = g b)
    (as : List α) : (as.map f).Nodup ↔ (as.map g).Nodup := by
  simp only [List.Nodup, List.pairwise_map, Ne, h]

/-- **The selectors of a record**, one for each field. -/
theorem Source.derive_selectors {s : Source} {d : Derived} (h : s.derive = .ok d) :
    -- The module and the constants are names.
    (d.moduleName = String.ofList (moduleName s.name) ∧
      Text.isDeclaredName (moduleName s.name) = true) ∧
    (∀ selector ∈ d.selectors, Text.isDeclaredName selector.1.toList = true) ∧
    -- There is a constant per field, in order, with the field's own member.
    d.selectors = s.fields.map
      (fun f => (String.ofList f.constant, String.ofList (Text.unraw f.name.toList))) ∧
    -- The constants differ exactly if no two names have the same words up to case,
    ((d.selectors.map (·.1)).Nodup ↔ (s.fields.map Field.constantWords).Nodup) ∧
    -- as they do if the members are different and conventional.
    ((∀ f ∈ s.fields, IsConventional (Text.unraw f.name.toList)) → (d.selectors.map (·.2)).Nodup →
      (d.selectors.map (·.1)).Nodup) := by
  rw [s.derive_eq] at h
  obtain ⟨t, hread, h⟩ := Traversal.bind_eq_ok h
  obtain ⟨hkind, markers, ms, hms, hmodule, rfl⟩ := TokenSource.derive_ok h
  obtain ⟨hname, hfields⟩ := Source.read_names hread hkind
  obtain ⟨hselectors, hconstants⟩ := selectors_of_deriveFields hms
  have hpairs := map_selector_of_names hfields
  refine ⟨by rw [← hname]; exact ⟨rfl, hmodule⟩, ?_, by rw [hselectors, hpairs], ?_, ?_⟩
  · rw [hselectors]
    intro selector hmem
    obtain ⟨f, hf, rfl⟩ := List.mem_map.1 hmem
    rw [String.toList_ofList]
    exact hconstants f hf
  · rw [hselectors, hpairs, List.map_map]
    refine nodup_map_iff (fun f g => ?_) s.fields
    rw [Function.comp_apply, Function.comp_apply, String.ofList_inj]
    exact shoutySnake_inj
  · rw [hselectors, hpairs, List.map_map, List.map_map]
    intro hconventional hmembers
    rw [List.Nodup, List.pairwise_map] at hmembers ⊢
    refine hmembers.imp_of_mem fun {f g} hf hg hne hsame => hne ?_
    exact congrArg String.ofList
      ((hconventional f hf).eq_of_shoutySnake (hconventional g hg) (String.ofList_inj.1 hsame))

theorem derive_selectors_row :
    (row "line_no").derive = .ok ⟨⟨"Row", none, [.plain "id" "i64", .plain "line_no" "i32"]⟩,
      "row_fields", [("ID", "id"), ("LINE_NO", "line_no")]⟩ ∧ ["ID", "LINE_NO"].Nodup := by
  have hderive : (row "line_no").derive = .ok ⟨⟨"Row", none,
      [.plain "id" "i64", .plain "line_no" "i32"]⟩, "row_fields",
      [("ID", "id"), ("LINE_NO", "line_no")]⟩ := by decide +kernel
  obtain ⟨-, -, -, -, hconventional⟩ := Source.derive_selectors hderive
  refine ⟨hderive, hconventional ?_ (by decide)⟩
  have hid : IsConventional "id".toList := @IsConventional.of_all ["id".toList] (by decide)
  have hline : IsConventional "line_no".toList :=
    @IsConventional.of_all ["line".toList, "no".toList] (by decide)
  exact List.forall_mem_cons.2 ⟨hid, List.forall_mem_singleton.2 hline⟩

/-- Two members whose names differ in how their words are written only. -/
theorem derive_selectors_clash :
    (⟨.named, "Row", "", [], [⟨"user_name", "String", []⟩, ⟨"userName", "String", []⟩]⟩ : Source).derive
      = .ok ⟨⟨"Row", none, [.plain "user_name" "String", .plain "userName" "String"]⟩, "row_fields",
        [("USER_NAME", "user_name"), ("USER_NAME", "userName")]⟩ ∧
    ["user_name", "userName"].Nodup ∧ ¬ ["USER_NAME", "USER_NAME"].Nodup := by
  decide +kernel

end Record

end Schemata
