import Schemata.Proofs.Sqlite.Execution

/-!
# Creating tables that are missing

What a statement does to the catalogue that creates a table if it is missing: it leaves the catalogue
as it is, or adds a table behind the others, perhaps with the counting table before it
(`createTable?_cases`). So the tables that a catalogue begins with stay what they are, and carrying out
such texts once more changes nothing (`Settles.foldlM`).
-/

namespace Schemata.Sqlite

namespace Catalogue

variable {c c' d : Catalogue} {s : CreateTable} {name : String}

/-! ## Looking up -/

theorem findIn?_of_isPrefix (h : c.tables <+: c'.tables) {isTemporary : Bool}
    (hfound : (c.findIn? isTemporary name).isSome = true) :
    c'.findIn? isTemporary name = c.findIn? isTemporary name := by
  obtain ⟨more, hmore⟩ := h
  obtain ⟨t, ht⟩ := Option.isSome_iff_exists.1 hfound
  have hfind : (c.tables.find? fun t =>
      t.isTemporary == isTemporary && Text.eqIgnoreCase t.name name) = some t := ht
  rw [ht, findIn?, ← hmore, List.find?_append, hfind]
  rfl

def withTable (c : Catalogue) (t : StoredTable) : Catalogue :=
  { c with tables := c.tables ++ [t] }

theorem prefix_withTable (c : Catalogue) (t : StoredTable) : c.tables <+: (c.withTable t).tables :=
  ⟨[t], rfl⟩

theorem prefix_withCounter (c : Catalogue) (isTemporary : Bool) :
    c.tables <+: (c.withCounter isTemporary).tables := by
  rw [withCounter]
  split
  · exact List.prefix_rfl
  · exact ⟨_, rfl⟩

/-! ## Creating -/

def stored (s : CreateTable) (name : String) : StoredTable :=
  ⟨name, false, ⟨s.columns, s.constraints, s.options⟩⟩

theorem createTable?_eq (hs : s.CreatesIfMissing name) (c : Catalogue) :
    c.createTable? s =
      if isReserved name then none
      else if (c.findIn? false name).isSome then some c
      else if c.hasIndex false name ∨ !(stored s name).definition.isCreatable name then none
      else some ((if (stored s name).definition.isNumbered then c.withCounter false else c).withTable
        (stored s name)) := by
  obtain ⟨htemporary, hmissing, hname⟩ := hs
  have hnamed : isTemporaryName? ⟨none, name⟩ = some none := rfl
  simp only [createTable?, hname, hnamed, htemporary, hmissing, Option.bind_eq_bind,
    Option.bind_some, Bool.false_eq_true, false_and, if_false, if_true, Bool.false_or]
  rfl

/-- What creating a table comes to when it succeeds. -/
theorem createTable?_cases (hs : s.CreatesIfMissing name) (h : c.createTable? s = some c') :
    isReserved name = false ∧
      (((c.findIn? false name).isSome = true ∧ c' = c) ∨
        (c.findIn? false name = none ∧ ∃ counted, (counted = c ∨ counted = c.withCounter false) ∧
          c' = counted.withTable (stored s name))) := by
  rw [createTable?_eq hs] at h
  split at h
  · cases h
  · rename_i hreserved
    refine ⟨by simpa using hreserved, ?_⟩
    split at h
    · rename_i hfound
      cases h
      exact .inl ⟨hfound, rfl⟩
    · rename_i hmissing
      split at h
      · cases h
      · refine .inr ⟨by simpa using hmissing, _, ?_, (Option.some.inj h).symm⟩
        split
        · exact .inr rfl
        · exact .inl rfl

theorem prefix_createTable? (hs : s.CreatesIfMissing name) (h : c.createTable? s = some c') :
    c.tables <+: c'.tables := by
  obtain ⟨-, ⟨-, rfl⟩ | ⟨-, counted, rfl | rfl, rfl⟩⟩ := createTable?_cases hs h
  · exact List.prefix_rfl
  · exact prefix_withTable _ _
  · exact (prefix_withCounter c false).trans (prefix_withTable _ _)

theorem isSome_findIn?_createTable? (hs : s.CreatesIfMissing name) (h : c.createTable? s = some c') :
    (c'.findIn? false name).isSome = true := by
  obtain ⟨-, ⟨hfound, rfl⟩ | ⟨-, counted, -, rfl⟩⟩ := createTable?_cases hs h
  · exact hfound
  · simp [findIn?, withTable, stored, Text.eqIgnoreCase_refl]

/-- Creating a table once more changes nothing, also when more tables have come since. -/
theorem createTable?_again (hs : s.CreatesIfMissing name) (h : c.createTable? s = some c')
    (hd : c'.tables <+: d.tables) : d.createTable? s = some d := by
  have hreserved := (createTable?_cases hs h).1
  have hfound := isSome_findIn?_createTable? hs h
  have hfound' : (d.findIn? false name).isSome = true := by
    rw [findIn?_of_isPrefix hd hfound, hfound]
  simp [createTable?_eq hs, hreserved, hfound']

end Catalogue

/-! ## Texts that can be carried out again -/

/-- A text that keeps all tables and changes nothing once it has been carried out. -/
structure Settles (text : String) : Prop where
  keeps : ∀ {c c' : Catalogue}, c.execute? text = some c' → c.tables <+: c'.tables
  again : ∀ {c c' d : Catalogue}, c.execute? text = some c' → c'.tables <+: d.tables →
    d.execute? text = some d

/-- A generated statement can be carried out again. -/
theorem settles_generated {b : Backend} {t : Table} {text : String}
    (hgenerated : (b.generator.generate t).result = .ok text) (hliterals : t.PrintsLiterals) :
    Settles text where
  keeps h := by
    obtain ⟨s, hs, hexecute⟩ := execute?_generated hgenerated hliterals h
    rw [hexecute] at h
    exact Catalogue.prefix_createTable? hs h
  again h hd := by
    obtain ⟨s, hs, hexecute⟩ := execute?_generated hgenerated hliterals h
    rw [hexecute] at h ⊢
    exact Catalogue.createTable?_again hs h hd

/-- Texts that settle can be carried out again, all of them. -/
theorem Settles.foldlM {texts : List String} (hsettles : ∀ text ∈ texts, Settles text)
    {c c' : Catalogue} (h : texts.foldlM Catalogue.execute? c = some c') :
    c.tables <+: c'.tables ∧ ∀ {d : Catalogue}, c'.tables <+: d.tables →
      texts.foldlM Catalogue.execute? d = some d := by
  induction texts generalizing c with
  | nil =>
    cases h
    exact ⟨List.prefix_rfl, fun _ => rfl⟩
  | cons text texts ih =>
    have htext := hsettles text List.mem_cons_self
    rw [List.foldlM_cons, Option.bind_eq_bind, Option.bind_eq_some_iff] at h
    obtain ⟨c₁, hfirst, hrest⟩ := h
    obtain ⟨hkeeps, hagain⟩ :=
      ih (fun more hmore => hsettles more (List.mem_cons_of_mem text hmore)) hrest
    refine ⟨(htext.keeps hfirst).trans hkeeps, fun {d} hd => ?_⟩
    rw [List.foldlM_cons, htext.again hfirst (hkeeps.trans hd)]
    exact hagain hd

end Schemata.Sqlite
