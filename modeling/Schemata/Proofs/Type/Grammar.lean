import Schemata.Proofs.Type.Path
import Schemata.Record

/-!
# Written types in the grammar

The grammar of types reads a written type as it stands: `Stands` says so of the reader for types, with
whatever closes the type behind it. It holds of a name behind a path, it is handed on to a name with an
argument and to a reference, and so it holds of every `WrittenType` that is made of names which may
stand in paths. `settleType_tokens` says it of the type of a field.
-/

namespace Schemata.Record

open Reader

variable {n : List Char} {rest ts : List Token} {sub : Forms} {sums : Bool}

/-! ## Paths as types -/

/-- Every rule for a type but that for paths begins with another token. -/
theorem run_typeRule (h : BeginsPath ts) {written rest : List Token}
    (hpath : plainPath.run ts = some (written, rest)) (hmark : (symbol "!").run rest = none) :
    (typeRule sub sums).run ts
      = (pathOf (typeArguments sub) ++ furtherBounds sub sums).run ts := by
  have hmacro : macroCall.run ts = none := by
    refine run_append_of_none (run_append_none hpath ?_)
    simp only [unlessAt, hmark, ite_self]
  cases h with
  | separator ts =>
    rw [← run_orElse_of_none (q := pathOf (typeArguments sub) ++ furtherBounds sub sums) hmacro]
    rfl
  | @name n hn ts =>
    have hword : ∀ text : String, ¬ IsSegment text.toList →
        (word text).run (.name n :: ts) = none := fun _ htext => run_word_of_segment hn htext ts
    have hfor : (binder sub ++ sub (.type sums)).run (.name n :: ts) = none :=
      run_append_of_none (run_append_of_none (run_append_of_none
        (run_append_of_none (hword "for" (by decide)))))
    have hfn : (functionType sub).run (.name n :: ts) = none := by
      have hunsafe := run_optional_of_none (hword "unsafe" (by decide))
      have hextern := run_optional_of_none
        (run_append_of_none (q := optional stringLiteral) (hword "extern" (by decide)))
      refine run_append_of_none (run_append_of_none ?_)
      exact run_append_none (run_append_some hunsafe hextern) (hword "fn" (by decide))
    have hdyn :
        (word "dyn" ++ optional (symbol "*") ++ sub (.bounds sums)).run (.name n :: ts) = none :=
      run_append_of_none (run_append_of_none (hword "dyn" (by decide)))
    have himpl : (word "impl" ++ sub (.bounds sums)).run (.name n :: ts) = none :=
      run_append_of_none (hword "impl" (by decide))
    rw [typeRule, run_orElse_of_none hfor, run_orElse_of_none rfl, run_orElse_of_none hfn,
      run_orElse_of_none rfl, run_orElse_of_none hdyn, run_orElse_of_none himpl,
      run_orElse_of_none rfl, run_orElse_of_none rfl, run_orElse_of_none rfl, run_orElse_of_none rfl,
      run_orElse_of_none (hword "_" (by decide)), run_orElse_of_none rfl, run_orElse_of_none hmacro]

theorem run_furtherBounds (h : Closes rest) : (furtherBounds sub sums).run rest = some ([], rest) := by
  cases sums with
  | false => rfl
  | true => exact run_many_of_none (run_append_of_none h.symbol.2.2)

theorem readsSegment_name (hn : IsSegment n) (hrest : (symbol "::").run rest = none) :
    ReadsSegment segmentName n rest [] rest where
  inner _ hm _ _ _ := run_segmentName hm _
  last := run_segmentName hn rest
  length_le := Nat.le_refl _
  behind := hrest

theorem readsSegment_arguments (hn : IsSegment n) {written rest' : List Token}
    (harguments : (optional (typeArguments sub)).run rest = some (written, rest'))
    (hlength : rest'.length ≤ rest.length) (hrest' : (symbol "::").run rest' = none) :
    ReadsSegment (segmentName ++ optional (typeArguments sub)) n rest written rest' where
  inner m hm joined k ts := by
    have hnone : (typeArguments sub).run
        (.punct ':' true :: .punct ':' joined :: .name k :: ts) = none := rfl
    exact run_append_some (run_segmentName hm _) (run_optional_of_none hnone)
  last := run_append_some (run_segmentName hn rest) harguments
  length_le := hlength
  behind := hrest'

theorem run_typeRule_path (sums : Bool) (hn : IsSegment n) {q : Qualifier} (hq : q.IsReadable)
    {path : List Token} (hpath : Reads path q.tokens) {written rest' : List Token}
    (hrest : (symbol "::").run rest = none ∧ (symbol "!").run rest = none)
    (harguments : (optional (typeArguments sub)).run rest = some (written, rest'))
    (hlength : rest'.length ≤ rest.length) (hcloses : Closes rest') :
    (typeRule sub sums).run (path ++ .name n :: rest)
      = some (q.tokens ++ .name n :: written, rest') := by
  have hplain : plainPath.run (path ++ .name n :: rest) = some (q.tokens ++ [.name n], rest) :=
    run_path (readsSegment_name hn hrest.1) hq hpath
  have hsegment := readsSegment_arguments hn harguments hlength hcloses.symbol.1
  have hwhole : (pathOf (typeArguments sub)).run (path ++ .name n :: rest)
      = some (q.tokens ++ .name n :: written, rest') := run_path hsegment hq hpath
  rw [run_typeRule (beginsPath hn hq hpath) hplain hrest.2]
  simpa using run_append_some hwhole (run_furtherBounds hcloses)

/-! ## Arguments -/

theorem run_typeArguments_of_closes (h : Closes rest) :
    (optional (typeArguments sub)).run rest = some ([], rest) := by
  apply run_optional_of_none
  cases h with
  | nil => rfl
  | bracket joined ts => cases joined <;> rfl

/-- No type begins with a closing bracket. -/
theorem run_typeRule_bracket (joined : Bool) (ts : List Token) :
    (typeRule sub sums).run (.punct '>' joined :: ts) = none := by
  cases joined <;> rfl

theorem readForm_bracket (depth : Nat) (joined : Bool) (ts : List Token) :
    (readForm depth (.type sums)).run (.punct '>' joined :: ts) = none := by
  cases depth with
  | zero => rfl
  | succ depth => exact run_typeRule_bracket joined ts

/-- A type is no other kind of argument. -/
theorem run_argument (h : BeginsType ts) {written : List Token} {joined : Bool}
    (htype : (sub (.type true)).run ts = some (written, .punct '>' joined :: rest)) :
    (argument sub).run ts = some (written, .punct '>' joined :: rest) := by
  have hlifetime : (unlessAt (lifetime ++ symbol "+") lifetime).run ts = none := by
    simp only [unlessAt, h.run_lifetime, ite_self]
  have hconstant : (constant sub).run ts = none := by
    cases h with
    | reference joined ts => cases joined <;> rfl
    | path h =>
      cases h with
      | separator ts => rfl
      | @name n hn ts =>
        have hwords : (words ["true", "false"]).run (.name n :: ts) = none :=
          run_words_of_segment hn (by decide) ts
        have hnumber : (optional (symbol "-") ++ literal).run (.name n :: ts) = none := rfl
        rw [constant, run_orElse_of_none hnumber, run_orElse_of_none hwords]
        rfl
  have hbehind : (optional (symbol "=" ++ (constant sub <|> sub (.type true))
      <|> colon ++ optional (sub (.bounds true)))).run (.punct '>' joined :: rest)
        = some ([], .punct '>' joined :: rest) := by
    cases joined <;> rfl
  rw [argument, run_orElse_of_none hlifetime, run_orElse_of_none hconstant,
    run_append_some htype hbehind, List.append_nil]

theorem run_angled (joined : Bool) (h : BeginsType ts) {written : List Token} {joined' : Bool}
    (htype : (sub (.type true)).run (ts ++ .punct '>' joined' :: rest)
      = some (written, .punct '>' joined' :: rest))
    (hwritten : isLifetime written = false)
    (hbracket : (sub (.type true)).run (.punct '>' joined' :: rest) = none) :
    (optional (typeArguments sub)).run
        (.punct '<' joined :: (ts ++ .punct '>' joined' :: rest))
      = some (.punct '<' false :: (written ++ [.punct '>' false]), rest) := by
  have hentry : (argument sub ++ optional (symbol ",")).run (ts ++ .punct '>' joined' :: rest)
      = some (written, .punct '>' joined' :: rest) := by
    have hcomma : (optional (symbol ",")).run (.punct '>' joined' :: rest)
        = some ([], .punct '>' joined' :: rest) := rfl
    rw [run_append_some (run_argument (h.append _) htype) hcomma, List.append_nil]
  have hend : (argument sub ++ optional (symbol ",")).run (.punct '>' joined' :: rest) = none := by
    have hlifetime : (unlessAt (lifetime ++ symbol "+") lifetime).run
        (.punct '>' joined' :: rest) = none := rfl
    have hconstant : (constant sub).run (.punct '>' joined' :: rest) = none := by
      cases joined' <;> rfl
    refine run_append_of_none ?_
    rw [argument, run_orElse_of_none hlifetime, run_orElse_of_none hconstant]
    exact run_append_of_none hbracket
  have hlength : (Token.punct '>' joined' :: rest).length
      < (ts ++ .punct '>' joined' :: rest).length := by
    have hne : ts ≠ [] := by
      rintro rfl
      cases h with
      | path h => cases h
    have hpos := List.length_pos_iff.2 hne
    rw [List.length_append]
    omega
  have hentries := run_arranged_once lifetimesFirst hentry hlength hend
  have hwhole : lifetimesFirst [written] = written := by
    simp [lifetimesFirst, hwritten]
  rw [hwhole] at hentries
  have hopen : (symbol "<").run (.punct '<' joined :: (ts ++ .punct '>' joined' :: rest))
      = some ([.punct '<' false], ts ++ .punct '>' joined' :: rest) := rfl
  have hclose : (symbol ">").run (.punct '>' joined' :: rest) = some ([.punct '>' false], rest) := rfl
  have hangled : (angled (argument sub)).run (.punct '<' joined :: (ts ++ .punct '>' joined' :: rest))
      = some (.punct '<' false :: (written ++ [.punct '>' false]), rest) :=
    run_append_some (run_append_some hopen hentries) hclose
  have hseparator : (optional (symbol "::")).run
      (.punct '<' joined :: (ts ++ .punct '>' joined' :: rest))
        = some ([], .punct '<' joined :: (ts ++ .punct '>' joined' :: rest)) := by
    cases joined <;> rfl
  exact run_orElse_some (run_orElse_some (run_append_some hseparator hangled))

/-! ## Types that stand as they are -/

theorem Reads.of_named {q : Qualifier} (h : Reads ts (q.tokens ++ [.name n])) :
    ∃ path, ts = path ++ [.name n] ∧ Reads path q.tokens := by
  obtain ⟨path, us, rfl, hpath, hus⟩ := h.of_append
  obtain ⟨vs, rfl, hvs⟩ := hus.of_name
  cases hvs
  exact ⟨path, rfl, hpath⟩

theorem Reads.of_applied {q : Qualifier} {name : String} {argument : List Token}
    (h : Reads ts (q.applied name argument)) :
    ∃ path joined us joined', ts = path ++ .name name.toList :: .punct '<' joined ::
      (us ++ [.punct '>' joined']) ∧ Reads path q.tokens ∧ Reads us argument := by
  rw [Qualifier.applied, Qualifier.named] at h
  obtain ⟨opened, close, rfl, hopened, hclose⟩ := h.of_append
  obtain ⟨front, behind, rfl, hfront, hbehind⟩ := hopened.of_append
  obtain ⟨path, rfl, hpath⟩ := hfront.of_named
  obtain ⟨joined, us, rfl, hus⟩ := hbehind.of_apart
  obtain ⟨joined', rest, rfl, hrest⟩ := hclose.of_apart
  cases hrest
  exact ⟨path, joined, us, joined', by simp, hpath, hus⟩

theorem Reads.of_reference {label : Option (List Char)} {type : List Token}
    (h : Reads ts (.punct '&' false :: (label.toList.map .lifetime ++ type))) :
    ∃ joined us, ts = .punct '&' joined :: (label.toList.map .lifetime ++ us) ∧ Reads us type := by
  obtain ⟨joined, us, rfl, hus⟩ := h.of_apart
  cases label with
  | none => exact ⟨joined, us, rfl, hus⟩
  | some label =>
    obtain ⟨vs, rfl, hvs⟩ := Reads.of_lifetime hus
    exact ⟨joined, vs, rfl, hvs⟩

/-- Whatever closes it, the type is written as it stands, up to joints. -/
structure Stands (depth : Nat) (type : List Token) : Prop where
  begins : ∀ {ts : List Token}, Reads ts type → BeginsType ts
  run : ∀ {ts : List Token}, Reads ts type → ∀ {rest : List Token}, Closes rest → ∀ sums : Bool,
    (readForm depth (.type sums)).run (ts ++ rest) = some (type, rest)

namespace Stands

variable {depth : Nat} {q : Qualifier}

theorem named (depth : Nat) (hn : IsSegment n) (hq : q.IsReadable) :
    Stands (depth + 1) (q.tokens ++ [.name n]) := by
  refine ⟨fun hts => ?_, fun hts rest hrest sums => ?_⟩
  · obtain ⟨path, rfl, hpath⟩ := hts.of_named
    exact .path (beginsPath hn hq hpath)
  · obtain ⟨path, rfl, hpath⟩ := hts.of_named
    rw [List.append_assoc]
    exact run_typeRule_path sums hn hq hpath ⟨hrest.symbol.1, hrest.symbol.2.1⟩
      (run_typeArguments_of_closes hrest) (Nat.le_refl _) hrest

theorem applied {name : String} {argument : List Token} (h : Stands depth argument)
    (hname : IsSegment name.toList) (hq : q.IsReadable) :
    Stands (depth + 1) (q.applied name argument) := by
  have hlifetime : isLifetime argument = false := (h.begins (Reads.refl argument)).isLifetime
  refine ⟨fun hts => ?_, fun hts rest hrest sums => ?_⟩
  · obtain ⟨path, joined, us, joined', rfl, hpath, -⟩ := hts.of_applied
    exact .path (beginsPath hname hq hpath)
  · obtain ⟨path, joined, us, joined', rfl, hpath, hus⟩ := hts.of_applied
    have htype := h.run hus (.bracket joined' rest) true
    have hopen : (symbol "::").run (.punct '<' joined :: (us ++ .punct '>' joined' :: rest)) = none ∧
        (symbol "!").run (.punct '<' joined :: (us ++ .punct '>' joined' :: rest)) = none := by
      cases joined <;> exact ⟨rfl, rfl⟩
    have hargument := run_angled joined (h.begins hus) htype hlifetime
      (readForm_bracket depth joined' rest)
    have hrun := run_typeRule_path sums hname hq hpath hopen hargument
      (by simp only [List.length_cons, List.length_append]; omega) hrest
    simpa [readForm, rule, Qualifier.applied, Qualifier.named] using hrun

/-- A reference, perhaps under a lifetime. -/
theorem reference {type : List Token} (h : Stands depth type) (label : Option (List Char)) :
    Stands (depth + 1) (.punct '&' false :: (label.toList.map .lifetime ++ type)) := by
  refine ⟨fun hts => ?_, fun hts rest hrest sums => ?_⟩
  · obtain ⟨joined, us, rfl, -⟩ := hts.of_reference
    exact .reference joined _
  · obtain ⟨joined, us, rfl, hus⟩ := hts.of_reference
    have hbegins : BeginsType (us ++ rest) := (h.begins hus).append rest
    have hlabel : (optional lifetime).run (label.toList.map .lifetime ++ (us ++ rest))
        = some (label.toList.map .lifetime, us ++ rest) := by
      cases label with
      | none => exact run_optional_of_none hbegins.run_lifetime
      | some label => rfl
    have hmut := run_optional_of_none hbegins.run_mut
    have hampersand : (symbol "&").run
        (.punct '&' joined :: (label.toList.map .lifetime ++ (us ++ rest)))
          = some ([.punct '&' false], label.toList.map .lifetime ++ (us ++ rest)) := rfl
    have hreference := run_append_some (run_append_some (run_append_some hampersand hlabel) hmut)
      (h.run hus hrest false)
    rw [List.cons_append, List.append_assoc]
    show (typeRule (readForm depth) sums).run _ = _
    rw [typeRule, run_orElse_of_none rfl, run_orElse_of_none rfl, run_orElse_of_none rfl,
      run_orElse_of_none rfl, run_orElse_of_none rfl, run_orElse_of_none rfl, run_orElse_of_none rfl,
      run_orElse_of_none rfl, run_orElse_some hreference]
    simp

end Stands

/-! ## Written types -/

namespace WrittenType

/-- All names in the type may stand in paths; the zone is a path. -/
def IsReadable : WrittenType → Prop
  | name path _ _ => path.IsReadable
  | str _ => True
  | bytes path => path.IsReadable
  | dateTime path zone => path.IsReadable ∧
    ∃ (q : Qualifier) (n : List Char), q.IsReadable ∧ IsSegment n ∧ zone = q.tokens ++ [.name n]
  | option path inner => path.IsReadable ∧ inner.IsReadable

/-- How deep the types in the type nest. -/
def depth : WrittenType → Nat
  | name _ _ _ => 1
  | str _ => 2
  | bytes _ => 2
  | dateTime _ _ => 2
  | option _ inner => inner.depth + 1

theorem isSegment_spelling {type : ValueType} (h : type.isName = true) :
    IsSegment type.spelling.toList := by
  cases type with
  | str | bytes | dateTime _ | option _ => cases h
  | _ => decide

theorem stands {w : WrittenType} (hw : w.IsReadable) (extra : Nat) :
    Stands (extra + w.depth) w.tokens := by
  -- the names of types that stand inside others have no path
  have hname : ∀ name : String, IsSegment name.toList → Stands (extra + 1) [.name name.toList] :=
    fun _ hname => .named (q := ⟨false, []⟩) extra hname fun w hw => absurd hw List.not_mem_nil
  induction w with
  | name path type single => exact .named extra (isSegment_spelling single) hw
  | str label =>
    have hreference := (hname "str" (by decide)).reference (label.map (·.chars))
    cases label <;> exact hreference
  | bytes path => exact (hname "u8" (by decide)).applied (by decide) hw
  | dateTime path zone =>
    obtain ⟨hpath, q, n, hq, hn, rfl⟩ := hw
    exact (Stands.named extra hn hq).applied (by decide) hpath
  | option path inner ih => exact (ih hw.2).applied (by decide) hw.1

theorem depth_le (w : WrittenType) : w.depth ≤ w.tokens.length := by
  induction w with
  | str label => cases label <;> simp [depth, tokens]
  | dateTime path zone =>
    simp only [depth, tokens, Qualifier.applied, List.length_append, List.length_cons]
    omega
  | option path inner ih =>
    simp only [depth, tokens, Qualifier.applied, List.length_append, List.length_cons]
    omega
  | _ => simp [depth, tokens, Qualifier.applied, Qualifier.named]

end WrittenType

/-- **The grammar leaves a written type as it is**, whatever the joints between its tokens were. -/
theorem settleType_tokens {w : WrittenType} (hw : w.IsReadable) {ts : List Token}
    (hts : Reads ts w.tokens) : settleType ts = .ok w.tokens := by
  have hlength : ts.length = w.tokens.length := List.Forall₂.length_eq hts
  have hdepth : w.depth ≤ openForms * (ts.length + 1) := by
    have hle := w.depth_le
    rw [openForms]
    omega
  obtain ⟨extra, hextra⟩ := Nat.exists_eq_add_of_le' hdepth
  have hread : readType ts = some (w.tokens, []) := by
    have hrun := (WrittenType.stands hw extra).run hts .nil true
    rwa [List.append_nil, ← hextra] at hrun
  simp [settleType, hread]

end Schemata.Record
