import Schemata.Proofs.Sqlite.Catalogue

/-!
# The columns that SQLite reads

A statement without defaults that SQLite carries out defines the columns of the table, by name and in
order (`execute?_columns`). Each definition is read up to the comma or parenthesis behind it
(`ReadsColumn`), whatever SQLite makes of its type: it takes every word for a part of the type until
one comes that is no name, and what it cannot read spoils the whole statement.
-/

namespace Schemata

namespace Sqlite

/-! ## Types -/

/-- Whether a token is a word of a type. -/
def isTypeWord : Token → Bool
  | .word text => (Token.word text).plainName?.isSome
  | _ => false

/-- Whether tokens are the sizes behind a type, or none. -/
def isSizes : List Token → Bool
  | [] => true
  | [.symbol "(", .integer _, .symbol ")"] => true
  | [.symbol "(", .integer _, .symbol ",", .integer _, .symbol ")"] => true
  | _ => false

/-- Whether tokens are a type: words, and perhaps sizes. -/
def isType (ts : List Token) : Bool :=
  (ts.head?.any isTypeWord) && isSizes (ts.dropWhile isTypeWord)

/-- Whether a token ends the words of a type, and no sizes follow. -/
def endsType : Token → Bool
  | .word text => (Token.word text).plainName?.isNone
  | .symbol s => s != "("
  | _ => false

theorem readTypeWords_of_endsType {t : Token} (ht : endsType t = true) (rest : List Token) :
    readTypeWords (t :: rest) = ([], t :: rest) := by
  cases t with
  | word text =>
    simp only [endsType, Option.isNone_iff_eq_none] at ht
    simp [readTypeWords, ht]
  | symbol s => simp [readTypeWords, Token.plainName?]
  | _ => cases ht

theorem readTypeWords_append {ts : List Token} (hts : ∀ t ∈ ts, isTypeWord t = true) {rest : List Token}
    (hrest : readTypeWords rest = ([], rest)) :
    ∃ ws, readTypeWords (ts ++ rest) = (ws, rest) ∧ (ws = [] → ts = []) := by
  induction ts with
  | nil => exact ⟨[], hrest, fun _ => rfl⟩
  | cons t ts ih =>
    obtain ⟨ws, hws, -⟩ := ih fun u hu => hts u (List.mem_cons_of_mem t hu)
    have ht := hts t List.mem_cons_self
    cases t with
    | word text =>
      simp only [isTypeWord] at ht
      obtain ⟨name, hname⟩ := Option.isSome_iff_exists.1 ht
      exact ⟨name :: ws, by simp [readTypeWords, hname, hws], by simp⟩
    | _ => cases ht

theorem readTypeSizes_append {ts : List Token} (hts : isSizes ts = true) {t : Token}
    (ht : endsType t = true ∨ ts ≠ []) (rest : List Token) :
    ∃ isSized, readTypeSizes (ts ++ t :: rest) = some (isSized, t :: rest) := by
  unfold isSizes at hts
  split at hts
  · have hopen : t ≠ .symbol "(" := by
      rintro rfl
      rcases ht with ht | ht
      · cases ht
      · exact ht rfl
    exact ⟨false, by simp [readTypeSizes, readSymbol, hopen]⟩
  · exact ⟨true, rfl⟩
  · exact ⟨true, rfl⟩
  · cases hts

theorem readTypeName_append {ts : List Token} (hts : isType ts = true) {t : Token}
    (ht : endsType t = true ∨ ts.dropWhile isTypeWord ≠ []) (rest : List Token) :
    ∃ type, readTypeName (ts ++ t :: rest) = some (type, t :: rest) := by
  simp only [isType, Bool.and_eq_true] at hts
  obtain ⟨hhead, hsizes⟩ := hts
  have hstart : readTypeWords (ts.dropWhile isTypeWord ++ t :: rest)
      = ([], ts.dropWhile isTypeWord ++ t :: rest) := by
    cases hdrop : ts.dropWhile isTypeWord with
    | nil =>
      rw [hdrop] at ht
      exact readTypeWords_of_endsType (ht.resolve_right fun h => h rfl) rest
    | cons u us =>
      rw [hdrop] at hsizes
      unfold isSizes at hsizes
      split at hsizes
      · rename_i hnil
        cases hnil
      · rename_i hsized
        cases hsized
        rfl
      · rename_i hsized
        cases hsized
        rfl
      · cases hsizes
  have hwords : ∀ u ∈ ts.takeWhile isTypeWord, isTypeWord u = true :=
    fun u hu => List.mem_takeWhile_imp hu
  obtain ⟨ws, hws, hempty⟩ := readTypeWords_append hwords hstart
  have hne : ws.isEmpty = false := by
    rw [List.isEmpty_eq_false_iff]
    intro hnil
    have hnone := hempty hnil
    cases ts with
    | nil => cases hhead
    | cons u us =>
      have hu : isTypeWord u = true := by simpa using hhead
      simp [hu] at hnone
  obtain ⟨isSized, hsized⟩ := readTypeSizes_append hsizes ht rest
  have hsplit : ts ++ t :: rest
      = ts.takeWhile isTypeWord ++ (ts.dropWhile isTypeWord ++ t :: rest) := by
    rw [← List.append_assoc, List.takeWhile_append_dropWhile]
  refine ⟨⟨ws, isSized⟩, ?_⟩
  rw [hsplit, readTypeName, hws]
  simp [hne, hsized]

/-! ## Clauses -/

/-- The words of the clauses that stand behind a type when no default is printed: the key of a column
that is the whole key, which may number it, the refusal of null, and the word for a numbered column that
SQLite does not know. -/
def clauseWords (key : Option Bool) (refusesNull isNumbered : Bool) : List String :=
  (match key with
    | none => []
    | some false => ["PRIMARY", "KEY"]
    | some true => ["PRIMARY", "KEY", "AUTOINCREMENT"])
  ++ (if refusesNull then ["NOT", "NULL"] else []) ++ (if isNumbered then ["AUTO_INCREMENT"] else [])

/-- What the clauses that SQLite knows are read as. -/
def clauseConstraints (key : Option Bool) (refusesNull : Bool) : List ColumnConstraint :=
  (key.map (.primaryKey false)).toList ++ (if refusesNull then [.notNull] else [])

theorem isComputed_clauseConstraints {name : String} {type : TypeName} (key : Option Bool)
    (refusesNull : Bool) :
    (⟨name, type, clauseConstraints key refusesNull⟩ : ColumnDefinition).isComputed = false := by
  cases key <;> cases refusesNull <;> rfl

/-- A column ends before these symbols. -/
def EndsColumn (s : String) : Prop :=
  s = "," ∨ s = ")"

variable {s : String}

/-- Clauses are read up to the end of the column, unless the unknown word is among them. -/
theorem readColumnConstraints_clauses (key : Option Bool) (refusesNull isNumbered : Bool)
    (hs : EndsColumn s) (rest : List Token) :
    let ts := words (clauseWords key refusesNull isNumbered) ++ .symbol s :: rest
    readColumnConstraints ts.length ts
      = if isNumbered then none else some (clauseConstraints key refusesNull, .symbol s :: rest) := by
  rcases hs with rfl | rfl <;> rcases key with _ | _ | _ <;> cases refusesNull <;> cases isNumbered
    <;> rfl

/-- The clauses that SQLite knows, and the end of the column, end the words of a type. -/
theorem exists_endsType {key : Option Bool} {refusesNull isNumbered : Bool}
    (hknown : key.isSome || refusesNull || !isNumbered) (hs : EndsColumn s) (rest : List Token) :
    ∃ t ts, words (clauseWords key refusesNull isNumbered) ++ .symbol s :: rest = t :: ts
      ∧ endsType t = true := by
  have hend : endsType (.symbol s) = true := by
    rcases hs with rfl | rfl <;> rfl
  rcases key with _ | _ | _
  · cases refusesNull
    · have hplain : isNumbered = false := by simpa using hknown
      subst hplain
      exact ⟨_, _, rfl, hend⟩
    · exact ⟨_, _, rfl, by decide⟩
  · exact ⟨_, _, rfl, by decide⟩
  · exact ⟨_, _, rfl, by decide⟩

/-! ## Columns -/

/-- Tokens are the definition of a column, if SQLite reads them at all. -/
def ReadsColumn (name : String) (ts : List Token) : Prop :=
  ∀ s rest column rest', EndsColumn s →
    readColumn (ts ++ .symbol s :: rest) = some (column, rest') →
    column.name = name ∧ column.isComputed = false ∧ rest' = .symbol s :: rest

/-- A column whose type is read up to clauses is read as one that is not computed. -/
theorem readColumn_of_typeName {mark : Char} {name : String} {tokens rest rest' : List Token}
    {type : TypeName} {column : ColumnDefinition} {key : Option Bool} {refusesNull isNumbered : Bool}
    (hs : EndsColumn s)
    (htype : readTypeName tokens
      = some (type, words (clauseWords key refusesNull isNumbered) ++ .symbol s :: rest))
    (h : readColumn (.quoted mark name.toList :: tokens) = some (column, rest')) :
    column.name = name ∧ column.isComputed = false ∧ rest' = .symbol s :: rest := by
  have hname : readName (.quoted mark name.toList :: tokens) = some (name, tokens) :=
    congrArg (fun read => some (read, tokens)) String.ofList_toList
  have hclauses := readColumnConstraints_clauses key refusesNull isNumbered hs rest
  simp only [readColumn, hname, htype, hclauses, Option.bind_eq_bind, Option.bind_some] at h
  cases isNumbered
  · cases h
    exact ⟨rfl, isComputed_clauseConstraints key refusesNull, rfl⟩
  · cases h

theorem isType_append_word {ts : List Token} (hts : isType ts = true)
    (hwords : ts.dropWhile isTypeWord = []) {t : Token} (ht : isTypeWord t = true) :
    isType (ts ++ [t]) = true := by
  simp only [isType, Bool.and_eq_true] at hts ⊢
  constructor
  · cases ts with
    | nil => simpa using ht
    | cons u us => exact hts.1
  · simp [List.dropWhile_append, hwords, ht, isSizes]

/-- Tokens are a definition of a column, and they show that no constraint begins. -/
structure IsDefinition (name : String) (ts : List Token) : Prop where
  reads : ReadsColumn name ts
  starts : ∀ rest, startsConstraint (ts ++ rest) = false

/-- A name, a type and clauses are a column. -/
theorem readsColumn_clauses (mark : Char) (name : String) {ts : List Token} (hts : isType ts = true)
    (key : Option Bool) (refusesNull isNumbered : Bool) : ReadsColumn name
      (.quoted mark name.toList :: (ts ++ words (clauseWords key refusesNull isNumbered))) := by
  intro s rest column rest' hs h
  rw [List.cons_append, List.append_assoc] at h
  by_cases hknown : key.isSome || refusesNull || !isNumbered
  · obtain ⟨t, us, hsplit, ht⟩ := exists_endsType hknown hs rest
    obtain ⟨type, htype⟩ := readTypeName_append hts (.inl ht) us
    rw [← hsplit] at htype
    exact readColumn_of_typeName hs htype h
  · -- The unknown word alone: it goes on with the words of a type, but not behind sizes.
    have hword : clauseWords key refusesNull isNumbered = ["AUTO_INCREMENT"] := by
      simp only [Bool.or_eq_true, Bool.not_eq_true', not_or, Bool.not_eq_true, Bool.not_eq_false,
        Option.isSome_eq_false_iff, Option.isNone_iff_eq_none] at hknown
      obtain ⟨⟨rfl, rfl⟩, rfl⟩ := hknown
      rfl
    by_cases hsizes : ts.dropWhile isTypeWord = []
    · have hlonger := isType_append_word hts hsizes (t := .word "AUTO_INCREMENT".toList) (by decide)
      have hend : endsType (.symbol s) = true := by
        rcases hs with rfl | rfl <;> rfl
      obtain ⟨type, htype⟩ := readTypeName_append hlonger (.inl hend) rest
      have htype' : readTypeName (ts ++ (words (clauseWords key refusesNull isNumbered)
          ++ .symbol s :: rest))
          = some (type, words (clauseWords none false false) ++ .symbol s :: rest) := by
        rw [hword]
        simpa [words, clauseWords] using htype
      exact readColumn_of_typeName hs htype' h
    · obtain ⟨type, htype⟩ := readTypeName_append hts (t := .word "AUTO_INCREMENT".toList)
        (.inr hsizes) (.symbol s :: rest)
      have hsplit : words (clauseWords key refusesNull isNumbered) ++ .symbol s :: rest
          = .word "AUTO_INCREMENT".toList :: .symbol s :: rest := by
        rw [hword]
        rfl
      rw [← hsplit] at htype
      exact readColumn_of_typeName hs htype h

/-! ## Definitions -/

section Definitions

variable {name : String} {ts tail rest : List Token} {bound : Nat}
  {definitions : List ColumnDefinition} {read : List TableConstraint}

/-- The last column, with no constraints behind it. -/
theorem readDefinitions_last (hts : ReadsColumn name ts)
    (h : readDefinitions bound (ts ++ .symbol ")" :: tail) = some ((definitions, read), rest)) :
    ∃ d, d.name = name ∧ d.isComputed = false ∧ definitions = [d] := by
  cases bound with
  | zero => cases h
  | succ bound =>
    simp only [readDefinitions, Option.bind_eq_bind, Option.bind_eq_some_iff] at h
    obtain ⟨⟨column, behind⟩, hcolumn, h⟩ := h
    obtain ⟨hname, hplain, rfl⟩ := hts _ _ _ _ (.inr rfl) hcolumn
    cases h
    exact ⟨column, hname, hplain, rfl⟩

/-- A column that something follows: it is the last one if a constraint begins there. -/
theorem readDefinitions_comma (hts : ReadsColumn name ts)
    (h : readDefinitions bound (ts ++ .symbol "," :: tail) = some ((definitions, read), rest)) :
    ∃ d, d.name = name ∧ d.isComputed = false ∧
      if startsConstraint tail then definitions = [d]
      else ∃ bound more, definitions = d :: more
        ∧ readDefinitions bound tail = some ((more, read), rest) := by
  cases bound with
  | zero => cases h
  | succ bound =>
    simp only [readDefinitions, Option.bind_eq_bind, Option.bind_eq_some_iff] at h
    obtain ⟨⟨column, behind⟩, hcolumn, h⟩ := h
    obtain ⟨hname, hplain, rfl⟩ := hts _ _ _ _ (.inl rfl) hcolumn
    refine ⟨column, hname, hplain, ?_⟩
    simp only [readSymbol, if_true] at h
    split at h
    · rename_i hstarts
      rw [if_pos hstarts]
      obtain ⟨⟨constraints, behind⟩, -, h⟩ := Option.bind_eq_some_iff.1 h
      cases h
      rfl
    · rename_i hstarts
      rw [if_neg hstarts]
      obtain ⟨⟨⟨more, constraints⟩, behind⟩, hmore, h⟩ := Option.bind_eq_some_iff.1 h
      cases h
      exact ⟨bound, more, rfl, hmore⟩

theorem exists_intercalate_cons (sep ts : List Token) (more : List (List Token)) :
    ∃ us, sep.intercalate (ts :: more) = ts ++ us := by
  cases more with
  | nil => exact ⟨[], by simp⟩
  | cons us more => exact ⟨_, List.intercalate_cons_cons.trans (List.append_assoc ..)⟩

/-- The definitions of columns are read as the columns of their names, whatever constraints follow. -/
theorem readDefinitions_columns {columns : List (String × List Token)} {constraints : List (List Token)}
    (hcolumns : ∀ p ∈ columns, IsDefinition p.1 p.2)
    (hconstraints : ∀ ts ∈ constraints, IsConstraint ts) (hempty : columns = [] → constraints = [])
    (h : readDefinitions bound ([.symbol ","].intercalate (columns.map (·.2) ++ constraints)
      ++ .symbol ")" :: tail) = some ((definitions, read), rest)) :
    definitions.map (·.name) = columns.map (·.1) ∧ ∀ d ∈ definitions, d.isComputed = false := by
  induction columns generalizing bound definitions with
  | nil =>
    rw [hempty rfl] at h
    cases bound <;> cases h
  | cons p columns ih =>
    have hp := (hcolumns p List.mem_cons_self).reads
    rw [List.map_cons, List.cons_append] at h
    cases hmore : columns.map (·.2) ++ constraints with
    | nil =>
      rw [hmore, List.intercalate_singleton] at h
      obtain ⟨rfl, -⟩ : columns = [] ∧ constraints = [] := by simpa using hmore
      obtain ⟨d, hname, hplain, rfl⟩ := readDefinitions_last hp h
      exact ⟨by simp [hname], by simp [hplain]⟩
    | cons ts more =>
      rw [hmore, List.intercalate_cons_cons, List.append_assoc, List.append_assoc,
        List.singleton_append] at h
      obtain ⟨d, hname, hplain, hrest⟩ := readDefinitions_comma hp h
      obtain ⟨us, hus⟩ := exists_intercalate_cons [.symbol ","] ts more
      cases columns with
      | nil =>
        have hts : ts ∈ constraints := by
          rw [List.map_nil, List.nil_append] at hmore
          simp [hmore]
        rw [hus, List.append_assoc, if_pos ((hconstraints ts hts).starts _)] at hrest
        subst hrest
        exact ⟨by simp [hname], by simp [hplain]⟩
      | cons q columns =>
        have hq : ts = q.2 := by simpa using (congrArg List.head? hmore).symm
        have hstarts := (hcolumns q (by simp)).starts (us ++ .symbol ")" :: tail)
        rw [← hq, ← List.append_assoc, ← hus] at hstarts
        rw [hstarts, if_neg (by decide)] at hrest
        obtain ⟨bound', ds, rfl, hread⟩ := hrest
        rw [← hmore] at hread
        obtain ⟨hnames, hplains⟩ := ih (fun r hr => hcolumns r (List.mem_cons_of_mem p hr)) (by simp)
          hread
        refine ⟨by simp [hname, hnames], fun e he => ?_⟩
        rcases List.mem_cons.1 he with rfl | he
        · exact hplain
        · exact hplains e he

end Definitions

end Sqlite

open Sqlite

/-! ## Generated columns -/

theorem isType_withLength (stem : String) (n : Nat) :
    isType (Spelling.withLength stem n).tokens = isTypeWord (.word stem.toList) := by
  cases hstem : isTypeWord (.word stem.toList) with
  | false => simp [isType, Spelling.tokens, hstem]
  | true =>
    have hdrop (n : Nat) : (Spelling.withLength stem n).tokens.dropWhile isTypeWord
        = [.symbol "(", .integer (toString n).toList, .symbol ")"] :=
      List.dropWhile_cons_of_pos hstem
    rw [isType, hdrop]
    simp [Spelling.tokens, hstem, isSizes]

/-- The spelling of a type is read as a type, all but one, which says itself what the value of a column
is. -/
theorem isType_spellColumn {b : Backend} (hb : b ≠ .sqlServer) {t : Table} {c : Column}
    {s : Spelling} (h : b.dialect.spellColumn t c = .ok s) :
    isType s.tokens = true ∨ (b = .mySql ∧ c.type = .rowVersion) := by
  have table : (TypeTag.all.all fun tag => (b == .mySql && tag == .rowVersion)
      || (b.dialect.sqlType tag).all (SqlType.allSpellings fun s => isType s.tokens)) = true := by
    cases b with
    | sqlServer => exact absurd rfl hb
    | mySql => decide +kernel
    | sqlite => decide +kernel
  have hlength (stem : String) (n : Nat) : isType (Spelling.withLength stem n).tokens
      = isType (Spelling.withLength stem 0).tokens := by
    rw [isType_withLength, isType_withLength]
  obtain ⟨type, htype, hspell⟩ := Dialect.spellColumn_ok h
  have hcolumn := List.all_eq_true.1 table c.type c.type.mem_all
  simp only [htype, Option.all_some, Bool.or_eq_true, Bool.and_eq_true, beq_iff_eq] at hcolumn
  exact hcolumn.symm.imp_left fun hall => SqlType.spell_all hlength hall hspell

theorem exists_clauseWords (b : Backend) (singleKey : Bool) (c : Column) : ∃ key isNumbered,
    words (if singleKey && c.isPrimaryKey then b.keyWords c else [])
        ++ words (if c.refusesNull then ["NOT", "NULL"] else []) ++ words (b.numberWords c)
      = words (clauseWords key c.refusesNull isNumbered) := by
  have hkey : ∃ key, (if singleKey && c.isPrimaryKey then b.keyWords c else [])
      = clauseWords key false false := by
    split
    · cases b with
      | sqlite =>
        simp only [Backend.keyWords]
        split
        · exact ⟨some true, rfl⟩
        · exact ⟨some false, rfl⟩
      | _ => exact ⟨some false, rfl⟩
    · exact ⟨none, rfl⟩
  have hnumber : ∃ isNumbered, b.numberWords c = clauseWords none false isNumbered := by
    cases b with
    | mySql =>
      simp only [Backend.numberWords]
      split
      · exact ⟨true, rfl⟩
      · exact ⟨false, rfl⟩
    | _ => exact ⟨false, rfl⟩
  obtain ⟨key, hkey⟩ := hkey
  obtain ⟨isNumbered, hnumber⟩ := hnumber
  refine ⟨key, isNumbered, ?_⟩
  rw [hkey, hnumber]
  simp [words, clauseWords]

/-- SQLite reads the definition of a column as a column of its name that is not computed. -/
theorem isDefinition_definition {b : Backend} (hb : b ≠ .sqlServer) (singleKey : Bool) {t : Table}
    {c : Column} {s : Spelling} (h : b.dialect.spellColumn t c = .ok s) :
    IsDefinition c.name (definitionTokens b singleKey c s
      (words (if c.refusesNull then ["NOT", "NULL"] else []))) := by
  refine ⟨?_, fun _ => rfl⟩
  rcases isType_spellColumn hb h with htype | ⟨rfl, hversion⟩
  · obtain ⟨key, isNumbered, hclauses⟩ := exists_clauseWords b singleKey c
    have hreads := readsColumn_clauses b.dialect.openQuote c.name htype key c.refusesNull isNumbered
    rw [← hclauses] at hreads
    simpa only [definitionTokens, List.append_assoc] using hreads
  · -- What stands in the parentheses behind the default is no clause.
    intro s' rest column rest' _ hread
    obtain ⟨type, hsql, hspell⟩ := Dialect.spellColumn_ok h
    rw [hversion] at hsql
    cases hsql
    cases hspell
    have hnone : readColumn (definitionTokens .mySql singleKey c (.word
        "TIMESTAMP(6) NULL DEFAULT CURRENT_TIMESTAMP(6) ON UPDATE CURRENT_TIMESTAMP(6)")
        (words (if c.refusesNull then ["NOT", "NULL"] else [])) ++ .symbol s' :: rest) = none := rfl
    rw [hnone] at hread
    cases hread

/-- A generated statement without defaults that is carried out creates the table with its columns if
it is missing, in any catalogue. -/
theorem execute?_columns {b : Backend} {t : Table} {text : String} {c c' : Catalogue}
    (hgenerated : (b.generator.generate t).result = .ok text) (hdefault : t.PrintsNoDefault)
    (h : c.execute? text = some c') :
    ∃ s : CreateTable, s.CreatesIfMissing t.name ∧ (∀ d : Catalogue, d.execute? text = d.createTable? s)
      ∧ (Catalogue.stored s t.name).definition.shownColumns = t.orderedColumns.map (·.name) := by
  have hcolumns : b ≠ .sqlServer → ∀ c ∈ t.orderedColumns, ∀ s, b.dialect.spellColumn t c = .ok s →
      ∃ ts, IsPart (b.dialect.definition (t.primaryKey.length == 1) c s.text) ts
        ∧ Token.symbol ";" ∉ ts ∧ IsDefinition c.name ts := by
    intro hb c hc s hs
    have hsolid := isSolid_spellColumn hb hs
    have hnull := Backend.follows_nullClause (hdefault c (Table.mem_of_mem_orderedColumns hc))
    refine ⟨_, isPart_definition hb _ hsolid hnull, ?_, isDefinition_definition hb _ hs⟩
    simp [definitionTokens, Spelling.not_mem_tokens hsolid, not_mem_words]
  obtain ⟨s, columns, constraints, tail, rest, bound, hs, hexecute, horder, hdefinitions, hconstraints,
    hempty, hread⟩ := execute?_tokens hgenerated hcolumns h
  let named := columns.map fun p => (p.1.name, p.2)
  have hnamed : ∀ p ∈ named, IsDefinition p.1 p.2 := by
    intro q hq
    obtain ⟨p, hp, rfl⟩ := List.mem_map.1 hq
    exact hdefinitions p hp
  have htokens : named.map (·.2) = columns.map (·.2) := by simp [named, Function.comp_def]
  rw [← htokens] at hread
  obtain ⟨hnames, hplain⟩ := readDefinitions_columns hnamed hconstraints (by simpa [named] using hempty)
    hread
  refine ⟨s, hs, hexecute, ?_⟩
  have hshown : (s.columns.filter fun d => !d.isComputed) = s.columns :=
    List.filter_eq_self.2 fun d hd => by simp [hplain d hd]
  simp only [Catalogue.stored, TableDefinition.shownColumns, hshown, hnames, named, ← horder,
    List.map_map]
  rfl

end Schemata
