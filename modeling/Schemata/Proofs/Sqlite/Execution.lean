import Schemata.Proofs.Sqlite.Creation
import Schemata.Sqlite.Catalogue

/-!
# What a generated statement does

A generated statement that SQLite carries out at all creates one permanent table, or leaves the
table of this name alone: it does so in every catalogue, since reading a statement does not depend on
the catalogue (`execute?_generated`). The defaults that it prints have to be literals, which can
neither end the statement nor swallow what follows them.
-/

namespace Schemata

namespace Sqlite

theorem statements_of_not_mem {ts : List Token} (hne : ts ≠ []) (h : Token.symbol ";" ∉ ts) :
    statements ts = [ts] := by
  induction ts with
  | nil => exact absurd rfl hne
  | cons t ts ih =>
    simp only [List.mem_cons, not_or] at h
    have ht : t ≠ .symbol ";" := Ne.symm h.1
    cases ts with
    | nil => simp [statements, ht]
    | cons u ts => rw [statements, if_neg ht, ih (by simp) h.2]

/-- A text without semicolons is one statement. -/
theorem execute?_of_tokens {text : String} {ts : List Token} (htokens : tokens? text = some ts)
    (hne : ts ≠ []) (h : Token.symbol ";" ∉ ts) (c : Catalogue) :
    c.execute? text = (Statement.ofTokens? ts).bind c.perform? := by
  have hfilter : ([ts].filter fun s => !s.isEmpty) = [ts] := by
    cases ts with
    | nil => exact absurd rfl hne
    | cons t ts => rfl
  simp only [Catalogue.execute?, htokens, Option.bind_eq_bind, Option.bind_some,
    statements_of_not_mem hne h, hfilter, List.mapM_cons, List.mapM_nil]
  cases Statement.ofTokens? ts with
  | none => rfl
  | some s => simp

/-- The statement creates a permanent table of this name, unless there is one. -/
structure CreateTable.CreatesIfMissing (s : CreateTable) (name : String) : Prop where
  isTemporary : s.isTemporary = false
  ifNotExists : s.ifNotExists = true
  named : s.name = ⟨none, name⟩

theorem ofTokens?_create {mark : Char} {name : List Char} {inner : List Token} {st : Statement}
    (h : Statement.ofTokens? (createWords ++ .quoted mark name :: .symbol "(" :: inner) = some st) :
    ∃ s rest, st = .createTable s ∧ s.CreatesIfMissing (String.ofList name)
      ∧ readDefinitions inner.length inner = some ((s.columns, s.constraints), rest) := by
  have hread : Statement.ofTokens? (createWords ++ .quoted mark name :: .symbol "(" :: inner)
      = (readCreateTable false (words ["IF", "NOT", "EXISTS"] ++ .quoted mark name :: .symbol "("
        :: inner)).map .createTable := rfl
  have hflag : readFlag ["IF", "NOT", "EXISTS"] (words ["IF", "NOT", "EXISTS"] ++ .quoted mark name ::
      .symbol "(" :: inner) = (true, .quoted mark name :: .symbol "(" :: inner) := rfl
  have hif : startWith ["IF"] (.quoted mark name :: .symbol "(" :: inner) = false := rfl
  have hname : readObjectName (.quoted mark name :: .symbol "(" :: inner)
      = some (⟨none, String.ofList name⟩, .symbol "(" :: inner) := rfl
  have hopen : readSymbol "(" (.symbol "(" :: inner) = some inner := rfl
  rw [hread, Option.map_eq_some_iff] at h
  obtain ⟨s, hs, rfl⟩ := h
  simp only [readCreateTable, hflag, hif, hname, hopen, Option.bind_eq_bind, Option.bind_some,
    Bool.false_eq_true, if_false] at hs
  rw [Option.bind_eq_some_iff] at hs
  obtain ⟨⟨parts, rest⟩, hparts, hs⟩ := hs
  refine ⟨s, rest, rfl, ?_⟩
  split at hs
  · cases hs
    exact ⟨⟨rfl, rfl, rfl⟩, hparts⟩
  · rw [Option.bind_eq_some_iff] at hs
    obtain ⟨options, -, hs⟩ := hs
    cases hs
    exact ⟨⟨rfl, rfl, rfl⟩, hparts⟩

/-- A text with the tokens of a creation does the same in every catalogue. -/
theorem execute?_create {text : String} {mark : Char} {name : List Char} {inner : List Token}
    {c c' : Catalogue}
    (htokens : tokens? text = some (createWords ++ .quoted mark name :: .symbol "(" :: inner))
    (hclean : Token.symbol ";" ∉ inner) (h : c.execute? text = some c') :
    ∃ s rest, s.CreatesIfMissing (String.ofList name)
      ∧ readDefinitions inner.length inner = some ((s.columns, s.constraints), rest)
      ∧ ∀ d : Catalogue, d.execute? text = d.createTable? s := by
  have hsemicolon : Token.symbol ";" ∉ createWords ++ .quoted mark name :: .symbol "(" :: inner := by
    simp [createWords, not_mem_words, hclean]
  have hexecute := execute?_of_tokens htokens (by simp [createWords, words]) hsemicolon
  rw [hexecute, Option.bind_eq_some_iff] at h
  obtain ⟨st, hst, -⟩ := h
  obtain ⟨s, rest, rfl, hs, hparts⟩ := ofTokens?_create hst
  refine ⟨s, rest, hs, hparts, fun d => ?_⟩
  rw [hexecute, hst]
  rfl

/-! ## The dialect that asks in another way -/

/-- No statement begins with this word, so the text is refused. -/
theorem execute?_sqlServer {t : Table} {text : String}
    (h : (Backend.sqlServer.generator.generate t).result = .ok text) (c : Catalogue) :
    c.execute? text = none := by
  obtain ⟨l, -, rfl⟩ := Dialect.createTable_ok h
  have htext : ∃ more, Backend.sqlServer.dialect.statement t (Backend.sqlServer.dialect.parts t l)
      = "IF" ++ (" " ++ more) := by
    generalize Backend.sqlServer.dialect.parts t l = parts
    have hclause (quoted : String) : Backend.sqlServer.dialect.createClause quoted
        = "IF" ++ (" " ++ "OBJECT_ID(N'") ++ Dialect.inLiteral quoted
          ++ "', N'U') IS NULL CREATE TABLE " ++ quoted := rfl
    simp only [Dialect.statement, hclause, String.append_assoc]
    exact ⟨_, rfl⟩
  obtain ⟨more, htext⟩ := htext
  have hfirst : ∀ ts, tokens? (Backend.sqlServer.dialect.statement t
      (Backend.sqlServer.dialect.parts t l)) = some ts → ∃ us, ts = .word "IF".toList :: us := by
    intro ts htokens
    have hif : Lexes "IF".toList (words ["IF"]) := .of_solidTokens? 5 (by decide)
    have hts := hasTokens_of_tokens? htokens
    rw [htext, String.toList_append] at hts
    have hstops : Stops (" " ++ more).toList := by
      rw [String.toList_append]
      exact stops_cons rfl
    obtain ⟨us, rfl, -⟩ := hif _ ts hstops hts
    exact ⟨us, rfl⟩
  have hrefused (us : List Token) : Statement.ofTokens? (.word "IF".toList :: us) = none := rfl
  rw [Catalogue.execute?, Option.bind_eq_bind, Option.bind_eq_none_iff]
  intro ts htokens
  obtain ⟨us, rfl⟩ := hfirst ts htokens
  have hstatements : ∃ ws others, statements (.word "IF".toList :: us)
      = (.word "IF".toList :: ws) :: others := by
    simp only [statements, reduceCtorEq, if_false]
    split
    · exact ⟨_, _, rfl⟩
    · exact ⟨_, _, rfl⟩
  obtain ⟨ws, others, hstatements⟩ := hstatements
  rw [hstatements, List.filter_cons_of_pos rfl, List.mapM_cons, hrefused]
  rfl

end Sqlite

open Sqlite

/-! ## Generated statements -/

/-- Every default that a statement prints is a literal. -/
def Table.PrintsLiterals (t : Table) : Prop :=
  ∀ c ∈ t.columns, c.refusesNull = true → ∀ literal ∈ c.defaultValue, isLiteral literal = true

/-- What a column says about null ends no statement, if a default that it prints is a literal. -/
theorem exists_follows_nullClause {c : Column}
    (h : c.refusesNull = true → ∀ literal ∈ c.defaultValue, isLiteral literal = true) :
    ∃ ts, Follows (Dialect.nullClause c) ts ∧ Token.symbol ";" ∉ ts := by
  by_cases hplain : c.refusesNull = true → c.defaultValue = none
  · exact ⟨_, Backend.follows_nullClause hplain, not_mem_words⟩
  · simp only [Classical.not_imp] at hplain
    obtain ⟨hrefuses, hdefault⟩ := hplain
    obtain ⟨literal, hliteral⟩ := Option.ne_none_iff_exists'.1 hdefault
    obtain ⟨ts, hts, hclean⟩ := Lexes.literal (h hrefuses literal hliteral)
    have hword : Follows (" " ++ "DEFAULT") (words ["DEFAULT"]) := .of_solidTokens? 20 (by decide)
    have hclause : Dialect.nullClause c = " " ++ "DEFAULT" ++ (" " ++ literal) := by
      simp only [Column.refusesNull, Bool.and_eq_true, Bool.not_eq_true'] at hrefuses
      have htext : " DEFAULT " ++ literal = " " ++ "DEFAULT" ++ (" " ++ literal) := by
        rw [← String.append_assoc]
        rfl
      simp [Dialect.nullClause, hrefuses.1, hrefuses.2, hliteral, htext]
    rw [hclause]
    exact ⟨_, hword.append (.blank hts), by simp [not_mem_words, hclean]⟩

/-- A generated statement that is carried out creates the table if it is missing, in any catalogue. What
is known of the tokens of its column definitions is known of what was read. -/
theorem execute?_tokens {b : Backend} {t : Table} {text : String} {c c' : Catalogue}
    {P : Column → List Token → Prop}
    (hgenerated : (b.generator.generate t).result = .ok text)
    (hcolumns : b ≠ .sqlServer → ∀ c ∈ t.orderedColumns, ∀ s, b.dialect.spellColumn t c = .ok s →
      ∃ ts, IsPart (b.dialect.definition (t.primaryKey.length == 1) c s.text) ts
        ∧ Token.symbol ";" ∉ ts ∧ P c ts)
    (h : c.execute? text = some c') :
    ∃ (s : CreateTable) (columns : List (Column × List Token)) (constraints : List (List Token))
      (tail rest : List Token) (bound : Nat),
      s.CreatesIfMissing t.name ∧ (∀ d : Catalogue, d.execute? text = d.createTable? s)
      ∧ columns.map (·.1) = t.orderedColumns ∧ (∀ p ∈ columns, P p.1 p.2)
      ∧ (∀ ts ∈ constraints, IsConstraint ts) ∧ (columns = [] → constraints = [])
      ∧ readDefinitions bound
          ([.symbol ","].intercalate (columns.map (·.2) ++ constraints) ++ .symbol ")" :: tail)
        = some ((s.columns, s.constraints), rest) := by
  have hb : b ≠ .sqlServer := by
    rintro rfl
    rw [execute?_sqlServer hgenerated] at h
    cases h
  cases htokens : tokens? text with
  | none => simp [Catalogue.execute?, htokens] at h
  | some us =>
    obtain ⟨columns, constraints, tail, horder, hP, hconstraints, hempty, htail, rfl⟩ :=
      tokens_generated hb hgenerated (hcolumns hb) htokens
    have hparts : Token.symbol ";" ∉
        [Token.symbol ","].intercalate (columns.map (·.2) ++ constraints) := by
      refine not_mem_intercalate (by decide) fun ts hts => ?_
      rcases List.mem_append.1 hts with hts | hts
      · obtain ⟨p, hp, rfl⟩ := List.mem_map.1 hts
        exact (hP p hp).1
      · exact (hconstraints ts hts).clean
    obtain ⟨s, rest, hs, hread, hexecute⟩ := execute?_create htokens (by simp [hparts, htail]) h
    exact ⟨s, columns, constraints, tail, rest, _, by simpa using hs, hexecute, horder,
      fun p hp => (hP p hp).2, hconstraints, hempty, hread⟩

/-- A generated statement with literals for its defaults creates the table if it is missing. -/
theorem execute?_generated {b : Backend} {t : Table} {text : String} {c c' : Catalogue}
    (hgenerated : (b.generator.generate t).result = .ok text) (hliterals : t.PrintsLiterals)
    (h : c.execute? text = some c') :
    ∃ s : CreateTable, s.CreatesIfMissing t.name ∧
      ∀ d : Catalogue, d.execute? text = d.createTable? s := by
  have hcolumns : b ≠ .sqlServer → ∀ c ∈ t.orderedColumns, ∀ s, b.dialect.spellColumn t c = .ok s →
      ∃ ts, IsPart (b.dialect.definition (t.primaryKey.length == 1) c s.text) ts
        ∧ Token.symbol ";" ∉ ts ∧ True := by
    intro hb c hc s hs
    have hsolid := isSolid_spellColumn hb hs
    obtain ⟨null, hnull, hclean⟩ :=
      exists_follows_nullClause (hliterals c (Table.mem_of_mem_orderedColumns hc))
    refine ⟨_, isPart_definition hb _ hsolid hnull, ?_, trivial⟩
    simp [definitionTokens, Spelling.not_mem_tokens hsolid, not_mem_words, hclean]
  obtain ⟨s, -, -, -, -, -, hs, hexecute, -⟩ := execute?_tokens hgenerated hcolumns h
  exact ⟨s, hs, hexecute⟩

end Schemata
