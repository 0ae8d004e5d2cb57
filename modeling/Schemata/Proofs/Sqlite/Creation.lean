import Mathlib.Tactic.Choose
import Schemata.Proofs.Sqlite.Literal
import Schemata.Proofs.Statement.Definitions
import Schemata.Proofs.Statement.Outline
import Schemata.Sqlite.Statement.Reader

/-!
# The tokens of a generated statement

What SQLite reads when it is given the statement that creates a table. The statement is put together
from parts, and each part has the contract of `Lexes`, so the tokens of the statement are those of its
parts (`tokens_generated`): the words that leave an existing table alone, the name of the table, the
definitions of the columns, and constraints.

This is about the dialects that say `IF NOT EXISTS`. A statement of the other one begins with a word
that begins no statement of SQLite.
-/

namespace Schemata

namespace Sqlite

/-- Bare words as tokens. -/
def words (texts : List String) : List Token :=
  texts.map fun text => .word text.toList

theorem not_mem_words {texts : List String} {s : String} : Token.symbol s ∉ words texts := by
  simp [words]

theorem not_mem_intercalate {α : Type} {a : α} {sep : List α} {l : List (List α)} (hsep : a ∉ sep)
    (h : ∀ as ∈ l, a ∉ as) : a ∉ sep.intercalate l := by
  induction l with
  | nil => simp
  | cons as l ih =>
    have has := h as List.mem_cons_self
    have htail := ih fun bs hbs => h bs (List.mem_cons_of_mem as hbs)
    cases l with
    | nil => simpa using has
    | cons bs l => simp [List.intercalate_cons_cons, has, hsep, htail]

/-! ## Texts behind a token, and parts -/

/-- A text that may stand behind a token, and its tokens. -/
structure Follows (text : String) (ts : List Token) : Prop where
  stops : Stops text.toList
  lexes : Lexes text.toList ts

/-- A text that begins with a token, and its tokens. -/
structure IsPart (text : String) (ts : List Token) : Prop where
  begins : text.toList.head?.any beginsToken = true
  lexes : Lexes text.toList ts

namespace Follows

theorem empty : Follows "" [] :=
  ⟨stops_nil, .nil⟩

theorem append {a b : String} {ts us : List Token} (ha : Follows a ts) (hb : Follows b us) :
    Follows (a ++ b) (ts ++ us) := by
  constructor
  · rw [String.toList_append]
    exact ha.stops.append hb.stops
  · rw [String.toList_append]
    exact ha.lexes.append hb.lexes hb.stops

theorem blank {text : String} {ts : List Token} (h : Lexes (' ' :: text.toList) ts) :
    Follows (" " ++ text) ts := by
  have htext : (" " ++ text).toList = ' ' :: text.toList := by simp
  constructor
  · rw [htext]
    exact stops_cons rfl
  · rwa [htext]

theorem of_solidTokens? {text : String} {ts : List Token} (bound : Nat)
    (h : solidTokens? bound (' ' :: text.toList) = some ts) : Follows (" " ++ text) ts :=
  blank (.of_solidTokens? bound h)

theorem parenthesized {text : String} {ts : List Token} (h : Lexes text.toList ts) :
    Follows ("(" ++ text ++ ")") (.symbol "(" :: (ts ++ [.symbol ")"])) := by
  have htext : ("(" ++ text ++ ")").toList = '(' :: (text.toList ++ [')']) := by simp
  constructor
  · rw [htext]
    exact stops_cons rfl
  · rw [htext]
    exact .symbol (.inl rfl)
      (h.append (.symbol (.inr (.inl rfl)) .nil) (stops_cons rfl))

end Follows

namespace IsPart

theorem append {a b : String} {ts us : List Token} (ha : IsPart a ts) (hb : Follows b us) :
    IsPart (a ++ b) (ts ++ us) := by
  constructor
  · have hbegins := ha.begins
    rw [String.toList_append]
    cases hcs : a.toList with
    | nil => simp [hcs] at hbegins
    | cons c cs => simpa [hcs] using hbegins
  · rw [String.toList_append]
    exact ha.lexes.append hb.lexes hb.stops

theorem blank {text : String} {ts : List Token} (h : IsPart text ts) : Follows (" " ++ text) ts := by
  refine .blank ?_
  obtain ⟨hbegins, hlexes⟩ := h
  cases hcs : text.toList with
  | nil => simp [hcs] at hbegins
  | cons c cs =>
    rw [hcs] at hbegins hlexes
    exact .blank hbegins hlexes

theorem comma {text : String} {ts : List Token} (h : IsPart text ts) :
    Follows (", " ++ text) (.symbol "," :: ts) := by
  have htext : (", " ++ text).toList = ',' :: (" " ++ text).toList := by simp
  constructor
  · rw [htext]
    exact stops_cons rfl
  · rw [htext]
    exact .symbol (.inr (.inr rfl)) h.blank.lexes

theorem intercalate {l : List (String × List Token)} (hl : l ≠ []) (h : ∀ p ∈ l, IsPart p.1 p.2) :
    IsPart (", ".intercalate (l.map (·.1))) ([.symbol ","].intercalate (l.map (·.2))) := by
  induction l with
  | nil => exact absurd rfl hl
  | cons p l ih =>
    have hp := h p List.mem_cons_self
    cases l with
    | nil => simpa using hp
    | cons q l =>
      have htail := ih (by simp) fun r hr => h r (List.mem_cons_of_mem p hr)
      simp only [List.map_cons] at htail ⊢
      rw [String.intercalate_cons_cons, String.append_assoc, List.intercalate_cons_cons,
        List.append_assoc]
      exact hp.append htail.comma

end IsPart

theorem follows_parts {l : List (String × List Token)} (h : ∀ p ∈ l, IsPart p.1 p.2) :
    Follows ("(" ++ ", ".intercalate (l.map (·.1)) ++ ")")
      (.symbol "(" :: ([.symbol ","].intercalate (l.map (·.2)) ++ [.symbol ")"])) := by
  refine .parenthesized ?_
  cases l with
  | nil => exact .nil
  | cons p l => exact (IsPart.intercalate (by simp) h).lexes

end Sqlite

open Sqlite

/-! ## Types -/

namespace Spelling

/-- The tokens of a spelled type. -/
def tokens : Spelling → List Token
  | word text => (solidTokens? (text.length + 2) (' ' :: text.toList)).getD []
  | withLength stem n =>
    [.word stem.toList, .symbol "(", .integer (toString n).toList, .symbol ")"]

/-- Whether a spelled type has tokens, none of which ends a statement. -/
def isSolid : Spelling → Bool
  | word text => (solidTokens? (text.length + 2) (' ' :: text.toList)).any fun ts =>
      !ts.contains (.symbol ";")
  | withLength stem _ => solidTokens? 3 (' ' :: stem.toList) == some [.word stem.toList]

theorem follows {s : Spelling} (h : s.isSolid = true) : Follows (" " ++ s.text) s.tokens := by
  cases s with
  | word text =>
    simp only [isSolid, Option.any_eq_true] at h
    obtain ⟨ts, hts, -⟩ := h
    refine .of_solidTokens? (text.length + 2) ?_
    rw [tokens, hts]
    exact hts
  | withLength stem n =>
    simp only [isSolid, beq_iff_eq] at h
    have hstem := Follows.of_solidTokens? 3 h
    have hlength := Follows.parenthesized (Lexes.number n)
    have htext : " " ++ (stem ++ "(" ++ toString n ++ ")")
        = " " ++ stem ++ ("(" ++ toString n ++ ")") := by
      simp only [String.append_assoc]
    simp only [Spelling.text]
    rw [htext]
    exact hstem.append hlength

theorem not_mem_tokens {s : Spelling} (h : s.isSolid = true) : Token.symbol ";" ∉ s.tokens := by
  cases s with
  | word text =>
    simp only [isSolid, Option.any_eq_true] at h
    obtain ⟨ts, hts, hclean⟩ := h
    simpa [tokens, hts] using hclean
  | withLength stem n => simp [tokens]

end Spelling

theorem isSolid_spellColumn {b : Backend} (hb : b ≠ .sqlServer) {t : Table} {c : Column}
    {s : Spelling} (h : b.dialect.spellColumn t c = .ok s) : s.isSolid = true := by
  have table : (TypeTag.all.all fun tag =>
      (b.dialect.sqlType tag).all (SqlType.allSpellings Spelling.isSolid)) = true := by
    cases b with
    | sqlServer => exact absurd rfl hb
    | mySql => decide +kernel
    | sqlite => decide +kernel
  obtain ⟨type, htype, hspell⟩ := Dialect.spellColumn_ok h
  have hsolid : type.allSpellings Spelling.isSolid = true := by
    simpa [htype] using List.all_eq_true.1 table c.type c.type.mem_all
  exact SqlType.spell_all (fun _ _ => rfl) hsolid hspell

/-! ## Clauses -/

namespace Backend

/-- The words that mark the column that is the whole key. -/
def keyWords : Backend → Column → List String
  | sqlite, c =>
    if c.autoIncrement.isSome then ["PRIMARY", "KEY", "AUTOINCREMENT"] else ["PRIMARY", "KEY"]
  | _, _ => ["PRIMARY", "KEY"]

/-- The words that mark a numbered column behind the other clauses. -/
def numberWords : Backend → Column → List String
  | mySql, c => if c.autoIncrement.isSome then ["AUTO_INCREMENT"] else []
  | _, _ => []

variable {b : Backend}

theorem follows_keyClause (b : Backend) (c : Column) :
    Follows (" " ++ b.dialect.keyClause c) (words (b.keyWords c)) := by
  have plain : Follows (" " ++ "PRIMARY KEY") (words ["PRIMARY", "KEY"]) :=
    .of_solidTokens? 20 (by decide)
  cases b with
  | sqlServer => exact plain
  | mySql => exact plain
  | sqlite =>
    have numbered : Follows (" " ++ "PRIMARY KEY AUTOINCREMENT")
        (words ["PRIMARY", "KEY", "AUTOINCREMENT"]) := .of_solidTokens? 20 (by decide)
    simp only [dialect, Dialect.sqlite, Dialect.Sqlite.keyClause, keyWords]
    split
    · exact numbered
    · exact plain

theorem follows_numberClause (hb : b ≠ .sqlServer) (c : Column) :
    Follows (b.dialect.numberClause c) (words (b.numberWords c)) := by
  simp only [Dialect.numberClause]
  cases b with
  | sqlServer => exact absurd rfl hb
  | mySql =>
    cases hc : c.autoIncrement with
    | none => simpa [numberWords, hc, words] using Follows.empty
    | some a =>
      have hword : Follows (" " ++ "AUTO_INCREMENT") (words ["AUTO_INCREMENT"]) :=
        .of_solidTokens? 20 (by decide)
      simpa [numberWords, hc, words, dialect, Dialect.mySql] using hword
  | sqlite =>
    cases hc : c.autoIncrement with
    | none => exact .empty
    | some a => exact .empty

/-- What a column says about null when it has no default to print. -/
theorem follows_nullClause {c : Column} (h : c.refusesNull = true → c.defaultValue = none) :
    Follows (Dialect.nullClause c) (words (if c.refusesNull then ["NOT", "NULL"] else [])) := by
  cases hc : c.refusesNull with
  | false =>
    have hempty : Dialect.nullClause c = "" := by
      simp only [Column.refusesNull, Bool.and_eq_false_iff, Bool.not_eq_false'] at hc
      simp only [Dialect.nullClause, Bool.or_eq_true, if_pos hc]
    rw [hempty]
    exact .empty
  | true =>
    have hnotNull : Dialect.nullClause c = " " ++ "NOT NULL" := by
      have hdefault := h hc
      simp only [Column.refusesNull, Bool.and_eq_true, Bool.not_eq_true'] at hc
      simp [Dialect.nullClause, hc.1, hc.2, hdefault]
    rw [hnotNull]
    exact .of_solidTokens? 20 (by decide)

end Backend

/-! ## Definitions and constraints -/

theorem isPart_quote (b : Backend) (name : String) :
    IsPart (b.dialect.quote name) [.quoted b.dialect.openQuote name.toList] := by
  constructor
  · rw [Dialect.quote, Text.Quoted.toList_quote]
    cases b <;> rfl
  · cases b with
    | sqlServer => exact .bracketed name
    | mySql => exact .backticked name
    | sqlite => exact .bracketed name

/-- The tokens of the definition of a column, given those of what it says about null. -/
def definitionTokens (b : Backend) (singleKey : Bool) (c : Column) (s : Spelling)
    (null : List Token) : List Token :=
  .quoted b.dialect.openQuote c.name.toList :: (s.tokens
    ++ words (if singleKey && c.isPrimaryKey then b.keyWords c else []) ++ null
    ++ words (b.numberWords c))

theorem isPart_definition {b : Backend} (hb : b ≠ .sqlServer) (singleKey : Bool) {c : Column}
    {s : Spelling} {null : List Token} (hs : s.isSolid = true)
    (hnull : Follows (Dialect.nullClause c) null) :
    IsPart (b.dialect.definition singleKey c s.text) (definitionTokens b singleKey c s null) := by
  have hkey : Follows (if singleKey && c.isPrimaryKey then " " ++ b.dialect.keyClause c else "")
      (words (if singleKey && c.isPrimaryKey then b.keyWords c else [])) := by
    split
    · exact b.follows_keyClause c
    · exact .empty
  have hpart := (((isPart_quote b c.name).append (Spelling.follows hs)).append hkey).append hnull
    |>.append (Backend.follows_numberClause hb c)
  simpa only [Dialect.definition, definitionTokens, String.append_assoc, List.cons_append,
    List.nil_append] using hpart

/-- The tokens of a constraint: they end no statement, and they show that no column follows. -/
structure IsConstraint (ts : List Token) : Prop where
  clean : Token.symbol ";" ∉ ts
  starts : ∀ rest, startsConstraint (ts ++ rest) = true

theorem isPart_constraint (b : Backend) {kind : String} {ts : List Token} (hkind : IsPart kind ts)
    (columns : List Column) :
    IsPart (b.dialect.constraint kind columns) (ts ++ .symbol "(" ::
      ([.symbol ","].intercalate (columns.map fun c => [.quoted b.dialect.openQuote c.name.toList])
        ++ [.symbol ")"])) := by
  have hnames := follows_parts (l := columns.map fun c =>
    (b.dialect.quote c.name, [Token.quoted b.dialect.openQuote c.name.toList])) (by
      simp only [List.mem_map]
      rintro p ⟨c, -, rfl⟩
      exact isPart_quote b c.name)
  simp only [List.map_map, Function.comp_def] at hnames
  have hpart := hkind.append hnames
  simpa only [Dialect.constraint, String.append_assoc] using hpart

theorem isConstraint_words {kind : List String} {rest : List Token}
    (hkind : kind = ["PRIMARY", "KEY"] ∨ kind = ["UNIQUE"])
    (hrest : Token.symbol ";" ∉ rest) : IsConstraint (words kind ++ rest) := by
  constructor
  · simp [not_mem_words, hrest]
  · intro more
    rcases hkind with rfl | rfl
    · rfl
    · rfl

/-- What stands behind the definitions of the columns are constraints. -/
theorem exists_constraint {b : Backend} {t : Table} {text : String}
    (h : text ∈ b.dialect.keyConstraints t.primaryKey
      ++ b.dialect.uniqueConstraints t.orderedColumns) :
    ∃ ts, IsPart text ts ∧ IsConstraint ts := by
  have hclean (columns : List Column) : Token.symbol ";" ∉ Token.symbol "(" ::
      ([.symbol ","].intercalate (columns.map fun c =>
        [Token.quoted b.dialect.openQuote c.name.toList]) ++ [.symbol ")"]) := by
    have hnames : Token.symbol ";" ∉ [Token.symbol ","].intercalate (columns.map fun c =>
        [Token.quoted b.dialect.openQuote c.name.toList]) :=
      not_mem_intercalate (by decide) (by simp)
    simp [hnames]
  rcases List.mem_append.1 h with h | h
  · simp only [Dialect.keyConstraints] at h
    split at h
    · obtain rfl := List.mem_singleton.1 h
      have hkind : IsPart "PRIMARY KEY" (words ["PRIMARY", "KEY"]) :=
        ⟨by decide, .of_solidTokens? 20 (by decide)⟩
      exact ⟨_, isPart_constraint b hkind _, isConstraint_words (.inl rfl) (hclean _)⟩
    · cases h
  · simp only [Dialect.uniqueConstraints] at h
    split at h
    · cases h
    · obtain rfl := List.mem_singleton.1 h
      have hkind : IsPart "UNIQUE" (words ["UNIQUE"]) :=
        ⟨by decide, .of_solidTokens? 20 (by decide)⟩
      exact ⟨_, isPart_constraint b hkind _, isConstraint_words (.inr rfl) (hclean _)⟩

/-! ## The statement -/

/-- The words that begin a statement, up to the name of the table. -/
def createWords : List Token :=
  words ["CREATE", "TABLE", "IF", "NOT", "EXISTS"]

theorem tableOptions_cases {b : Backend} (hb : b ≠ .sqlServer) (t : Table) :
    b.dialect.tableOptions t = "" ∨
      ∃ i : Int, b.dialect.tableOptions t = " AUTO_INCREMENT" ++ ("=" ++ toString i) := by
  cases b with
  | sqlServer => exact absurd rfl hb
  | sqlite => exact .inl rfl
  | mySql =>
    have hoptions : Backend.mySql.dialect.tableOptions t = Dialect.MySql.tableOptions t := rfl
    rw [hoptions, Dialect.MySql.tableOptions]
    split
    · rename_i a _
      split
      · exact .inl rfl
      · refine .inr ⟨a.seed.toInt, ?_⟩
        rw [← String.append_assoc]
        rfl
    · exact .inl rfl

/-- An integer is written as a number, perhaps behind a minus sign. -/
theorem toList_toString (i : Int) : ∃ n : Nat, (toString i).toList = (toString n).toList ∨
    (toString i).toList = '-' :: (toString n).toList := by
  rw [Int.toString_eq_repr, Int.repr_eq_if]
  split
  · exact ⟨i.toNat, .inl rfl⟩
  · exact ⟨(-i).toNat, .inr (by simp)⟩

theorem HasTokens.not_mem_number {i : Int} {us : List Token}
    (h : HasTokens (toString i).toList us) : Token.symbol ";" ∉ us := by
  have hnumber {n : Nat} {us : List Token} (h : HasTokens (toString n).toList us) :
      Token.symbol ";" ∉ us := by
    obtain ⟨us', rfl, hus'⟩ := Lexes.number n [] us stops_nil (by simpa using h)
    rw [eq_nil_of_hasTokens_nil hus']
    simp
  obtain ⟨n, hn | hn⟩ := toList_toString i
  · rw [hn] at h
    exact hnumber h
  · obtain ⟨c, cs, htext, hdigits⟩ := exists_digit n
    have hc := hdigits c List.mem_cons_self
    rw [hn, htext] at h
    obtain ⟨us', rfl, hus'⟩ := HasTokens.of_sign (.inl rfl) (.inr rfl) (beginsToken_of_isDigit hc)
      (ne_of_isDigit hc rfl) h
    rw [← htext] at hus'
    simpa using hnumber hus'

theorem token?_equals {cs : List Char} (h : cs.head? ≠ some '=') :
    token? ('=' :: cs) = some (.symbol "=", cs) := by
  have hlong : (longSymbols.find? fun s => s.toList.isPrefixOf ('=' :: cs)) = none := by
    cases cs with
    | nil => decide
    | cons c cs =>
      have hc : ¬ '=' = c := fun e => h (by rw [List.head?_cons, e])
      simp [longSymbols, hc]
  have hsymbol : readSymbol? ('=' :: cs) = some (.symbol "=", cs) := by
    simp only [readSymbol?, hlong]
    rfl
  exact hsymbol

/-- The options of a table end no statement. -/
theorem not_mem_options {b : Backend} (hb : b ≠ .sqlServer) {t : Table} {us : List Token}
    (h : HasTokens (b.dialect.tableOptions t).toList us) : Token.symbol ";" ∉ us := by
  rcases tableOptions_cases hb t with hoptions | ⟨i, hoptions⟩
  · rw [hoptions] at h
    rw [eq_nil_of_hasTokens_nil h]
    simp
  · rw [hoptions, String.toList_append] at h
    have hword : Follows (" " ++ "AUTO_INCREMENT") (words ["AUTO_INCREMENT"]) :=
      .of_solidTokens? 20 (by decide)
    have hvalue : ("=" ++ toString i).toList = '=' :: (toString i).toList := by simp
    have hstops : Stops ("=" ++ toString i).toList := by
      rw [hvalue]
      exact stops_cons rfl
    obtain ⟨us', rfl, hus'⟩ := hword.lexes _ us hstops h
    rw [hvalue] at hus'
    obtain ⟨t, r, us'', htoken, rfl, bound, hus''⟩ := HasTokens.cons (by decide) hus'
    have hhead : (beforeNull (toString i).toList).head? ≠ some '=' := by
      obtain ⟨n, hn⟩ := toList_toString i
      obtain ⟨c, cs, htext, hdigits⟩ := exists_digit n
      have hc := hdigits c List.mem_cons_self
      rcases hn with hn | hn
      · rw [hn, htext, beforeNull_cons (ne_of_isDigit hc rfl)]
        simpa using ne_of_isDigit hc rfl
      · rw [hn, beforeNull_cons (by decide)]
        simp
    simp only [token?_equals hhead, Option.some.injEq, Prod.mk.injEq] at htoken
    obtain ⟨rfl, rfl⟩ := htoken
    have hnumber := HasTokens.not_mem_number ⟨bound, hus''⟩
    simp [not_mem_words, hnumber]

theorem tokens_statement {b : Backend} (hb : b ≠ .sqlServer) {t : Table}
    {l : List (String × List Token)} (hl : ∀ p ∈ l, IsPart p.1 p.2) {us : List Token}
    (h : HasTokens (b.dialect.statement t (l.map (·.1))).toList us) :
    ∃ tail, us = createWords ++ .quoted b.dialect.openQuote t.name.toList :: .symbol "(" ::
        ([.symbol ","].intercalate (l.map (·.2)) ++ .symbol ")" :: tail)
      ∧ HasTokens (b.dialect.tableOptions t).toList tail := by
  have hcreate : b.dialect.createClause (b.dialect.quote t.name)
      = "CREATE TABLE IF NOT EXISTS" ++ (" " ++ b.dialect.quote t.name) := by
    rw [← String.append_assoc]
    cases b with
    | sqlServer => exact absurd rfl hb
    | mySql => rfl
    | sqlite => rfl
  have hwords : IsPart "CREATE TABLE IF NOT EXISTS" createWords :=
    ⟨by decide, .of_solidTokens? 20 (by decide)⟩
  have hparts := follows_parts hl
  have hopening : IsPart ("(" ++ ", ".intercalate (l.map (·.1)) ++ ")") _ :=
    ⟨by simp [beginsToken, continuesGap, isGap], hparts.lexes⟩
  have hhead := (hwords.append (isPart_quote b t.name).blank).append hopening.blank
  have htext : b.dialect.statement t (l.map (·.1))
      = "CREATE TABLE IF NOT EXISTS" ++ (" " ++ b.dialect.quote t.name)
        ++ (" " ++ ("(" ++ ", ".intercalate (l.map (·.1)) ++ ")")) ++ b.dialect.tableOptions t := by
    rw [Dialect.statement, hcreate, show (" (" : String) = " " ++ "(" from rfl]
    simp only [String.append_assoc]
  have hoptions : Stops (b.dialect.tableOptions t).toList := by
    rcases tableOptions_cases hb t with hoptions | ⟨i, hoptions⟩
    · rw [hoptions]
      exact stops_nil
    · rw [hoptions]
      simp [Stops, endsToken]
  rw [htext, String.toList_append] at h
  obtain ⟨tail, rfl, htail⟩ := hhead.lexes _ us hoptions h
  exact ⟨tail, by simp, htail⟩

/-- The tokens of a generated statement, given the tokens of the definitions of its columns and what is
known of them. -/
theorem tokens_generated {b : Backend} (hb : b ≠ .sqlServer) {t : Table} {text : String}
    {us : List Token} {P : Column → List Token → Prop}
    (hgenerated : (b.generator.generate t).result = .ok text)
    (hcolumns : ∀ c ∈ t.orderedColumns, ∀ s, b.dialect.spellColumn t c = .ok s → ∃ ts,
      IsPart (b.dialect.definition (t.primaryKey.length == 1) c s.text) ts ∧ P c ts)
    (h : tokens? text = some us) :
    ∃ (columns : List (Column × List Token)) (constraints : List (List Token)) (tail : List Token),
      columns.map (·.1) = t.orderedColumns ∧ (∀ p ∈ columns, P p.1 p.2)
      ∧ (∀ ts ∈ constraints, IsConstraint ts) ∧ (columns = [] → constraints = [])
      ∧ Token.symbol ";" ∉ tail
      ∧ us = createWords ++ .quoted b.dialect.openQuote t.name.toList :: .symbol "(" ::
        ([.symbol ","].intercalate (columns.map (·.2) ++ constraints) ++ .symbol ")" :: tail) := by
  obtain ⟨l, hl, rfl⟩ := Dialect.createTable_ok hgenerated
  have hdefinition : ∀ p ∈ l, ∃ ts,
      IsPart (b.dialect.definition (t.primaryKey.length == 1) p.1 p.2.text) ts ∧ P p.1 ts :=
    fun p hp => hcolumns p.1 (hl.columns ▸ List.mem_map_of_mem hp) p.2 (hl.spelled p hp)
  have hconstraint : ∀ text ∈ b.dialect.keyConstraints t.primaryKey
      ++ b.dialect.uniqueConstraints t.orderedColumns, ∃ ts, IsPart text ts ∧ IsConstraint ts :=
    fun text htext => exists_constraint htext
  choose! columnTokens hcolumn using hdefinition
  choose! constraintTokens hkind using hconstraint
  let texts := b.dialect.keyConstraints t.primaryKey ++ b.dialect.uniqueConstraints t.orderedColumns
  let pairs := (l.map fun p =>
      (b.dialect.definition (t.primaryKey.length == 1) p.1 p.2.text, columnTokens p))
    ++ texts.map fun text => (text, constraintTokens text)
  have hparts : pairs.map (·.1) = b.dialect.parts t l := by
    simp [pairs, texts, Dialect.parts, Function.comp_def]
  have hpairs : ∀ p ∈ pairs, IsPart p.1 p.2 := by
    intro p hp
    rcases List.mem_append.1 hp with hp | hp
    · obtain ⟨q, hq, rfl⟩ := List.mem_map.1 hp
      exact (hcolumn q hq).1
    · obtain ⟨text, htext, rfl⟩ := List.mem_map.1 hp
      exact (hkind text htext).1
  have htokens := hasTokens_of_tokens? h
  rw [← hparts] at htokens
  obtain ⟨tail, hus, htail⟩ := tokens_statement hb hpairs htokens
  refine ⟨l.map fun p => (p.1, columnTokens p), texts.map constraintTokens, tail, ?_, ?_, ?_, ?_,
    not_mem_options hb htail, ?_⟩
  · simpa [Function.comp_def] using hl.columns
  · intro p hp
    obtain ⟨q, hq, rfl⟩ := List.mem_map.1 hp
    exact (hcolumn q hq).2
  · intro ts hts
    obtain ⟨text, htext, rfl⟩ := List.mem_map.1 hts
    exact (hkind text htext).2
  · intro hnone
    have hempty : t.orderedColumns = [] := by
      rw [← hl.columns, List.map_eq_nil_iff.1 hnone, List.map_nil]
    simp [texts, Dialect.keyConstraints, Dialect.uniqueConstraints, Table.primaryKey, hempty]
  · simpa [pairs, Function.comp_def] using hus

end Schemata
