import Schemata.Proofs.Sqlite.Tokens
import Schemata.Sqlite.Keyword

/-!
# Literals

What is printed behind `DEFAULT` stands in the statement as it was given, so what SQLite makes of the
statement depends on it. `isLiteral` says when a text is an SQL literal: one number, perhaps with a sign
in front of it, one string, one blob, or one of the words that stand for a value. A literal is read as
these tokens wherever it stands behind a blank (`Lexes.literal`).
-/

namespace Schemata.Sqlite

namespace Token

/-- Whether a token is a number. -/
def isNumber : Token → Bool
  | integer _ => true
  | decimal => true
  | spaced => true
  | _ => false

/-- Whether a token is a value by itself. -/
def isValue : Token → Bool
  | string _ => true
  | blob => true
  | t => t.isNumber || t.isOneOf (["NULL", "TRUE", "FALSE"] ++ clockWords)

theorem isWhole_of_isNumber {t : Token} (h : t.isNumber = true) : t.isWhole = true := by
  cases t <;> first | rfl | cases h

theorem isWhole_of_isValue {t : Token} (h : t.isValue = true) : t.isWhole = true := by
  cases t with
  | parameter text => cases h
  | symbol s => cases h
  | _ => rfl

end Token

/-- Whether a text is one token of a kind. -/
def isOneToken (kind : Token → Bool) (cs : List Char) : Bool :=
  !cs.contains '\x00' && (token? cs).any fun r => kind r.1 && r.2.isEmpty

theorem isOneToken_iff {kind : Token → Bool} {cs : List Char} :
    isOneToken kind cs = true ↔ '\x00' ∉ cs ∧ ∃ t, token? cs = some (t, []) ∧ kind t = true := by
  cases h : token? cs with
  | none => simp [isOneToken, h]
  | some r =>
    obtain ⟨t, rest⟩ := r
    cases rest <;> simp [isOneToken, h]

/-- Whether a text is an SQL literal. -/
def isLiteral (text : String) : Bool :=
  isOneToken Token.isValue text.toList
    || (text.toList.head?.any fun c => c == '+' || c == '-')
      && isOneToken Token.isNumber (text.toList.drop 1)

example : (["-1", "0.5e3", "'it''s; (fine'", "x'00ff'", "NULL", "current_date"].all isLiteral) := by
  decide

example : (["", "1; DROP", "'", "1 2", "(1)", "a b", "--1"].any isLiteral) = false := by
  decide

/-! ## Literals as tokens -/

theorem exists_symbol_of_readSymbol? {cs r : List Char} {t : Token}
    (h : readSymbol? cs = some (t, r)) : ∃ s, t = .symbol s := by
  simp only [readSymbol?] at h
  split at h
  · cases h
    exact ⟨_, rfl⟩
  · split at h
    · split at h
      · cases h
        exact ⟨_, rfl⟩
      · cases h
    · cases h

/-- A value begins neither with a blank nor with a mark that is a symbol. -/
theorem begins_of_isValue {c : Char} {cs r : List Char} {t : Token} (hnull : c ≠ '\x00')
    (h : token? (c :: cs) = some (t, r)) (ht : t.isValue = true) :
    beginsToken c = true ∧ c ≠ '>' := by
  have hsymbol (d : Char) (hread : token? (d :: cs) = readSymbol? (d :: cs)) : c ≠ d := by
    rintro rfl
    rw [hread] at h
    obtain ⟨s, rfl⟩ := exists_symbol_of_readSymbol? h
    cases ht
  have hmark : c ≠ '\ufeff' := by
    rintro rfl
    have hword : token? ('\ufeff' :: cs)
        = some (.word ('\ufeff' :: cs.takeWhile isWordPart), cs.dropWhile isWordPart) := rfl
    simp only [hword, Option.some.injEq, Prod.mk.injEq] at h
    have hvalue : Token.isValue (.word ('\ufeff' :: cs.takeWhile isWordPart)) = false := rfl
    rw [← h.1, hvalue] at ht
    cases ht
  refine ⟨?_, hsymbol '>' rfl⟩
  simp [beginsToken, continuesGap, isGap, hnull, hmark, hsymbol ' ' rfl, hsymbol '\n' rfl,
    hsymbol '\t' rfl, hsymbol '\r' rfl, hsymbol '\x0c' rfl, hsymbol '\x0b' rfl, hsymbol '-' rfl,
    hsymbol '/' rfl]

theorem isValue_of_isNumber {t : Token} (h : t.isNumber = true) : t.isValue = true := by
  cases t <;> first | rfl | cases h

/-- A sign in front of a number is a token of its own, also behind a blank. -/
theorem HasTokens.of_sign {gap : List Char} (hgap : gap = [] ∨ gap = [' ']) {sign c : Char}
    {cs : List Char} {us : List Token} (hsign : sign = '+' ∨ sign = '-')
    (hc : beginsToken c = true) (harrow : c ≠ '>') (h : HasTokens (gap ++ sign :: c :: cs) us) :
    ∃ us', us = .symbol (String.singleton sign) :: us' ∧ HasTokens (c :: cs) us' := by
  obtain ⟨-, -, hdash, -, hnull⟩ := beginsToken_iff.1 hc
  have hsign' : sign ≠ '\x00' := by rcases hsign with rfl | rfl <;> decide
  have hgap' : '\x00' ∉ gap := by rcases hgap with rfl | rfl <;> decide
  obtain ⟨bound, h⟩ := h
  rw [beforeNull_append hgap', beforeNull_cons hsign', beforeNull_cons hnull] at h
  cases bound with
  | zero => cases h
  | succ bound =>
    have hskip (n : Nat) (ds : List Char) :
        skipFiller (n + 1) (gap ++ sign :: c :: ds) = sign :: c :: ds := by
      have hbehind : behindGap (gap ++ sign :: c :: ds) = sign :: c :: ds := by
        rcases hgap with rfl | rfl <;> rcases hsign with rfl | rfl <;> rfl
      simp only [skipFiller, hbehind]
      rcases hsign with rfl | rfl <;> simp [hdash]
    have hread (ds : List Char) : token? (sign :: c :: ds)
        = some (.symbol (String.singleton sign), c :: ds) := by
      rcases hsign with rfl | rfl
      · rfl
      · have hlong : (longSymbols.find? fun s => s.toList.isPrefixOf ('-' :: c :: ds)) = none := by
          have harrow' : ¬ '>' = c := fun h => harrow h.symm
          simp [longSymbols, harrow']
        have hsymbol : readSymbol? ('-' :: c :: ds) = some (.symbol "-", c :: ds) := by
          simp only [readSymbol?, hlong]
          rfl
        exact hsymbol
    simp only [tokensWithin, hskip, hread, Option.map_eq_some_iff] at h
    obtain ⟨us', hus, rfl⟩ := h
    exact ⟨us', rfl, bound, by rw [beforeNull_cons hnull, hus]⟩

/-- A literal is read as itself behind a blank, and ends no statement. -/
theorem Lexes.literal {text : String} (h : isLiteral text = true) :
    ∃ ts, Lexes (' ' :: text.toList) ts ∧ Token.symbol ";" ∉ ts := by
  simp only [isLiteral, Bool.or_eq_true, Bool.and_eq_true] at h
  rcases h with h | ⟨hsign, h⟩
  · obtain ⟨hnull, t, htoken, ht⟩ := isOneToken_iff.1 h
    cases hcs : text.toList with
    | nil =>
      rw [hcs] at htoken
      cases htoken
    | cons c cs =>
      rw [hcs] at htoken hnull
      simp only [List.mem_cons, not_or] at hnull
      have hbegins := (begins_of_isValue (Ne.symm hnull.1) htoken ht).1
      refine ⟨[t], .blank hbegins (.of_token? hbegins hnull.2 (Token.isWhole_of_isValue ht) htoken), ?_⟩
      rintro hmem
      obtain rfl := List.mem_singleton.1 hmem
      cases ht
  · obtain ⟨hnull, t, htoken, ht⟩ := isOneToken_iff.1 h
    cases hcs : text.toList with
    | nil =>
      rw [hcs] at hsign
      cases hsign
    | cons sign cs =>
      rw [hcs] at htoken hnull hsign
      simp only [List.drop_succ_cons, List.drop_zero] at htoken hnull
      have hsign' : sign = '+' ∨ sign = '-' := by simpa using hsign
      cases cs with
      | nil => cases htoken
      | cons c cs =>
        simp only [List.mem_cons, not_or] at hnull
        obtain ⟨hbegins, harrow⟩ :=
          begins_of_isValue (Ne.symm hnull.1) htoken (isValue_of_isNumber ht)
        have hnumber : Lexes (c :: cs) [t] :=
          .of_token? hbegins hnull.2 (Token.isWhole_of_isNumber ht) htoken
        refine ⟨[.symbol (String.singleton sign), t], fun rest us hrest hus => ?_, ?_⟩
        · obtain ⟨us', rfl, hus'⟩ := HasTokens.of_sign (.inr rfl) hsign' hbegins harrow hus
          obtain ⟨vs, rfl, hvs⟩ := hnumber rest us' hrest hus'
          exact ⟨vs, rfl, hvs⟩
        · simp only [List.mem_cons, List.not_mem_nil, or_false, not_or]
          constructor
          · rcases hsign' with rfl | rfl <;> decide
          · rintro rfl
            cases ht

end Schemata.Sqlite
