import Schemata.Proofs.Traversal
import Schemata.Sqlite.Token

/-!
# Lexing a text piece by piece

A statement is written from pieces, and its tokens are those of the pieces, one after another. `Lexes`
is the contract of a piece: if a text that begins with it has tokens at all, they begin with those of
the piece, and the others are the tokens of what follows. What follows has to begin with a character
that ends a token (`Stops`).

The contract is about texts that have tokens. So it holds of every quoted name (`Lexes.bracketed`,
`Lexes.backticked`): a name that SQLite cannot read back spoils the whole text. A piece that is a single
token by itself is that token in front of anything (`token?_append`, `Lexes.of_token?`), and a text
with nothing but single blanks between its tokens has the tokens that it has by itself
(`Lexes.of_solidTokens?`).
-/

namespace Schemata.Sqlite

/-- The text up to its first null character, where it ends. -/
def beforeNull (cs : List Char) : List Char :=
  cs.takeWhile (· != '\x00')

theorem beforeNull_cons {c : Char} {cs : List Char} (hc : c ≠ '\x00') :
    beforeNull (c :: cs) = c :: beforeNull cs := by
  simp [beforeNull, hc]

theorem beforeNull_append {cs rest : List Char} (h : '\x00' ∉ cs) :
    beforeNull (cs ++ rest) = cs ++ beforeNull rest := by
  refine List.takeWhile_append_of_pos fun c hc => ?_
  rw [bne_iff_ne]
  rintro rfl
  exact h hc

/-- The text has these tokens. -/
def HasTokens (cs : List Char) (ts : List Token) : Prop :=
  ∃ bound, tokensWithin bound (beforeNull cs) = some ts

theorem hasTokens_of_tokens? {text : String} {ts : List Token} (h : tokens? text = some ts) :
    HasTokens text.toList ts :=
  ⟨_, h⟩

/-! ## Where tokens end -/

/-- Whether a character ends the token before it, whatever the token is. -/
def endsToken (c : Char) : Bool :=
  c == ' ' || c == '(' || c == ')' || c == ',' || c == '='

/-- A text that does not go on with the token before it. -/
def Stops (rest : List Char) : Prop :=
  ∀ c ∈ rest.head?, endsToken c = true

theorem stops_nil : Stops [] := by
  simp [Stops]

theorem stops_cons {c : Char} {rest : List Char} (h : endsToken c = true) : Stops (c :: rest) := by
  simp [Stops, h]

theorem Stops.beforeNull {rest : List Char} (h : Stops rest) : Stops (beforeNull rest) := by
  cases rest with
  | nil => exact stops_nil
  | cons c rest =>
    simp only [Sqlite.beforeNull, List.takeWhile_cons]
    split
    · exact stops_cons (h c rfl)
    · exact stops_nil

theorem Stops.append {cs rest : List Char} (hc : Stops cs) (h : Stops rest) : Stops (cs ++ rest) := by
  cases cs with
  | nil => exact h
  | cons c cs => exact stops_cons (hc c rfl)

/-- No token goes on with a character that ends tokens. -/
theorem Stops.head {rest : List Char} (h : Stops rest) {p : Char → Bool}
    (hp : ∀ c, endsToken c = true → p c = false) : ∀ c ∈ rest.head?, p c = false :=
  fun c hc => hp c (h c hc)

theorem endsToken_cases {c : Char} (h : endsToken c = true) :
    c = ' ' ∨ c = '(' ∨ c = ')' ∨ c = ',' ∨ c = '=' := by
  simpa [endsToken, or_assoc] using h

theorem isDigit_of_endsToken (c : Char) (h : endsToken c = true) : c.isDigit = false := by
  rcases endsToken_cases h with rfl | rfl | rfl | rfl | rfl <;> rfl

theorem isWordPart_of_endsToken (c : Char) (h : endsToken c = true) : isWordPart c = false := by
  rcases endsToken_cases h with rfl | rfl | rfl | rfl | rfl <;> decide

theorem digitValue?_of_endsToken (base : Nat) (c : Char) (h : endsToken c = true) :
    Text.digitValue? base c = none := by
  rcases endsToken_cases h with rfl | rfl | rfl | rfl | rfl <;> simp [Text.digitValue?]

/-- What the next character is does not depend on what follows, if it is not one that ends tokens. -/
theorem Stops.any_head?_append {cs rest : List Char} (h : Stops rest) {p : Char → Bool}
    (hp : ∀ c, endsToken c = true → p c = false) : (cs ++ rest).head?.any p = cs.head?.any p := by
  cases cs with
  | nil =>
    cases rest with
    | nil => rfl
    | cons c rest => simp [hp c (h c rfl)]
  | cons c cs => rfl

theorem Stops.head?_append_eq {cs rest : List Char} (h : Stops rest) {d : Char}
    (hd : endsToken d = false) : (cs ++ rest).head? = some d ↔ cs.head? = some d := by
  cases cs with
  | nil =>
    cases rest with
    | nil => simp
    | cons c rest =>
      have hc : c ≠ d := by
        rintro rfl
        rw [h c rfl] at hd
        cases hd
      simp [hc]
  | cons c cs => simp

/-! ## Numbers in front of what follows -/

theorem readDigits_append (base : Nat) {cs rest : List Char} (h : Stops rest) :
    readDigits base (cs ++ rest) = ((readDigits base cs).1, (readDigits base cs).2 ++ rest) := by
  have hpart : ∀ c ∈ rest.head?, (c == '_' || (Text.digitValue? base c).isSome) = false := by
    refine h.head fun c hc => ?_
    rw [digitValue?_of_endsToken base c hc]
    rcases endsToken_cases hc with rfl | rfl | rfl | rfl | rfl <;> rfl
  simp only [readDigits, Traversal.takeWhile_append_stop hpart, Traversal.dropWhile_append_stop hpart]

theorem readExponent?_append {cs rest : List Char} (h : Stops rest) :
    readExponent? (cs ++ rest) = (readExponent? cs).map fun r => (r.1, r.2 ++ rest) := by
  match cs with
  | [] =>
    match rest, h with
    | [], _ => rfl
    | [_], _ => rfl
    | c :: d :: rest, h =>
      rcases endsToken_cases (h c rfl) with rfl | rfl | rfl | rfl | rfl <;> rfl
  | [e] =>
    match rest, h with
    | [], _ => rfl
    | c :: rest, h =>
      have hdigit := isDigit_of_endsToken c (h c rfl)
      have hsign : c ≠ '+' ∧ c ≠ '-' := by
        rcases endsToken_cases (h c rfl) with rfl | rfl | rfl | rfl | rfl <;> decide
      simp [readExponent?, hdigit, hsign]
  | e :: sign :: cs =>
    have hhead : (cs ++ rest).head?.any Char.isDigit = _ :=
      h.any_head?_append isDigit_of_endsToken
    have hdigits : readDigits 10 (sign :: cs ++ rest) = _ := readDigits_append 10 h
    simp only [List.cons_append] at hdigits
    simp only [List.cons_append, readExponent?, hhead, hdigits, readDigits_append 10 h]
    split
    · rfl
    · split
      · rfl
      · split <;> rfl

theorem readDecimal_append {cs rest : List Char} (h : Stops rest) :
    readDecimal (cs ++ rest) = ((readDecimal cs).1, (readDecimal cs).2 ++ rest) := by
  have hexponent (ds : List Char) : readExponent? (ds ++ rest) = _ := readExponent?_append h
  simp only [readDecimal, readDigits_append 10 h]
  cases hrest : (readDigits 10 cs).2 with
  | nil =>
    have hdot : ∀ behind, [] ++ rest ≠ '.' :: behind := by
      rintro behind rfl
      have := h '.' rfl
      revert this
      decide
    split
    · rename_i behind hbehind
      exact absurd hbehind (hdot behind)
    · simp only [hexponent]
      cases readExponent? [] <;> rfl
  | cons c ds =>
    by_cases hc : c = '.'
    · subst hc
      simp only [List.cons_append, readDigits_append 10 h, hexponent]
      cases readExponent? (readDigits 10 ds).2 <;> rfl
    · have hbehind := hexponent (c :: ds)
      rw [List.cons_append] at hbehind
      simp only [List.cons_append]
      cases hread : readExponent? (c :: ds) <;> simp [hc, hbehind, hread]

/-- The digits of a number in hexadecimal notation and what follows them. -/
def behindHexMark? : List Char → Option (List Char)
  | z :: x :: d :: behind =>
    if z = '0' ∧ (x = 'x' ∨ x = 'X') ∧ (Text.digitValue? 16 d).isSome then some (d :: behind)
    else none
  | _ => none

/-- The number at the front of a text, and what follows it. -/
def readWritten (cs : List Char) : Option Token × List Char :=
  match behindHexMark? cs with
  | some ds =>
    (numberToken false ('0' :: 'x' :: (readDigits 16 ds).1) [(readDigits 16 ds).1],
      (readDigits 16 ds).2)
  | none => readDecimal cs

theorem behindHexMark?_of_ne {cs : List Char} (h : ∀ x d behind, cs ≠ '0' :: x :: d :: behind) :
    behindHexMark? cs = none := by
  unfold behindHexMark?
  split
  · rename_i z x d behind
    rw [if_neg]
    rintro ⟨rfl, -⟩
    exact h x d behind rfl
  · rfl

/-- A number that was read, refused when a name follows it directly. -/
def withoutName (r : Option Token × List Char) : Option (Token × List Char) :=
  if r.2.head?.any isWordPart then none else r.1.map (·, r.2)

theorem readNumber_eq (cs : List Char) : readNumber cs = withoutName (readWritten cs) := by
  refine congrArg withoutName (?_ : _ = readWritten cs)
  split
  · simp only [readWritten, behindHexMark?, true_and]
    split <;> rfl
  · rename_i hcs
    simp only [readWritten, behindHexMark?_of_ne hcs]

theorem behindHexMark?_append {cs rest : List Char} (h : Stops rest) :
    behindHexMark? (cs ++ rest) = (behindHexMark? cs).map (· ++ rest) := by
  match cs, rest, h with
  | [], [], _ => rfl
  | [], [_], _ => rfl
  | [], [_, _], _ => rfl
  | [], c :: _ :: _ :: _, h =>
    have hc : c ≠ '0' := by
      rcases endsToken_cases (h c rfl) with rfl | rfl | rfl | rfl | rfl <;> decide
    simp [behindHexMark?, hc]
  | [_], [], _ => rfl
  | [_], [_], _ => rfl
  | [_], c :: _ :: _, h =>
    have hc : c ≠ 'x' ∧ c ≠ 'X' := by
      rcases endsToken_cases (h c rfl) with rfl | rfl | rfl | rfl | rfl <;> decide
    simp [behindHexMark?, hc]
  | [_, _], [], _ => rfl
  | [_, _], c :: _, h => simp [behindHexMark?, digitValue?_of_endsToken 16 c (h c rfl)]
  | z :: x :: d :: behind, rest, _ =>
    simp only [List.cons_append, behindHexMark?]
    split <;> rfl

theorem readWritten_append {cs rest : List Char} (h : Stops rest) :
    readWritten (cs ++ rest) = ((readWritten cs).1, (readWritten cs).2 ++ rest) := by
  simp only [readWritten, behindHexMark?_append h]
  cases behindHexMark? cs with
  | none => exact readDecimal_append h
  | some ds => simp only [Option.map_some, readDigits_append 16 h]

theorem readNumber_append {cs rest r : List Char} {t : Token} (h : Stops rest)
    (hread : readNumber cs = some (t, r)) : readNumber (cs ++ rest) = some (t, r ++ rest) := by
  rw [readNumber_eq, withoutName] at hread
  simp only [readNumber_eq, withoutName, readWritten_append h,
    h.any_head?_append isWordPart_of_endsToken]
  split at hread
  · cases hread
  · rename_i hword
    simp only [Option.map_eq_some_iff, Prod.mk.injEq] at hread
    obtain ⟨_, ht, rfl, rfl⟩ := hread
    simp [hword, ht]

/-! ## Tokens in front of what follows -/

theorem readBracketed_append {cs rest text r : List Char}
    (hread : readBracketed cs = some (text, r)) :
    readBracketed (cs ++ rest) = some (text, r ++ rest) := by
  induction cs generalizing text with
  | nil => cases hread
  | cons c cs ih =>
    simp only [readBracketed] at hread
    simp only [List.cons_append, readBracketed]
    split at hread
    · rename_i hc
      cases hread
      rw [if_pos hc]
    · rename_i hc
      simp only [Option.map_eq_some_iff, Prod.mk.injEq, Prod.exists] at hread
      obtain ⟨name, _, hname, rfl, rfl⟩ := hread
      simp [hc, ih hname]

theorem scan_append_stop {close : Char} {cs rest text r : List Char} (h : Stops rest)
    (hclose : endsToken close = false) (hread : Text.Quoted.scan close cs = some (text, r)) :
    Text.Quoted.scan close (cs ++ rest) = some (text, r ++ rest) := by
  fun_induction Text.Quoted.scan close cs generalizing text with
  | case1 => cases hread
  | case2 =>
    cases hread
    refine Text.Quoted.scan_close fun hhead => ?_
    have := h close hhead
    rw [hclose] at this
    cases this
  | case3 => cases hread
  | case4 cs ih =>
    simp only [Option.map_eq_some_iff, Prod.mk.injEq, Prod.exists] at hread
    obtain ⟨name, _, hname, rfl, rfl⟩ := hread
    simp [Text.Quoted.scan, ih hname]
  | case5 d cs hd =>
    cases hread
    simp [Text.Quoted.scan, hd]
  | case6 c d cs hc ih =>
    simp only [Option.map_eq_some_iff, Prod.mk.injEq, Prod.exists] at hread
    obtain ⟨name, _, hname, rfl, rfl⟩ := hread
    have := ih hname
    simp only [List.cons_append] at this
    simp [Text.Quoted.scan, hc, this]

theorem readBlob_append {cs rest r : List Char} {t : Token} (h : Stops rest)
    (hread : readBlob cs = some (t, r)) : readBlob (cs ++ rest) = some (t, r ++ rest) := by
  have hdigit : ∀ c ∈ rest.head?, (Text.digitValue? 16 c).isSome = false :=
    h.head fun c hc => by rw [digitValue?_of_endsToken 16 c hc]; rfl
  simp only [readBlob] at hread
  simp only [readBlob, Traversal.takeWhile_append_stop hdigit, Traversal.dropWhile_append_stop hdigit]
  split at hread
  · rename_i behind hbehind
    split at hread
    · rename_i heven
      cases hread
      simp [hbehind, heven]
    · cases hread
  · cases hread

/-- Whether a token is told from what follows by its own text. A parameter may go on with a
parenthesis, and two symbols may be one. -/
def Token.isWhole : Token → Bool
  | parameter _ => false
  | symbol s => s == "(" || s == ")" || s == ","
  | _ => true

/-- No long symbol begins with a symbol that stands alone. -/
theorem find?_longSymbols {c : Char} (hc : c = '(' ∨ c = ')' ∨ c = ',') (cs : List Char) :
    (longSymbols.find? fun s => s.toList.isPrefixOf (c :: cs)) = none := by
  rcases hc with rfl | rfl | rfl
  · rfl
  · rfl
  · rfl

theorem readSymbol?_append {cs rest r : List Char} {t : Token}
    (ht : t.isWhole = true) (hread : readSymbol? cs = some (t, r)) :
    readSymbol? (cs ++ rest) = some (t, r ++ rest) := by
  have hlong : ∀ s ∈ longSymbols, (Token.symbol s).isWhole = false := by decide
  have hshort : (shortSymbols.all fun c => !(Token.symbol (String.singleton c)).isWhole
      || c == '(' || c == ')' || c == ',') = true := by decide
  simp only [readSymbol?] at hread
  split at hread
  · rename_i s hs
    cases hread
    rw [hlong s (List.mem_of_find?_eq_some hs)] at ht
    cases ht
  · split at hread
    · rename_i c cs _
      split at hread
      · rename_i hmem
        cases hread
        have hc := List.all_eq_true.1 hshort c (List.contains_iff_mem.1 hmem)
        simp only [ht, Bool.not_true, Bool.false_or, Bool.or_eq_true, beq_iff_eq, or_assoc] at hc
        simp only [readSymbol?, List.cons_append, find?_longSymbols hc, hmem, if_true]
      · cases hread
    · cases hread

/-- What holds branch by branch of two readings with the same condition holds of them. -/
theorem ite_transfer {α β : Type} {c : Prop} [Decidable c] {a b : Option α} {a' b' : Option β} {x : α}
    {y : β} (hthen : c → a = some x → a' = some y) (helse : ¬c → b = some x → b' = some y) :
    (if c then a else b) = some x → (if c then a' else b') = some y := by
  by_cases hc : c
  · simpa only [if_pos hc] using hthen hc
  · simpa only [if_neg hc] using helse hc

/-- A token is the same in front of anything that does not go on with a token. -/
theorem token?_append {cs rest r : List Char} {t : Token} (h : Stops rest)
    (ht : t.isWhole = true) (hread : token? cs = some (t, r)) :
    token? (cs ++ rest) = some (t, r ++ rest) := by
  cases cs with
  | nil => cases hread
  | cons c cs =>
    have hdigit : (cs ++ rest).head?.any Char.isDigit = _ :=
      h.any_head?_append isDigit_of_endsToken
    have hmark : (cs ++ rest).head? = some '\'' ↔ cs.head? = some '\'' :=
      h.head?_append_eq (by decide)
    have hword : ∀ c ∈ rest.head?, isWordPart c = false := h.head isWordPart_of_endsToken
    have hscanned (make : List Char → Token) (hclose : endsToken c = false)
        (hread : ((Text.Quoted.scan c cs).map fun p => (make p.1, p.2)) = some (t, r)) :
        ((Text.Quoted.scan c (cs ++ rest)).map fun p => (make p.1, p.2))
          = some (t, r ++ rest) := by
      simp only [Option.map_eq_some_iff, Prod.mk.injEq, Prod.exists] at hread
      obtain ⟨text, _, hname, rfl, rfl⟩ := hread
      rw [scan_append_stop h hclose hname]
      rfl
    revert hread
    simp only [List.cons_append, token?, hdigit, hmark]
    refine ite_transfer (fun _ hread => ?bracketed) fun _ =>
      ite_transfer (fun hc => hscanned (.quoted c) ?mark) fun _ =>
      ite_transfer (fun hc => hscanned .string ?apostrophe) fun _ =>
      ite_transfer (fun hc hread => ?blob) fun _ =>
      ite_transfer (fun _ => readNumber_append h) fun _ =>
      ite_transfer (fun _ hread => ?numbered) fun _ =>
      ite_transfer (fun _ hread => ?named) fun _ =>
      ite_transfer (fun _ hread => ?word) fun _ => readSymbol?_append ht
    case bracketed =>
      simp only [Option.map_eq_some_iff, Prod.mk.injEq, Prod.exists] at hread
      obtain ⟨text, _, hname, rfl, rfl⟩ := hread
      simp [readBracketed_append hname]
    case mark =>
      rcases hc with rfl | rfl
      · decide
      · decide
    case apostrophe =>
      subst hc
      decide
    case blob =>
      cases cs with
      | nil => cases hc.2
      | cons d cs => exact readBlob_append h hread
    case numbered =>
      cases hread
      cases ht
    case named =>
      simp only [Option.map_eq_some_iff, Prod.mk.injEq, Prod.exists] at hread
      obtain ⟨text, _, hname, rfl, rfl⟩ := hread
      cases ht
    case word =>
      cases hread
      rw [Traversal.takeWhile_append_stop hword, Traversal.dropWhile_append_stop hword]

/-! ## The contract of a piece -/

/-- A text that begins with the piece begins with these tokens, if it has tokens. -/
def Lexes (piece : List Char) (ts : List Token) : Prop :=
  ∀ rest us, Stops rest → HasTokens (piece ++ rest) us →
    ∃ us', us = ts ++ us' ∧ HasTokens rest us'

/-- Whether a token may begin with a character: it is no blank and begins no comment. -/
def beginsToken (c : Char) : Bool :=
  !continuesGap c && c != '-' && c != '/' && c != '\x00'

theorem beginsToken_iff {c : Char} : beginsToken c = true ↔
    isGap c = false ∧ continuesGap c = false ∧ c ≠ '-' ∧ c ≠ '/' ∧ c ≠ '\x00' := by
  simp only [beginsToken, continuesGap, Bool.and_eq_true, Bool.not_eq_true', bne_iff_ne,
    Bool.or_eq_false_iff]
  constructor
  · rintro ⟨⟨⟨⟨hgap, htab⟩, hdash⟩, hslash⟩, hnull⟩
    exact ⟨hgap, ⟨hgap, htab⟩, hdash, hslash, hnull⟩
  · rintro ⟨-, ⟨hgap, htab⟩, hdash, hslash, hnull⟩
    exact ⟨⟨⟨⟨hgap, htab⟩, hdash⟩, hslash⟩, hnull⟩

theorem skipFiller_of_begins {c : Char} (hc : beginsToken c = true) (n : Nat) (cs : List Char) :
    skipFiller (n + 1) (c :: cs) = c :: cs := by
  obtain ⟨hgap, -, hdash, hslash, -⟩ := beginsToken_iff.1 hc
  simp [skipFiller, behindGap, hgap, hdash, hslash]

theorem skipFiller_blank {c : Char} (hc : beginsToken c = true) (n : Nat) (cs : List Char) :
    skipFiller (n + 1) (' ' :: c :: cs) = c :: cs := by
  obtain ⟨-, hgap, hdash, hslash, -⟩ := beginsToken_iff.1 hc
  have hbehind : behindGap (' ' :: c :: cs) = c :: cs := by
    simp [behindGap, show isGap ' ' = true from rfl, show continuesGap ' ' = true from rfl, hgap]
  simp [skipFiller, hbehind, hdash, hslash]

/-- A text that begins with a token. -/
theorem HasTokens.cons {c : Char} {cs : List Char} {us : List Token} (hc : beginsToken c = true)
    (h : HasTokens (c :: cs) us) :
    ∃ t r us', token? (c :: beforeNull cs) = some (t, r) ∧ us = t :: us' ∧
      ∃ bound, tokensWithin bound r = some us' := by
  obtain ⟨bound, h⟩ := h
  rw [beforeNull_cons (beginsToken_iff.1 hc).2.2.2.2] at h
  cases bound with
  | zero => cases h
  | succ bound =>
    simp only [tokensWithin, skipFiller_of_begins hc] at h
    cases hread : token? (c :: beforeNull cs) with
    | none => simp [hread] at h
    | some p =>
      simp only [hread, Option.map_eq_some_iff] at h
      obtain ⟨us', hus, rfl⟩ := h
      exact ⟨p.1, p.2, us', rfl, rfl, bound, hus⟩

/-- A blank in front of a token does not matter. -/
theorem HasTokens.of_blank {c : Char} {cs : List Char} {us : List Token} (hc : beginsToken c = true)
    (h : HasTokens (' ' :: c :: cs) us) : HasTokens (c :: cs) us := by
  obtain ⟨bound, h⟩ := h
  have hnull := (beginsToken_iff.1 hc).2.2.2.2
  rw [beforeNull_cons (by decide), beforeNull_cons hnull] at h
  refine ⟨bound, ?_⟩
  rw [beforeNull_cons hnull]
  cases bound with
  | zero => cases h
  | succ bound =>
    rw [← h]
    simp only [tokensWithin, skipFiller_blank hc, skipFiller_of_begins hc]

theorem eq_nil_of_hasTokens_nil {us : List Token} (h : HasTokens [] us) : us = [] := by
  obtain ⟨bound, h⟩ := h
  cases bound with
  | zero => cases h
  | succ bound =>
    have hnil : tokensWithin (bound + 1) (beforeNull []) = some [] := rfl
    rw [hnil] at h
    exact (Option.some.inj h).symm

namespace Lexes

theorem nil : Lexes [] [] :=
  fun _ us _ h => ⟨us, rfl, h⟩

theorem append {a b : List Char} {ts us : List Token} (ha : Lexes a ts) (hb : Lexes b us)
    (hstops : Stops b) : Lexes (a ++ b) (ts ++ us) := by
  intro rest vs hrest h
  rw [List.append_assoc] at h
  obtain ⟨vs, rfl, hvs⟩ := ha (b ++ rest) vs (hstops.append hrest) h
  obtain ⟨ws, rfl, hws⟩ := hb rest vs hrest hvs
  exact ⟨ws, by rw [List.append_assoc], hws⟩

theorem blank {c : Char} {cs : List Char} {ts : List Token} (hc : beginsToken c = true)
    (h : Lexes (c :: cs) ts) : Lexes (' ' :: c :: cs) ts :=
  fun rest us hrest hus => h rest us hrest (HasTokens.of_blank hc hus)

theorem cons {c : Char} {cs r : List Char} {t : Token} {ts : List Token}
    (hc : beginsToken c = true) (hnull : '\x00' ∉ cs)
    (hread : ∀ rest, Stops rest → token? (c :: (cs ++ rest)) = some (t, r ++ rest))
    (hr : '\x00' ∉ r) (h : Lexes r ts) : Lexes (c :: cs) (t :: ts) := by
  intro rest us hrest hus
  obtain ⟨t', r', us', htoken, rfl, bound, hus'⟩ := HasTokens.cons hc hus
  have hcut : beforeNull (cs ++ rest) = cs ++ beforeNull rest := beforeNull_append hnull
  have hwhole := hread _ hrest.beforeNull
  simp only [List.append_eq, hcut, hwhole, Option.some.injEq, Prod.mk.injEq] at htoken
  obtain ⟨rfl, rfl⟩ := htoken
  obtain ⟨vs, rfl, hvs⟩ := h rest us' hrest ⟨bound, by rw [beforeNull_append hr, hus']⟩
  exact ⟨vs, rfl, hvs⟩

theorem of_token? {c : Char} {cs : List Char} {t : Token} (hc : beginsToken c = true)
    (hnull : '\x00' ∉ cs) (ht : t.isWhole = true) (hread : token? (c :: cs) = some (t, [])) :
    Lexes (c :: cs) [t] :=
  cons hc hnull (fun _ hrest => token?_append hrest ht hread) (by simp) nil

/-- Parentheses and commas are tokens in front of anything. -/
theorem symbol {c : Char} {cs : List Char} {ts : List Token} (hc : c = '(' ∨ c = ')' ∨ c = ',')
    (h : Lexes cs ts) : Lexes (c :: cs) (.symbol (String.singleton c) :: ts) := by
  intro rest us hrest hus
  have hbegins : beginsToken c = true := by rcases hc with rfl | rfl | rfl <;> decide
  obtain ⟨t, r, us', htoken, rfl, bound, hus'⟩ := HasTokens.cons hbegins hus
  have hread (ds : List Char) : token? (c :: ds) = some (.symbol (String.singleton c), ds) := by
    have hsymbol : readSymbol? (c :: ds) = some (.symbol (String.singleton c), ds) := by
      simp only [readSymbol?, find?_longSymbols hc]
      rcases hc with rfl | rfl | rfl <;> rfl
    rcases hc with rfl | rfl | rfl <;> simpa [token?, isWordPart] using hsymbol
  simp only [hread, Option.some.injEq, Prod.mk.injEq] at htoken
  obtain ⟨rfl, rfl⟩ := htoken
  obtain ⟨vs, rfl, hvs⟩ := h rest us' hrest ⟨bound, hus'⟩
  exact ⟨vs, rfl, hvs⟩

end Lexes

/-! ## Names -/

theorem readBracketed_double {name rest text r : List Char}
    (hread : readBracketed (beforeNull (Text.Quoted.double ']' name ++ ']' :: rest))
      = some (text, r)) :
    (text = name ∧ r = beforeNull rest) ∨ ∃ r', r = ']' :: r' := by
  induction name generalizing text with
  | nil =>
    rw [Text.Quoted.double, List.nil_append, beforeNull_cons (by decide)] at hread
    simp only [readBracketed, if_true, Option.some.injEq, Prod.mk.injEq] at hread
    exact .inl ⟨hread.1.symm, hread.2.symm⟩
  | cons c cs ih =>
    by_cases hc : c = ']'
    · subst hc
      simp only [Text.Quoted.double, if_true, List.cons_append] at hread
      rw [beforeNull_cons (by decide), beforeNull_cons (by decide)] at hread
      simp only [readBracketed, if_true, Option.some.injEq, Prod.mk.injEq] at hread
      exact .inr ⟨_, hread.2.symm⟩
    · simp only [Text.Quoted.double, if_neg hc, List.cons_append] at hread
      by_cases hnull : c = '\x00'
      · subst hnull
        simp [beforeNull, readBracketed] at hread
      · rw [beforeNull_cons hnull] at hread
        simp only [readBracketed, if_neg hc, Option.map_eq_some_iff, Prod.mk.injEq,
          Prod.exists] at hread
        obtain ⟨text', r', hread, rfl, rfl⟩ := hread
        rcases ih hread with ⟨rfl, rfl⟩ | hr
        · exact .inl ⟨rfl, rfl⟩
        · exact .inr hr

theorem tokensWithin_bracket (bound : Nat) (cs : List Char) :
    tokensWithin bound (']' :: cs) = none := by
  cases bound with
  | zero => rfl
  | succ bound =>
    have hread : token? (']' :: cs) = none := rfl
    simp only [tokensWithin, skipFiller_of_begins (show beginsToken ']' = true by decide), hread]

theorem Lexes.bracketed (name : String) :
    Lexes (Text.Quoted.quote '[' ']' name).toList [.quoted '[' name.toList] := by
  intro rest us hrest hus
  simp only [Text.Quoted.toList_quote, Text.Quoted.enclose, List.cons_append, List.append_assoc,
    List.nil_append] at hus
  obtain ⟨t, r, us', htoken, rfl, bound, hus'⟩ := HasTokens.cons (by decide) hus
  simp only [token?, if_true, Option.map_eq_some_iff, Prod.mk.injEq, Prod.exists] at htoken
  obtain ⟨text, r, hread, rfl, rfl⟩ := htoken
  rcases readBracketed_double hread with ⟨rfl, rfl⟩ | ⟨r', rfl⟩
  · exact ⟨us', rfl, bound, hus'⟩
  · rw [tokensWithin_bracket] at hus'
    cases hus'

theorem scan_double {close : Char} {name rest text r : List Char} (hclose : close ≠ '\x00')
    (hrest : rest.head? ≠ some close)
    (hread : Text.Quoted.scan close (beforeNull (Text.Quoted.double close name ++ close :: rest))
      = some (text, r)) :
    text = name ∧ r = beforeNull rest := by
  induction name generalizing text with
  | nil =>
    rw [Text.Quoted.double, List.nil_append, beforeNull_cons hclose, Text.Quoted.scan_close] at hread
    · simp only [Option.some.injEq, Prod.mk.injEq] at hread
      exact ⟨hread.1.symm, hread.2.symm⟩
    · cases rest with
      | nil => simp [beforeNull]
      | cons d ds =>
        simp only [beforeNull, List.takeWhile_cons]
        split
        · exact hrest
        · simp
  | cons c cs ih =>
    by_cases hc : c = close
    · subst hc
      simp only [Text.Quoted.double, if_true, List.cons_append] at hread
      rw [beforeNull_cons hclose, beforeNull_cons hclose] at hread
      simp only [Text.Quoted.scan, if_true, Option.map_eq_some_iff, Prod.mk.injEq,
        Prod.exists] at hread
      obtain ⟨text', r', hread, rfl, rfl⟩ := hread
      obtain ⟨rfl, rfl⟩ := ih hread
      exact ⟨rfl, rfl⟩
    · simp only [Text.Quoted.double, if_neg hc, List.cons_append] at hread
      by_cases hnull : c = '\x00'
      · subst hnull
        simp [beforeNull, Text.Quoted.scan] at hread
      · rw [beforeNull_cons hnull, Text.Quoted.scan_cons hc] at hread
        simp only [Option.map_eq_some_iff, Prod.mk.injEq, Prod.exists] at hread
        obtain ⟨text', r', hread, rfl, rfl⟩ := hread
        obtain ⟨rfl, rfl⟩ := ih hread
        exact ⟨rfl, rfl⟩

theorem Lexes.backticked (name : String) :
    Lexes (Text.Quoted.quote '\x60' '\x60' name).toList [.quoted '\x60' name.toList] := by
  intro rest us hrest hus
  simp only [Text.Quoted.toList_quote, Text.Quoted.enclose, List.cons_append, List.append_assoc,
    List.nil_append] at hus
  obtain ⟨t, r, us', htoken, rfl, bound, hus'⟩ := HasTokens.cons (by decide) hus
  have hopen : ('\x60' : Char) ≠ '[' := by decide
  simp only [token?, if_neg hopen, true_or, if_true, Option.map_eq_some_iff, Prod.mk.injEq,
    Prod.exists] at htoken
  obtain ⟨text, r, hread, rfl, rfl⟩ := htoken
  have hhead : rest.head? ≠ some '\x60' := by
    intro hhead
    have := hrest _ hhead
    revert this
    decide
  obtain ⟨rfl, rfl⟩ := scan_double (by decide) hhead hread
  exact ⟨us', rfl, bound, hus'⟩

/-! ## Whole numbers -/

theorem isSome_digitValue? {c : Char} (h : c.isDigit = true) :
    (Text.digitValue? 10 c).isSome = true := by
  have hrange : 48 ≤ c.toNat ∧ c.toNat ≤ 57 := by
    simpa [Char.isDigit, UInt32.le_iff_toNat_le] using h
  have hvalue : c.toNat - 48 < 10 := by omega
  simp [Text.digitValue?, hrange, hvalue]

theorem ne_of_isDigit {c d : Char} (h : c.isDigit = true) (hd : d.isDigit = false) : c ≠ d := by
  rintro rfl
  rw [hd] at h
  cases h

theorem token?_digits {c : Char} {cs : List Char} (h : ∀ d ∈ c :: cs, d.isDigit = true) :
    token? (c :: cs) = some (.integer (c :: cs), []) := by
  have hpart : ∀ d ∈ c :: cs, (d == '_' || (Text.digitValue? 10 d).isSome) = true :=
    fun d hd => by simp [isSome_digitValue? (h d hd)]
  have hread : readDigits 10 (c :: cs) = (c :: cs, []) := by
    simp only [readDigits, List.takeWhile_eq_self_iff.2 hpart, List.dropWhile_eq_nil_iff.2 hpart]
  have hhex : behindHexMark? (c :: cs) = none := by
    match cs, h with
    | [], _ => rfl
    | [_], _ => rfl
    | x :: d :: behind, h =>
      have hx := h x (by simp)
      simp [behindHexMark?, ne_of_isDigit hx (show 'x'.isDigit = false from rfl),
        ne_of_isDigit hx (show 'X'.isDigit = false from rfl)]
  have hunderscore : '_' ∉ c :: cs := fun hmem => absurd (h '_' hmem) (by decide)
  have hdecimal : readDecimal (c :: cs) = (some (.integer (c :: cs)), []) := by
    simp only [readDecimal, hread, readExponent?]
    simpa [numberToken] using hunderscore
  have hnumber : readNumber (c :: cs) = some (.integer (c :: cs), []) := by
    simp [readNumber_eq, withoutName, readWritten, hhex, hdecimal]
  have hc := h c List.mem_cons_self
  have hne (d : Char) (hd : d.isDigit = false) : c ≠ d := ne_of_isDigit hc hd
  simp [token?, hc, hnumber, hne '[' rfl, hne '\x60' rfl, hne '"' rfl, hne '\'' rfl, hne 'x' rfl,
    hne 'X' rfl]

theorem exists_digit (n : Nat) :
    ∃ c cs, (toString n).toList = c :: cs ∧ ∀ d ∈ c :: cs, d.isDigit = true := by
  have htext : (toString n).toList = Nat.toDigits 10 n := by simp [Nat.toList_repr]
  cases hlist : Nat.toDigits 10 n with
  | nil => exact absurd hlist Nat.toDigits_ne_nil
  | cons c cs =>
    refine ⟨c, cs, htext.trans hlist, fun d hd => ?_⟩
    exact Nat.isDigit_of_mem_toDigits (by decide) (by decide) (hlist ▸ hd)

theorem beginsToken_of_isDigit {c : Char} (h : c.isDigit = true) : beginsToken c = true := by
  have hne (d : Char) (hd : d.isDigit = false) : c ≠ d := ne_of_isDigit h hd
  simp [beginsToken, continuesGap, isGap, hne ' ' rfl, hne '\n' rfl, hne '\t' rfl, hne '\r' rfl,
    hne '\x0c' rfl, hne '\ufeff' rfl, hne '\x0b' rfl, hne '-' rfl, hne '/' rfl, hne '\x00' rfl]

theorem Lexes.number (n : Nat) : Lexes (toString n).toList [.integer (toString n).toList] := by
  obtain ⟨c, cs, htext, hdigits⟩ := exists_digit n
  rw [htext]
  refine .of_token? (beginsToken_of_isDigit (hdigits c List.mem_cons_self)) (fun hmem => ?_) rfl
    (token?_digits hdigits)
  exact absurd (hdigits _ (List.mem_cons_of_mem c hmem)) (by decide)

/-! ## Texts with single blanks -/

/-- The tokens of a text with nothing but single blanks between them. -/
def solidTokens? : Nat → List Char → Option (List Token)
  | 0, _ => none
  | _, [] => some []
  | bound + 1, c :: cs =>
    if c = ' ' then
      if cs.head?.any beginsToken then solidTokens? bound cs else none
    else if beginsToken c && !cs.contains '\x00' then
      match token? (c :: cs) with
      | some (t, r) =>
        if t.isWhole && !r.contains '\x00' then (solidTokens? bound r).map (t :: ·) else none
      | none => none
    else none

theorem Lexes.of_solidTokens? (bound : Nat) {cs : List Char} {ts : List Token}
    (h : solidTokens? bound cs = some ts) : Lexes cs ts := by
  induction bound generalizing cs ts with
  | zero => cases h
  | succ bound ih =>
    cases cs with
    | nil =>
      simp only [solidTokens?, Option.some.injEq] at h
      subst h
      exact .nil
    | cons c cs =>
      simp only [solidTokens?] at h
      split at h
      · rename_i hc
        subst hc
        split at h
        · rename_i hhead
          cases cs with
          | nil => cases hhead
          | cons d cs => exact .blank (by simpa using hhead) (ih h)
        · cases h
      · split at h
        · rename_i hbegins
          simp only [Bool.and_eq_true, Bool.not_eq_true'] at hbegins
          split at h
          · rename_i t r htoken
            split at h
            · rename_i ht
              simp only [Bool.and_eq_true, Bool.not_eq_true'] at ht
              simp only [Option.map_eq_some_iff] at h
              obtain ⟨ts', hts, rfl⟩ := h
              exact .cons hbegins.1 (by simpa using hbegins.2)
                (fun _ hrest => token?_append hrest ht.1 htoken) (by simpa using ht.2) (ih hts)
            · cases h
          · cases h
        · cases h

end Schemata.Sqlite
