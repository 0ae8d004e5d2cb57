import Schemata.Record.Token

/-!
# Readers

A reader takes tokens off the front of a list and says how they are written: mostly as they stand,
but with the joints of its punctuation settled, and now and then in another order. Readers are put
behind one another with `++`, and `<|>` takes the second where the first does not apply.
-/

namespace Schemata.Record

structure Reader where
  /-- What is written for the tokens that are taken, and the tokens that are left. -/
  run : List Token → Option (List Token × List Token)

namespace Reader

instance : Append Reader where
  append p q := ⟨fun ts => do
    let (written, ts) ← p.run ts
    let (more, ts) ← q.run ts
    return (written ++ more, ts)⟩

instance : OrElse Reader where
  orElse p q := ⟨fun ts =>
    match p.run ts with
    | some read => some read
    | none => (q ()).run ts⟩

/-- Takes nothing. -/
def empty : Reader :=
  ⟨fun ts => some ([], ts)⟩

def optional (p : Reader) : Reader :=
  p <|> empty

/-- The first of the readers that applies. -/
def choice (ps : List Reader) : Reader :=
  ⟨fun ts => ps.findSome? (·.run ts)⟩

/-- Applies a reader up to `bound` times, as long as it takes something, and gives the pieces. -/
def pieces (p : Reader) : Nat → List Token → List (List Token) × List Token
  | 0, ts => ([], ts)
  | bound + 1, ts =>
    match p.run ts with
    | none => ([], ts)
    | some (written, rest) =>
      if rest.length < ts.length then
        let (more, rest) := pieces p bound rest
        (written :: more, rest)
      else ([], ts)

/-- Applies a reader as often as it takes something, and writes its pieces in the order that
`arrange` gives them. -/
def arranged (arrange : List (List Token) → List Token) (p : Reader) : Reader :=
  ⟨fun ts =>
    let (written, rest) := p.pieces ts.length ts
    some (arrange written, rest)⟩

/-- Applies a reader as often as it takes something. -/
def many (p : Reader) : Reader :=
  p.arranged List.flatten

def many1 (p : Reader) : Reader :=
  p ++ many p

/-- Writes nothing for the tokens that a reader takes. -/
def silent (p : Reader) : Reader :=
  ⟨fun ts => (p.run ts).map fun (_, rest) => ([], rest)⟩

/-- Writes what a reader writes in another form. -/
def rewritten (write : List Token → List Token) (p : Reader) : Reader :=
  ⟨fun ts => (p.run ts).map fun (written, rest) => (write written, rest)⟩

/-- Applies only where `sign` does. -/
def ifAt (sign p : Reader) : Reader :=
  ⟨fun ts => if (sign.run ts).isSome then p.run ts else none⟩

/-- Applies only where `sign` does not. -/
def unlessAt (sign p : Reader) : Reader :=
  ⟨fun ts => if (sign.run ts).isSome then none else p.run ts⟩

/-! ## Single tokens -/

def token (allowed : Token → Bool) : Reader :=
  ⟨fun ts =>
    match ts with
    | t :: rest => if allowed t then some ([t], rest) else none
    | [] => none⟩

def name : Reader :=
  token fun t => match t with
    | .name _ => true
    | _ => false

/-- A certain name. -/
def word (text : String) : Reader :=
  token (· == .name text.toList)

def words (texts : List String) : Reader :=
  choice (texts.map word)

def lifetime : Reader :=
  token fun t => match t with
    | .lifetime _ => true
    | _ => false

def literal : Reader :=
  token fun t => match t with
    | .literal _ _ => true
    | _ => false

def stringLiteral : Reader :=
  token fun t => match t with
    | .literal (.string _) _ => true
    | _ => false

def bracket (allowed : Token) : Reader :=
  token (· == allowed)

/-- What follows a symbol, whose characters have to be joined. -/
def behindSymbol? : List Char → List Token → Option (List Token)
  | [], _ => none
  | [c], .punct d _ :: rest => if c = d then some rest else none
  | c :: cs, .punct d true :: rest => if c = d then behindSymbol? cs rest else none
  | _ :: _, _ => none

/-- The tokens of a symbol: each character but the last is joined to the next. -/
def symbolTokens : List Char → List Token
  | [] => []
  | [c] => [.punct c false]
  | c :: cs => .punct c true :: symbolTokens cs

def symbol (text : String) : Reader :=
  ⟨fun ts => (behindSymbol? text.toList ts).map fun rest => (symbolTokens text.toList, rest)⟩

def symbols (texts : List String) : Reader :=
  choice (texts.map symbol)

/-! ## Brackets -/

/-- A pair of brackets around what the reader takes. -/
def inside (b : Bracket) (p : Reader) : Reader :=
  bracket (.opening b) ++ p ++ bracket (.closing b)

/-- Splits off the tokens up to the bracket that closes the outermost of `depth` open ones. -/
def splitClosed : Nat → List Token → Option (List Token × List Token)
  | 0, ts => some ([], ts)
  | _ + 1, [] => none
  | depth + 1, t :: rest =>
    let depth := match t with
      | .opening _ => depth + 2
      | .closing _ => depth
      | _ => depth + 1
    (splitClosed depth rest).map fun (front, rest) => (t :: front, rest)

/-- A pair of brackets with everything between them, as it stands. -/
def copied : Reader :=
  ⟨fun ts =>
    match ts with
    | .opening b :: rest =>
      (splitClosed 1 rest).map fun (front, rest) => (.opening b :: front, rest)
    | _ => none⟩

/-- Entries with commas behind them. -/
def listed (p : Reader) : Reader :=
  many (p ++ optional (symbol ",") <|> symbol ",")

end Reader

end Schemata.Record
