import Schemata.Record.Comment
import Schemata.Record.Literal

/-!
# Reading tokens

Takes a text apart into tokens. Every token takes at least one character, so the length of the text
bounds their number. Brackets have to be closed by brackets of their kind.
-/

namespace Schemata.Record

/-- Whether a punctuation character stands at the front of a text. The stroke that opens a comment is
none. -/
def startsWithPunct : List Char → Bool
  | '/' :: '/' :: _ => false
  | '/' :: '*' :: _ => false
  | c :: _ => "~!@#$%^&*-=+|;:,<.>/?'".toList.contains c
  | [] => false

def bracket? : Char → Option Token
  | '(' => some (.opening .round)
  | ')' => some (.closing .round)
  | '[' => some (.opening .square)
  | ']' => some (.closing .square)
  | '\x7b' => some (.opening .curly)
  | '\x7d' => some (.closing .curly)
  | _ => none

/-- A literal with the spelling that leads from one text to the rest. -/
def literalToken (value : Literal) (cs rest : List Char) : Token × List Char :=
  (.literal value (cs.take (cs.length - rest.length)), rest)

/-- A string literal behind its opening quotation mark; a suffix is part of its spelling. -/
def quoted? (whole cs : List Char) : Option (Token × List Char) :=
  (readQuoted 127 (cs.length + 1) cs).map fun (value, rest) =>
    literalToken (.string value) whole (behindSuffix rest)

/-- A string of bytes behind its opening quotation mark. -/
def quotedBytes? (whole cs : List Char) : Option (Token × List Char) :=
  (readQuoted 255 (cs.length + 1) cs).map fun (_, rest) =>
    literalToken .other whole (behindSuffix rest)

/-- A raw string literal behind its letters. -/
def raw? (value : List Char → Literal) (whole cs : List Char) : Option (Token × List Char) :=
  match openRaw? cs with
  | none => none
  | some (marks, body) =>
    (readRaw marks body).map fun (text, rest) => literalToken (value text) whole (behindSuffix rest)

/-- A literal that begins with a letter. -/
def lettered? (whole : List Char) : Option (Token × List Char) :=
  match whole with
  | 'r' :: rest => raw? .string whole rest
  | 'b' :: 'r' :: rest => raw? (fun _ => .other) whole rest
  | 'c' :: 'r' :: rest => raw? (fun _ => .other) whole rest
  | 'b' :: '"' :: rest => quotedBytes? whole rest
  | 'c' :: '"' :: rest => quotedBytes? whole rest
  | 'b' :: '\'' :: rest => (behindQuotedCharacter? 255 rest).map (literalToken .other whole)
  | _ => none

/-- What a name may not begin with, because a literal would. -/
def literalStarts : List String :=
  ["r\"", "r#\"", "r##", "b\"", "b'", "br\"", "br#", "c\"", "cr\"", "cr#"]

/-- The names that have no raw form. -/
def neverRaw : List String :=
  ["_", "super", "self", "Self", "crate"]

/-- A name, raw or not. -/
def name? : List Char → Option (List Char × List Char)
  | 'r' :: '#' :: cs =>
    let name := cs.takeWhile Text.continuesName
    if Text.isDeclaredName name && !neverRaw.any (·.toList == name) then
      some ('r' :: '#' :: name, cs.dropWhile Text.continuesName)
    else none
  | cs =>
    let name := cs.takeWhile Text.continuesName
    if Text.isDeclaredName name then some (name, cs.dropWhile Text.continuesName) else none

/-- A character literal or a label, behind the apostrophe. -/
def apostrophe? (whole cs : List Char) : Option (Token × List Char) :=
  match behindQuotedCharacter? 127 cs with
  | some rest => some (literalToken .other whole rest)
  | none => do
    let (label, rest) ← name? cs
    let isRaw := label.take 2 == ['r', '#']
    if rest.head? = some '\'' ∨ (rest.head? = some '#' ∧ isRaw = false) then none
    else some (.lifetime label, rest)

/-- Reads the token at the front of a text. -/
def token? (cs : List Char) : Option (Token × List Char) :=
  match lettered? cs, cs with
  | some read, _ => some read
  | none, [] => none
  | none, c :: rest =>
    if c = '"' then quoted? cs rest
    else if c.isDigit then
      (readNumber cs).map fun (value, rest) =>
        literalToken ((value.map Literal.integer).getD .other) cs rest
    else if c = '\'' then apostrophe? cs rest
    else if startsWithPunct cs then some (.punct c (startsWithPunct rest), rest)
    else match bracket? c with
      | some token => some (token, rest)
      | none =>
        if literalStarts.any (·.toList.isPrefixOf cs) then none
        else (name? cs).map fun (name, rest) => (.name name, rest)

/-- Reads up to `bound` tokens; refused when the text holds more, or something that is no token. -/
def tokensWithin : Nat → List Char → Option (List Token)
  | 0, _ => none
  | bound + 1, cs =>
    match skipFiller (cs.length + 1) cs with
    | [] => some []
    | c :: rest =>
      match documentation? (c :: rest), token? (c :: rest) with
      | some (tokens, rest), _ => (tokensWithin bound rest).map (tokens ++ ·)
      | none, some (token, rest) => (tokensWithin bound rest).map (token :: ·)
      | none, none => none

/-- Whether the brackets close one another, behind these that are open. -/
def isBalanced : List Bracket → List Token → Bool
  | pending, [] => pending.isEmpty
  | pending, .opening b :: rest => isBalanced (b :: pending) rest
  | b :: pending, .closing c :: rest => b == c && isBalanced pending rest
  | [], .closing _ :: _ => false
  | pending, _ :: rest => isBalanced pending rest

/-- The tokens of a text. -/
def tokens? (text : String) : Option (List Token) :=
  (tokensWithin (text.toList.length + 1) text.toList).filter (isBalanced [])

end Schemata.Record
