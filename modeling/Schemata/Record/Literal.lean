import Schemata.Record.Token
import Schemata.Text.DeclaredName
import Schemata.Text.Digit

/-!
# Literals of a record declaration

Readers for what is written between quotation marks and for numbers. Each takes the literal off the
front of a text and returns what it stands for and the rest, or refuses a text that no literal begins.
Integers may have a base mark, separating underscores and a suffix; a number with a fraction or an
exponent is no integer.
-/

namespace Schemata.Record

/-- What follows the suffix of a literal, if it has one. -/
def behindSuffix (cs : List Char) : List Char :=
  if cs.head?.any Text.startsName then cs.dropWhile Text.continuesName else cs

/-! ## Strings -/

/-- The character of a one-letter escape. -/
def escaped? : Char → Option Char
  | 'n' => some '\n'
  | 'r' => some '\r'
  | 't' => some '\t'
  | '0' => some '\x00'
  | '\\' => some '\\'
  | '\'' => some '\''
  | '"' => some '"'
  | _ => none

/-- Reads the one to six digits of a long escape and its closing brace, given those already read.
Underscores may follow the first digit. -/
def readBraced (digits : List Nat) : List Char → Option (Nat × List Char)
  | [] => none
  | c :: cs =>
    if c = '\x7d' then
      if digits.isEmpty then none else some (Text.numberOf 16 digits, cs)
    else if c = '_' then
      if digits.isEmpty then none else readBraced digits cs
    else match Text.digitValue? 16 c with
      | some d => if digits.length < 6 then readBraced (digits ++ [d]) cs else none
      | none => none

/-- What follows an escaped line break and the blanks after it. A carriage return counts only before
a line feed. -/
def behindLineBreak? : List Char → Option (List Char)
  | [] => some []
  | '\r' :: '\n' :: cs => behindLineBreak? cs
  | c :: cs =>
    if c = '\r' then none
    else if c = ' ' ∨ c = '\t' ∨ c = '\n' then behindLineBreak? cs
    else some (c :: cs)

/-- One character of a string: nothing at its end, and nothing for a line break that is escaped. -/
inductive Piece where
  | char (c : Char)
  | skipped
  | finished

/-- Reads one character of a string, escaped or not, up to the quotation mark that ends it. Two-digit
escapes go up to `top`. -/
def readPiece (top : Nat) : List Char → Option (Piece × List Char)
  | [] => none
  | '"' :: rest => some (.finished, rest)
  | '\\' :: 'x' :: a :: b :: rest => do
    let n := Text.numberOf 16 (← [a, b].mapM (Text.digitValue? 16))
    if n ≤ top then some (.char (Char.ofNat n), rest) else none
  | '\\' :: 'u' :: '\x7b' :: rest => do
    let (n, rest) ← readBraced [] rest
    if n.isValidChar then some (.char (Char.ofNat n), rest) else none
  | '\\' :: e :: rest =>
    if e = '\n' ∨ e = '\r' then (behindLineBreak? (e :: rest)).map fun rest => (.skipped, rest)
    else (escaped? e).map fun c => (.char c, rest)
  | '\r' :: '\n' :: rest => some (.char '\n', rest)
  | c :: rest => if c = '\r' ∨ c = '\\' then none else some (.char c, rest)

/-- Reads the characters of a string behind its opening quotation mark; each step takes at least one
character, so a `bound` above the length of the text is never reached. -/
def readQuoted (top : Nat) : Nat → List Char → Option (List Char × List Char)
  | 0, _ => none
  | bound + 1, cs =>
    match readPiece top cs with
    | none => none
    | some (.finished, rest) => some ([], rest)
    | some (.skipped, rest) => readQuoted top bound rest
    | some (.char c, rest) =>
      (readQuoted top bound rest).map fun (value, rest) => (c :: value, rest)

/-- The number of hash marks before the quotation mark of a raw string, and what follows the mark. -/
def openRaw? (cs : List Char) : Option (Nat × List Char) :=
  let marks := cs.takeWhile (· == '#')
  match cs.dropWhile (· == '#') with
  | '"' :: rest => if marks.length < 256 then some (marks.length, rest) else none
  | _ => none

/-- Reads a raw string up to a quotation mark with as many hash marks behind it. -/
def readRaw (marks : Nat) : List Char → Option (List Char × List Char)
  | [] => none
  | c :: cs =>
    if c = '"' ∧ (List.replicate marks '#').isPrefixOf cs then some ([], cs.drop marks)
    else if c = '\r' ∧ cs.head? ≠ some '\n' then none
    else (readRaw marks cs).map fun (value, rest) => (c :: value, rest)

/-- What follows the single character of a character literal, escaped or not. -/
def behindCharacter? (top : Nat) : List Char → Option (List Char)
  | [] => none
  | c :: rest =>
    if c = '\\' then
      match readPiece top (c :: rest) with
      | some (.char _, rest) => some rest
      | _ => none
    else some rest

/-- What follows a character literal, behind its opening apostrophe. -/
def behindQuotedCharacter? (top : Nat) (cs : List Char) : Option (List Char) :=
  match behindCharacter? top cs with
  | some ('\'' :: rest) => some (behindSuffix rest)
  | _ => none

/-! ## Numbers -/

/-- Takes digits and underscores off a text. A decimal digit that the base lacks is refused. -/
def takeDigits? (base : Nat) : List Char → Option (List Nat × List Char)
  | [] => some ([], [])
  | c :: cs =>
    if c = '_' then takeDigits? base cs
    else match Text.digitValue? base c with
      | some d => (takeDigits? base cs).map fun (digits, rest) => (d :: digits, rest)
      | none => if c.isDigit then none else some ([], c :: cs)

/-- What follows an exponent behind its letter. It needs a digit, and before the first digit it may
have a sign; `signed` and `valued` say whether these have been met. -/
def behindExponent? (signed valued : Bool) : List Char → Option (List Char)
  | [] => if valued then some [] else none
  | c :: cs =>
    if c.isDigit then behindExponent? signed true cs
    else if c = '_' then behindExponent? signed valued cs
    else if (c = '+' ∨ c = '-') ∧ valued = false then
      if signed then none else behindExponent? true valued cs
    else if valued then some (c :: cs) else none

/-- What follows an exponent. -/
def exponent? : List Char → Option (List Char)
  | [] => none
  | e :: cs => if e = 'e' ∨ e = 'E' then behindExponent? false false cs else none

/-- What follows a fraction. A point before a name or another point belongs to no number. -/
def fraction? : List Char → Option (List Char)
  | '.' :: cs =>
    if cs.head?.any fun c => c == '.' || Text.startsName c then none
    else some (cs.dropWhile fun c => c.isDigit || c == '_')
  | _ => none

/-- Reads the digits of an integer in a base. -/
def readInteger (base : Nat) (cs : List Char) : Option (Option Nat × List Char) :=
  match takeDigits? base cs with
  | none => none
  | some ([], _) => none
  | some (digits, rest) => some (some (Text.numberOf base digits), rest)

/-- Reads a number in decimal notation. -/
def readDecimal (cs : List Char) : Option (Option Nat × List Char) := do
  let (value, rest) ← readInteger 10 cs
  match fraction? rest, exponent? rest with
  | some rest, _ => return (none, (exponent? rest).getD rest)
  | none, some rest => return (none, rest)
  | none, none => return (value, rest)

/-- Reads a number: its value, if it is an integer, and the rest, which may not go on as a name does. -/
def readNumber (cs : List Char) : Option (Option Nat × List Char) := do
  let (value, rest) ← match cs with
    | '0' :: 'x' :: digits => readInteger 16 digits
    | '0' :: 'o' :: digits => readInteger 8 digits
    | '0' :: 'b' :: digits => readInteger 2 digits
    | _ => readDecimal cs
  let rest := behindSuffix rest
  if rest.head?.any Text.continuesName then none else some (value, rest)

end Schemata.Record
