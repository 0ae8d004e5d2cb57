import Schemata.Text.Digit
import Schemata.Text.Quoted

/-!
# Tokens of SQLite

How SQLite takes a text of statements apart. A name in brackets ends at the first closing bracket,
whatever follows; a name in backticks or quotation marks, and a string in apostrophes, may hold its own
mark when it is doubled. Digits of a number may be kept apart by single underscores. A text ends at the
first null character.
-/

namespace Schemata.Sqlite

inductive Token where
  /-- A keyword or a bare name. -/
  | word (text : List Char)
  /-- A quoted name, and the mark that opens it. -/
  | quoted (mark : Char) (text : List Char)
  | string (text : List Char)
  | blob
  /-- A whole number in decimal or hexadecimal notation. -/
  | integer (text : List Char)
  /-- A number with a fraction or an exponent. -/
  | decimal
  /-- A number whose digits are kept apart, which only stands where a value does. -/
  | spaced
  | parameter (text : List Char)
  | symbol (text : String)
deriving Repr, DecidableEq

/-! ## What stands between tokens -/

/-- The blanks that may begin what stands between tokens. A byte order mark counts as one. -/
def isGap (c : Char) : Bool :=
  c == ' ' || c == '\n' || c == '\t' || c == '\r' || c == '\x0c' || c == '\ufeff'

/-- The blanks that may go on. -/
def continuesGap (c : Char) : Bool :=
  isGap c || c == '\x0b'

/-- The text without the blanks that it begins with. -/
def behindGap (cs : List Char) : List Char :=
  if cs.head?.any isGap then cs.dropWhile continuesGap else cs

/-- What follows a comment between `/*` and its end. -/
def behindComment : List Char → List Char
  | [] => []
  | '*' :: '/' :: cs => cs
  | _ :: cs => behindComment cs

/-- The text from its next token on. Nothing is a comment that ends right behind `/*`. -/
def skipFiller : Nat → List Char → List Char
  | 0, cs => cs
  | bound + 1, cs =>
    match behindGap cs with
    | '-' :: '-' :: rest => skipFiller bound (rest.dropWhile (· != '\n'))
    | '/' :: '*' :: c :: rest => skipFiller bound (behindComment (c :: rest))
    | rest => rest

/-! ## Words -/

/-- A character of a bare name. Beyond ASCII every character is one. A dollar sign may not come first,
where it would stand for a parameter. -/
def isWordPart (c : Char) : Bool :=
  c.isAlphanum || c == '_' || c == '$' || decide (128 ≤ c.toNat)

/-- Reads up to the first closing bracket. -/
def readBracketed : List Char → Option (List Char × List Char)
  | [] => none
  | c :: cs =>
    if c = ']' then some ([], cs)
    else (readBracketed cs).map fun (name, rest) => (c :: name, rest)

/-- What follows the parenthesis of a parameter that begins like an array element. -/
def behindElement? (cs : List Char) : Option (List Char) :=
  match cs.dropWhile fun c => !(continuesGap c || c == ')') with
  | ')' :: rest => some rest
  | _ => none

/-- Reads a named parameter behind its mark, given whether a character of its name has been read. -/
def readParameter : Bool → List Char → Option (List Char × List Char)
  | named, [] => if named then some ([], []) else none
  | named, ':' :: ':' :: cs => (readParameter named cs).map fun r => (':' :: ':' :: r.1, r.2)
  | named, c :: cs =>
    if isWordPart c then (readParameter true cs).map fun r => (c :: r.1, r.2)
    else if !named then none
    else if c = '(' then (behindElement? cs).map fun rest => ([], rest)
    else some ([], c :: cs)

/-! ## Numbers -/

/-- Reads digits of a base and the underscores among them. -/
def readDigits (base : Nat) (cs : List Char) : List Char × List Char :=
  let isPart (c : Char) := c == '_' || (Text.digitValue? base c).isSome
  (cs.takeWhile isPart, cs.dropWhile isPart)

/-- Whether each underscore of a run of digits stands between two digits. -/
def isWellSpaced (digits : List Char) : Bool :=
  digits.head? != some '_' && digits.getLast? != some '_'
    && !(digits.zip (digits.drop 1)).contains ('_', '_')

/-- A sign and digits behind the letter of an exponent; none without a digit. -/
def readExponent? : List Char → Option (List Char × List Char)
  | e :: sign :: cs =>
    if e ≠ 'e' ∧ e ≠ 'E' then none
    else if sign.isDigit then some (readDigits 10 (sign :: cs))
    else if (sign = '+' ∨ sign = '-') ∧ cs.head?.any Char.isDigit then some (readDigits 10 cs)
    else none
  | _ => none

/-- The token for a number with these runs of digits. -/
def numberToken (isDecimal : Bool) (written : List Char) (runs : List (List Char)) : Option Token :=
  if runs.all fun digits => !digits.contains '_' then
    some (if isDecimal then .decimal else .integer written)
  else if runs.all isWellSpaced then some .spaced
  else none

/-- Reads a number in decimal notation. -/
def readDecimal (cs : List Char) : Option Token × List Char :=
  let (whole, rest) := readDigits 10 cs
  let (fraction, rest) := match rest with
    | '.' :: behind => let (digits, rest) := readDigits 10 behind; (some digits, rest)
    | _ => (none, rest)
  let (exponent, rest) := match readExponent? rest with
    | some (digits, rest) => (some digits, rest)
    | none => (none, rest)
  (numberToken (fraction.isSome || exponent.isSome) whole
    ([whole] ++ fraction.toList ++ exponent.toList), rest)

/-- Reads a number; refused when a name follows it directly. -/
def readNumber (cs : List Char) : Option (Token × List Char) :=
  let (token, rest) := match cs with
    | '0' :: x :: d :: behind =>
      if (x = 'x' ∨ x = 'X') ∧ (Text.digitValue? 16 d).isSome then
        let (digits, rest) := readDigits 16 (d :: behind)
        (numberToken false ('0' :: 'x' :: digits) [digits], rest)
      else readDecimal cs
    | _ => readDecimal cs
  if rest.head?.any isWordPart then none else token.map (·, rest)

/-! ## Tokens -/

/-- The symbols of more than one character, the longer ones first. -/
def longSymbols : List String :=
  ["->>", "->", "||", "<<", ">>", "<=", ">=", "==", "!=", "<>"]

def shortSymbols : List Char :=
  "();+*%,&~=<>|-/.".toList

/-- Reads the symbol at the front of a text. -/
def readSymbol? (cs : List Char) : Option (Token × List Char) :=
  match longSymbols.find? fun s => s.toList.isPrefixOf cs with
  | some s => some (.symbol s, cs.drop s.length)
  | none =>
    match cs with
    | c :: rest =>
      if shortSymbols.contains c then some (.symbol (String.singleton c), rest) else none
    | [] => none

/-- Reads the digits of a blob behind its opening apostrophe: an even number of them. -/
def readBlob (cs : List Char) : Option (Token × List Char) :=
  let isDigit (c : Char) := (Text.digitValue? 16 c).isSome
  match cs.dropWhile isDigit with
  | '\'' :: rest => if (cs.takeWhile isDigit).length % 2 = 0 then some (.blob, rest) else none
  | _ => none

/-- Reads the token at the front of a text. -/
def token? : List Char → Option (Token × List Char)
  | [] => none
  | c :: cs =>
    if c = '[' then (readBracketed cs).map fun (text, rest) => (.quoted c text, rest)
    else if c = '\x60' ∨ c = '"' then
      (Text.Quoted.scan c cs).map fun (text, rest) => (.quoted c text, rest)
    else if c = '\'' then
      (Text.Quoted.scan c cs).map fun (text, rest) => (.string text, rest)
    else if (c = 'x' ∨ c = 'X') ∧ cs.head? = some '\'' then readBlob (cs.drop 1)
    else if c.isDigit || (c == '.' && cs.head?.any Char.isDigit) then readNumber (c :: cs)
    else if c = '?' then some (.parameter (cs.takeWhile Char.isDigit), cs.dropWhile Char.isDigit)
    else if c = '$' ∨ c = '@' ∨ c = '#' ∨ c = ':' then
      (readParameter false cs).map fun (text, rest) => (.parameter (c :: text), rest)
    else if isWordPart c then
      some (.word (c :: cs.takeWhile isWordPart), cs.dropWhile isWordPart)
    else readSymbol? (c :: cs)

/-- Reads up to `bound` tokens; refused when the text holds more, or something that is no token. -/
def tokensWithin : Nat → List Char → Option (List Token)
  | 0, _ => none
  | bound + 1, cs =>
    match skipFiller (cs.length + 1) cs with
    | [] => some []
    | c :: rest =>
      match token? (c :: rest) with
      | none => none
      | some (token, rest) => (tokensWithin bound rest).map (token :: ·)

/-- The tokens of a text. -/
def tokens? (text : String) : Option (List Token) :=
  let cs := text.toList.takeWhile (· != '\x00')
  tokensWithin (cs.length + 1) cs

/-- The statements of a text, each as its tokens. Semicolons end them. -/
def statements (tokens : List Token) : List (List Token) :=
  match tokens with
  | [] => []
  | t :: rest =>
    if t = .symbol ";" then [] :: statements rest
    else match statements rest with
      | [] => [[t]]
      | statement :: others => (t :: statement) :: others

end Schemata.Sqlite
