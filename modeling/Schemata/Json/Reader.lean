import Schemata.Json
import Schemata.Text.Digit

/-!
# Reading JSON

A reader for the JSON grammar. Each function takes what it reads off the front of a text and returns
the rest. Nesting is bounded by an explicit count that `ofText?` takes from the length of the text, so
it never runs out: each bracket, comma and colon uses up a character.
-/

namespace Schemata.Json

/-- The four characters that may stand between tokens. -/
def isGap (c : Char) : Bool :=
  c == ' ' || c == '\n' || c == '\t' || c == '\r'

def skipGap (cs : List Char) : List Char :=
  cs.dropWhile isGap

/-! ## Strings -/

/-- The number that four hexadecimal digits spell. -/
def unit? (a b c d : Char) : Option Nat := do
  let digits ← [a, b, c, d].mapM (Text.digitValue? 16)
  return Text.numberOf 16 digits

/-- The character of a one-letter escape. -/
def escape? : Char → Option Char
  | '"' => some '"'
  | '\\' => some '\\'
  | '/' => some '/'
  | 'b' => some '\x08'
  | 'f' => some '\x0c'
  | 'n' => some '\n'
  | 'r' => some '\r'
  | 't' => some '\t'
  | _ => none

def isHighSurrogate (n : Nat) : Bool :=
  0xD800 ≤ n && n ≤ 0xDBFF

def isLowSurrogate (n : Nat) : Bool :=
  0xDC00 ≤ n && n ≤ 0xDFFF

/-- The character of a surrogate pair. -/
def pairChar (high low : Nat) : Char :=
  Char.ofNat (0x10000 + (high - 0xD800) * 0x400 + (low - 0xDC00))

/-- Puts a character before a string read so far. -/
def consChar (c : Char) (r : Option (List Char) × List Char) : Option (List Char) × List Char :=
  (r.1.map (c :: ·), r.2)

/-- Puts the character of a single unit before a string read so far; half of a pair stands for no
character, and then the whole string stands for none. -/
def consUnit (n : Nat) (r : Option (List Char) × List Char) : Option (List Char) × List Char :=
  if isHighSurrogate n || isLowSurrogate n then (none, r.2) else consChar (Char.ofNat n) r

/-- Reads the characters of a string up to its closing quotation mark. -/
def readString : List Char → Option (Option (List Char) × List Char)
  | [] => none
  | '"' :: rest => some (some [], rest)
  | '\\' :: 'u' :: a :: b :: c :: d :: '\\' :: 'u' :: e :: f :: g :: h :: rest =>
    match unit? a b c d, unit? e f g h with
    | some n, some m =>
      if isHighSurrogate n && isLowSurrogate m then (readString rest).map (consChar (pairChar n m))
      else (readString ('\\' :: 'u' :: e :: f :: g :: h :: rest)).map (consUnit n)
    | _, _ => none
  | '\\' :: 'u' :: a :: b :: c :: d :: rest =>
    match unit? a b c d with
    | some n => (readString rest).map (consUnit n)
    | none => none
  | '\\' :: e :: rest =>
    match escape? e with
    | some c => (readString rest).map (consChar c)
    | none => none
  | c :: rest => if c.toNat < 32 then none else (readString rest).map (consChar c)
termination_by cs => cs.length

/-- A string that was read, as far as it stands for one. -/
def stringOf (cs : Option (List Char)) : Option String :=
  cs.map String.ofList

/-! ## Numbers -/

def digits (cs : List Char) : List Char × List Char :=
  (cs.takeWhile Char.isDigit, cs.dropWhile Char.isDigit)

def natOf (ds : List Char) : Nat :=
  ds.foldl (fun n d => n * 10 + (d.toNat - 48)) 0

/-- The digits before the point: a single zero, or no zero in front. -/
def readWhole (cs : List Char) : Option (List Char × List Char) :=
  match digits cs with
  | ([], _) => none
  | ('0' :: _ :: _, _) => none
  | (ds, rest) => some (ds, rest)

/-- A fraction, if there is a point. -/
def readFraction : List Char → Option (List Char × List Char)
  | '.' :: cs =>
    match digits cs with
    | ([], _) => none
    | (ds, rest) => some ('.' :: ds, rest)
  | cs => some ([], cs)

/-- The sign of an exponent. -/
def readSign : List Char → List Char × List Char
  | '+' :: cs => (['+'], cs)
  | '-' :: cs => (['-'], cs)
  | cs => ([], cs)

/-- An exponent, if there is one. -/
def readExponent : List Char → Option (List Char × List Char)
  | [] => some ([], [])
  | c :: cs =>
    if c = 'e' ∨ c = 'E' then
      match readSign cs with
      | (sign, rest) =>
        match digits rest with
        | ([], _) => none
        | (ds, rest') => some (c :: (sign ++ ds), rest')
    else some ([], c :: cs)

/-- A number without its sign. -/
def readUnsigned (negative : Bool) (cs : List Char) : Option (Json × List Char) := do
  let (whole, rest) ← readWhole cs
  let (fraction, rest) ← readFraction rest
  let (exponent, rest) ← readExponent rest
  let sign := if negative then ['-'] else []
  if fraction.isEmpty && exponent.isEmpty && !(negative && natOf whole == 0) then
    return (int (if negative then -(natOf whole : Int) else natOf whole), rest)
  else return (decimal (String.ofList (sign ++ whole ++ fraction ++ exponent)), rest)

def readNumber : List Char → Option (Json × List Char)
  | '-' :: cs => readUnsigned true cs
  | cs => readUnsigned false cs

/-! ## Values -/

mutual

/-- Reads one value; `depth` bounds the brackets and separators still to come. -/
def readValue : Nat → List Char → Option (Json × List Char)
  | 0, _ => none
  | depth + 1, cs =>
    match skipGap cs with
    | 'n' :: 'u' :: 'l' :: 'l' :: rest => some (null, rest)
    | 't' :: 'r' :: 'u' :: 'e' :: rest => some (bool true, rest)
    | 'f' :: 'a' :: 'l' :: 's' :: 'e' :: rest => some (bool false, rest)
    | '"' :: rest => (readString rest).map fun r => (str (stringOf r.1), r.2)
    | '[' :: rest =>
      match skipGap rest with
      | ']' :: rest => some (arr [], rest)
      | rest => (readItems depth rest).map fun r => (arr r.1, r.2)
    | '\x7b' :: rest =>
      match skipGap rest with
      | '\x7d' :: rest => some (obj [], rest)
      | rest => (readMembers depth rest).map fun r => (obj r.1, r.2)
    | rest => readNumber rest

/-- Reads the items of an array up to its closing bracket. -/
def readItems : Nat → List Char → Option (List Json × List Char)
  | 0, _ => none
  | depth + 1, cs =>
    match readValue depth cs with
    | none => none
    | some (j, rest) =>
      match skipGap rest with
      | ']' :: rest => some ([j], rest)
      | ',' :: rest => (readItems depth rest).map fun r => (j :: r.1, r.2)
      | _ => none

/-- Reads the members of an object up to its closing brace. -/
def readMembers : Nat → List Char → Option (List (Option String × Json) × List Char)
  | 0, _ => none
  | depth + 1, cs =>
    match skipGap cs with
    | '"' :: rest =>
      match readString rest with
      | none => none
      | some (key, rest) =>
        match skipGap rest with
        | ':' :: rest =>
          match readValue depth rest with
          | none => none
          | some (j, rest) =>
            match skipGap rest with
            | '\x7d' :: rest => some ([(stringOf key, j)], rest)
            | ',' :: rest =>
              (readMembers depth rest).map fun r => ((stringOf key, j) :: r.1, r.2)
            | _ => none
        | _ => none
    | _ => none

end

/-- Reads a text that holds one value and nothing else but gaps. -/
def ofText? (text : String) : Option Json :=
  let cs := text.toList
  match readValue (2 * cs.length + 2) cs with
  | some (j, rest) => if (skipGap rest).isEmpty then some j else none
  | none => none

end Schemata.Json
