import Schemata.Json

/-!
# Writing JSON

The compact text of a value: no blanks, members in order, and every character as it is except for the
quotation mark, the backslash and the control characters, which are escaped by a letter where they have
one. Text that stands for no string is written as null.
-/

namespace Schemata.Json

/-- A hexadecimal digit. -/
def hexDigit (n : Nat) : Char :=
  Nat.digitChar (n % 16)

/-- The letter of the escape for a character, where there is one of a single letter. -/
def escapeLetter? : Char → Option Char
  | '"' => some '"'
  | '\\' => some '\\'
  | '\x08' => some 'b'
  | '\x0c' => some 'f'
  | '\n' => some 'n'
  | '\r' => some 'r'
  | '\t' => some 't'
  | _ => none

/-- A character inside a string. -/
def writtenChar (c : Char) : List Char :=
  match escapeLetter? c with
  | some letter => ['\\', letter]
  | none =>
    if c.toNat < 32 then ['\\', 'u', '0', '0', hexDigit (c.toNat / 16), hexDigit c.toNat]
    else [c]

def writtenString (s : String) : List Char :=
  '"' :: (s.toList.flatMap writtenChar ++ ['"'])

def writtenKey : Option String → List Char
  | none => ['"', '"']
  | some s => writtenString s

def writtenInt (n : Int) : List Char :=
  if n < 0 then '-' :: Nat.toDigits 10 n.natAbs else Nat.toDigits 10 n.natAbs

mutual

def written : Json → List Char
  | null => ['n', 'u', 'l', 'l']
  | bool true => ['t', 'r', 'u', 'e']
  | bool false => ['f', 'a', 'l', 's', 'e']
  | int n => writtenInt n
  | decimal spelling => spelling.toList
  | str none => ['n', 'u', 'l', 'l']
  | str (some s) => writtenString s
  | arr items => '[' :: (writtenItems items ++ [']'])
  | obj members => '\x7b' :: (writtenMembers members ++ ['\x7d'])

def writtenItems : List Json → List Char
  | [] => []
  | [j] => written j
  | j :: k :: rest => written j ++ ',' :: writtenItems (k :: rest)

def writtenMembers : List (Option String × Json) → List Char
  | [] => []
  | [(key, j)] => writtenKey key ++ ':' :: written j
  | (key, j) :: m :: rest => writtenKey key ++ ':' :: written j ++ ',' :: writtenMembers (m :: rest)

end

/-- The text of a value. -/
def render (j : Json) : String :=
  String.ofList (written j)

end Schemata.Json
