import Schemata.Record.Token
import Schemata.Text.Split

/-!
# Type texts

A member's type is recorded as a text. Its tokens are written with one blank between two of them,
except behind a joint and just inside parentheses and square brackets; then the blanks around path
separators, angle brackets and references are collapsed, one kind after the other.
-/

namespace Schemata.Record

namespace Token

def spelling : Token → List Char
  | name text => text
  | lifetime text => '\'' :: text
  | punct symbol _ => [symbol]
  | literal _ spelling => spelling
  | opening .round => ['(']
  | opening .square => ['[']
  | opening .curly => ['\x7b']
  | closing .round => [')']
  | closing .square => [']']
  | closing .curly => ['\x7d']

/-- Whether a blank is written between two tokens. -/
def isSpaced : Token → Token → Bool
  | opening .round, _ => false
  | opening .square, _ => false
  | _, closing .round => false
  | _, closing .square => false
  | punct _ true, _ => false
  | _, _ => true

/-- The tokens with blanks between them. -/
def spaced : List Token → List Char
  | [] => []
  | [t] => t.spelling
  | t :: u :: rest => t.spelling ++ (if t.isSpaced u then [' '] else []) ++ spaced (u :: rest)

end Token

/-- The replacements that collapse blanks, in the order in which they are made. -/
def collapses : List (String × String) := [
  (" :: ", "::"), (":: ", "::"), (" <", "<"), ("< ", "<"), (" >", ">"), (" ,", ","), ("& ", "&")]

/-- A text with the blanks around separators collapsed. -/
def collapse (text : List Char) : List Char :=
  collapses.foldl (fun text r => Text.replaceAll r.1.toList r.2.toList text) text

/-- The text that is recorded for a type, given its tokens as they are written. -/
def typeText (tokens : List Token) : List Char :=
  collapse (Token.spaced tokens)

end Schemata.Record
