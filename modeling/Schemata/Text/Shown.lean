import Schemata.Text.Printable

/-!
# Texts shown in diagnostics

Descriptions of a bound provider or a selector show a text between quotation marks, with the
quotation mark, the backslash and everything without a glyph of its own escaped.
-/

namespace Schemata.Text

/-- A character as it is shown between quotation marks. -/
def shownChar (c : Char) : List Char :=
  if c = '"' then ['\\', '"']
  else if c = '\\' then ['\\', '\\']
  else if c = '\n' then ['\\', 'n']
  else if c = '\r' then ['\\', 'r']
  else if c = '\t' then ['\\', 't']
  else if c = '\x00' then ['\\', '0']
  else if isPrintable c then [c]
  else ['\\', 'u', '\x7b'] ++ Nat.toDigits 16 c.toNat ++ ['\x7d']

/-- A text between quotation marks. -/
def shown (s : String) : String :=
  String.ofList ('"' :: (s.toList.flatMap shownChar ++ ['"']))

end Schemata.Text
