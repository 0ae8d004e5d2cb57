import Schemata.Text.Alphabetic
import Schemata.Text.Numeric

/-!
# Identifiers

A plain identifier, as a selector names a member, is an alphabetic character or an underscore followed
by alphanumeric characters and underscores. It may be written raw, behind `r#`.
-/

namespace Schemata.Text

def isAlphanumeric (c : Char) : Bool :=
  isAlphabetic c || isNumeric c

/-- The text without one leading raw mark `r#`. -/
def unraw : List Char → List Char
  | 'r' :: '#' :: rest => rest
  | cs => cs

/-- An alphabetic character or underscore, then alphanumeric characters and underscores. -/
def isPlainIdentifier : List Char → Bool
  | [] => false
  | c :: cs => (isAlphabetic c || c == '_') && cs.all fun d => isAlphanumeric d || d == '_'

end Schemata.Text
