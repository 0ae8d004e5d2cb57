import Schemata.Text.CaseMap
import Schemata.Text.Identifier
import Schemata.Text.LetterCase

/-!
# Words of an identifier

An identifier is cut into words before it is written in another convention. Characters that are not
alphanumeric separate words and vanish. Inside a piece a word ends where lower case meets upper case
(`userName`), and before the last capital of a run that lower case follows (`XMLHttp` is `XML`,
`Http`). Digits and uncased letters take the side of the letters before them.
-/

namespace Schemata.Naming

/-- The case of the letters of the current word, as far as it has been seen. -/
inductive Mode where
  | boundary
  | lower
  | upper
deriving Repr, DecidableEq

/-- The mode after one more character. -/
def Mode.after (mode : Mode) (c : Char) : Mode :=
  if Text.isLower c then .lower else if Text.isUpper c then .upper else mode

/-- Cuts a piece into words; `word` holds the current word in reverse. -/
def cutPiece : Mode → List Char → List Char → List (List Char)
  | _, word, [] => if word.isEmpty then [] else [word.reverse]
  | _, word, [c] => [(c :: word).reverse]
  | mode, word, c :: n :: rest =>
    if mode.after c = .lower ∧ Text.isUpper n then
      (c :: word).reverse :: cutPiece .boundary [] (n :: rest)
    else if mode = .upper ∧ Text.isUpper c ∧ Text.isLower n then
      word.reverse :: cutPiece .boundary [c] (n :: rest)
    else cutPiece (mode.after c) (c :: word) (n :: rest)

/-- The runs of alphanumeric characters; `piece` holds the current run in reverse. -/
def pieces : List Char → List Char → List (List Char)
  | piece, [] => [piece.reverse]
  | piece, c :: cs =>
    if Text.isAlphanumeric c then pieces (c :: piece) cs
    else piece.reverse :: pieces [] cs

/-- The words of an identifier, in order. -/
def words (cs : List Char) : List (List Char) :=
  (pieces [] cs).flatMap (cutPiece .boundary [])

/-- A word in lower case. A sigma at its end takes the final form. -/
def lowerWord : List Char → List Char
  | [] => []
  | [c] => if c = 'Σ' then ['ς'] else Text.lowerChar c
  | c :: cs => Text.lowerChar c ++ lowerWord cs

/-- A word in lower case but for its first character, which is in upper case. -/
def capitalWord : List Char → List Char
  | [] => []
  | c :: cs => Text.upperChar c ++ lowerWord cs

end Schemata.Naming
