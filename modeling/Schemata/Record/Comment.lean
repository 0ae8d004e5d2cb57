import Schemata.Record.Token
import Schemata.Text.Blank
import Schemata.Text.Shown

/-!
# Comments

Blanks and plain comments separate tokens and vanish. A documentation comment, which has a third
stroke or star or an exclamation mark behind its two opening characters, stands for an attribute that
holds its text.
-/

namespace Schemata.Record

/-- What follows a comment with this many levels still open. -/
def behindComment? : Nat → List Char → Option (List Char)
  | 0, cs => some cs
  | _ + 1, [] => none
  | level + 1, '*' :: '/' :: cs => behindComment? level cs
  | level + 1, '/' :: '*' :: cs => behindComment? (level + 2) cs
  | level + 1, _ :: cs => behindComment? (level + 1) cs

/-- A blank, or one of the two marks that only set the direction of writing. -/
def isFiller (c : Char) : Bool :=
  Text.isBlank c || c == '\u200e' || c == '\u200f'

/-! ## Documentation -/

/-- Whether a documentation comment begins here. More than three strokes or stars make it a plain
comment, and so does one that is closed at once. -/
def beginsDocumentation : List Char → Bool
  | '/' :: '/' :: '!' :: _ => true
  | '/' :: '*' :: '!' :: _ => true
  | '/' :: '/' :: '/' :: cs => cs.head? != some '/'
  | '/' :: '*' :: '*' :: cs => cs.head? != some '*' && cs.head? != some '/'
  | _ => false

/-- The text of a line and what follows it; a carriage return before the line feed is not in it. -/
def splitLine : List Char → List Char × List Char
  | [] => ([], [])
  | c :: cs =>
    if c = '\n' ∨ (c = '\r' ∧ cs.head? = some '\n') then ([], c :: cs)
    else
      let (line, rest) := splitLine cs
      (c :: line, rest)

/-- Whether every carriage return stands before a line feed. -/
def hasWholeLineBreaks : List Char → Bool
  | [] => true
  | c :: cs => (c != '\r' || cs.head? == some '\n') && hasWholeLineBreaks cs

/-- A text as a string literal. A null before an octal digit is written at length. -/
def quoted : List Char → List Char
  | [] => []
  | c :: cs =>
    let octal := cs.head?.any fun d => '0' ≤ d && d ≤ '7'
    (if c = '\x00' ∧ octal then ['\\', 'x', '0', '0'] else Text.shownChar c) ++ quoted cs

/-- The attribute that a documentation comment stands for; `inner` says that it is about what is
around it. -/
def documentation (inner : Bool) (text : List Char) : List Token :=
  .punct '#' false :: (if inner then [.punct '!' false] else []) ++ [
    .opening .square, .name "doc".toList, .punct '=' false,
    .literal (.string text) ('"' :: quoted text ++ ['"']), .closing .square]

/-- Reads the documentation comment at the front of a text. -/
def documentation? (cs : List Char) : Option (List Token × List Char) :=
  if beginsDocumentation cs then
    let body := cs.drop 3
    let read :=
      if cs.getD 1 '*' = '/' then some (splitLine body)
      else (behindComment? 1 (cs.drop 2)).map fun rest =>
        (body.take (body.length - rest.length - 2), rest)
    read.bind fun (text, rest) =>
      if hasWholeLineBreaks text then some (documentation (cs.getD 2 '*' == '!') text, rest)
      else none
  else none

/-! ## What separates tokens -/

/-- The text from its next token on; a comment that does not end is no filler. -/
def skipFiller : Nat → List Char → List Char
  | 0, cs => cs
  | bound + 1, cs =>
    let cs := cs.dropWhile isFiller
    if beginsDocumentation cs then cs
    else match cs with
      | '/' :: '/' :: rest => skipFiller bound (rest.dropWhile (· != '\n'))
      | '/' :: '*' :: rest =>
        match behindComment? 1 rest with
        | some rest => skipFiller bound rest
        | none => cs
      | rest => rest

end Schemata.Record
