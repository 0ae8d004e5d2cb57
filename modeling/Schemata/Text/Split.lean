/-!
# Splitting and replacing

Finding one text inside another: the first occurrence of a separator, what follows its last
occurrence, the parts between all of them, and the replacement of all occurrences from left to right.
-/

namespace Schemata.Text

/-- The texts before and behind the first occurrence of the separator. -/
def splitFirst (separator : List Char) : List Char → Option (List Char × List Char)
  | [] => if separator.isEmpty then some ([], []) else none
  | c :: cs =>
    if separator.isPrefixOf (c :: cs) then some ([], (c :: cs).drop separator.length)
    else (splitFirst separator cs).map fun (before, behind) => (c :: before, behind)

/-- What follows the last occurrence of the separator, or everything without one. -/
def behindLast (separator cs : List Char) : List Char :=
  match splitFirst separator.reverse cs.reverse with
  | some (behind, _) => behind.reverse
  | none => cs

/-- The texts between the occurrences of a separator, at least one. -/
def splitAll (separator : Char) : List Char → List (List Char)
  | [] => [[]]
  | c :: cs =>
    if c = separator then [] :: splitAll separator cs
    else match splitAll separator cs with
      | [] => [[c]]
      | part :: parts => (c :: part) :: parts

/-- Replaces the occurrences of `old` that are met from left to right, once `skip` more characters of
an occurrence already replaced have gone by. -/
def replaceFrom (old new : List Char) : Nat → List Char → List Char
  | _, [] => []
  | skip + 1, _ :: cs => replaceFrom old new skip cs
  | 0, c :: cs =>
    if old.isPrefixOf (c :: cs) then new ++ replaceFrom old new (old.length - 1) cs
    else c :: replaceFrom old new 0 cs

def replaceAll (old new cs : List Char) : List Char :=
  replaceFrom old new 0 cs

end Schemata.Text
