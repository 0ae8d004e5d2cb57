/-!
# Tokens of a record declaration

The attributes and the types of a record declaration are read as tokens. A name keeps its raw mark.
Punctuation is one character to a token, and a token remembers whether it is joined to the next: to
any punctuation at first, and once its place in the grammar is known, to the rest of its symbol.
Brackets are tokens of their own.
-/

namespace Schemata.Record

inductive Bracket where
  | round
  | square
  | curly
deriving Repr, DecidableEq

/-- What a literal stands for, as far as a marker can use it. -/
inductive Literal where
  | string (value : List Char)
  | integer (value : Nat)
  | other
deriving Repr, DecidableEq

inductive Token where
  | name (text : List Char)
  /-- A label behind an apostrophe. -/
  | lifetime (text : List Char)
  | punct (symbol : Char) (joined : Bool)
  | literal (value : Literal) (spelling : List Char)
  | opening (bracket : Bracket)
  | closing (bracket : Bracket)
deriving Repr, DecidableEq

end Schemata.Record
