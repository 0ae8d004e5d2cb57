import Schemata.Record.Reader

/-!
# Forms

The grammar of types, and of what may stand inside them, is a rule for each of a few forms. A rule is
made of readers for the forms in it; these are its argument, so that rules need not know each other.
Here are the forms and what several rules share: attributes, paths, and lists between angle brackets.
-/

namespace Schemata.Record

open Reader

inductive Form where
  /-- A type; `sums` says whether further bounds may follow behind plus signs. -/
  | type (sums : Bool)
  | bounds (sums : Bool)
  /-- A pattern; `bars` says whether it may have alternatives. -/
  | pattern (bars : Bool)
  /-- An expression; `braces` says whether it may hold a record between braces. -/
  | expression (braces : Bool)
  /-- An expression without infix operators. -/
  | operand (braces : Bool)
  /-- An expression that ends in a block, and ends a statement too. -/
  | blocklike
  /-- A member behind a point. -/
  | member
  /-- What stands between the braces of a block. -/
  | statements
deriving Repr, DecidableEq

/-- The readers for the forms inside a rule. -/
abbrev Forms := Form → Reader

/-- The names that are words of the grammar. -/
def keywords : List String := [
  "_", "abstract", "as", "async", "await", "become", "box", "break", "const", "continue", "crate",
  "do", "dyn", "else", "enum", "extern", "false", "final", "fn", "for", "if", "impl", "in", "let",
  "loop", "macro", "match", "mod", "move", "mut", "override", "priv", "pub", "ref", "return", "Self",
  "self", "static", "struct", "super", "trait", "true", "try", "type", "typeof", "unsafe", "unsized",
  "use", "virtual", "where", "while", "yield"]

/-- A name that is no word of the grammar. -/
def ident : Reader :=
  unlessAt (words keywords) name

/-- A name in a path. -/
def segmentName : Reader :=
  ident <|> words ["super", "self", "Self", "crate"]

variable (sub : Forms)

/-- A colon that does not begin a path separator. -/
def colon : Reader :=
  unlessAt (symbol "::") (symbol ":")

def block : Reader :=
  inside .curly (sub .statements)

/-- A path of names alone. -/
def plainPath : Reader :=
  optional (symbol "::") ++ segmentName ++ many (symbol "::" ++ segmentName)

/-- A macro call; what it is called with keeps its joints. -/
def macroCall : Reader :=
  plainPath ++ unlessAt (symbol "!=") (symbol "!") ++ copied

/-- What stands between the brackets of an attribute. -/
def attributeBody : Reader :=
  (plainPath <|> word "unsafe") ++ optional (copied <|> symbol "=" ++ sub (.expression true))

def outerAttribute : Reader :=
  symbol "#" ++ inside .square (attributeBody sub)

def innerAttribute : Reader :=
  symbol "#" ++ symbol "!" ++ inside .square (attributeBody sub)

/-! ## Angle brackets -/

/-- Whether an entry stands for a lifetime. -/
def isLifetime : List Token → Bool
  | .lifetime _ :: .punct '+' _ :: _ => false
  | .lifetime _ :: _ => true
  | _ => false

/-- The entries with the lifetimes first. Every entry keeps the comma behind it; when the last
lifetime has none, one separates it from the others. -/
def lifetimesFirst (entries : List (List Token)) : List Token :=
  let lifetimes := (entries.filter isLifetime).flatten
  let others := (entries.filter (!isLifetime ·)).flatten
  let comma := Token.punct ',' false
  if lifetimes.isEmpty || others.isEmpty || lifetimes.getLast? == some comma then
    lifetimes ++ others
  else lifetimes ++ comma :: others

/-- Entries between angle brackets. -/
def angled (entry : Reader) : Reader :=
  symbol "<" ++ arranged lifetimesFirst (entry ++ optional (symbol ",")) ++ symbol ">"

/-- A constant that may stand without braces. -/
def constant : Reader :=
  optional (symbol "-") ++ literal <|> words ["true", "false"] <|> block sub

/-- A generic argument. -/
def argument : Reader :=
  unlessAt (lifetime ++ symbol "+") lifetime
  <|> constant sub
  <|> sub (.type true)
    ++ optional (symbol "=" ++ (constant sub <|> sub (.type true))
      <|> colon ++ optional (sub (.bounds true)))

/-- A declared generic parameter. -/
def parameter : Reader :=
  many (outerAttribute sub)
    ++ (lifetime ++ optional (symbol ":" ++ optional (sub (.bounds true)))
      <|> word "const" ++ ident ++ colon ++ sub (.type true)
        ++ optional (symbol "=" ++ (constant sub <|> sub (.type true)))
      <|> ident ++ optional (colon ++ optional (sub (.bounds true)))
        ++ optional (symbol "=" ++ sub (.type true)))

/-- Declared generic parameters; nothing is written for an empty list. -/
def parameters : Reader :=
  silent (symbol "<" ++ symbol ">") <|> angled (parameter sub)

/-- Lifetimes that are bound for what follows. -/
def binder : Reader :=
  word "for" ++ symbol "<" ++ listed (parameter sub) ++ symbol ">"

/-! ## Paths -/

/-- The name of the path's next segment with its arguments, as a reader of arguments reads them. -/
def pathOf (arguments : Reader) : Reader :=
  let segment := segmentName ++ optional arguments
  optional (symbol "::") ++ segment ++ many (symbol "::" ++ segment)

/-- The arguments of a segment in a type. A path separator before parentheses is not written. -/
def typeArguments : Reader :=
  optional (symbol "::") ++ angled (argument sub)
  <|> silent (optional (symbol "::")) ++ inside .round (listed (sub (.type true)))
    ++ optional (symbol "->" ++ sub (.type false))

/-- The arguments of a segment in an expression. -/
def turbofish : Reader :=
  symbol "::" ++ angled (argument sub)

/-- A path that begins at a type. -/
def qualified (arguments : Reader) : Reader :=
  symbol "<" ++ sub (.type true) ++ optional (word "as" ++ pathOf (typeArguments sub))
    ++ symbol ">" ++ many1 (symbol "::" ++ segmentName ++ optional arguments)

end Schemata.Record
