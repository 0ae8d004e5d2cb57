import Schemata.Record.Grammar.Form
import Schemata.Text.Digit
import Schemata.Text.Split

/-!
# Patterns and expressions

The rules for patterns and for expressions. Which characters spell one symbol depends on where they
stand: two ampersands between operands are one operator, before an operand they are two references;
two bars before an operand are the empty parameters of a closure. Precedence matters only where a
range ends.
-/

namespace Schemata.Record

open Reader

variable (sub : Forms)

/-- A path in an expression. -/
def valuePath : Reader :=
  pathOf (turbofish sub) <|> qualified sub (turbofish sub)

/-! ## Patterns -/

/-- What stands between the brackets of a pattern. -/
def subpatterns : Reader :=
  many (symbol "," <|> colon <|> sub (.pattern true))

/-- A name, a symbol or a pair of brackets of a pattern. -/
def patternPiece (bars : Bool) : Reader :=
  outerAttribute sub
  <|> word "const" ++ block sub
  <|> macroCall
  <|> valuePath sub ++ optional (inside .curly (subpatterns sub))
  <|> words ["_", "ref", "mut", "box", "true", "false"]
  <|> literal
  <|> symbols ["..=", "...", "..", "-", "&", "@"]
  <|> inside .round (subpatterns sub)
  <|> inside .square (subpatterns sub)
  <|> if bars then symbol "|" else choice []

def patternRule (bars : Bool) : Reader :=
  many1 (patternPiece sub bars)

/-! ## Expressions -/

def assignments : List String :=
  ["<<=", ">>=", "+=", "-=", "*=", "/=", "%=", "^=", "&=", "|=", "="]

/-- The infix operators that compute, those of two characters first. -/
def operators : List String :=
  ["&&", "||", "<<", ">>", "==", "<=", "!=", ">=", "+", "-", "*", "/", "%", "^", "&", "|", "<", ">"]

def assignment : Reader :=
  unlessAt (symbols ["==", "=>"]) (symbols assignments)

def operator : Reader :=
  unlessAt assignment (symbols operators)

def rangeSymbol : Reader :=
  symbols ["..=", ".."]

/-- A value that may be missing. Where braces end what stands before them, it begins with none. -/
def optionalValue (braces : Bool) (p : Reader) : Reader :=
  if braces then optional p else optional (unlessAt (bracket (.opening .curly)) p)

/-- What follows an operand up to a range symbol. -/
def furtherOperands (braces : Bool) : Reader :=
  many (word "as" ++ sub (.type false) <|> operator ++ sub (.operand braces))

def operands (braces : Bool) : Reader :=
  sub (.operand braces) ++ furtherOperands sub braces

/-- A range symbol and what it goes up to. -/
def rangeEnd (braces : Bool) : Reader :=
  rangeSymbol ++ optionalValue braces (operands sub braces)

def range (braces : Bool) : Reader :=
  rangeEnd sub braces <|> operands sub braces ++ rangeEnd sub braces

def rangeOrValue (braces : Bool) : Reader :=
  operands sub braces ++ optional (rangeEnd sub braces)

def furtherAssignments (braces : Bool) : Reader :=
  many (assignment ++ rangeOrValue sub braces)

def expressionRule (braces : Bool) : Reader :=
  rangeOrValue sub braces ++ furtherAssignments sub braces

def closure (braces : Bool) : Reader :=
  symbol "|"
    ++ listed (many (outerAttribute sub) ++ sub (.pattern false)
      ++ optional (colon ++ sub (.type true)))
    ++ symbol "|"
    ++ (symbol "->" ++ sub (.type true) ++ block sub <|> sub (.expression braces))

/-! ## Blocks -/

/-- What may follow a value: a call, an index, a question mark, a member. -/
def trailer : Reader :=
  inside .round (listed (sub (.expression true)))
  <|> inside .square (sub (.expression true))
  <|> symbol "?"
  <|> unlessAt (symbol "..") (symbol ".") ++ sub .member

/-- An expression that ends in a block, as a statement or as the value of an arm. It goes on only at
a point or a question mark. -/
def blockValue : Reader :=
  sub .blocklike
    ++ optional (ifAt (symbol "?" <|> unlessAt (symbol "..") (symbol "."))
      (many (trailer sub) ++ furtherOperands sub true ++ optional (rangeEnd sub true)
        ++ furtherAssignments sub true))

def arm : Reader :=
  innerAttribute sub
  <|> many (outerAttribute sub) ++ sub (.pattern true)
    ++ optional (word "if" ++ sub (.expression true)) ++ symbol "=>"
    ++ (blockValue sub <|> sub (.expression true))

def blocklikeRule : Reader :=
  word "if" ++ sub (.expression false) ++ block sub
    ++ optional (word "else" ++ (ifAt (word "if") (sub .blocklike) <|> block sub))
  <|> word "while" ++ sub (.expression false) ++ block sub
  <|> unlessAt (binder sub) (word "for") ++ sub (.pattern true) ++ word "in"
    ++ sub (.expression false) ++ block sub
  <|> word "match" ++ sub (.expression false)
    ++ inside .curly (listed (arm sub))
  <|> words ["loop", "unsafe", "const", "try"] ++ block sub
  <|> lifetime ++ colon ++ sub .blocklike
  <|> block sub

/-! ## Operands -/

/-- The numeral of a number, whatever it was written as. -/
def numeral (value : Nat) : Token :=
  .literal (.integer value) (Nat.toDigits 10 value)

/-- The numbers in the text of a fraction, which name members of members. -/
def numbersIn (spelling : List Char) : List Token :=
  let numerals := (Text.splitAll '.' spelling).map fun cs =>
    if cs.isEmpty then []
    else [numeral (Text.numberOf 10 (cs.filterMap (Text.digitValue? 10)))]
  (numerals.intersperse [.punct '.' false]).flatten

/-- A member that is named by its number. -/
def numberedMember : Reader :=
  rewritten (fun written => match written with
    | [.literal (.integer value) _] => [numeral value]
    | [.literal .other spelling] => numbersIn spelling
    | written => written) literal

def endsInPoint : Token → Bool
  | .literal .other spelling => spelling.getLast? == some '.'
  | _ => false

def memberRule : Reader :=
  ifAt (token endsInPoint) numberedMember ++ sub .member
  <|> numberedMember
  <|> (word "await" <|> ident ++ optional (turbofish sub))

/-- The fields of a record between its braces. -/
def recordFields : Reader :=
  listed (many (outerAttribute sub)
    ++ (rangeSymbol ++ optional (sub (.expression true))
      <|> (ident <|> numberedMember) ++ optional (colon ++ sub (.expression true))))

/-- An operand without what follows it. -/
def atom (braces : Bool) : Reader :=
  closure sub braces
  <|> rangeEnd sub braces
  <|> sub .blocklike
  <|> word "let" ++ sub (.pattern true) ++ symbol "=" ++ sub (.operand false)
  <|> words ["return", "yield", "become"] ++ optional (sub (.expression braces))
  <|> words ["break", "continue"] ++ optional (unlessAt (lifetime ++ colon) lifetime)
    ++ optionalValue braces (sub (.expression braces))
  <|> words ["async", "move", "static", "const"] ++ sub (.operand braces)
  <|> binder sub ++ sub (.operand braces)
  <|> words ["_", "true", "false"]
  <|> literal
  <|> inside .round (listed (sub (.expression true)))
  <|> inside .square (many (symbols [",", ";"] <|> sub (.expression true)))
  <|> macroCall
  <|> valuePath sub
    ++ (if braces then optional (inside .curly (recordFields sub)) else empty)

def operandRule (braces : Bool) : Reader :=
  outerAttribute sub ++ sub (.operand braces)
  <|> symbol "&"
    ++ optional (word "raw" ++ words ["const", "mut"] <|> word "mut") ++ sub (.operand braces)
  <|> symbols ["*", "-", "!"] ++ sub (.operand braces)
  <|> atom sub braces ++ many (trailer sub)

end Schemata.Record
