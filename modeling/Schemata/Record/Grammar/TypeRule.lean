import Schemata.Record.Grammar.Form

/-!
# Types and bounds

The rules for types and for what a type may be bound by. References and pointers bind more tightly
than the plus signs between bounds.
-/

namespace Schemata.Record

open Reader

variable (sub : Forms)

/-- How strongly a bound holds. -/
def constness : Reader :=
  symbol "~" ++ word "const" <|> inside .square (word "const") <|> words ["const", "async"]

def bound : Reader :=
  lifetime
  <|> word "use" ++ angled (lifetime <|> segmentName)
  <|> inside .round (sub (.bounds false))
  <|> optional (binder sub) ++ optional constness ++ optional (symbol "?") ++ optional (binder sub)
    ++ pathOf (typeArguments sub)

/-- Further bounds; the last plus sign may stand alone. -/
def furtherBounds (sums : Bool) : Reader :=
  if sums then many (symbol "+" ++ optional (bound sub)) else empty

def boundsRule (sums : Bool) : Reader :=
  bound sub ++ furtherBounds sub sums

/-- A parameter of a function type, which need not have a name. -/
def unnamedParameter : Reader :=
  many (outerAttribute sub) ++ optional (name ++ colon) ++ (symbol "..." <|> sub (.type true))

def functionType : Reader :=
  optional (word "unsafe") ++ optional (word "extern" ++ optional stringLiteral) ++ word "fn"
    ++ inside .round (listed (unnamedParameter sub)) ++ optional (symbol "->" ++ sub (.type false))

/-- An element of a parenthesised type. -/
def element : Reader :=
  ifAt (symbol "?" <|> lifetime) (sub (.bounds true)) <|> sub (.type true)

def typeRule (sums : Bool) : Reader :=
  binder sub ++ sub (.type sums)
  <|> inside .round (listed (element sub)) ++ furtherBounds sub sums
  <|> functionType sub
  <|> qualified sub (typeArguments sub)
  <|> word "dyn" ++ optional (symbol "*") ++ sub (.bounds sums)
  <|> word "impl" ++ sub (.bounds sums)
  <|> inside .square (sub (.type true) ++ optional (symbol ";" ++ sub (.expression true)))
  <|> symbol "*" ++ words ["const", "mut"] ++ sub (.type false)
  <|> symbol "&" ++ optional lifetime ++ optional (word "mut") ++ sub (.type false)
  <|> symbol "!"
  <|> word "_"
  <|> ifAt lifetime (sub (.bounds true))
  <|> macroCall
  <|> pathOf (typeArguments sub) ++ furtherBounds sub sums

end Schemata.Record
