import Schemata.Record.Grammar.ExpressionRule

/-!
# Statements and items

The rule for what stands in a block: statements, and items that are declared there.
-/

namespace Schemata.Record

open Reader

variable (sub : Forms)

/-! ## Items -/

def visibility : Reader :=
  optional (word "pub" ++ optional (inside .round (many1 (name <|> symbol "::"))))

/-- The conditions on declared parameters; nothing is written for none. -/
def conditions : Reader :=
  let condition := optional (binder sub)
    ++ (lifetime <|> unlessAt (bracket (.opening .curly)) (sub (.type true)))
    ++ colon ++ optional (sub (.bounds true))
  optional (word "where" ++ many1 (condition ++ optional (symbol ",")) <|> silent (word "where"))

/-- What has a type, with or without a name. -/
def typed : Reader :=
  many (outerAttribute sub) ++ visibility
    ++ optional (sub (.pattern false) ++ colon) ++ (symbol "..." <|> sub (.type true))

def functionItem : Reader :=
  many (words ["default", "const", "async", "unsafe", "extern"] <|> literal) ++ word "fn" ++ ident
    ++ optional (parameters sub) ++ inside .round (listed (typed sub))
    ++ optional (symbol "->" ++ sub (.type true)) ++ conditions sub ++ (block sub <|> symbol ";")

def constantItem : Reader :=
  words ["const", "static"] ++ optional (word "mut") ++ (ident <|> word "_")
    ++ optional (parameters sub) ++ colon ++ sub (.type true)
    ++ optional (symbol "=" ++ sub (.expression true)) ++ symbol ";"

def aliasItem : Reader :=
  word "type" ++ ident ++ optional (parameters sub) ++ optional (colon ++ optional (sub (.bounds true)))
    ++ conditions sub ++ optional (symbol "=" ++ sub (.type true)) ++ conditions sub ++ symbol ";"

def fieldList : Reader :=
  inside .round (listed (typed sub)) <|> inside .curly (listed (typed sub))

def recordItem : Reader :=
  words ["struct", "union"] ++ ident ++ optional (parameters sub) ++ conditions sub
    ++ (inside .curly (listed (typed sub))
      <|> optional (inside .round (listed (typed sub))) ++ conditions sub ++ symbol ";")

def enumerationItem : Reader :=
  word "enum" ++ ident ++ optional (parameters sub) ++ conditions sub
    ++ inside .curly (listed (many (outerAttribute sub) ++ ident ++ optional (fieldList sub)
      ++ optional (symbol "=" ++ sub (.expression true))))

def implementation : Reader :=
  many (words ["default", "unsafe"]) ++ word "impl" ++ optional (parameters sub)
    ++ optional (word "const") ++ optional (symbol "!") ++ sub (.type true)
    ++ optional (word "for" ++ sub (.type true)) ++ conditions sub ++ block sub

def traitItem : Reader :=
  many (words ["unsafe", "auto"]) ++ word "trait" ++ ident ++ optional (parameters sub)
    ++ optional (colon ++ optional (sub (.bounds true))) ++ conditions sub ++ block sub

def moduleItem : Reader :=
  optional (word "unsafe") ++ word "mod" ++ ident ++ (block sub <|> symbol ";")

/-- The names that an item brings in, as they stand up to the semicolon. -/
def importItem : Reader :=
  word "use"
    ++ many1 (name <|> symbols ["::", "*", ","] <|> inside .curly (many importPiece)) ++ symbol ";"
where
  importPiece : Reader := name <|> symbols ["::", "*", ","] <|> copied

def foreignItem : Reader :=
  optional (word "unsafe") ++ word "extern"
    ++ (word "crate" ++ name ++ optional (word "as" ++ name) ++ symbol ";"
      <|> optional literal ++ block sub)

/-- A macro call that declares a name. -/
def macroItem : Reader :=
  plainPath ++ symbol "!" ++ ident ++ copied ++ optional (symbol ";")

def item : Reader :=
  visibility
    ++ (functionItem sub <|> constantItem sub <|> aliasItem sub <|> recordItem sub
      <|> enumerationItem sub <|> implementation sub <|> traitItem sub <|> moduleItem sub
      <|> importItem <|> foreignItem sub)
  <|> macroItem

/-! ## Statements -/

def binding : Reader :=
  word "let" ++ sub (.pattern true) ++ optional (colon ++ sub (.type true))
    ++ optional (symbol "=" ++ sub (.expression true) ++ optional (word "else" ++ block sub))
    ++ symbol ";"

/-- A macro call with braces, which ends a statement unless a point or a question mark follows. -/
def macroStatement : Reader :=
  let call := plainPath ++ unlessAt (symbol "!=") (symbol "!")
    ++ ifAt (bracket (.opening .curly)) copied
  unlessAt (call ++ (symbol "?" <|> unlessAt (symbol "..") (symbol "."))) call

/-- The statements that are told by how they begin. -/
def headedStatement : Reader :=
  item sub <|> binding sub <|> macroStatement <|> blockValue sub

/-- A value behind attributes. These belong to a whole range, which gets parentheses, but only to the
first operand of anything else. -/
def attributedValue : Reader :=
  rewritten (fun written => .opening .round :: written ++ [.closing .round]) (range sub true)
    ++ furtherAssignments sub true
  <|> sub (.expression true)

def statement : Reader :=
  symbol ";"
  <|> innerAttribute sub
  <|> many1 (outerAttribute sub) ++ (headedStatement sub <|> attributedValue sub)
  <|> headedStatement sub
  <|> sub (.expression true)

def statementsRule : Reader :=
  many (statement sub)

end Schemata.Record
