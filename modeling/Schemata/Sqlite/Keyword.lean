import Schemata.Sqlite.Token

/-!
# Keywords and names

Case does not matter in keywords. Most keywords are names wherever the grammar has no other use for
them; the few that never are have to be quoted. Words that join tables, and the word `INDEXED`, are
names in most places but not in all of them. A text in apostrophes is a name where only a name can
stand.
-/

namespace Schemata.Sqlite

/-- The keywords that are never names. -/
def reserved : List String := [
  "ADD", "ALL", "ALTER", "AND", "AS", "AUTOINCREMENT", "BETWEEN", "CASE", "CHECK", "COLLATE",
  "COMMIT", "CONSTRAINT", "CREATE", "DEFAULT", "DEFERRABLE", "DELETE", "DISTINCT", "DROP", "ELSE",
  "ESCAPE", "EXCEPT", "EXISTS", "FOREIGN", "FROM", "GROUP", "HAVING", "IN", "INDEX", "INSERT",
  "INTERSECT", "INTO", "IS", "ISNULL", "JOIN", "LIMIT", "NOT", "NOTHING", "NOTNULL", "NULL", "ON",
  "OR", "ORDER", "PRIMARY", "REFERENCES", "RETURNING", "SELECT", "SET", "TABLE", "THEN", "TO",
  "TRANSACTION", "UNION", "UNIQUE", "UPDATE", "USING", "VALUES", "WHEN", "WHERE"]

/-- The keywords of joins. -/
def joinWords : List String :=
  ["CROSS", "FULL", "INNER", "LEFT", "NATURAL", "OUTER", "RIGHT"]

/-- The points in time that have a word of their own. -/
def clockWords : List String :=
  ["CURRENT_DATE", "CURRENT_TIME", "CURRENT_TIMESTAMP"]

namespace Token

/-- Whether a token is this keyword, written here in upper case. -/
def isKeyword (keyword : String) : Token → Bool
  | word text => text.map Char.toUpper == keyword.toList
  | _ => false

def isOneOf (keywords : List String) (t : Token) : Bool :=
  keywords.any t.isKeyword

/-- The text of a name where words of joins are none. -/
def plainName? : Token → Option (List Char)
  | word text =>
    if (word text).isOneOf reserved || (word text).isOneOf joinWords
      || (word text).isKeyword "INDEXED" then none
    else some text
  | quoted _ text => some text
  | _ => none

/-- The text of a name where words of joins are names. -/
def bareName? : Token → Option (List Char)
  | word text => if (word text).isOneOf reserved then none else some text
  | quoted _ text => some text
  | _ => none

/-- The text of a name where a text in apostrophes is one. -/
def nameText? : Token → Option (List Char)
  | string text => some text
  | t => t.bareName?

end Token

/-! ## Taking tokens off -/

/-- Takes a sequence of keywords off the tokens. -/
def readKeywords : List String → List Token → Option (List Token)
  | [], tokens => some tokens
  | _ :: _, [] => none
  | keyword :: more, t :: rest => if t.isKeyword keyword then readKeywords more rest else none

/-- Whether the tokens begin with these keywords. -/
def startWith (keywords : List String) (tokens : List Token) : Bool :=
  (readKeywords keywords tokens).isSome

/-- The tokens behind these keywords, if they are there. -/
def behindKeywords (keywords : List String) (tokens : List Token) : List Token :=
  (readKeywords keywords tokens).getD tokens

/-- Takes one of several keywords off the tokens. -/
def readOneOf (keywords : List String) : List Token → Option (List Token)
  | t :: rest => if t.isOneOf keywords then some rest else none
  | [] => none

/-- Takes a symbol off the tokens. -/
def readSymbol (s : String) : List Token → Option (List Token)
  | t :: rest => if t = .symbol s then some rest else none
  | [] => none

def readName : List Token → Option (String × List Token)
  | t :: rest => t.nameText?.map fun text => (String.ofList text, rest)
  | [] => none

/-- Drops tokens up to the parenthesis that closes them. -/
def behindClosing : Nat → List Token → Option (List Token)
  | _, [] => none
  | depth, t :: rest =>
    if t = .symbol "(" then behindClosing (depth + 1) rest
    else if t = .symbol ")" then
      match depth with
      | 0 => some rest
      | depth + 1 => behindClosing depth rest
    else behindClosing depth rest

end Schemata.Sqlite
