import Schemata.Sqlite.Expression
import Schemata.Sqlite.Keyword

/-!
# Reading expressions

Operators bind in levels, from `OR` at the lowest to the signs before a value at the highest, and equal
levels bind from the left. The bound of `BETWEEN` ends at the first `AND` that no operator within it
takes. Queries in parentheses and windows are passed over up to their closing parenthesis.

Each reader takes what it reads off the front of the tokens and returns the rest. Every step into an
expression gives up a unit of fuel; one unit more than there are tokens is enough, since each step but
the last has taken a token or goes on to one that will.
-/

namespace Schemata.Sqlite

/-! ## Parts that hold no expression -/

/-- Drops a number with an optional sign. -/
def readSigned : List Token → Option (List Token)
  | .symbol s :: rest =>
    if s = "+" ∨ s = "-" then
      match rest with
      | .integer _ :: rest => some rest
      | .decimal :: rest => some rest
      | _ => none
    else none
  | .integer _ :: rest => some rest
  | .decimal :: rest => some rest
  | _ => none

/-- Drops the one or two numbers in parentheses behind a type, if they are there. -/
def readTypeSizes (tokens : List Token) : Option (Bool × List Token) :=
  match readSymbol "(" tokens with
  | none => some (false, tokens)
  | some rest => do
    let rest ← readSigned rest
    match readSymbol "," rest with
    | some rest => return (true, ← readSymbol ")" (← readSigned rest))
    | none => return (true, ← readSymbol ")" rest)

/-- The words of a type. -/
def readTypeWords : List Token → List (List Char) × List Token
  | .string text :: rest => let (words, rest) := readTypeWords rest; (text :: words, rest)
  | t :: rest =>
    match t.plainName? with
    | some text => let (words, rest) := readTypeWords rest; (text :: words, rest)
    | none => ([], t :: rest)
  | [] => ([], [])

/-- A type as it is written: its words, and whether sizes follow them. -/
structure TypeName where
  words : List (List Char)
  isSized : Bool
deriving Repr, DecidableEq

/-- Reads a type, which may be missing. -/
def readTypeName (tokens : List Token) : Option (TypeName × List Token) :=
  let (words, rest) := readTypeWords tokens
  if words.isEmpty then some (⟨[], false⟩, rest)
  else (readTypeSizes rest).map fun (isSized, rest) => (⟨words, isSized⟩, rest)

/-- Whether a query begins here. -/
def startsQuery : List Token → Bool
  | t :: _ => t.isOneOf ["SELECT", "VALUES", "WITH"]
  | [] => false

/-- Drops the window of a function, if it has one. -/
def readOver (tokens : List Token) : Option (Bool × List Token) :=
  match readKeywords ["OVER"] tokens with
  | none => some (false, tokens)
  | some rest =>
    match readSymbol "(" rest with
    | some rest => (behindClosing 0 rest).map (true, ·)
    | none => (readName rest).map fun r => (true, r.2)

/-! ## Operators -/

/-- The operators between two values that only their level tells apart. -/
def levelOf? : Token → Option (Nat × Bool)
  | .symbol s =>
    if ["=", "==", "<>", "!="].contains s then some (4, true)
    else if ["<", "<=", ">", ">="].contains s then some (5, true)
    else if ["&", "|", "<<", ">>"].contains s then some (7, false)
    else if ["+", "-"].contains s then some (8, false)
    else if ["*", "/", "%"].contains s then some (9, false)
    else if s = "||" then some (10, false)
    else none
  | _ => none

/-- The operators that stand for a function of the same name. -/
def functionOperator? (t : Token) : Option String :=
  ["LIKE", "GLOB", "REGEXP", "MATCH"].find? t.isKeyword

/-- The most arguments that a function may be given. -/
def maxArguments : Nat :=
  127

/-- A call, unless it has too many arguments. -/
def callOf? (function : String) (arguments ordering : List Expression) (isWindowed : Bool) :
    Option Expression :=
  if arguments.length ≤ maxArguments then some (.call function arguments ordering isWindowed)
  else none

/-- Membership in a list. Nothing is a member of the empty list, and the members of a list to which a
row may belong have to be equally wide. -/
def memberOf? (e : Expression) (items : List Expression) : Option Expression :=
  match e, items with
  | _, [] => some .value
  | .row columns, items =>
    if items.all fun item => item.width == columns.length then some .query else none
  | e, items => some (.operation (e :: items))

/-- Whether a parameter is one that a statement may hold: a numbered one counts from one. -/
def isParameter : List Char → Bool
  | '#' :: cs => !cs.head?.any Char.isDigit
  | [] => true
  | c :: cs =>
    if c.isDigit then
      let n := Text.numberOf 10 ((c :: cs).filterMap (Text.digitValue? 10))
      decide (1 ≤ n) && decide (n ≤ 32766)
    else true

/-- A value that is written out, at the front of the tokens. -/
def readValue? : List Token → Option (Expression × List Token)
  | .integer text :: rest =>
    some (if text.all fun c => c == '0' || c == 'x' then .zero else .value, rest)
  | .decimal :: rest => some (.decimal, rest)
  | .spaced :: rest => some (.value, rest)
  | .blob :: rest => some (.value, rest)
  | .parameter text :: rest => if isParameter text then some (.parameter, rest) else none
  | t :: rest =>
    if t.isKeyword "NULL" then some (.value, rest)
    else if t.isOneOf clockWords then some (.clock, rest)
    else none
  | [] => none

/-- Reads a column behind the name of its table, or its table behind the name of its database. -/
def readQualified (first : String) (tokens : List Token) : Option (Expression × List Token) := do
  let (second, rest) ← readName tokens
  match readSymbol "." rest with
  | none => return (.qualified none first second, rest)
  | some rest => do
    let (third, rest) ← readName rest
    return (.qualified (some first) second third, rest)

/-- Reads what a trigger may raise, behind the opening parenthesis. -/
def readRaised (tokens : List Token) : Option (Expression × List Token) :=
  match readKeywords ["IGNORE"] tokens with
  | some rest => (readSymbol ")" rest).map (.raised, ·)
  | none => do
    let rest ← readSymbol "," (← readOneOf ["ROLLBACK", "ABORT", "FAIL"] tokens)
    let (_, rest) ← readName rest
    return (.raised, ← readSymbol ")" rest)

/-! ## Expressions -/

mutual

/-- Reads an expression of operators of a level or above. With `stopsAtAnd` an `AND` ends it that no
operator within it takes. -/
def readLevel : Nat → Bool → Nat → List Token → Option (Expression × List Token)
  | 0, _, _, _ => none
  | fuel + 1, stopsAtAnd, level, tokens => do
    let (e, rest) ← readOperand fuel tokens
    readOperators fuel stopsAtAnd level e rest

/-- Reads the operators behind an expression, as far as they are of a level or above. -/
def readOperators : Nat → Bool → Nat → Expression → List Token → Option (Expression × List Token)
  | 0, _, _, _, _ => none
  | fuel + 1, stopsAtAnd, level, e, tokens =>
    match tokens with
    | [] => some (e, [])
    | t :: rest =>
      let isNegated := t.isKeyword "NOT"
      match levelOf? t with
      | some (own, compares) =>
        if own < level then some (e, tokens)
        else do
          let (right, rest) ← readLevel fuel false (own + 1) rest
          let joined := if compares then Expression.comparison [e, right] else .operation [e, right]
          readOperators fuel stopsAtAnd level joined rest
      | none =>
        if t = .symbol "->" ∨ t = .symbol "->>" then
          if 10 < level then some (e, tokens)
          else do
            let (right, rest) ← readLevel fuel false 11 rest
            readOperators fuel stopsAtAnd level (.call "->" [e, right] [] false) rest
        else if t.isKeyword "COLLATE" then
          if 11 < level then some (e, tokens)
          else match rest with
            | .string text :: rest =>
              readOperators fuel stopsAtAnd level (.collated e (String.ofList text)) rest
            | t :: rest =>
              match t.plainName? with
              | some text =>
                readOperators fuel stopsAtAnd level (.collated e (String.ofList text)) rest
              | none => none
            | [] => none
        else if t.isKeyword "OR" then
          if 1 < level then some (e, tokens)
          else do
            let (right, rest) ← readLevel fuel false 2 rest
            readOperators fuel stopsAtAnd level (.operation [e, right]) rest
        else if t.isKeyword "AND" then
          if 2 < level ∨ stopsAtAnd then some (e, tokens)
          else do
            let (right, rest) ← readLevel fuel false 3 rest
            readOperators fuel stopsAtAnd level (e.conjunction right) rest
        else if (if isNegated then 3 else 4) < level then some (e, tokens)
        else
          match readTest fuel isNegated e (if isNegated then rest else tokens) with
          | none => if isNegated then none else some (e, tokens)
          | some (e, rest) => readOperators fuel stopsAtAnd level e rest

/-- Reads a test of the expression before it, such as membership or a pattern. The token that begins it
decides that it is one; behind `NOT` it has to be one. -/
def readTest : Nat → Bool → Expression → List Token → Option (Expression × List Token)
  | 0, _, _, _ => none
  | fuel + 1, isNegated, e, tokens =>
    match tokens with
    | [] => none
    | t :: rest =>
      match functionOperator? t with
      | some function => do
        let (pattern, rest) ← readLevel fuel false 5 rest
        match readKeywords ["ESCAPE"] rest with
        | some rest => do
          let (escape, rest) ← readLevel fuel false 5 rest
          return (.call function [pattern, e, escape] [] false, rest)
        | none => return (.call function [pattern, e] [] false, rest)
      | none =>
        if t.isKeyword "BETWEEN" then do
          let (low, rest) ← readLevel fuel true 1 rest
          let rest ← readKeywords ["AND"] rest
          let (high, rest) ← readLevel fuel false 5 rest
          return (.comparison [e, low, high], rest)
        else if t.isKeyword "IN" then
          match readSymbol "(" rest with
          | some rest =>
            if startsQuery rest then (behindClosing 0 rest).map (.operation [e, .query], ·)
            else do
              let (items, rest) ← readItems fuel rest
              let rest ← readSymbol ")" rest
              return (← memberOf? e items, rest)
          | none => do
            let (_, rest) ← readName rest
            let rest ← match readSymbol "." rest with
              | some rest => (readName rest).map (·.2)
              | none => some rest
            match readSymbol "(" rest with
            | some rest => do
              let (_, rest) ← readItems fuel rest
              return (.operation [e, .query], ← readSymbol ")" rest)
            | none => return (.operation [e, .query], rest)
        else if isNegated then (readKeywords ["NULL"] tokens).map (.operation [e], ·)
        else if t.isOneOf ["ISNULL", "NOTNULL"] then some (.operation [e], rest)
        else if t.isKeyword "IS" then do
          let rest := behindKeywords ["DISTINCT", "FROM"] (behindKeywords ["NOT"] rest)
          let (right, rest) ← readLevel fuel false 5 rest
          return (.comparison [e, right], rest)
        else none

/-- Reads a value, a name, a call, or an expression in parentheses, with the signs before it. -/
def readOperand : Nat → List Token → Option (Expression × List Token)
  | 0, _ => none
  | fuel + 1, tokens =>
    match tokens with
    | [] => none
    | t :: rest =>
      match readValue? tokens with
      | some (e, rest) => some (e, rest)
      | none =>
        if t = .symbol "(" then
          if startsQuery rest then (behindClosing 0 rest).map (.query, ·)
          else do
            let (items, rest) ← readItems fuel rest
            let rest ← readSymbol ")" rest
            match items with
            | [] => none
            | [e] => return (e, rest)
            | items => return (.row items, rest)
        else if t = .symbol "+" ∨ t = .symbol "-" ∨ t = .symbol "~" then do
          let (e, rest) ← readLevel fuel false 12 rest
          return (.operation [e], rest)
        else if t.isKeyword "NOT" then do
          let (e, rest) ← readLevel fuel false 3 rest
          return (.operation [e], rest)
        else if t.isKeyword "EXISTS" then do
          let rest ← readSymbol "(" rest
          if startsQuery rest then (behindClosing 0 rest).map (.query, ·) else none
        else if t.isKeyword "CASE" then do
          let (operands, rest) ←
            if startWith ["WHEN"] rest then some ([], rest)
            else (readLevel fuel false 1 rest).map fun (e, rest) => ([e], rest)
          let (cases, rest) ← readCases fuel rest
          return (.operation (operands ++ cases), rest)
        else if t.isKeyword "CAST" then do
          let (e, rest) ← readLevel fuel false 1 (← readSymbol "(" rest)
          let (_, rest) ← readTypeName (← readKeywords ["AS"] rest)
          return (.operation [e], ← readSymbol ")" rest)
        else if t.isKeyword "RAISE" then do
          readRaised (← readSymbol "(" rest)
        else
          match readSymbol "." rest, readSymbol "(" rest with
          | some behind, _ => do
            let text ← t.nameText?
            readQualified (String.ofList text) behind
          | none, some behind => do
            let text ← t.bareName?
            readCall fuel (String.ofList text) behind
          | none, none =>
            match t with
            | .string text => some (.string (String.ofList text), rest)
            | .quoted mark text => some (.name (some mark) (String.ofList text), rest)
            | t => t.bareName?.map fun text => (.name none (String.ofList text), rest)

/-- Reads the arguments of a call and what follows them. -/
def readCall : Nat → String → List Token → Option (Expression × List Token)
  | 0, _, _ => none
  | fuel + 1, function, tokens => do
    let (arguments, rest) ← match readSymbol "*" tokens with
      | some rest => some ([], rest)
      | none => readItems fuel ((readOneOf ["DISTINCT", "ALL"] tokens).getD tokens)
    let (ordering, rest) ← match readKeywords ["ORDER", "BY"] rest with
      | some rest => if tokens.head? = some (.symbol "*") then none else readSorted fuel rest
      | none => some ([], rest)
    let rest ← readSymbol ")" rest
    let (isFiltered, rest) ← match readKeywords ["FILTER"] rest with
      | none => some (false, rest)
      | some rest => readFilter fuel rest
    let (isOver, rest) ← readOver rest
    return (← callOf? function arguments ordering (isFiltered || isOver), rest)

/-- Reads the filter of a call. -/
def readFilter : Nat → List Token → Option (Bool × List Token)
  | 0, _ => none
  | fuel + 1, tokens => do
    let rest ← readKeywords ["WHERE"] (← readSymbol "(" tokens)
    let (_, rest) ← readLevel fuel false 1 rest
    return (true, ← readSymbol ")" rest)

/-- Reads the cases of a `CASE` up to its end. -/
def readCases : Nat → List Token → Option (List Expression × List Token)
  | 0, _ => none
  | fuel + 1, tokens => do
    let (test, rest) ← readLevel fuel false 1 (← readKeywords ["WHEN"] tokens)
    let (result, rest) ← readLevel fuel false 1 (← readKeywords ["THEN"] rest)
    if startWith ["WHEN"] rest then
      let (cases, rest) ← readCases fuel rest
      return (test :: result :: cases, rest)
    else
      match readKeywords ["ELSE"] rest with
      | some rest => do
        let (other, rest) ← readLevel fuel false 1 rest
        return ([test, result, other], ← readKeywords ["END"] rest)
      | none => return ([test, result], ← readKeywords ["END"] rest)

/-- Reads expressions between commas, perhaps none before a closing parenthesis or an ordering. -/
def readItems : Nat → List Token → Option (List Expression × List Token)
  | 0, _ => none
  | fuel + 1, tokens =>
    if tokens.head? = some (.symbol ")") ∨ startWith ["ORDER"] tokens then some ([], tokens)
    else do
      let (e, rest) ← readLevel fuel false 1 tokens
      match readSymbol "," rest with
      | none => return ([e], rest)
      | some rest =>
        if rest.head? = some (.symbol ")") ∨ startWith ["ORDER"] rest then none
        else do
          let (items, rest) ← readItems fuel rest
          return (e :: items, rest)

/-- Reads expressions between commas, each perhaps with an order. -/
def readSorted : Nat → List Token → Option (List Expression × List Token)
  | 0, _ => none
  | fuel + 1, tokens => do
    let (e, rest) ← readLevel fuel false 1 tokens
    let rest := (readOneOf ["ASC", "DESC"] rest).getD rest
    let rest ← match readKeywords ["NULLS"] rest with
      | some rest => readOneOf ["FIRST", "LAST"] rest
      | none => some rest
    match readSymbol "," rest with
    | none => return ([e], rest)
    | some rest => do
      let (items, rest) ← readSorted fuel rest
      return (e :: items, rest)

end

/-- The greatest depth of an expression. -/
def maxDepth : Nat :=
  1000

/-- Reads an expression. -/
def readExpression (tokens : List Token) : Option (Expression × List Token) :=
  (readLevel (4 * tokens.length + 4) false 1 tokens).filter fun r => decide (r.1.depth ≤ maxDepth)

/-- Reads an expression and the parenthesis behind it. -/
def readEnclosed (tokens : List Token) : Option (Expression × List Token) := do
  let (e, rest) ← readExpression tokens
  return (e, ← readSymbol ")" rest)

end Schemata.Sqlite
