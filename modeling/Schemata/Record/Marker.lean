import Schemata.Record.Token

/-!
# Markers

The attribute `schema` of a record or one of its members holds a list of markers between brackets of
any kind, separated by commas. The list is read from left to right, and the first entry that is
malformed or unknown is the error. A trailing comma and an empty list are allowed.
-/

namespace Schemata.Record

/-- What is wrong with a record declaration. A flag says that the text ended. -/
inductive RecordError where
  /-- Something in the declaration is no token. -/
  | unreadable
  | typeMissing
  /-- Something stands behind the contents of an attribute. -/
  | bracketMissing
  | hasParameters
  | notARecord
  | membersUnnamed
  /-- The attribute has no list. -/
  | listMissing
  /-- The attribute has a value in place of a list. -/
  | valueForList
  | literalForName
  | tokenForName
  /-- A path marker with nothing behind it. -/
  | entryMissing
  | unknownRecordMarker
  | unknownMemberMarker
  | equalsMissing
  | commaMissing
  | integerTooLarge
  | integerNegative
  /-- A name that is derived from the declaration is none. -/
  | unusableName
  /-- An attribute does not begin with a path. -/
  | pathMissing (atEnd : Bool)
  /-- An attribute has no value behind its equals sign. -/
  | valueMissing (atEnd : Bool)
  | nameMissing (atEnd : Bool)
  | stringMissing (atEnd : Bool)
  | integerMissing (atEnd : Bool)
deriving Repr, DecidableEq

namespace RecordError

/-- An expectation that the text did not meet, or that its end left open. -/
def unmet (atEnd : Bool) (expectation : String) : String :=
  if atEnd then "unexpected end of input, " ++ expectation else expectation

def message : RecordError → String
  | unreadable => "cannot parse string into token stream"
  | typeMissing =>
    "expected one of: `for`, parentheses, `fn`, `unsafe`, `extern`, identifier, `::`, `<`, `dyn`, "
      ++ "square brackets, `*`, `&`, `!`, `impl`, `_`, lifetime"
  | bracketMissing => "unexpected token, expected `]`"
  | hasParameters => "Entity cannot be derived for generic structs"
  | notARecord => "Entity must be a struct"
  | membersUnnamed => "Entity must have named fields"
  | listMissing => "expected attribute arguments in parentheses: #[schema(...)]"
  | valueForList => "expected parentheses: #[schema(...)]"
  | literalForName => "unexpected literal in nested attribute, expected ident"
  | tokenForName => "unexpected token in nested attribute, expected ident"
  | entryMissing => "unexpected end of input, expected nested attribute"
  | unknownRecordMarker => "unknown struct attribute, expected `table = \"...\"`"
  | unknownMemberMarker =>
    "unknown schema attribute, expected one of `key`, `unique`, `row_version`, `max_length`, `column`"
  | equalsMissing => "expected `=`"
  | commaMissing => "expected `,`"
  | integerTooLarge => "number too large to fit in target type"
  | integerNegative => "invalid digit found in string"
  | unusableName => "a derived name is not an identifier"
  | pathMissing atEnd => unmet atEnd "expected identifier"
  | valueMissing atEnd => unmet atEnd "expected an expression"
  | nameMissing atEnd => unmet atEnd "expected ident"
  | stringMissing atEnd => unmet atEnd "expected string literal"
  | integerMissing atEnd => unmet atEnd "expected integer literal"

end RecordError

/-! ## Entries -/

/-- The tokens of the entries: the pieces between commas. -/
def entries : List Token → List (List Token)
  | [] => [[]]
  | .punct ',' _ :: rest => [] :: entries rest
  | t :: rest =>
    match entries rest with
    | [] => [[t]]
    | piece :: others => (t :: piece) :: others

/-- Drops the further segments of a path; `atEnd` says that no comma follows the tokens. -/
def readSegments (atEnd : Bool) : List Token → Except RecordError (Bool × List Token)
  | .punct ':' true :: .punct ':' _ :: .name _ :: rest => do
    let (_, rest) ← readSegments atEnd rest
    return (true, rest)
  | .punct ':' true :: .punct ':' _ :: rest => .error (.nameMissing (atEnd && rest.isEmpty))
  | rest => .ok (false, rest)

/-- Reads a path that does not begin with a separator: its name, if it is a single one. -/
def readPath (atEnd separated : Bool) :
    List Token → Except RecordError (Option (List Char) × List Token)
  | .name text :: rest => do
    let (longer, rest) ← readSegments atEnd rest
    return (if separated || longer then none else some text, rest)
  | .literal _ _ :: _ => .error .literalForName
  | .punct '-' _ :: .literal (.integer _) _ :: _ => .error .literalForName
  | .punct '-' _ :: .literal .other (d :: _) :: _ =>
    .error (if d.isDigit then .literalForName else .tokenForName)
  | [] => .error (if atEnd then .entryMissing else .tokenForName)
  | _ => .error .tokenForName

/-- Reads the path at the front of an entry. -/
def readEntryName (atEnd : Bool) :
    List Token → Except RecordError (Option (List Char) × List Token)
  | .punct ':' true :: .punct ':' _ :: rest => readPath atEnd true rest
  | tokens => readPath atEnd false tokens

/-- What follows the equals sign. -/
def readEquals : List Token → Except RecordError (List Token)
  | .punct '=' _ :: rest => .ok rest
  | _ => .error .equalsMissing

/-- Reads a string value. -/
def readString (atEnd : Bool) (tokens : List Token) :
    Except RecordError (List Char × List Token) := do
  match ← readEquals tokens with
  | .literal (.string value) _ :: rest => return (value, rest)
  | rest => throw (.stringMissing (atEnd && rest.isEmpty))

/-- Reads an integer value, which has to fit into 32 bits without a sign. -/
def readLength (atEnd : Bool) (tokens : List Token) :
    Except RecordError (UInt32 × List Token) := do
  match ← readEquals tokens with
  | .literal (.integer value) _ :: rest =>
    if value < UInt32.size then return (UInt32.ofNat value, rest) else throw .integerTooLarge
  | .punct '-' _ :: .literal (.integer _) _ :: _ => throw .integerNegative
  | rest => throw (.integerMissing (atEnd && rest.isEmpty))

/-- How an entry is read behind its name. -/
abbrev EntryReader (μ : Type) :=
  Bool → Option (List Char) → List Token → Except RecordError (μ × List Token)

/-- Reads one entry, which has to take all of its tokens. -/
def readEntry {μ : Type} (read : EntryReader μ) (atEnd : Bool) (tokens : List Token) :
    Except RecordError μ := do
  let (name, rest) ← readEntryName atEnd tokens
  let (marker, rest) ← read atEnd name rest
  if rest.isEmpty then return marker else throw .commaMissing

/-- Reads the entries in order. The last may be empty. -/
def readEntries {μ : Type} (read : EntryReader μ) :
    List (List Token) → Except RecordError (List μ)
  | [] => .ok []
  | [last] => if last.isEmpty then .ok [] else do return [← readEntry read true last]
  | entry :: rest => do
    let marker ← readEntry read false entry
    let markers ← readEntries read rest
    return marker :: markers

/-- Reads one attribute. Attributes under other paths hold no markers. -/
def readAttribute {μ : Type} (read : EntryReader μ) : List Token → Except RecordError (List μ)
  | [.name ['s', 'c', 'h', 'e', 'm', 'a']] => .error .listMissing
  | .name ['s', 'c', 'h', 'e', 'm', 'a'] :: .punct '=' _ :: _ => .error .valueForList
  | .name ['s', 'c', 'h', 'e', 'm', 'a'] :: .opening _ :: rest =>
    readEntries read (entries rest.dropLast)
  | _ => .ok []

/-- Reads attributes in order; their markers are one list. -/
def readAttributes {μ : Type} (read : EntryReader μ) :
    List (List Token) → Except RecordError (List μ)
  | [] => .ok []
  | first :: rest => do
    let markers ← readAttribute read first
    let others ← readAttributes read rest
    return markers ++ others

/-! ## Markers of records and members -/

/-- A marker of a record: the name of its table. -/
inductive RecordMarker where
  | table (name : List Char)
deriving Repr, DecidableEq

/-- A marker of a member. -/
inductive MemberMarker where
  | key
  | unique
  | rowVersion
  | maxLength (length : UInt32)
  | column (name : List Char)
deriving Repr, DecidableEq

def readRecordMarker : EntryReader RecordMarker := fun atEnd name tokens =>
  if name = some "table".toList then do
    let (value, rest) ← readString atEnd tokens
    return (.table value, rest)
  else .error .unknownRecordMarker

def readMemberMarker : EntryReader MemberMarker := fun atEnd name tokens =>
  if name = some "key".toList ∨ name = some "primary_key".toList then .ok (.key, tokens)
  else if name = some "unique".toList then .ok (.unique, tokens)
  else if name = some "row_version".toList then .ok (.rowVersion, tokens)
  else if name = some "max_length".toList ∨ name = some "size".toList then do
    let (length, rest) ← readLength atEnd tokens
    return (.maxLength length, rest)
  else if name = some "column".toList then do
    let (value, rest) ← readString atEnd tokens
    return (.column value, rest)
  else .error .unknownMemberMarker

end Schemata.Record
