/-!
# JSON values

A JSON value as its text gives it: objects keep every member in order, repeated keys included, and a
number that is not written as an integer keeps its spelling. `str` holds no characters when the
escapes of the text contain half of a surrogate pair, which is well-formed JSON that stands for no
string; the same goes for the keys of an object.
-/

namespace Schemata

inductive Json where
  | null
  | bool (value : Bool)
  | int (value : Int)
  /-- A number with a fraction or an exponent, or negative zero, as it is spelled. -/
  | decimal (spelling : String)
  | str (value : Option String)
  | arr (items : List Json)
  | obj (members : List (Option String × Json))
deriving Repr, Inhabited

namespace Json

/-- A string value. -/
def text (s : String) : Json :=
  str (some s)

/-- An object whose keys are strings. -/
def object (members : List (String × Json)) : Json :=
  obj (members.map fun m => (some m.1, m.2))

def ofNat (n : Nat) : Json :=
  int n

/-- The value, or null when there is none. -/
def ofOption {α : Type} (f : α → Json) : Option α → Json
  | none => null
  | some a => f a

def texts (ss : List String) : Json :=
  arr (ss.map text)

/-- The values of all members with this key, in order. -/
def valuesAt (key : String) (members : List (Option String × Json)) : List Json :=
  (members.filter fun m => m.1 == some key).map (·.2)

/-- The member with this key of an object; the last one counts. -/
def get? (key : String) : Json → Option Json
  | obj members => (valuesAt key members).getLast?
  | _ => none

/-- Members without those whose key is repeated further on. -/
def keepLast : List (Option String × Json) → List (Option String × Json)
  | [] => []
  | m :: rest =>
    if rest.any (fun r => r.1 == m.1) then keepLast rest else m :: keepLast rest

mutual

/-- The value with only the last member of every repeated key, at any depth. -/
def lastWins : Json → Json
  | arr items => arr (lastWinsItems items)
  | obj members => obj (keepLast (lastWinsMembers members))
  | null => null
  | bool b => bool b
  | int n => int n
  | decimal s => decimal s
  | str s => str s

def lastWinsItems : List Json → List Json
  | [] => []
  | j :: rest => lastWins j :: lastWinsItems rest

def lastWinsMembers : List (Option String × Json) → List (Option String × Json)
  | [] => []
  | (key, j) :: rest => (key, lastWins j) :: lastWinsMembers rest

end

end Json

end Schemata
