import Schemata.Naming.Words

/-!
# Naming conventions

Table and column names that are derived from identifiers follow a convention; names that are given
explicitly are kept as they are. The raw mark of an identifier is dropped under every convention.
-/

namespace Schemata

/-- How derived names are written. -/
inductive Naming where
  | asDeclared
  | snakeCase
  | pascalCase
  | camelCase
deriving Repr, DecidableEq, Inhabited

namespace Naming

/-- Words joined by an underscore. -/
def underscored (parts : List (List Char)) : List Char :=
  ['_'].intercalate parts

/-- The words in lower case, joined by underscores. -/
def snake (cs : List Char) : List Char :=
  underscored ((words cs).map lowerWord)

/-- The words in upper case, joined by underscores. -/
def shoutySnake (cs : List Char) : List Char :=
  underscored ((words cs).map Text.upperText)

/-- The words capitalised and run together. -/
def pascal (cs : List Char) : List Char :=
  (words cs).flatMap capitalWord

/-- The words run together, all but the first capitalised. -/
def camel (cs : List Char) : List Char :=
  match words cs with
  | [] => []
  | first :: rest => lowerWord first ++ rest.flatMap capitalWord

/-- The name that the convention derives from an identifier. -/
def apply (convention : Naming) (identifier : String) : String :=
  let cs := Text.unraw identifier.toList
  String.ofList <| match convention with
    | asDeclared => cs
    | snakeCase => snake cs
    | pascalCase => pascal cs
    | camelCase => camel cs

end Naming

end Schemata
