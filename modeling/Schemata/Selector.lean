import Schemata.DeclarationError
import Schemata.Entity
import Schemata.Text.Identifier
import Schemata.Text.Shown
import Schemata.TypeTag.Written
import Schemata.ValueType

/-!
# Selectors

A selector names a member of an entity and the type of its column. It may be a text such as `total` or
`total as Decimal`, a name with a tag, or a typed member that a declaration has provided.
`Selector.resolve` finds the member and the tag. Only a text is checked against the entity's members,
because the other two carry their type with them.
-/

namespace Schemata

/-- A member of known value type. -/
structure TypedMember where
  member : String
  type : ValueType
deriving Repr, DecidableEq

namespace TypedMember

/-- The member read as another type. -/
def cast (m : TypedMember) (type : ValueType) : TypedMember :=
  { m with type }

/-- The selector as diagnostics show it. -/
def describe (m : TypedMember) : String :=
  "Field(" ++ Text.shown m.member ++ ")"

end TypedMember

inductive Selector where
  | text (expression : String)
  | named (member : String) (tag : TypeTag)
  | typed (member : TypedMember)
deriving Repr, DecidableEq

/-- What a selector stands for. -/
structure Selection where
  member : String
  type : TypeTag
deriving Repr, DecidableEq

/-- The tag of a written type, or the text that no tag belongs to. -/
def TypeTag.ofFieldType (text : String) : Except DeclarationError TypeTag :=
  match TypeTag.ofWritten? text.toList with
  | some tag => .ok tag
  | none => .error (.unsupportedType (Text.trimmed text))

/-- The tag that a text names. -/
def TypeTag.ofTagText (text : String) : Except DeclarationError TypeTag :=
  match TypeTag.parse? text with
  | some tag => .ok tag
  | none => .error (.unsupportedType (Text.trimmed text))

/-- A selector text taken apart: the member, and the type behind ` as `. -/
structure SelectorText where
  member : List Char
  cast : Option (List Char)
deriving Repr, DecidableEq

namespace SelectorText

/-- Takes a text apart at its first ` as `; blanks around the parts do not count. -/
def read (expression : List Char) : SelectorText :=
  let whole := Text.trim expression
  match Text.splitFirst [' ', 'a', 's', ' '] whole with
  | some (member, cast) => ⟨Text.trim member, some (Text.trim cast)⟩
  | none => ⟨whole, none⟩

/-- Whether the member is an identifier, raw or not, and a type is there if one is announced. -/
def isWellFormed (s : SelectorText) : Bool :=
  Text.isPlainIdentifier (Text.unraw s.member) && s.cast != some []

/-- The type behind ` as `: a written type, or else the name of a tag. -/
def castTag (text : String) : Except DeclarationError TypeTag :=
  match TypeTag.ofWritten? text.toList with
  | some tag => .ok tag
  | none => TypeTag.ofTagText text

end SelectorText

namespace Selector

/-- The member and tag that a text selects from an entity. -/
def resolveText (e : Entity) (table expression : String) : Except DeclarationError Selection :=
  let parts := SelectorText.read expression.toList
  if parts.isWellFormed then
    let name := String.ofList parts.member
    match e.member? name with
    | none => .error (.unknownMember e.typeName name)
    | some m => do
      let type ← match parts.cast with
        | some cast => SelectorText.castTag (String.ofList cast)
        | none => TypeTag.ofFieldType m.typeText
      return ⟨name, type⟩
  else .error (.unsupportedSelector table (Text.trimmed expression))

/-- The member and tag that a selector stands for, on the named table. -/
def resolve (e : Entity) (table : String) : Selector → Except DeclarationError Selection
  | text expression => resolveText e table expression
  | named member tag => .ok ⟨member, tag⟩
  | typed member => .ok ⟨member.member, member.type.tag⟩

end Selector

end Schemata
