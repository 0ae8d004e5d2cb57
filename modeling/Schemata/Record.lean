import Schemata.Entity
import Schemata.Naming
import Schemata.Record.Grammar
import Schemata.Record.Lexer
import Schemata.Record.Marker
import Schemata.Record.TypeText

/-!
# Record declarations

An entity may be derived from the declaration of a record type, as it stands in source text: its name,
its parameters, its attributes, and its members with their types and attributes. Besides the entity,
deriving gives one typed selector per member, named by a constant in a module of its own.

The order in which faults are reported is fixed: what cannot be read, parameters, the kind of
declaration, the record's attributes, and then each member in turn, its attributes before its
constant.
-/

namespace Schemata

namespace Record

inductive Kind where
  | named
  | tuple
  | unit
  | union
  | enumeration
deriving Repr, DecidableEq

/-- A member as it is declared. -/
structure Field where
  name : String
  typeText : String
  attributes : List String
deriving Repr, DecidableEq

/-- A declaration as it is written. Attributes are given without the `#[` and `]` around them. -/
structure Source where
  kind : Kind
  name : String
  parameters : String
  attributes : List String
  fields : List Field
deriving Repr, DecidableEq

/-- What is derived from a declaration. -/
structure Derived where
  entity : Entity
  moduleName : String
  /-- The constant and the member of each selector, in declaration order. -/
  selectors : List (String × String)
deriving Repr, DecidableEq

/-- A member whose texts have been read as tokens. -/
structure TokenField where
  name : String
  type : List Token
  attributes : List (List Token)
deriving Repr, DecidableEq

/-- A declaration whose texts have been read as tokens. -/
structure TokenSource where
  kind : Kind
  name : String
  parameters : List Token
  attributes : List (List Token)
  fields : List TokenField
deriving Repr, DecidableEq

def Field.tokens? (f : Field) : Option TokenField := do
  let type ← Record.tokens? f.typeText
  let attributes ← f.attributes.mapM Record.tokens?
  return ⟨f.name, type, attributes⟩

def Source.tokens? (s : Source) : Option TokenSource := do
  let parameters ← Record.tokens? s.parameters
  let attributes ← s.attributes.mapM Record.tokens?
  let fields ← s.fields.mapM Field.tokens?
  return ⟨s.kind, s.name, parameters, attributes, fields⟩

/-! ## Reading the declaration -/

/-- The kinds whose members are written with names. -/
def Kind.hasMembers (k : Kind) : Bool :=
  k == .named || k == .union

/-- What stands behind the contents of an attribute. -/
def behindAttribute (ts : List Token) : Except RecordError (List Token) :=
  match (Reader.word "unsafe" <|> plainPath).run ts with
  | none => .error (.pathMissing ts.isEmpty)
  | some (_, .punct '=' _ :: value) =>
    match readExpression value with
    | none => .error (.valueMissing value.isEmpty)
    | some (_, rest) => .ok rest
  | some (_, rest) => .ok (((Reader.optional Reader.copied).run rest).elim rest (·.2))

/-- A type as it is written. A comma has to follow it. -/
def settleType (ts : List Token) : Except RecordError (List Token) :=
  match readType ts with
  | none => .error .typeMissing
  | some (type, rest) => if rest.isEmpty then .ok type else .error .commaMissing

/-- The member with its type as it is written, and what stands behind its attributes. -/
def TokenField.settle (f : TokenField) : Except RecordError (TokenField × List Token) := do
  let rests ← f.attributes.mapM behindAttribute
  let type ← settleType f.type
  return ({ f with type }, rests.flatten)

/-- The declaration with the types of its members as they are written. What stands behind an
attribute is a fault only when nothing else is wrong. -/
def TokenSource.settle (s : TokenSource) : Except RecordError TokenSource := do
  let rests ← s.attributes.mapM behindAttribute
  let fields ← if s.kind.hasMembers then s.fields.mapM TokenField.settle else .ok []
  if (rests ++ fields.map (·.2)).all List.isEmpty then
    return { s with fields := fields.map (·.1) }
  else throw .bracketMissing

/-- Whether a parameter list holds a parameter. -/
def hasParameter : List Token → Bool
  | .punct '<' _ :: .punct '>' _ :: _ => false
  | .punct '<' _ :: _ => true
  | _ => false

/-! ## Members -/

/-- The name that a marker gives to the table. -/
def RecordMarker.tableName : RecordMarker → String
  | .table name => String.ofList name

/-- The last table name among the markers. -/
def tableName? (markers : List RecordMarker) : Option String :=
  markers.getLast?.map RecordMarker.tableName

def mark (m : Member) : MemberMarker → Member
  | .key => { m with isPrimaryKey := true }
  | .unique => { m with isUnique := true }
  | .rowVersion => { m with isRowVersion := true }
  | .maxLength length => { m with maxLength := some length }
  | .column name => { m with columnName := some (String.ofList name) }

/-- The member with its markers, applied in order. -/
def marked (m : Member) (markers : List MemberMarker) : Member :=
  markers.foldl mark m

/-- The name of a member without its raw mark. -/
def TokenField.member (f : TokenField) : String :=
  String.ofList (Text.unraw f.name.toList)

/-- The member that a field declares, with the constant of its selector. -/
def TokenField.derive (f : TokenField) : Except RecordError (Member × String) := do
  let plain := Member.plain f.member (String.ofList (typeText f.type))
  let markers ← readAttributes readMemberMarker f.attributes
  let constant := Naming.shoutySnake f.member.toList
  if Text.isDeclaredName constant then return (marked plain markers, String.ofList constant)
  else throw .unusableName

/-- The members that the fields declare, up to the first fault. -/
def deriveFields : List TokenField → Except RecordError (List (Member × String))
  | [] => .ok []
  | f :: rest => do
    let member ← f.derive
    let others ← deriveFields rest
    return member :: others

/-- The module of the selectors of a record. -/
def moduleName (name : String) : List Char :=
  Naming.snake name.toList ++ "_fields".toList

/-- Derives from a declaration that has been read. -/
def TokenSource.derive (s : TokenSource) : Except RecordError Derived :=
  if hasParameter s.parameters then .error .hasParameters
  else match s.kind with
    | .union | .enumeration => .error .notARecord
    | .tuple | .unit => .error .membersUnnamed
    | .named => do
      let markers ← readAttributes readRecordMarker s.attributes
      let members ← deriveFields s.fields
      if Text.isDeclaredName (moduleName s.name) then
        return {
          entity := ⟨s.name, tableName? markers, members.map (·.1)⟩
          moduleName := String.ofList (moduleName s.name)
          selectors := members.map fun m => (m.2, m.1.name) }
      else throw .unusableName

/-- Derives an entity and its selectors from a declaration. -/
def Source.derive (s : Source) : Except RecordError Derived :=
  match s.tokens? with
  | none => .error .unreadable
  | some tokens => do
    let tokens ← tokens.settle
    tokens.derive

end Record

end Schemata
