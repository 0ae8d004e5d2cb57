import Schemata.Json
import Schemata.Table

/-!
# Tables in JSON

`Table.toJson` writes every field of a table but the mark that nullability was chosen, and
`Table.ofJson?` reads a table back. Reading is strict about what it knows: a field must have its type, a
known field may not be repeated, and only the four optional fields of a column may be missing. Unknown
members are passed over. A record may also be given as the array of all its fields in order.
-/

namespace Schemata

/-! ## Records -/

namespace Json

/-- How a field that is missing from a record is read. -/
inductive Missing where
  | refused
  | asNull
deriving DecidableEq

/-- The values of a record's known fields, in order, from an object or from the array of all fields. -/
def fields? (known : List (String × Missing)) : Json → Option (List Json)
  | obj members =>
    if members.any fun m => m.1.isNone then none
    else known.mapM fun field =>
      match valuesAt field.1 members with
      | [j] => some j
      | [] => if field.2 = .asNull then some null else none
      | _ => none
  | arr items => if items.length = known.length then some items else none
  | _ => none

def string? : Json → Option String
  | str s => s
  | _ => none

def bool? : Json → Option Bool
  | bool b => some b
  | _ => none

/-- An integer between two bounds, both included. -/
def intWithin? (low high : Int) : Json → Option Int
  | int n => if low ≤ n ∧ n ≤ high then some n else none
  | _ => none

def uint32? (j : Json) : Option UInt32 :=
  (j.intWithin? 0 (UInt32.size - 1 : Nat)).map fun n => UInt32.ofNat n.toNat

def uint64? (j : Json) : Option UInt64 :=
  (j.intWithin? 0 (UInt64.size - 1 : Nat)).map fun n => UInt64.ofNat n.toNat

def int64? (j : Json) : Option Int64 :=
  (j.intWithin? Int64.minValue.toInt Int64.maxValue.toInt).map Int64.ofInt

/-- Null, or a value of the type. -/
def nullable? {α : Type} (read : Json → Option α) : Json → Option (Option α)
  | null => some none
  | j => (read j).map some

def list? {α : Type} (read : Json → Option α) : Json → Option (List α)
  | arr items => items.mapM read
  | _ => none

end Json

/-! ## Writing -/

def TypeTag.toJson (tag : TypeTag) : Json :=
  Json.text tag.name

def AutoIncrement.toJson (a : AutoIncrement) : Json :=
  Json.object [("seed", Json.int a.seed.toInt), ("step", Json.int a.step.toInt)]

def Column.toJson (c : Column) : Json :=
  Json.object [
    ("name", Json.text c.name),
    ("logical_type", c.type.toJson),
    ("nullable", Json.bool c.nullable),
    ("is_primary_key", Json.bool c.isPrimaryKey),
    ("is_unique", Json.bool c.isUnique),
    ("default_value", Json.ofOption Json.text c.defaultValue),
    ("max_length", Json.ofOption (fun n => Json.ofNat n.toNat) c.maxLength),
    ("auto_increment", Json.ofOption AutoIncrement.toJson c.autoIncrement),
    ("ordinal", Json.ofOption (fun n => Json.ofNat n.toNat) c.ordinal)]

def Table.toJson (t : Table) : Json :=
  Json.object [("name", Json.text t.name), ("columns", Json.arr (t.columns.map Column.toJson))]

/-! ## Reading -/

/-- A tag is its name, or an object whose only member is the name with the value null. -/
def TypeTag.ofJson? : Json → Option TypeTag
  | .str (some s) => TypeTag.ofName? s
  | .obj [(some s, .null)] => TypeTag.ofName? s
  | _ => none

def AutoIncrement.ofJson? (j : Json) : Option AutoIncrement :=
  match j.fields? [("seed", .refused), ("step", .refused)] with
  | some [seed, step] => do
    let seed ← seed.int64?
    let step ← step.int64?
    return ⟨seed, step⟩
  | _ => none

/-- The fields of a column, with the four that may be missing. -/
def Column.fields : List (String × Json.Missing) := [
  ("name", .refused), ("logical_type", .refused), ("nullable", .refused),
  ("is_primary_key", .refused), ("is_unique", .refused), ("default_value", .asNull),
  ("max_length", .asNull), ("auto_increment", .asNull), ("ordinal", .asNull)]

def Column.ofJson? (j : Json) : Option Column :=
  match j.fields? Column.fields with
  | some [name, type, nullable, key, unique, default, length, increment, ordinal] => do
    let name ← name.string?
    let type ← TypeTag.ofJson? type
    let nullable ← nullable.bool?
    let isPrimaryKey ← key.bool?
    let isUnique ← unique.bool?
    let defaultValue ← default.nullable? Json.string?
    let maxLength ← length.nullable? Json.uint32?
    let autoIncrement ← increment.nullable? AutoIncrement.ofJson?
    let ordinal ← ordinal.nullable? Json.uint64?
    return {
      name, type, nullable, isPrimaryKey, isUnique, defaultValue, maxLength, autoIncrement, ordinal
      nullableChosen := false }
  | _ => none

def Table.ofJson? (j : Json) : Option Table :=
  match j.fields? [("name", .refused), ("columns", .refused)] with
  | some [name, columns] => do
    let name ← name.string?
    let columns ← columns.list? Column.ofJson?
    return ⟨name, columns⟩
  | _ => none

/-- A list of tables. -/
def Table.listOfJson? (j : Json) : Option (List Table) :=
  j.list? Table.ofJson?

end Schemata
