import Schemata.TypeTag

/-!
# Value types

The types of values whose column type is known before any text is read. A typed selector carries one
of them. `ValueType.spelling` is how such a type is written in a declaration, so `ValueType.tag` can be
compared with what is read off that text.
-/

namespace Schemata

inductive ValueType where
  | i8
  | i16
  | i32
  | i64
  | isize
  | u8
  | u16
  | u32
  | u64
  | usize
  | f32
  | f64
  | bool
  | char
  | string
  /-- A borrowed string. -/
  | str
  | bytes
  | uuid
  | naiveDate
  | naiveTime
  | naiveDateTime
  /-- A point in time in the named zone. -/
  | dateTime (zone : String)
  | option (inner : ValueType)
deriving Repr, DecidableEq

namespace ValueType

def tag : ValueType → TypeTag
  | i8 => .int8
  | i16 => .int16
  | i32 => .int32
  | i64 => .int64
  | isize => .int64
  | u8 => .uint8
  | u16 => .uint16
  | u32 => .uint32
  | u64 => .uint64
  | usize => .uint64
  | f32 => .float32
  | f64 => .float64
  | bool => .bool
  | char => .fixedChar
  | string => .string
  | str => .string
  | bytes => .binary
  | uuid => .guid
  | naiveDate => .date
  | naiveTime => .time
  | naiveDateTime => .dateTime
  | dateTime _ => .dateTimeWithOffset
  | option inner => inner.tag

def spelling : ValueType → String
  | i8 => "i8"
  | i16 => "i16"
  | i32 => "i32"
  | i64 => "i64"
  | isize => "isize"
  | u8 => "u8"
  | u16 => "u16"
  | u32 => "u32"
  | u64 => "u64"
  | usize => "usize"
  | f32 => "f32"
  | f64 => "f64"
  | bool => "bool"
  | char => "char"
  | string => "String"
  | str => "&str"
  | bytes => "Vec<u8>"
  | uuid => "Uuid"
  | naiveDate => "NaiveDate"
  | naiveTime => "NaiveTime"
  | naiveDateTime => "NaiveDateTime"
  | dateTime zone => "DateTime<" ++ zone ++ ">"
  | option inner => "Option<" ++ inner.spelling ++ ">"

/-- The types without a parameter. -/
def simple : List ValueType := [
  i8, i16, i32, i64, isize, u8, u16, u32, u64, usize, f32, f64, bool, char, string, str, bytes,
  uuid, naiveDate, naiveTime, naiveDateTime]

end ValueType

end Schemata
