import Schemata.Text.AsciiCase
import Schemata.Text.Blank

/-!
# Type tags

The type of a column before any dialect is chosen. Twenty-two tags cover integers, floating point and
decimal numbers, text, identifiers, points in time, binary data and the row version that marks a row
for optimistic concurrency. Every tag has one name, and the name is read back whatever the case of
its letters.
-/

namespace Schemata

inductive TypeTag where
  | int8
  | int16
  | int32
  | int64
  | uint8
  | uint16
  | uint32
  | uint64
  | float32
  | float64
  /-- Fixed precision decimal. -/
  | decimal
  /-- Arbitrary precision numeric. -/
  | varNumeric
  | bool
  /-- Variable length character data. -/
  | string
  /-- Fixed length character data. -/
  | fixedChar
  | guid
  | date
  | time
  | dateTime
  | dateTimeWithOffset
  /-- Variable length binary data. -/
  | binary
  /-- Optimistic concurrency marker. -/
  | rowVersion
deriving Repr, DecidableEq, Inhabited

namespace TypeTag

/-- Every tag, in declaration order. -/
def all : List TypeTag := [
  int8, int16, int32, int64, uint8, uint16, uint32, uint64, float32, float64, decimal, varNumeric,
  bool, string, fixedChar, guid, date, time, dateTime, dateTimeWithOffset, binary, rowVersion]

def name : TypeTag → String
  | int8 => "Int8"
  | int16 => "Int16"
  | int32 => "Int32"
  | int64 => "Int64"
  | uint8 => "UInt8"
  | uint16 => "UInt16"
  | uint32 => "UInt32"
  | uint64 => "UInt64"
  | float32 => "Float32"
  | float64 => "Float64"
  | decimal => "Decimal"
  | varNumeric => "VarNumeric"
  | bool => "Bool"
  | string => "String"
  | fixedChar => "FixedChar"
  | guid => "Guid"
  | date => "Date"
  | time => "Time"
  | dateTime => "DateTime"
  | dateTimeWithOffset => "DateTimeWithOffset"
  | binary => "Binary"
  | rowVersion => "RowVersion"

/-- Whether a configured length has any effect on the type. -/
def isSized : TypeTag → Bool
  | string | fixedChar | binary => true
  | _ => false

/-- The tag with exactly this name. -/
def ofName? (s : String) : Option TypeTag :=
  all.find? fun tag => tag.name == s

/-- The tag whose name is written, in any ASCII case and between any blanks. -/
def parse? (s : String) : Option TypeTag :=
  all.find? fun tag => Text.eqIgnoreCase tag.name (Text.trimmed s)

theorem mem_all (tag : TypeTag) : tag ∈ all := by
  cases tag <;> decide

theorem ofName?_name (tag : TypeTag) : ofName? tag.name = some tag := by
  cases tag <;> decide

end TypeTag

end Schemata
