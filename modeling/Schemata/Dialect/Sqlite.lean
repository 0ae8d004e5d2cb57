import Schemata.Dialect

/-!
# The SQLite dialect

Names stand in brackets. Integers of every width, and truth values, share one storage type, and points
in time are text. A numbered column is written as part of the key clause, so only the column that is
the whole key can be one; it always counts from one in steps of one.
-/

namespace Schemata.Dialect

namespace Sqlite

/-- The longest text or blob. -/
def maxLength : Nat :=
  1000000000

/-- Text of a configured length under the given name. -/
def sizedText (stem : String) : SqlType :=
  .sized {
    stem
    unspecified := .word "TEXT"
    unbounded := .word "TEXT"
    maxInline := maxLength
    keyDefault := .word "TEXT"
    maxKey := maxLength }

def sqlType : TypeTag → SqlType
  | .int8 | .int16 | .int32 | .int64 | .uint8 | .uint16 | .uint32 | .uint64 | .bool =>
    .plain "INTEGER"
  | .float32 | .float64 => .plain "REAL"
  | .decimal | .varNumeric => .plain "NUMERIC"
  | .string => sizedText "NVARCHAR"
  | .fixedChar => sizedText "NCHAR"
  | .guid | .date | .time | .dateTime | .dateTimeWithOffset => .plain "TEXT"
  | .binary | .rowVersion => .plain "BLOB"

def keyClause (c : Column) : String :=
  if c.autoIncrement.isSome then "PRIMARY KEY AUTOINCREMENT" else "PRIMARY KEY"

def incrementWarning (t : Table) (c : Column) (a : AutoIncrement) (wholeKey : Bool) :
    Option Warning :=
  if !wholeKey then some (.numberingIgnored t.name c.name)
  else if a = .standard then none
  else some (.startIgnored t.name c.name)

end Sqlite

def sqlite : Dialect where
  name := "Sqlite"
  openQuote := '['
  closeQuote := ']'
  sqlType := fun tag => some (Sqlite.sqlType tag)
  createClause := fun quotedTable => "CREATE TABLE IF NOT EXISTS " ++ quotedTable
  keyClause := Sqlite.keyClause
  incrementClause := fun _ => none
  incrementWarning := Sqlite.incrementWarning
  tableOptions := fun _ => ""

end Schemata.Dialect
