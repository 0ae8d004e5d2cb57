import Schemata.Dialect

/-!
# The MySQL dialect

Names stand in backticks. A numbered column is only marked as such; the seed is an option of the
table, taken from the first numbered column, and the step is the server's affair, which is worth a
warning when another one was asked for.
-/

namespace Schemata.Dialect

namespace MySql

/-- There is no numeric type of arbitrary precision. Lengths are bounded by rows of 65535 bytes and
index entries of 3072, at four bytes to a character. -/
def sqlType : TypeTag → Option SqlType
  | .int8 => some (.plain "TINYINT")
  | .int16 => some (.plain "SMALLINT")
  | .int32 => some (.plain "INT")
  | .int64 => some (.plain "BIGINT")
  | .uint8 => some (.plain "TINYINT UNSIGNED")
  | .uint16 => some (.plain "SMALLINT UNSIGNED")
  | .uint32 => some (.plain "INT UNSIGNED")
  | .uint64 => some (.plain "BIGINT UNSIGNED")
  | .float32 => some (.plain "FLOAT")
  | .float64 => some (.plain "DOUBLE")
  | .decimal => some (.plain "DECIMAL(18, 2)")
  | .varNumeric => none
  | .bool => some (.plain "TINYINT(1)")
  | .string => some <| .sized {
      stem := "VARCHAR"
      unspecified := .word "LONGTEXT"
      unbounded := .word "LONGTEXT"
      maxInline := 16383
      keyDefault := .withLength "VARCHAR" 255
      maxKey := 768 }
  | .fixedChar => some <| .sized {
      stem := "CHAR"
      unspecified := .withLength "CHAR" 1
      unbounded := .word "LONGTEXT"
      maxInline := 255
      keyDefault := .withLength "CHAR" 1
      maxKey := 255 }
  | .guid => some (.plain "CHAR(36)")
  | .date => some (.plain "DATE")
  | .time => some (.plain "TIME(6)")
  | .dateTime => some (.plain "DATETIME(6)")
  | .dateTimeWithOffset => some (.plain "TIMESTAMP(6)")
  | .binary => some <| .sized {
      stem := "VARBINARY"
      unspecified := .word "LONGBLOB"
      unbounded := .word "LONGBLOB"
      maxInline := 65535
      keyDefault := .withLength "VARBINARY" 255
      maxKey := 3072 }
  | .rowVersion => some (.plain
      "TIMESTAMP(6) NULL DEFAULT CURRENT_TIMESTAMP(6) ON UPDATE CURRENT_TIMESTAMP(6)")

/-- The seed of the first numbered column, when it is not one. -/
def tableOptions (t : Table) : String :=
  match t.orderedColumns.findSome? (·.autoIncrement) with
  | some a => if a.seed = 1 then "" else " AUTO_INCREMENT=" ++ toString a.seed.toInt
  | none => ""

def incrementWarning (t : Table) (c : Column) (a : AutoIncrement) : Option Warning :=
  if a.step = 1 then none else some (.stepIgnored t.name c.name)

end MySql

def mySql : Dialect where
  name := "MySql"
  openQuote := '\x60'
  closeQuote := '\x60'
  sqlType := MySql.sqlType
  createClause := fun quotedTable => "CREATE TABLE IF NOT EXISTS " ++ quotedTable
  keyClause := fun _ => "PRIMARY KEY"
  incrementClause := fun _ => some "AUTO_INCREMENT"
  incrementWarning := fun t c a _ => MySql.incrementWarning t c a
  tableOptions := MySql.tableOptions

end Schemata.Dialect
