import Schemata.Dialect

/-!
# The SQL Server dialect

Names stand in brackets. There is no clause that leaves an existing table alone, so the statement is
guarded by a look at `OBJECT_ID`, with the quoted name inside a string literal. Numbered columns carry
their seed and step.
-/

namespace Schemata.Dialect

/-- A text inside an SQL string literal: apostrophes are written twice. -/
def inLiteral (s : String) : String :=
  String.ofList (Text.Quoted.double '\'' s.toList)

namespace SqlServer

/-- The byte type of the server has no sign, so signed bytes widen. -/
def sqlType : TypeTag → Option SqlType
  | .int8 | .int16 => some (.plain "SMALLINT")
  | .uint8 => some (.plain "TINYINT")
  | .uint16 | .int32 => some (.plain "INT")
  | .uint32 | .int64 => some (.plain "BIGINT")
  | .uint64 => some (.plain "DECIMAL(20, 0)")
  | .float32 => some (.plain "REAL")
  | .float64 => some (.plain "FLOAT")
  | .decimal => some (.plain "DECIMAL(18, 2)")
  | .varNumeric => some (.plain "NUMERIC(38, 18)")
  | .bool => some (.plain "BIT")
  | .string => some <| .sized {
      stem := "NVARCHAR"
      unspecified := .word "NVARCHAR(MAX)"
      unbounded := .word "NVARCHAR(MAX)"
      maxInline := 4000
      keyDefault := .withLength "NVARCHAR" 450
      maxKey := 4000 }
  | .fixedChar => some <| .sized {
      stem := "NCHAR"
      unspecified := .withLength "NCHAR" 1
      unbounded := .word "NVARCHAR(MAX)"
      maxInline := 4000
      keyDefault := .withLength "NCHAR" 1
      maxKey := 4000 }
  | .guid => some (.plain "UNIQUEIDENTIFIER")
  | .date => some (.plain "DATE")
  | .time => some (.plain "TIME")
  | .dateTime => some (.plain "DATETIME2")
  | .dateTimeWithOffset => some (.plain "DATETIMEOFFSET")
  | .binary => some <| .sized {
      stem := "VARBINARY"
      unspecified := .word "VARBINARY(MAX)"
      unbounded := .word "VARBINARY(MAX)"
      maxInline := 8000
      keyDefault := .withLength "VARBINARY" 900
      maxKey := 8000 }
  | .rowVersion => some (.plain "ROWVERSION")

def createClause (quotedTable : String) : String :=
  "IF OBJECT_ID(N'" ++ inLiteral quotedTable ++ "', N'U') IS NULL CREATE TABLE " ++ quotedTable

def incrementClause (a : AutoIncrement) : String :=
  "IDENTITY(" ++ toString a.seed.toInt ++ "," ++ toString a.step.toInt ++ ")"

end SqlServer

def sqlServer : Dialect where
  name := "SqlServer"
  openQuote := '['
  closeQuote := ']'
  sqlType := SqlServer.sqlType
  createClause := SqlServer.createClause
  keyClause := fun _ => "PRIMARY KEY"
  incrementClause := fun a => some (SqlServer.incrementClause a)
  incrementWarning := fun _ _ _ _ => none
  tableOptions := fun _ => ""

end Schemata.Dialect
