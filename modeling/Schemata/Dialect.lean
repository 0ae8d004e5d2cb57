import Schemata.Table
import Schemata.Text.Quoted

/-!
# Dialects

What distinguishes one dialect of SQL from another when a table is created: how names are quoted, how
each type is spelled, how the statement begins so that an existing table is left alone, and how a
numbered column is written. Everything else is the same for all dialects and stands in
`Dialect.createTable`.
-/

namespace Schemata

/-- A spelled type: a fixed text, or a name with a length in parentheses. -/
inductive Spelling where
  | word (text : String)
  | withLength (stem : String) (length : Nat)
deriving Repr, DecidableEq

namespace Spelling

def text : Spelling → String
  | word text => text
  | withLength stem length => stem ++ "(" ++ toString length ++ ")"

end Spelling

/-- The spellings of a type whose length may be configured. -/
structure SizedType where
  /-- The name that takes a length. -/
  stem : String
  /-- Without a configured length. -/
  unspecified : Spelling
  /-- For a length beyond `maxInline`. -/
  unbounded : Spelling
  maxInline : Nat
  /-- Without a configured length, on a key or unique column. -/
  keyDefault : Spelling
  /-- The longest length that an index takes. -/
  maxKey : Nat
deriving Repr, DecidableEq

/-- A dialect's rendering of a type. -/
inductive SqlType where
  /-- One spelling; a configured length has no effect. -/
  | plain (text : String)
  | sized (type : SizedType)
deriving Repr, DecidableEq

namespace SqlType

/-- The spelling for a configured length; none when an index cannot take the length. -/
def spell (type : SqlType) (maxLength : Option UInt32) (keyed : Bool) : Option Spelling :=
  match type with
  | plain text => some (.word text)
  | sized t =>
    match maxLength with
    | none => some (if keyed then t.keyDefault else t.unspecified)
    | some length =>
      if keyed ∧ t.maxKey < length.toNat then none
      else if t.maxInline < length.toNat then some t.unbounded
      else some (.withLength t.stem length.toNat)

end SqlType

/-- A remark about a numbered column that a dialect cannot number as described. -/
inductive Warning where
  /-- The increment is the server's, not the column's. -/
  | stepIgnored (table column : String)
  /-- Only a single key column is numbered, and this is not one. -/
  | numberingIgnored (table column : String)
  /-- Numbering starts at one and goes in steps of one. -/
  | startIgnored (table column : String)
deriving Repr, DecidableEq

namespace Warning

def message : Warning → String
  | stepIgnored table column =>
    "MySql has no per-column increment step; `" ++ table ++ "`.`" ++ column
      ++ "` uses the server's auto_increment_increment"
  | numberingIgnored table column =>
    "Sqlite only auto-increments a single-column primary key; ignoring it on `" ++ table ++ "`.`"
      ++ column ++ "`"
  | startIgnored table column =>
    "Sqlite has no identity seed or step; `" ++ table ++ "`.`" ++ column
      ++ "` starts at 1 and increments by 1"

end Warning

structure Dialect where
  name : String
  openQuote : Char
  closeQuote : Char
  /-- None for a type that the dialect does not have. -/
  sqlType : TypeTag → Option SqlType
  /-- What stands before the opening parenthesis, given the quoted table name. -/
  createClause : String → String
  /-- What marks the column that is the whole key. -/
  keyClause : Column → String
  /-- What marks a numbered column. -/
  incrementClause : AutoIncrement → Option String
  /-- The remark on a numbered column of a table; the flag says whether it is the whole key. -/
  incrementWarning : Table → Column → AutoIncrement → Bool → Option Warning
  /-- What stands behind the closing parenthesis. -/
  tableOptions : Table → String

namespace Dialect

def quote (d : Dialect) (name : String) : String :=
  Text.Quoted.quote d.openQuote d.closeQuote name

end Dialect

end Schemata
