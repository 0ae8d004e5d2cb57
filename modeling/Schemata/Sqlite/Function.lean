import Schemata.Text.AsciiCase

/-!
# Functions of SQLite

The functions that a check or a computed column may call, with the numbers of arguments that they take.
Functions over the rows of a query are not among them. A computed column admits only those whose result
depends on nothing but the arguments.
-/

namespace Schemata.Sqlite

structure Function where
  name : String
  least : Nat
  /-- No bound where there is none. -/
  most : Option Nat
  isDeterministic : Bool
deriving Repr, DecidableEq

namespace Function

/-- Functions of a fixed number of arguments. -/
def fixed (arguments : Nat) (names : List String) : List Function :=
  names.map fun name => ⟨name, arguments, some arguments, true⟩

/-- Functions of one of two consecutive numbers of arguments. -/
def either (least : Nat) (names : List String) : List Function :=
  names.map fun name => ⟨name, least, some (least + 1), true⟩

/-- Functions of any number of arguments from a least one on. -/
def atLeast (least : Nat) (names : List String) : List Function :=
  names.map fun name => ⟨name, least, none, true⟩

/-- Functions whose result may differ from call to call. -/
def volatile (functions : List Function) : List Function :=
  functions.map fun f => { f with isDeterministic := false }

/-- The functions that are always there. -/
def builtin : List Function :=
  fixed 0 ["fts5_source_id"]
    ++ fixed 1 ["abs", "hex", "json", "json_error_position", "json_quote", "jsonb", "length", "likely",
      "lower", "octet_length", "quote", "sign", "soundex", "subtype", "typeof", "unicode", "unlikely",
      "upper", "zeroblob"]
    ++ fixed 2 ["->", "->>", "glob", "ifnull", "instr", "json_patch", "jsonb_patch", "likelihood",
      "nullif", "sqlite_log", "timediff"]
    ++ fixed 3 ["iif", "replace"]
    ++ either 1 ["json_array_length", "json_pretty", "json_type", "json_valid", "ltrim", "round",
      "rtrim", "trim", "unhex"]
    ++ either 2 ["like", "substr", "substring"]
    ++ atLeast 0 ["char", "date", "datetime", "format", "json_array", "json_extract", "json_insert",
      "json_object", "json_remove", "json_replace", "json_set", "jsonb_array", "jsonb_extract",
      "jsonb_insert", "jsonb_object", "jsonb_remove", "jsonb_replace", "jsonb_set", "julianday",
      "printf", "strftime", "time", "unixepoch"]
    ++ atLeast 1 ["concat"]
    ++ atLeast 2 ["coalesce", "concat_ws", "max", "min"]
    ++ volatile (
      fixed 0 ["changes", "current_date", "current_time", "current_timestamp", "last_insert_rowid",
        "random", "sqlite_source_id", "sqlite_version", "total_changes"]
      ++ fixed 1 ["fts5", "offsets", "optimize", "randomblob", "rtreedepth",
        "sqlite_compileoption_get", "sqlite_compileoption_used"]
      ++ fixed 2 ["match", "rtreenode"]
      ++ either 1 ["fts3_tokenizer", "load_extension", "matchinfo"]
      ++ atLeast 0 ["bm25", "highlight", "rtreecheck", "snippet"])

/-- Whether a function takes so many arguments. -/
def takes (f : Function) (arguments : Nat) : Bool :=
  decide (f.least ≤ arguments) && f.most.all fun most => decide (arguments ≤ most)

/-- The function that a call means. -/
def find? (name : String) (arguments : Nat) : Option Function :=
  builtin.find? fun f => Text.eqIgnoreCase f.name name && f.takes arguments

end Function

end Schemata.Sqlite
