import Schemata.Text.AsciiCase

/-!
# Tables that are always there

SQLite answers questions about tables that nobody created: the lists of tables, the results of functions
that give rows, and the answers of its pragmas. None of them is in the list of tables, and a table of
one of these names that is created comes first. Their names are the same up to the case of ASCII
letters.
-/

namespace Schemata.Sqlite.BuiltinTable

/-- The columns of the list of tables. -/
def listColumns : List String :=
  ["type", "name", "tbl_name", "rootpage", "sql"]

/-- The columns of the tables that take a document apart. -/
def documentColumns : List String :=
  ["key", "value", "type", "atom", "id", "parent", "fullkey", "path"]

/-- Tables with columns of their own names. -/
def named : List (String × List String) := [
  ("sqlite_master", listColumns),
  ("sqlite_schema", listColumns),
  ("sqlite_temp_master", listColumns),
  ("sqlite_temp_schema", listColumns),
  ("json_each", documentColumns),
  ("json_tree", documentColumns),
  ("dbstat", ["name", "path", "pageno", "pagetype", "ncell", "payload", "unused", "mx_payload",
    "pgoffset", "pgsize"]),
  ("fts3tokenize", ["input", "token", "start", "end", "position"]),
  ("pragma_busy_timeout", ["timeout"]),
  ("pragma_collation_list", ["seq", "name"]),
  ("pragma_database_list", ["seq", "name", "file"]),
  ("pragma_default_cache_size", ["cache_size"]),
  ("pragma_foreign_key_check", ["table", "rowid", "parent", "fkid"]),
  ("pragma_foreign_key_list",
    ["id", "seq", "table", "from", "to", "on_update", "on_delete", "match"]),
  ("pragma_function_list", ["name", "builtin", "type", "enc", "narg", "flags"]),
  ("pragma_index_info", ["seqno", "cid", "name"]),
  ("pragma_index_list", ["seq", "name", "unique", "origin", "partial"]),
  ("pragma_index_xinfo", ["seqno", "cid", "name", "desc", "coll", "key"]),
  ("pragma_module_list", ["name"]),
  ("pragma_pragma_list", ["name"]),
  ("pragma_table_info", ["cid", "name", "type", "notnull", "dflt_value", "pk"]),
  ("pragma_table_list", ["schema", "name", "type", "ncol", "wr", "strict"]),
  ("pragma_table_xinfo", ["cid", "name", "type", "notnull", "dflt_value", "pk", "hidden"])]

/-- The pragmas whose table has one column, named like the pragma. -/
def settings : List String := [
  "analysis_limit", "application_id", "auto_vacuum", "automatic_index", "cache_size", "cache_spill",
  "cell_size_check", "checkpoint_fullfsync", "compile_options", "count_changes", "data_version",
  "defer_foreign_keys", "empty_result_callbacks", "encoding", "foreign_keys", "freelist_count",
  "full_column_names", "fullfsync", "hard_heap_limit", "ignore_check_constraints",
  "integrity_check", "journal_mode", "journal_size_limit", "legacy_alter_table", "locking_mode",
  "max_page_count", "optimize", "page_count", "page_size", "query_only", "quick_check",
  "read_uncommitted", "recursive_triggers", "reverse_unordered_selects", "schema_version",
  "secure_delete", "short_column_names", "soft_heap_limit", "synchronous", "temp_store", "threads",
  "trusted_schema", "user_version", "writable_schema"]

def all : List (String × List String) :=
  named ++ settings.map fun setting => ("pragma_" ++ setting, [setting])

/-- The columns of the table of a name, if it is one of these. -/
def columns? (name : String) : Option (List String) :=
  (all.find? fun t => Text.eqIgnoreCase t.1 name).map (·.2)

/-- The tables that cannot be asked about without saying what they are to show. -/
def needsArguments (name : String) : Bool :=
  Text.eqIgnoreCase name "fts4aux"

end Schemata.Sqlite.BuiltinTable
