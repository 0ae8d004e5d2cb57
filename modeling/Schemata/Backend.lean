import Schemata.Dialect.MySql
import Schemata.Dialect.SqlServer
import Schemata.Dialect.Sqlite
import Schemata.Generator
import Schemata.Text.Split

/-!
# Backends

The databases with a built-in dialect, and the names under which drivers declare them. The case of
ASCII letters and blanks around the name do not count. A connection URL names its backend by what
stands before the first colon.
-/

namespace Schemata

inductive Backend where
  | sqlServer
  | mySql
  | sqlite
deriving Repr, DecidableEq

namespace Backend

def all : List Backend :=
  [sqlServer, mySql, sqlite]

def dialect : Backend → Dialect
  | sqlServer => Dialect.sqlServer
  | mySql => Dialect.mySql
  | sqlite => Dialect.sqlite

def name (b : Backend) : String :=
  b.dialect.name

def generator (b : Backend) : Generator :=
  Generator.ofDialect b.dialect

/-- The names that drivers declare for each backend, in lower case. -/
def providerNames : Backend → List String
  | sqlServer =>
    ["sqlserver", "sql server", "mssql", "tiberius", "microsoft.data.sqlclient",
      "system.data.sqlclient"]
  | mySql => ["mysql", "mariadb", "mysqlconnector", "mysql.data"]
  | sqlite => ["sqlite", "sqlite3", "microsoft.data.sqlite", "system.data.sqlite"]

/-- The backend that a declared name denotes. -/
def ofProviderName? (name : String) : Option Backend :=
  all.find? fun b => b.providerNames.contains (Text.foldCase (Text.trimmed name))

/-- What stands before the first colon of a URL, if it has one. -/
def urlScheme? (url : String) : Option String :=
  (Text.splitFirst [':'] url.toList).map fun parts => String.ofList parts.1

/-- The backend that a connection URL names. -/
def ofUrl? (url : String) : Option Backend :=
  (urlScheme? url).bind ofProviderName?

end Backend

end Schemata
