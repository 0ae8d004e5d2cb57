import Schemata.Entity
import Schemata.Table

/-!
# Column settings

One setting changes one aspect of a column, and a list of settings is applied from left to right, so
the last setting of a kind counts. A key column does not take null unless `allowNull` was ever among
its settings. The markers of a member are settings too; they come first.
-/

namespace Schemata

inductive Setting where
  | primaryKey
  | unique
  | rowVersion
  | maxLength (length : UInt32)
  | defaultValue (literal : String)
  | autoIncrement (seed step : Int64)
  | allowNull (nullable : Bool)
  | ordinal (position : UInt64)
  | name (name : String)
deriving DecidableEq

namespace Column

def set (c : Column) : Setting → Column
  | .primaryKey =>
    { c with isPrimaryKey := true, nullable := if c.nullableChosen then c.nullable else false }
  | .unique => { c with isUnique := true }
  | .rowVersion => { c with type := .rowVersion }
  | .maxLength length => { c with maxLength := some length }
  | .defaultValue literal => { c with defaultValue := some literal }
  | .autoIncrement seed step => { c with autoIncrement := some ⟨seed, step⟩ }
  | .allowNull nullable => { c with nullable := nullable, nullableChosen := true }
  | .ordinal position => { c with ordinal := some position }
  | .name name => { c with name := name }

/-- The column after the settings, applied in order. -/
def configure (c : Column) (settings : List Setting) : Column :=
  settings.foldl set c

theorem configure_append (c : Column) (first second : List Setting) :
    c.configure (first ++ second) = (c.configure first).configure second :=
  List.foldl_append

end Column

/-- The markers of a member as settings of its column. -/
def Member.settings (m : Member) : List Setting :=
  (m.columnName.map Setting.name).toList
    ++ (if m.isPrimaryKey then [.primaryKey] else [])
    ++ (if m.isUnique then [.unique] else [])
    ++ (m.maxLength.map Setting.maxLength).toList
    ++ (if m.isRowVersion then [.rowVersion] else [])

end Schemata
