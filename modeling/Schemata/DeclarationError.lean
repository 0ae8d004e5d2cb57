/-!
# Declaration errors

What can go wrong while tables are declared, before any dialect is chosen.
-/

namespace Schemata

inductive DeclarationError where
  /-- Two columns of a table have the same name, ASCII case ignored; `column` is the refused one. -/
  | duplicateColumn (table column : String)
  /-- A selector that is neither a member nor a member with a type behind ` as `. -/
  | unsupportedSelector (table selector : String)
  | unknownMember (entity member : String)
  /-- A written type that no tag belongs to. -/
  | unsupportedType (typeText : String)
  /-- A handle that the schema did not give out. -/
  | foreignHandle
deriving Repr, DecidableEq

namespace DeclarationError

def message : DeclarationError → String
  | duplicateColumn table column => "duplicate column `" ++ column ++ "` on table `" ++ table ++ "`"
  | unsupportedSelector table selector =>
    "unsupported selector `" ++ selector ++ "` on table `" ++ table
      ++ "`: expected `member` or `member as <type>`"
  | unknownMember entity member => "entity `" ++ entity ++ "` has no member `" ++ member ++ "`"
  | unsupportedType typeText => "unsupported field type `" ++ typeText ++ "`"
  | foreignHandle => "the handle belongs to another schema"

end DeclarationError

end Schemata
