import Schemata.Dialect

/-!
# Journal

What compiling and migrating report while they work, in the order in which it happens.
-/

namespace Schemata

inductive JournalEntry where
  | warning (warning : Warning)
  /-- A migration has compiled its tables and begins. -/
  | migrating (generator : String) (tables : Nat)
  /-- A migration has ended without a failure. -/
  | executed (generator : String) (done total : Nat)
deriving Repr, DecidableEq

namespace JournalEntry

/-- The entry as a line, with its level in front. -/
def line : JournalEntry → String
  | warning w => "WARN: " ++ w.message
  | migrating generator tables =>
    "INFO: [" ++ generator ++ "] migrating " ++ toString tables ++ " tables"
  | executed generator done total =>
    "INFO: [" ++ generator ++ "] executed " ++ toString done ++ " of " ++ toString total
      ++ " DDL statements"

end JournalEntry

end Schemata
