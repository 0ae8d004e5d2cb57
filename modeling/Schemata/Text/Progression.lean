/-!
# Progressions of code points

Character classes and case mappings beyond ASCII are tables. A row of a table is an arithmetic
progression of code points, because letters of many scripts alternate between upper and lower case
and so fall into runs with step two.
-/

namespace Schemata.Text

/-- The numbers `first`, `first + step`, and so on up to `last`. -/
structure Progression where
  first : Nat
  last : Nat
  step : Nat
deriving Repr, DecidableEq

namespace Progression

def contains (p : Progression) (n : Nat) : Bool :=
  decide (p.first ≤ n) && decide (n ≤ p.last) && (n - p.first) % p.step == 0

/-- Whether some row of the table holds the code point. -/
def anyContains (table : List Progression) (n : Nat) : Bool :=
  table.any (·.contains n)

end Progression

/-- A progression of code points whose members all move by the same distance. -/
structure Shift where
  source : Progression
  distance : Int
deriving Repr, DecidableEq

namespace Shift

/-- The code point that the first fitting row sends `n` to. -/
def find? (table : List Shift) (n : Nat) : Option Nat :=
  (table.find? (·.source.contains n)).map fun row => (Int.ofNat n + row.distance).toNat

end Shift

end Schemata.Text
