/-!
# Digits

The value of a digit in a base up to thirty-six, letters in either case, and of a run of digits.
-/

namespace Schemata.Text

/-- The value of a digit, if the base has it. -/
def digitValue? (base : Nat) (c : Char) : Option Nat :=
  let n := c.toNat
  let value? :=
    if 48 ≤ n ∧ n ≤ 57 then some (n - 48)
    else if 97 ≤ n ∧ n ≤ 122 then some (n - 87)
    else if 65 ≤ n ∧ n ≤ 90 then some (n - 55)
    else none
  value?.filter fun d => decide (d < base)

/-- The number that digit values spell, the leading one first. -/
def numberOf (base : Nat) (digits : List Nat) : Nat :=
  digits.foldl (fun n d => n * base + d) 0

end Schemata.Text
