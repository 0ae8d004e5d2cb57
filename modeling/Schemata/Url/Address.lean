import Schemata.Text.Digit
import Schemata.Text.Split

/-!
# Numeric addresses

The two forms in which a URL names a host by number. An address of four bytes may be written as one to
four numbers between points, of which the last one fills what the others leave, in decimal, octal or
hexadecimal notation. An address of eight words is written with colons; two colons together stand for
at least one zero, and the last two words may be written as four decimal bytes.
-/

namespace Schemata.Url

/-! ## Four bytes -/

/-- A number of an address: octal behind a leading zero, hexadecimal behind `0x`. A mark alone is
zero. -/
def addressNumber? : List Char → Option Nat
  | [] => none
  | '0' :: x :: cs =>
    let (base, digits) := if x = 'x' ∨ x = 'X' then (16, cs) else (8, x :: cs)
    (digits.mapM (Text.digitValue? base)).map (Text.numberOf base)
  | cs => (cs.mapM (Text.digitValue? 10)).map (Text.numberOf 10)

/-- The parts of a host name between its points, without the empty one behind a point at the end. -/
def hostParts (cs : List Char) : List (List Char) :=
  let parts := Text.splitAll '.' cs
  if parts.getLast? = some [] ∧ 1 < parts.length then parts.dropLast else parts

/-- Whether a host name has to be read as an address of four bytes. -/
def endsInNumber (cs : List Char) : Bool :=
  match (hostParts cs).getLast? with
  | none | some [] => false
  | some part => part.all Char.isDigit || (addressNumber? part).isSome

/-- The address of four bytes that a host name spells. -/
def ipv4? (cs : List Char) : Option Nat := do
  let parts := hostParts cs
  if 4 < parts.length then none
  let numbers ← parts.mapM addressNumber?
  let last ← numbers.getLast?
  let leading := numbers.dropLast
  if leading.any fun n => decide (255 < n) then none
  let covered := Nat.pow 256 (4 - leading.length)
  if covered ≤ last then none
  return Text.numberOf 256 leading * covered + last

/-! ## Eight words -/

/-- A word of one to four hexadecimal digits. -/
def word? (cs : List Char) : Option Nat :=
  if 1 ≤ cs.length ∧ cs.length ≤ 4 then
    (cs.mapM (Text.digitValue? 16)).map (Text.numberOf 16)
  else none

/-- A byte in decimal notation without leading zeros. -/
def decimalByte? (cs : List Char) : Option Nat :=
  match cs with
  | [] => none
  | c :: rest =>
    if c = '0' ∧ rest ≠ [] then none
    else ((cs.mapM (Text.digitValue? 10)).map (Text.numberOf 10)).filter fun n => decide (n < 256)

/-- Two words written as four bytes. -/
def wordPair? (cs : List Char) : Option (List Nat) :=
  match (Text.splitAll '.' cs).mapM decimalByte? with
  | some [a, b, c, d] => some [256 * a + b, 256 * c + d]
  | _ => none

/-- Words between colons, none for no text. -/
def words? (cs : List Char) : Option (List Nat) :=
  if cs.isEmpty then some [] else (Text.splitAll ':' cs).mapM word?

/-- Words between colons, of which the last two may be written as bytes. -/
def lastWords? (cs : List Char) : Option (List Nat) :=
  let groups := Text.splitAll ':' cs
  match wordPair? (groups.getLast?.getD []) with
  | none => words? cs
  | some pair => (groups.dropLast.mapM word?).map (· ++ pair)

/-- The address of eight words that a text between brackets spells. -/
def ipv6? (cs : List Char) : Option (List Nat) :=
  match Text.splitFirst [':', ':'] cs with
  | none => (lastWords? cs).filter fun words => words.length == 8
  | some (before, behind) => do
    let leading ← words? before
    let trailing ← lastWords? behind
    if leading.length + trailing.length < 8 then
      return leading ++ List.replicate (8 - leading.length - trailing.length) 0 ++ trailing
    none

end Schemata.Url
