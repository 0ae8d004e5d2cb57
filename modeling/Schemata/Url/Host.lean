import Schemata.Url.Address
import Schemata.Url.Domain
import Schemata.Url.Percent

/-!
# Hosts

What a URL names as its host. Brackets hold an address of eight words in every scheme. Otherwise a
scheme of the web reads a percent-encoded domain name, or the address of four bytes that it spells;
for other schemes the text of the host means something only to them.
-/

namespace Schemata.Url

inductive Host where
  | domain (name : List Char)
  | ipv4 (address : Nat)
  | ipv6 (words : List Nat)
  /-- A text that only its scheme can read; it may be empty. -/
  | text (text : List Char)
deriving Repr, DecidableEq

namespace Host

/-- An address between brackets, of which the opening one has been read. -/
def bracketed? (cs : List Char) : Option Host :=
  if cs.getLast? = some ']' then (ipv6? cs.dropLast).map ipv6 else none

/-- The host that a text names in a scheme of the web. -/
def ofDomain? : List Char → Option Host
  | '[' :: cs => bracketed? cs
  | cs => do
    let name ← domain? (← percentDecodedText? cs)
    if endsInNumber name then (ipv4? name).map ipv4 else some (domain name)

/-- Characters that no host holds: those that would end it or open something else. -/
def isForbidden (c : Char) : Bool :=
  "\x00\t\n\r #/:<>?@[\\]^|".toList.contains c

/-- The host that a text names in a scheme of its own. -/
def ofText? : List Char → Option Host
  | '[' :: cs => bracketed? cs
  | cs => if cs.any isForbidden then none else some (text cs)

def isEmpty : Host → Bool
  | text cs => cs.isEmpty
  | _ => false

end Host

end Schemata.Url
