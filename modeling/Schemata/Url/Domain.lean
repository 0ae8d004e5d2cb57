import Schemata.Text.CaseMap
import Schemata.Text.Printable
import Schemata.Url.Punycode

/-!
# Domain names

The names by which some schemes call hosts, in one form for all their spellings: in lower case, with
fullwidth forms narrowed and without the characters that only guide line breaks. Some characters belong
to no name, among them those whose compatibility form holds a mark of URL syntax. A label that begins
with `xn--` has to be the written form of a name that needs it.
-/

namespace Schemata.Url

/-- Code points beyond ASCII that have a glyph and belong to no name. -/
def nonNameTable : List Text.Progression := [
  ⟨0xa8, 0xa8, 1⟩, ⟨0xaf, 0xaf, 1⟩, ⟨0xb4, 0xb4, 1⟩, ⟨0xb8, 0xb8, 1⟩, ⟨0x2d8, 0x2dd, 1⟩,
  ⟨0x37a, 0x37a, 1⟩, ⟨0x384, 0x385, 1⟩, ⟨0x1806, 0x1806, 1⟩, ⟨0x1fbd, 0x1fbd, 1⟩,
  ⟨0x1fbf, 0x1fc1, 1⟩, ⟨0x1fcd, 0x1fcf, 1⟩, ⟨0x1fdd, 0x1fdf, 1⟩, ⟨0x1fed, 0x1fee, 1⟩,
  ⟨0x1ffd, 0x1ffe, 1⟩, ⟨0x2017, 0x2017, 1⟩, ⟨0x203e, 0x203e, 1⟩, ⟨0x2047, 0x2049, 1⟩,
  ⟨0x2100, 0x2101, 1⟩, ⟨0x2105, 0x2106, 1⟩, ⟨0x2a74, 0x2a74, 1⟩, ⟨0x2ff0, 0x2fff, 1⟩,
  ⟨0x309b, 0x309c, 1⟩, ⟨0x31ef, 0x31ef, 1⟩, ⟨0xfc5e, 0xfc63, 1⟩, ⟨0xfdfa, 0xfdfb, 1⟩,
  ⟨0xfe13, 0xfe13, 1⟩, ⟨0xfe16, 0xfe16, 1⟩, ⟨0xfe47, 0xfe4c, 1⟩, ⟨0xfe55, 0xfe56, 1⟩,
  ⟨0xfe5f, 0xfe5f, 1⟩, ⟨0xfe64, 0xfe65, 1⟩, ⟨0xfe68, 0xfe68, 1⟩, ⟨0xfe6a, 0xfe6b, 1⟩,
  ⟨0xfe70, 0xfe7e, 2⟩, ⟨0xffe3, 0xffe3, 1⟩, ⟨0xfffc, 0xfffd, 1⟩]

/-- Code points that are left out of a name: those that only guide line breaks or choose among the
glyphs of the character before them. -/
def leftOutTable : List Text.Progression := [
  ⟨0xad, 0xad, 1⟩, ⟨0x34f, 0x34f, 1⟩, ⟨0x180b, 0x180d, 1⟩, ⟨0x180f, 0x180f, 1⟩,
  ⟨0x200b, 0x200b, 1⟩, ⟨0x2060, 0x2060, 1⟩, ⟨0x2064, 0x2064, 1⟩, ⟨0xfe00, 0xfe0f, 1⟩,
  ⟨0xfeff, 0xfeff, 1⟩, ⟨0x1bca0, 0x1bca3, 1⟩, ⟨0xe0100, 0xe01ef, 1⟩]

/-- Characters of URL syntax, blanks and controls: no name holds one of them. -/
def isForbiddenInName (c : Char) : Bool :=
  decide (c.toNat ≤ 32) || c.toNat == 127 || "%#/:<>?@[\\]^|".toList.contains c

/-- Whether a character, once narrowed, may stand in a name. -/
def isNamePart (c : Char) : Bool :=
  if c.toNat < 128 then !isForbiddenInName c
  else !(Text.Progression.anyContains Text.glyphlessTable c.toNat
    || Text.Progression.anyContains nonNameTable c.toNat)

/-- A character with its fullwidth form narrowed. The full stops of other scripts are full stops. -/
def narrowed (c : Char) : Char :=
  if 0xff01 ≤ c.toNat ∧ c.toNat ≤ 0xff5e then Char.ofNat (c.toNat - 0xfee0)
  else if c.toNat = 0x3002 ∨ c.toNat = 0xff61 then '.'
  else c

/-- The one form of a name in which its labels are compared. -/
def nameForm (cs : List Char) : List Char :=
  (cs.filter fun c => !Text.Progression.anyContains leftOutTable c.toNat).flatMap fun c =>
    Text.lowerChar (narrowed c)

/-- A text of characters of names, which begins with no mark that extends what is before it. -/
def isPlainLabel (cs : List Char) : Bool :=
  cs.all isNamePart
    && !(cs.head?.any fun c => Text.Progression.anyContains Text.extendingTable c.toNat)

/-- Whether a label in its one form belongs to a name. -/
def isLabel : List Char → Bool
  | 'x' :: 'n' :: '-' :: '-' :: written =>
    match Punycode.decode? written with
    | none => false
    | some label =>
      isPlainLabel label && nameForm label == label && label.any fun c => decide (128 ≤ c.toNat)
  | label => isPlainLabel label

/-- The one form of the domain name that a text spells. -/
def domain? (cs : List Char) : Option (List Char) :=
  let name := nameForm cs
  if !name.isEmpty && (Text.splitAll '.' name).all isLabel then some name else none

end Schemata.Url
