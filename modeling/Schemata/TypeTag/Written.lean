import Schemata.Text.Split
import Schemata.TypeTag

/-!
# Tags of written types

A member of an entity carries its type as text, such as `Option<i64>` or `chrono::DateTime<Utc>`.
`TypeTag.ofWritten?` finds the tag. A reference and its lifetime carry no column information, blanks
do not count, only the last segment of a path is looked at, and an optional type has the tag of the
type inside it.
-/

namespace Schemata

/-- A type read as a path: its last segment, and what stands between the first `<` and a final `>`. -/
structure PathType where
  segment : List Char
  argument : Option (List Char)
deriving Repr, DecidableEq

namespace PathType

/-- The type that a reference refers to; any other type is left alone. -/
def referent (text : List Char) : List Char :=
  match Text.trim text with
  | '&' :: rest =>
    match Text.trimStart rest with
    | '\'' :: lifetime => (lifetime.dropWhile fun c => !Text.isBlank c).drop 1
    | cs => cs
  | cs => cs

/-- Reads a text without blanks; refused when a `<` is not closed by the last character. -/
def ofCompact? (cs : List Char) : Option PathType :=
  match Text.splitFirst ['<'] cs with
  | none => some ⟨Text.behindLast [':', ':'] cs, none⟩
  | some (path, inside) =>
    if inside.getLast? = some '>' then
      some ⟨Text.behindLast [':', ':'] path, some inside.dropLast⟩
    else none

/-- Reads the text of a type. -/
def read? (text : List Char) : Option PathType :=
  ofCompact? (Text.squeeze (referent text))

theorem length_referent_le (text : List Char) : (referent text).length ≤ text.length := by
  have htrim := Text.length_trim_le text
  unfold referent
  split
  · rename_i rest heq
    have hrest : rest.length < text.length := by
      simp only [heq, List.length_cons] at htrim
      omega
    have hstart := Text.length_trimStart_le rest
    split
    · rename_i lifetime hl
      have hdrop := (List.dropWhile_sublist (fun c => !Text.isBlank c) (l := lifetime)).length_le
      simp only [hl, List.length_cons] at hstart
      simp only [List.length_drop]
      omega
    · omega
  · exact htrim

theorem length_argument_lt {text argument : List Char} {p : PathType} (h : read? text = some p)
    (ha : p.argument = some argument) : argument.length < text.length := by
  have hlen := Nat.le_trans (Text.length_squeeze_le (referent text)) (length_referent_le text)
  revert h hlen
  unfold read? ofCompact?
  generalize Text.squeeze (referent text) = cs
  intro h hlen
  have key : ∀ (t a b : List Char), Text.splitFirst ['<'] t = some (a, b) → b.length < t.length := by
    intro t
    induction t with
    | nil => intro a b hab; simp [Text.splitFirst] at hab
    | cons c t ih =>
      intro a b hab
      simp only [Text.splitFirst] at hab
      split at hab
      · cases hab
        simp
      · obtain ⟨⟨x, y⟩, hxy, heq⟩ := Option.map_eq_some_iff.1 hab
        cases heq
        have := ih x y hxy
        simp only [List.length_cons]
        omega
  split at h
  · cases h
    cases ha
  · rename_i path inside hsplit
    split at h
    · cases h
      cases ha
      have := key _ _ _ hsplit
      simp only [List.length_dropLast]
      omega
    · cases h

end PathType

namespace TypeTag

/-- The types that are written without an argument. -/
def plainTypes : List (String × TypeTag) := [
  ("i8", int8), ("i16", int16), ("i32", int32), ("i64", int64), ("isize", int64),
  ("u8", uint8), ("u16", uint16), ("u32", uint32), ("u64", uint64), ("usize", uint64),
  ("f32", float32), ("f64", float64), ("bool", bool), ("char", fixedChar),
  ("String", string), ("str", string), ("Uuid", guid), ("Decimal", decimal),
  ("BigDecimal", decimal), ("NaiveDate", date), ("NaiveTime", time), ("NaiveDateTime", dateTime),
  ("DateTime", dateTimeWithOffset)]

/-- The tag of a type without an argument. -/
def ofPlain? (segment : List Char) : Option TypeTag :=
  (plainTypes.find? fun row => row.1.toList == segment).map (·.2)

/-- The tag of a type with an argument, an optional type apart. -/
def ofApplied? (segment argument : List Char) : Option TypeTag :=
  if segment = "Vec".toList ∧ argument = "u8".toList then some binary
  else if segment = "DateTime".toList then some dateTimeWithOffset
  else none

/-- The tag of a written type. -/
def ofWritten? (text : List Char) : Option TypeTag :=
  match _h : PathType.read? text with
  | none => none
  | some p =>
    match _ha : p.argument with
    | none => ofPlain? p.segment
    | some argument =>
      if p.segment = "Option".toList then ofWritten? argument
      else ofApplied? p.segment argument
termination_by text.length
decreasing_by exact PathType.length_argument_lt _h _ha

end TypeTag

end Schemata
