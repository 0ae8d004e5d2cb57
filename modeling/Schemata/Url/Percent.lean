import Schemata.Text.Digit

/-!
# Percent encoding

A percent sign and two hexadecimal digits stand for a byte; all other characters stand for the bytes
of their UTF-8 form. What is read is a sequence of bytes, which need not be the form of any text.
-/

namespace Schemata.Url

/-- The bytes of a character in UTF-8. -/
def utf8Bytes (c : Char) : List UInt8 :=
  (String.singleton c).toUTF8.toList

/-- The bytes that a text stands for. A percent sign without two digits stands for itself. -/
def percentDecoded : List Char → List UInt8
  | [] => []
  | '%' :: a :: b :: cs =>
    match Text.digitValue? 16 a, Text.digitValue? 16 b with
    | some high, some low => UInt8.ofNat (16 * high + low) :: percentDecoded cs
    | _, _ => utf8Bytes '%' ++ percentDecoded (a :: b :: cs)
  | c :: cs => utf8Bytes c ++ percentDecoded cs

/-- The text that a percent-encoded text stands for, if its bytes are the form of one. -/
def percentDecodedText? (cs : List Char) : Option (List Char) :=
  (String.fromUTF8? ⟨(percentDecoded cs).toArray⟩).map String.toList

end Schemata.Url
