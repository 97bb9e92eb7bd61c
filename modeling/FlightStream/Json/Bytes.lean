import FlightStream.Json.Reader
import FlightStream.Text.Utf8
import FlightStream.Text.Wide

/-!
Reading JSON from bytes whose form of text is not given: a byte order mark or the places of
zero bytes tell it.
-/

namespace FlightStream.Json

/-- The forms in which JSON text comes. -/
inductive TextForm
  | utf8
  | utf16 (order : Wide.Order)
  | utf32 (order : Wide.Order)
  deriving DecidableEq, Repr

/-- The byte order marks; the longer ones come first where one begins another. -/
def marks : List (List UInt8 × TextForm) :=
  [([0x00, 0x00, 0xfe, 0xff], .utf32 .bigEndian), ([0xff, 0xfe, 0x00, 0x00], .utf32 .littleEndian),
    ([0xfe, 0xff], .utf16 .bigEndian), ([0xff, 0xfe], .utf16 .littleEndian),
    ([0xef, 0xbb, 0xbf], .utf8)]

/-- The form of bytes without a mark, told by the zeros among the first four. -/
def formByZeros : List UInt8 → TextForm
  | a :: b :: c :: d :: _ =>
    if a = 0 then (if b = 0 then .utf32 .bigEndian else .utf16 .bigEndian)
    else if b = 0 then
      (if c = 0 ∧ d = 0 then .utf32 .littleEndian else .utf16 .littleEndian)
    else .utf8
  | [a, b] =>
    if a = 0 then .utf16 .bigEndian else if b = 0 then .utf16 .littleEndian else .utf8
  | _ => .utf8

/-- The form of bytes, and the bytes after the mark if there is one. -/
def detect (bytes : List UInt8) : TextForm × List UInt8 :=
  match marks.find? fun (mark, _) => mark.isPrefixOf bytes with
  | some (mark, form) => (form, bytes.drop mark.length)
  | none => (formByZeros bytes, bytes)

/-- Reads the code points of bytes in a form. -/
def decode? : TextForm → List UInt8 → Option (List Nat)
  | .utf8, bytes => (Utf8.decode bytes).toOption
  | .utf16 order, bytes => Wide.decode16? order bytes
  | .utf32 order, bytes => Wide.decode32? order bytes

/-- The value that bytes spell. -/
def readBytes (bytes : List UInt8) : Except Refusal Json :=
  let (form, body) := detect bytes
  match decode? form body with
  | some codes => readAll codes
  | none => .error .malformed

end FlightStream.Json
