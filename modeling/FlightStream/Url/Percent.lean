import FlightStream.Text.Hex
import FlightStream.Text.Utf8

/-!
Bytes by number in addresses: a percent sign and two hexadecimal digits. Which characters are
written as they are depends on the part of the address.
-/

namespace FlightStream.Url

/-! ## Characters that are kept -/

/-- Whether a character is printed and no blank. -/
def isVisible (c : Char) : Bool := 0x20 < c.toNat && c.toNat < 0x7f

/-- What a fragment keeps. -/
def keptInFragment (c : Char) : Bool := isVisible c && !(['"', '<', '>', '`'].contains c)

/-- What a query keeps. -/
def keptInQuery (c : Char) : Bool := isVisible c && !(['"', '#', '<', '>'].contains c)

/-- What a path keeps. -/
def keptInPath (c : Char) : Bool := keptInQuery c && !(['?', '`', '\x7b', '\x7d'].contains c)

/-- What the part about the user keeps. -/
def keptInUser (c : Char) : Bool :=
  keptInPath c && !(['/', ';', '=', '@', '[', '\\', ']', '^', '|'].contains c)

/-- What a name of a host keeps. -/
def keptInHost (c : Char) : Bool :=
  isVisible c && !(['#', '/', ':', '<', '>', '?', '@', '[', ']', '^'].contains c)

/-! ## Writing and reading -/

/-- The bytes of a character by number. -/
def escapeChar (c : Char) : List Char :=
  (Utf8.encode (String.singleton c)).flatMap fun byte =>
    '%' :: (Text.hexDigits 2 byte.toNat).map Char.toUpper

/-- A text in which all characters but those that are kept are given by number. -/
def escape (kept : Char → Bool) (cs : List Char) : List Char :=
  cs.flatMap fun c => if kept c then [c] else escapeChar c

/-- The bytes of a text in which bytes may be given by number. -/
def unescapedBytes : List Char → List UInt8
  | '%' :: a :: b :: rest =>
    match Text.hexByte? a b with
    | some byte => byte :: unescapedBytes rest
    | none => Utf8.encode "%" ++ unescapedBytes (a :: b :: rest)
  | c :: rest => Utf8.encode (String.singleton c) ++ unescapedBytes rest
  | [] => []

/-- A text in which bytes may be given by number; what cannot be read is replaced. -/
def unescape (cs : List Char) : List Char := Utf8.decodeLossy (unescapedBytes cs)

end FlightStream.Url
