import FlightStream.Text.CodePoint
import FlightStream.Text.Hex
import FlightStream.Text.Printable

/-!
Texts in quotes, as they appear inside messages: between single quotes unless the text holds
a single quote and no double one, with a backslash before the quote and the backslash, and
with unprinted characters given by their number in hexadecimal.
-/

namespace FlightStream.Text

/-- A code point written by number, in the shortest of the three widths that holds it. -/
def numberedChar (n : Nat) : List Char :=
  if n < 0x100 then '\\' :: 'x' :: hexDigits 2 n
  else if n < 0x10000 then '\\' :: 'u' :: hexDigits 4 n
  else '\\' :: 'U' :: hexDigits 8 n

/-- One character inside the given quotes. -/
def quotedChar (quote c : Char) : List Char :=
  if c = quote || c = '\\' then ['\\', c]
  else if c = '\n' then ['\\', 'n']
  else if c = '\r' then ['\\', 'r']
  else if c = '\t' then ['\\', 't']
  else if isPrintable c then [c]
  else numberedChar c.toNat

/-- The quote that surrounds a text. -/
def quoteFor (cs : List Char) : Char :=
  if cs.contains '\'' && !cs.contains '"' then '"' else '\''

/-- The text in quotes. -/
def quoted (s : String) : String :=
  let cs := s.toList
  let quote := quoteFor cs
  String.ofList (quote :: cs.flatMap (quotedChar quote) ++ [quote])

/-- Code points in quotes, surrogates by number. -/
def quotedCodes (codes : List Nat) : String :=
  let quote := quoteFor (codes.map charOfCode)
  let body := codes.flatMap fun n =>
    if isSurrogate n then numberedChar n else quotedChar quote (charOfCode n)
  String.ofList (quote :: body ++ [quote])

end FlightStream.Text
