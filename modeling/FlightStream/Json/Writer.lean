import FlightStream.Text.Quoted

/-!
Writing JSON in plain characters: everything else is given by number, and a character beyond
sixteen bits as a pair of numbers.
-/

namespace FlightStream.Json

/-- A unit of sixteen bits by number. -/
def unitEscape (n : Nat) : List Char := '\\' :: 'u' :: Text.hexDigits 4 n

/-- One character between quotes. -/
def escapeChar (c : Char) : List Char :=
  if c = '"' ∨ c = '\\' then ['\\', c]
  else if c = '\n' then ['\\', 'n']
  else if c = '\r' then ['\\', 'r']
  else if c = '\t' then ['\\', 't']
  else if c = '\x08' then ['\\', 'b']
  else if c = '\x0c' then ['\\', 'f']
  else if 0x20 ≤ c.toNat ∧ c.toNat < 0x7f then [c]
  else if c.toNat < 0x10000 then unitEscape c.toNat
  else
    let rest := c.toNat - 0x10000
    unitEscape (0xd800 + rest / 0x400) ++ unitEscape (0xdc00 + rest % 0x400)

/-- A text in quotes. -/
def quotedText (s : String) : String :=
  String.ofList ('"' :: s.toList.flatMap escapeChar ++ ['"'])

/-- An object whose values are written already. -/
def writeObject (fields : List (String × String)) : String :=
  let written := fields.map fun (name, value) => quotedText name ++ ": " ++ value
  "\x7b" ++ ", ".intercalate written ++ "\x7d"

end FlightStream.Json
