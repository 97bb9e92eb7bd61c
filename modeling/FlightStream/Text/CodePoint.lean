/-!
Code points as numbers. Some sources of text yield surrogates, the halves of a pair of sixteen
bit units, without their partners. Those are code points but no characters.
-/

namespace FlightStream.Text

/-- The character that stands for what could not be read. -/
def replacement : Char := Char.ofNat 0xfffd

/-- Whether a code point is the first half of a pair. -/
def isHighSurrogate (n : Nat) : Bool := 0xd800 ≤ n && n < 0xdc00

/-- Whether a code point is the second half of a pair. -/
def isLowSurrogate (n : Nat) : Bool := 0xdc00 ≤ n && n < 0xe000

/-- Whether a code point is half of a pair. -/
def isSurrogate (n : Nat) : Bool := isHighSurrogate n || isLowSurrogate n

/-- The code point of a pair. -/
def ofPair (high low : Nat) : Nat := 0x10000 + (high - 0xd800) * 0x400 + (low - 0xdc00)

/-- Puts the pairs among units together. -/
def joinPairs : List Nat → List Nat
  | [] => []
  | [n] => [n]
  | n :: m :: rest =>
    if isHighSurrogate n && isLowSurrogate m then ofPair n m :: joinPairs rest
    else n :: joinPairs (m :: rest)

/-- The character of a code point, the replacement character for a surrogate. -/
def charOfCode (n : Nat) : Char := if isSurrogate n then replacement else Char.ofNat n

/-- The text of code points, with a replacement character for each surrogate. -/
def textOfCodes (codes : List Nat) : String := String.ofList (codes.map charOfCode)

example : joinPairs [0x61, 0xd83d, 0xde00, 0xd83d] = [0x61, 0x1f600, 0xd83d] := by decide

end FlightStream.Text
