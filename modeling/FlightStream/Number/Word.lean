/-!
Words: the whole numbers that fit into a fixed number of bits, one of them for the sign.
-/

namespace FlightStream

/-- Whether a whole number fits into 32 bits. -/
def isWord32 (i : Int) : Bool := decide (-0x80000000 ≤ i ∧ i < 0x80000000)

/-- Whether a whole number fits into 64 bits. -/
def isWord64 (i : Int) : Bool := decide (-0x8000000000000000 ≤ i ∧ i < 0x8000000000000000)

example : isWord32 (-2147483648) = true ∧ isWord32 2147483648 = false := by decide
example : isWord64 9223372036854775807 = true ∧ isWord64 (-9223372036854775809) = false := by
  decide

end FlightStream
