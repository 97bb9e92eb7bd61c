import FlightStream.Text.CodePoint

/-!
Text in bytes: the forms of two and four bytes to a unit, in either order of the bytes. A
surrogate without its partner is let through; a unit that is cut off or out of range makes the
text unreadable.
-/

namespace FlightStream.Wide

/-- The order of the bytes of a unit. -/
inductive Order
  | bigEndian | littleEndian
  deriving DecidableEq, Repr

/-- The value of the bytes of one unit. -/
def Order.value (order : Order) (bytes : List UInt8) : Nat :=
  let ordered := match order with
    | .bigEndian => bytes
    | .littleEndian => bytes.reverse
  ordered.foldl (fun n b => n * 0x100 + b.toNat) 0

/-- The units of two bytes. -/
def units16? (order : Order) : List UInt8 → Option (List Nat)
  | [] => some []
  | a :: b :: rest => (units16? order rest).map (order.value [a, b] :: ·)
  | _ => none

/-- The units of four bytes. -/
def units32? (order : Order) : List UInt8 → Option (List Nat)
  | [] => some []
  | a :: b :: c :: d :: rest => (units32? order rest).map (order.value [a, b, c, d] :: ·)
  | _ => none

/-- Reads the code points of bytes in units of two, of which two may be a pair. -/
def decode16? (order : Order) (bytes : List UInt8) : Option (List Nat) :=
  (units16? order bytes).map Text.joinPairs

/-- Reads the code points of bytes in units of four. -/
def decode32? (order : Order) (bytes : List UInt8) : Option (List Nat) := do
  let units ← units32? order bytes
  if units.all (· < 0x110000) then some units else none

end FlightStream.Wide
