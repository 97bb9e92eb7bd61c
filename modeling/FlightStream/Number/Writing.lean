import FlightStream.Number.Reading

/-!
Writing numbers into text. A whole number that has too many digits to be read is not written
either; floats always are.
-/

namespace FlightStream.Writing

/-- The least number that has too many digits to be written. -/
@[irreducible]
def bound : Nat := Nat.pow 10 Reading.digitLimit

/-- Whether a whole number has no more digits than are written, its sign aside. -/
def fits (i : Int) : Bool := i.natAbs < bound

/-- The text of a whole number, if it is not too long. -/
def whole (i : Int) : Except Fault String :=
  if fits i then .ok (toString i) else .error .writeLimit

/-- The text of a number, which only a whole number may be too long for. -/
def number : Number → Except Fault String
  | .int i => whole i
  | n => .ok n.text

/-! ## What can be written -/

theorem lt_bound {n digits : Nat} (short : digits ≤ Reading.digitLimit)
    (small : n < Nat.pow 10 digits) : n < bound := by
  unfold bound
  generalize Reading.digitLimit = limit at short ⊢
  exact Nat.lt_of_lt_of_le small (Nat.pow_le_pow_right (by decide) short)

theorem fits_iff {i : Int} : fits i = true ↔ i.natAbs < bound := decide_eq_true_iff

/-- A number that can be written. -/
def Writable (n : Number) : Prop := ∃ text, number n = .ok text

theorem writable_float (x : Float) : Writable (.float x) := ⟨_, rfl⟩

theorem exists_whole_iff {i : Int} : (∃ text, whole i = .ok text) ↔ fits i = true := by
  unfold whole
  cases fits i <;> simp

end FlightStream.Writing
