import FlightStream.Keyed
import FlightStream.Number

/-!
Noise levels by altitude. A table is looked up from above: an altitude takes the level of the
lowest entry that is not below it.
-/

namespace FlightStream

/-- Altitudes in feet, in ascending order, and at the same places the levels in decibel. -/
structure NoiseTable where
  altitudes : List Int
  levels : List Int
  deriving DecidableEq, Repr

namespace NoiseTable

/-- The table with these levels by altitude; of two levels for one altitude the later counts. -/
def ofList (levels : List (Int × Int)) : NoiseTable :=
  let entries := (Keyed.ofList levels).mergeSort fun a b => decide (a.1 ≤ b.1)
  ⟨entries.map (·.1), entries.map (·.2)⟩

/-- The table without entries. -/
def empty : NoiseTable := ⟨[], []⟩

/-- Between two places of ascending altitudes, the first from which on none is below an altitude,
found by halving. -/
def firstNotBelow (altitudes : List Int) (altitude : Number) (low high : Nat)
    (within : high ≤ altitudes.length) : Nat :=
  if apart : low < high then
    let middle := (low + high) / 2
    have inside : middle < altitudes.length := by omega
    if (Number.int altitudes[middle]).lt altitude then
      firstNotBelow altitudes altitude (middle + 1) high within
    else firstNotBelow altitudes altitude low middle (Nat.le_of_lt inside)
  else low
termination_by high - low
decreasing_by all_goals omega

/-- The level at the lowest entry that is not below the altitude, if there is one. -/
def ceiling? (t : NoiseTable) (altitude : Number) : Option Int :=
  let place := firstNotBelow t.altitudes altitude 0 t.altitudes.length (Nat.le_refl _)
  if place = t.altitudes.length then none else t.levels[place]?

/-- The table in words. -/
def text (t : NoiseTable) : String :=
  let entries := (t.altitudes.zip t.levels).map fun (altitude, level) => s!"{altitude}: {level}"
  "NoiseTable(\x7b" ++ ", ".intercalate entries ++ "\x7d)"

end NoiseTable

end FlightStream
