/-!
Sets of code points, given as closed ranges in ascending order.
-/

namespace FlightStream.Text

/-- Whether one of the ranges from index `lo` up to, but without, index `hi` holds `n`; the
ranges ascend, so each look at the middle one halves what is left. -/
def inRangesBetween (ranges : Array (Nat × Nat)) (n : Nat) (lo hi : Nat) : Bool :=
  if _ : lo < hi then
    let middle := (lo + hi) / 2
    match ranges[middle]? with
    | none => false
    | some (first, last) =>
      if n < first then inRangesBetween ranges n lo middle
      else if last < n then inRangesBetween ranges n (middle + 1) hi
      else true
  else false
termination_by hi - lo

/-- Whether one of some ascending ranges holds `n`. -/
def inRanges (ranges : Array (Nat × Nat)) (n : Nat) : Bool :=
  inRangesBetween ranges n 0 ranges.size

end FlightStream.Text
