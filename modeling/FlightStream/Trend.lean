import FlightStream.VerticalDirection

/-!
The least-squares line through samples, kept as running sums. Sums of whole numbers are exact,
so squares of epoch milliseconds lose nothing.
-/

namespace FlightStream

/-- What remains of an accumulator that an item was offered to, and the accumulator after it.
The two differ where a failure leaves a half-done update behind. -/
structure Folded (σ : Type) where
  left : σ
  result : Except Fault σ

/-- The sums of a least-squares fit of `y` against `x`. -/
structure LinearTrend where
  count : Int
  sumX : Number
  sumY : Number
  sumXX : Number
  sumXY : Number

namespace LinearTrend

/-- The sums over no samples. -/
def empty : LinearTrend := ⟨0, 0, 0, 0, 0⟩

/-- One term of the update: on success the sums go on with the new value, on failure they
stay as they are. -/
def addTerm (t : LinearTrend) (sum : Except Fault Number)
    (next : Number → Folded LinearTrend) : Folded LinearTrend :=
  match sum with
  | .ok value => next value
  | .error fault => ⟨t, .error fault⟩

/-- Adds one sample. The count and the sums change one after the other, and stay as far as they
got if a term fails. -/
def accumulate (t : LinearTrend) (x y : Number) : Folded LinearTrend :=
  let t := { t with count := t.count + 1 }
  t.addTerm (t.sumX.add x) fun sumX =>
  let t := { t with sumX := sumX }
  t.addTerm (t.sumY.add y) fun sumY =>
  let t := { t with sumY := sumY }
  t.addTerm (x.mul x >>= t.sumXX.add) fun sumXX =>
  let t := { t with sumXX := sumXX }
  t.addTerm (x.mul y >>= t.sumXY.add) fun sumXY =>
  let t := { t with sumXY := sumXY }
  ⟨t, .ok t⟩

/-- `n * s - p * q`, the form of both sides of the slope. -/
def spread (n : Int) (s p q : Number) : Except Fault Number := do
  let ns ← (Number.int n).mul s
  let pq ← p.mul q
  ns.sub pq

/-- The slope of the line; NaN if the samples do not differ in `x`. -/
def slope (t : LinearTrend) : Except Fault Float := do
  let denominator ← spread t.count t.sumXX t.sumX t.sumX
  if denominator.eqv 0 then return Binary64.nan
  let numerator ← spread t.count t.sumXY t.sumX t.sumY
  numerator.div denominator

/-- The sums over samples in order. -/
def ofSamples (samples : List (Number × Number)) : Except Fault LinearTrend :=
  samples.foldlM (fun t sample => (t.accumulate sample.1 sample.2).result) empty

/-- The slope of the line through samples, and the direction it stands for. -/
def classify (samples : List (Number × Number)) :
    Except Fault (Float × VerticalDirection) := do
  let slope ← (← ofSamples samples).slope
  return (slope, .ofSlope slope)

end LinearTrend

end FlightStream
