import FlightStream.EventTime.Windowing
import FlightStream.Number.Remainder
import FlightStream.Value.Functions

/-!
Windows over times that may be values of any kind. Whole times have the windows of whole times.
Float times have windows whose starts are floats, found with float arithmetic, so that a time too
large for the slide, an infinity and NaN may have none. Values of other kinds have none either,
but fail.
-/

namespace FlightStream

instance : LT Number := ⟨fun a b => a.lt b = true⟩

instance : DecidableLT Number := fun a b => inferInstanceAs (Decidable (a.lt b = true))

instance : BEq Number := ⟨Number.eqv⟩

namespace SlidingWindow

variable (w : SlidingWindow)

/-- The starts from `start` back to the first window that still covers `time`, put in ascending
order before the later ones. The fuel bounds their number. -/
def floatStartsBackFrom (size slide time : Float) :
    Nat → Float → List Number → List Number
  | 0, _, later => later
  | fuel + 1, start, later =>
    if time < start + size then
      floatStartsBackFrom size slide time fuel (start - slide) (.float start :: later)
    else later

/-- The starts of the windows that cover a float time, in ascending order. Size and slide, and the
lateness if there is a window, have to be within the range of floats. -/
def startsForFloat (lateness : Int) (time : Float) : Except Fault (List Number) := do
  let slide ← (Number.int w.slide).toFloat
  let size ← (Number.int w.size).toFloat
  let last := time - Binary64.remainder time slide
  let fuel := 2 * (w.size / w.slide).toNat + 4
  let starts := floatStartsBackFrom size slide time fuel last []
  if !starts.isEmpty then
    let _ ← (Number.int lateness).toFloat
  return starts

/-- The starts of the windows that cover a time of any kind. -/
def startsForValue (lateness : Int) (time : Value) : Except Fault (List Number) :=
  match time with
  | .text s => do
    let filled ← Value.filled s w.slide
    Value.unsupported "-" time (.text filled)
  | time =>
    match time.number? with
    | some (.int t) => .ok ((w.startsFor t).map .int)
    | some (.float x) => w.startsForFloat lateness x
    | some .minusNan => w.startsForFloat lateness Binary64.nan
    | none => Value.unsupported "%" time (.number (.int w.slide))

/-- The sum of a number that is known to be in range and a whole number. -/
def shifted (x : Number) (i : Int) : Number := (x.addInt i).toOption.getD x

/-- Sliding windows of times of any kind. -/
def valueWindowing (lateness : Int) : Windowing Value Number where
  startsFor := w.startsForValue lateness
  endOf start := shifted start w.size
  isClosed watermark start := (shifted (shifted start w.size) lateness).le watermark

end SlidingWindow

end FlightStream
