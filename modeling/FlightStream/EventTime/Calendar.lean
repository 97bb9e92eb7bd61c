import FlightStream.Number
import FlightStream.Number.Word
import FlightStream.Text.Digit

/-!
Calendar dates of epoch times, in coordinated universal time. A time in seconds is first
rounded to whole microseconds, a half going to the even one.
-/

namespace FlightStream.Calendar

/-- A date and a time of day. -/
structure Moment where
  year : Int
  month : Nat
  day : Nat
  hour : Nat
  minute : Nat
  second : Nat
  micros : Nat
  deriving DecidableEq, Repr

/-- The year, month and day a number of days after the start of 1970. Years are counted from
March, so that the leap day comes last, in eras of 400 years. -/
def ofDays (days : Int) : Int × Nat × Nat :=
  let shifted := days + 719468
  let era := shifted / 146097
  let dayOfEra := (shifted % 146097).toNat
  let yearOfEra :=
    (dayOfEra - dayOfEra / 1460 + dayOfEra / 36524 - dayOfEra / 146096) / 365
  let dayOfYear := dayOfEra - (365 * yearOfEra + yearOfEra / 4 - yearOfEra / 100)
  let fromMarch := (5 * dayOfYear + 2) / 153
  let day := dayOfYear - (153 * fromMarch + 2) / 5 + 1
  let month := if fromMarch < 10 then fromMarch + 3 else fromMarch - 9
  (yearOfEra + era * 400 + (if month ≤ 2 then 1 else 0), month, day)

/-- The moment a number of microseconds after the start of 1970. -/
def ofMicros (total : Int) : Moment :=
  let seconds := total / 1000000
  let (year, month, day) := ofDays (seconds / 86400)
  let rest := (seconds % 86400).toNat
  ⟨year, month, day, rest / 3600, rest / 60 % 60, rest % 60, (total % 1000000).toNat⟩

/-- A float's whole part toward zero and the microseconds in the rest, rounded to a whole
number with a half going to the even one. The float next to the greatest time of 64 bits counts as
one of them. -/
def microsOfFloat (x : Float) : Except Fault Int :=
  match Binary64.parts? x with
  | none =>
    .error (if x.isNaN then .dateOutOfRange "Invalid value NaN (not a number)"
      else .timeOutOfRange)
  | some p =>
    let whole := p.truncate
    if !isWord64 whole && whole != 0x8000000000000000 then .error .timeOutOfRange
    else
      let (n, d) := p.ratio
      let rest := (Binary64.ofRatio false (n % d) d) * 1000000
      let micros : Int :=
        match Binary64.parts? rest with
        | some q => Binary64.roundHalfEven q.ratio.1 q.ratio.2
        | none => 0
      .ok (whole * 1000000 + if p.negative then -micros else micros)

/-- The microseconds of a time in seconds. -/
def micros : Number → Except Fault Int
  | .int i => if isWord64 i then .ok (i * 1000000) else .error .timeOutOfRange
  | .float x => microsOfFloat x
  | .minusNan => microsOfFloat Binary64.nan

/-- The moment of a number of microseconds. Only the years 1 to 9999 have one. A year that does
not fit into 32 bits, counted from 1900, is not even named, and the others are named by their 32
bits. -/
def checked (total : Int) : Except Fault Moment :=
  let m := ofMicros total
  if 1 ≤ m.year ∧ m.year ≤ 9999 then .ok m
  else if !isWord32 (m.year - 1900) then .error .yearTooLarge
  else .error (.dateOutOfRange s!"year {m.year.bmod 0x100000000} is out of range")

/-- The moment of a time in seconds. -/
def moment (time : Number) : Except Fault Moment := micros time >>= checked

/-- The microseconds of a day. -/
def dayMicros : Int := 86400000000

/-- The moment of a time in seconds where clocks may be set back: the day before has to be a
moment too, since it tells whether they were. -/
def localMoment (time : Number) : Except Fault Moment := do
  let total ← micros time
  let m ← checked total
  let _ ← checked (total - dayMicros)
  return m

/-- The last `width` decimal digits of a number. -/
def padded : Nat → Nat → List Char
  | 0, _ => []
  | width + 1, n => padded width (n / 10) ++ [Text.digitChar (n % 10)]

/-- A number in at least `width` digits. -/
def digits (width n : Nat) : String := String.ofList (padded width n)

/-- Month, day and time of day, up to the second. -/
def Moment.afterYear (m : Moment) : String :=
  "-" ++ digits 2 m.month ++ "-" ++ digits 2 m.day ++ "T" ++ digits 2 m.hour ++ ":" ++
    digits 2 m.minute ++ ":" ++ digits 2 m.second

/-- The moment in full, microseconds only if there are any, with its offset from universal
time. -/
def Moment.full (m : Moment) : String :=
  digits 4 m.year.toNat ++ m.afterYear ++
    (if m.micros = 0 then "" else "." ++ digits 6 m.micros) ++ "+00:00"

/-- The moment up to the second. -/
def Moment.toSecond (m : Moment) : String := toString m.year ++ m.afterYear

example : ofDays 0 = (1970, 1, 1) := by decide
example : ofDays 11016 = (2000, 2, 29) := by decide
example : ofDays (-719162) = (1, 1, 1) := by decide

end FlightStream.Calendar
