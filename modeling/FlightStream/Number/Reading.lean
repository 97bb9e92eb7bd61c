import FlightStream.Number.Shortest
import FlightStream.Text.Blank
import FlightStream.Text.Digit

/-!
Reading numbers from text. Digits may be grouped by single underscores between them. The
functions on characters know plain digits only; those that accept the digits of every script
write them as plain digits first.
-/

namespace FlightStream.Reading

open Text

/-! ## Digits and signs -/

/-- The digits that follow a digit, each perhaps after one underscore, and what is left. -/
def moreDigits : List Char → List Nat × List Char
  | '_' :: c :: rest =>
    match plainDigit? c with
    | some d => let (ds, left) := moreDigits rest; (d :: ds, left)
    | none => ([], '_' :: c :: rest)
  | c :: rest =>
    match plainDigit? c with
    | some d => let (ds, left) := moreDigits rest; (d :: ds, left)
    | none => ([], c :: rest)
  | [] => ([], [])

/-- The digits at the front, and what is left. -/
def digits (cs : List Char) : List Nat × List Char :=
  match cs with
  | '_' :: _ => ([], cs)
  | _ => moreDigits cs

/-- The value of a list of decimal digits. -/
def value (ds : List Nat) : Nat := ds.foldl (fun n d => 10 * n + d) 0

/-- The float of a decimal under a sign, given its digits and the power of ten of the last. -/
def floatOfDigits (negative : Bool) (ds : List Nat) (exponent : Int) : Float :=
  Decimal.toFloat negative ⟨value ds, exponent⟩ (ds.dropWhile (· == 0)).length

/-- Whether a minus sign stands in front, and what follows the sign, if there is one. -/
def sign : List Char → Bool × List Char
  | '-' :: rest => (true, rest)
  | '+' :: rest => (false, rest)
  | cs => (false, cs)

/-! ## Whole numbers -/

/-- The greatest number of digits of a whole number that is read. -/
def digitLimit : Nat := 4300

/-- A whole number as it stands in a text. -/
structure WholeText where
  negative : Bool
  digits : List Nat
  deriving DecidableEq, Repr

/-- The value of a whole number. -/
def WholeText.toInt (x : WholeText) : Int :=
  if x.negative then -(value x.digits : Int) else value x.digits

/-- A sign and at least one digit, then the rest. -/
def whole? (cs : List Char) : Option (WholeText × List Char) :=
  let (negative, body) := sign cs
  match digits body with
  | ([], _) => none
  | (ds, left) => some (⟨negative, ds⟩, left)

/-- The whole number that a text holds, blanks around it allowed, if it is not too long. -/
def int? (text : String) : Option Int :=
  match whole? (trim (plainDigits text.toList)) with
  | some (x, []) => if x.digits.length ≤ digitLimit then some x.toInt else none
  | _ => none

/-! ## Floats -/

/-- What follows an exponent mark: a sign and digits, and nothing else. -/
def exponent? : List Char → Option Int
  | [] => some 0
  | mark :: rest =>
    if mark = 'e' ∨ mark = 'E' then
      match whole? rest with
      | some (x, []) => some x.toInt
      | _ => none
    else none

/-- A finite float under a sign: digits, perhaps a point and more digits, an exponent. -/
def finite? (negative : Bool) (cs : List Char) : Option Float :=
  let (before, rest) := digits cs
  let (after, left) :=
    match rest with
    | '.' :: more => digits more
    | _ => ([], rest)
  if before.isEmpty ∧ after.isEmpty then none
  else
    (exponent? left).map fun e =>
      floatOfDigits negative (before ++ after) (e - (after.length : Int))

/-- The float that plain characters without blanks around them spell. -/
def float? (cs : List Char) : Option Float :=
  let (negative, body) := sign cs
  let name := String.ofList (body.map Char.toLower)
  if name = "inf" ∨ name = "infinity" then
    some (Binary64.ofWord negative Binary64.infinityWord)
  else if name = "nan" then some Binary64.nan
  else finite? negative body

/-- The float that a text holds, in the digits of any script, blanks around it allowed. -/
def float (text : String) : Except Fault Float :=
  match float? (trim (plainDigits text.toList)) with
  | some x => .ok x
  | none => .error (.notANumber text)

/-- The float that a text holds, as a number, where NaN keeps a minus sign. -/
def number (text : String) : Except Fault Number :=
  (float text).map fun x =>
    if x.isNaN ∧ (trim text.toList).head? = some '-' then .minusNan else .float x

end FlightStream.Reading
