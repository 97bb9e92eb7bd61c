import FlightStream.Number.Reading

/-!
Numbers in loosely written text. The plain form of a whole number is an optional minus sign and
digits without a leading zero. A looser text is tidied into the plain form first: blanks around
it, a plus sign, leading zeros, a fraction of zeros, and single underscores go. Leading zeros
may stand before a minus sign too. A float may have blanks around it or underscores in it, but
not both.
-/

namespace FlightStream.Loose

open Text

/-! ## Underscores -/

/-- Whether two underscores stand side by side. -/
def hasDouble : List Char → Bool
  | '_' :: '_' :: _ => true
  | _ :: rest => hasDouble rest
  | [] => false

/-- The text without its underscores, if it has some, and each of them alone and between other
characters. -/
def withoutUnderscores? (cs : List Char) : Option (List Char) :=
  if cs.contains '_' && cs.head? != some '_' && cs.getLast? != some '_' && !hasDouble cs then
    some (cs.filter (· != '_'))
  else none

/-! ## Whole numbers -/

/-- Why a text holds no whole number: it is not the form of one, or it is too long. -/
inductive Refusal
  | unreadable | oversized
  deriving DecidableEq, Repr

/-- A whole number in plain form, given whether a minus sign stood before it. A run of digits
that is too long is refused for that, whatever comes after it. -/
def plainDigitsInt (negative : Bool) (cs : List Char) : Except Refusal Int :=
  if cs = ['0'] then .ok 0
  else
    let ds := (cs.takeWhile (plainDigit? · |>.isSome)).filterMap plainDigit?
    if ds.isEmpty ∨ ds.head? = some 0 then .error .unreadable
    else if Reading.digitLimit < ds.length then .error .oversized
    else if ds.length = cs.length then .ok (Reading.WholeText.toInt ⟨negative, ds⟩)
    else .error .unreadable

/-- A whole number in plain form. -/
def plainInt (cs : List Char) : Except Refusal Int :=
  match cs with
  | '-' :: rest => plainDigitsInt true rest
  | _ => plainDigitsInt false cs

/-- What follows leading zeros, with underscores among them: the text from another digit or a
minus sign on, and the character before a point with it. Of zeros alone the last is left. -/
def afterZeros (last : Char) : List Char → Option (List Char)
  | [] => some [last]
  | c :: rest =>
    if c = '0' ∨ c = '_' then afterZeros c rest
    else if ('1' ≤ c ∧ c ≤ '9') ∨ c = '-' then some (c :: rest)
    else if c = '.' then some (last :: c :: rest)
    else none

/-- A text without leading zeros. It has to begin with a digit or a minus sign. -/
def dropZeros : List Char → Option (List Char)
  | [] => none
  | c :: rest =>
    if c = '0' then afterZeros c rest
    else if ('1' ≤ c ∧ c ≤ '9') ∨ c = '-' then some (c :: rest)
    else none

/-- A text without a fraction of zeros at its end. -/
def dropZeroFraction (cs : List Char) : List Char :=
  let zeros := (cs.dropWhile (· != '.')).drop 1
  if !zeros.isEmpty && zeros.all (· == '0') then cs.takeWhile (· != '.') else cs

/-- A text without a sign, tidied. -/
def tidyUnsigned? (cs : List Char) : Option (List Char) :=
  (dropZeros cs).map fun cs =>
    let whole := dropZeroFraction cs
    (withoutUnderscores? whole).getD whole

/-- A text tidied into the plain form, if it can be. -/
def tidy? (cs : List Char) : Option (List Char) :=
  match trim cs with
  | '+' :: '-' :: _ => none
  | '+' :: rest => tidyUnsigned? rest
  | '-' :: rest => (tidyUnsigned? rest).map ('-' :: ·)
  | rest => tidyUnsigned? rest

/-- The whole number that a loosely written text holds. Only a text that needs no tidying is
refused for its length. -/
def int (text : String) : Except Refusal Int :=
  match plainInt text.toList with
  | .error .unreadable =>
    match (tidy? text.toList).bind fun cs => (plainInt cs).toOption with
    | some i => .ok i
    | none => .error .unreadable
  | answer => answer

/-! ## Floats -/

/-- The float that characters without blanks and underscores spell. -/
def plainFloat? (cs : List Char) : Option Float :=
  if cs.contains '_' then none else Reading.float? cs

/-- The float that a loosely written text holds. -/
def float? (text : String) : Option Float :=
  (plainFloat? (trim text.toList)).or
    ((withoutUnderscores? text.toList).bind plainFloat?)

/-- The float that a loosely written text holds, as a number, where NaN keeps a minus sign. -/
def number? (text : String) : Option Number :=
  (float? text).map fun x =>
    if x.isNaN ∧ (trim text.toList).head? = some '-' then .minusNan else .float x

example : (int " +0_05.00 ").toOption = some 5 := by decide +kernel
example : (int "0-5_0").toOption = some (-50) := by decide +kernel
example : (int "+-5").toOption = none := by decide +kernel
example : (int "1.0_0").toOption = none := by decide +kernel

end FlightStream.Loose
