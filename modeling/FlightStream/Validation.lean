import FlightStream.Json.Value
import FlightStream.Number.Loose
import FlightStream.Number.Word

/-!
Reading typed fields from loosely typed values. Numbers may come as text, truth values as
numbers or words, and whole numbers as floats without a fraction; each refusal names the rule
that the value breaks.
-/

namespace FlightStream

/-- The rules that a value can break. -/
inductive Issue
  | missing | notARecord
  | notAnInteger | unreadableInteger | fractionalInteger | unboundedInteger | oversizedInteger
  | notAFloat | unreadableFloat
  | notATruthValue | unreadableTruthValue
  | notAText | brokenText
  | frozen
  deriving DecidableEq, Repr

namespace Issue

/-- The name of a rule. -/
def name : Issue → String
  | missing => "missing"
  | notARecord => "model_type"
  | notAnInteger => "int_type"
  | unreadableInteger => "int_parsing"
  | fractionalInteger => "int_from_float"
  | unboundedInteger => "finite_number"
  | oversizedInteger => "int_parsing_size"
  | notAFloat => "float_type"
  | unreadableFloat => "float_parsing"
  | notATruthValue => "bool_type"
  | unreadableTruthValue => "bool_parsing"
  | notAText => "string_type"
  | brokenText => "string_unicode"
  | frozen => "frozen_instance"

end Issue

/-- A field and the rule that its value breaks. -/
structure Flaw where
  field : String
  issue : Issue
  deriving DecidableEq, Repr

namespace Validation

/-! ## Whole numbers -/

/-- A whole number in a text. -/
def integerText (text : String) : Except Issue Int :=
  (Loose.int text).mapError fun
    | .unreadable => .unreadableInteger
    | .oversized => .oversizedInteger

/-- A float without a fraction and below `2 ^ 63` in magnitude. -/
def integerFloat (x : Float) : Except Issue Int :=
  match Binary64.parts? x with
  | none => .error .unboundedInteger
  | some p =>
    if !p.isWhole then .error .fractionalInteger
    else if p.truncate.natAbs < 0x8000000000000000 then .ok p.truncate
    else .error .oversizedInteger

/-- A whole number. -/
def integer : Json → Except Issue Int
  | .number (.int i) => .ok i
  | .number (.float x) => integerFloat x
  | .number .minusNan => .error .unboundedInteger
  | .bool b => .ok (if b then 1 else 0)
  | .text s => integerText s
  | .brokenText _ => .error .brokenText
  | _ => .error .notAnInteger

/-! ## Floats -/

/-- A float. -/
def float : Json → Except Issue Float
  | .number (.float x) => .ok x
  | .number .minusNan => .ok Binary64.nan
  | .number (.int i) =>
    match Binary64.ofInt? i with
    | some x => .ok x
    | none => .error .notAFloat
  | .bool b => .ok (if b then 1 else 0)
  | .text s =>
    match Loose.float? s with
    | some x => .ok x
    | none => .error .unreadableFloat
  | .brokenText _ => .error .brokenText
  | _ => .error .notAFloat

/-! ## Truth values -/

/-- The words for false. -/
def falseWords : List String := ["0", "off", "f", "false", "n", "no"]

/-- The words for true. -/
def trueWords : List String := ["1", "on", "t", "true", "y", "yes"]

/-- The truth value of a word in any case. -/
def truthText (text : String) : Except Issue Bool :=
  let word := String.ofList (text.toList.map Char.toLower)
  if trueWords.contains word then .ok true
  else if falseWords.contains word then .ok false
  else .error .unreadableTruthValue

/-- The truth value of a whole number that is zero or one. -/
def truthInteger (i : Int) : Except Issue Bool :=
  if i = 0 then .ok false else if i = 1 then .ok true else .error .unreadableTruthValue

/-- A truth value. -/
def truth : Json → Except Issue Bool
  | .bool b => .ok b
  | .number (.int i) =>
    if isWord64 i then truthInteger i else .error .notATruthValue
  | .number (.float x) =>
    match integerFloat x with
    | .ok i => truthInteger i
    | .error _ => .error .notATruthValue
  | .number .minusNan => .error .notATruthValue
  | .text s => truthText s
  | .brokenText _ => .error .brokenText
  | _ => .error .notATruthValue

/-! ## Texts -/

/-- A text. -/
def text : Json → Except Issue String
  | .text s => .ok s
  | .brokenText codes => .ok (Text.textOfCodes codes)
  | _ => .error .notAText

end Validation

end FlightStream
