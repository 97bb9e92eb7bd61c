import FlightStream.Keyed
import FlightStream.Number.Shortest
import FlightStream.Text.Quoted

/-!
Values of JSON text, and how they are shown inside messages.
-/

namespace FlightStream

/-- The name of a field. A name in which a surrogate lacks its partner is kept apart, by its
code points. -/
inductive FieldName
  | plain (name : String)
  | broken (codes : List Nat)
  deriving DecidableEq, Inhabited

/-- A value of JSON text. A text in which a surrogate lacks its partner is kept apart, by its
code points. -/
inductive Json
  | null
  | bool (value : Bool)
  | number (value : Number)
  | text (value : String)
  | brokenText (codes : List Nat)
  | array (items : List Json)
  | object (fields : List (FieldName × Json))
  deriving Inhabited

namespace Json

/-- The fields of an object whose names are texts. -/
def fields? : Json → Option (Keyed String Json)
  | object fields =>
    some (fields.filterMap fun
      | (.plain name, value) => some (name, value)
      | (.broken _, _) => none)
  | _ => none

/-- The number that a value counts as: numbers are themselves, truth values are zero and one. -/
def number? : Json → Option Number
  | number n => some n
  | bool b => some (.int (if b then 1 else 0))
  | _ => none

/-- The kind of a value in messages about it. -/
def kindName : Json → String
  | null => "NoneType"
  | bool _ => "bool"
  | number (.int _) => "int"
  | number (.float _) | number .minusNan => "float"
  | text _ | brokenText _ => "str"
  | array _ => "list"
  | object _ => "dict"

/-- A name in quotes. -/
def nameText : FieldName → String
  | .plain name => Text.quoted name
  | .broken codes => Text.quotedCodes codes

/-- The word for a truth value in messages. -/
def boolText (b : Bool) : String := if b then "True" else "False"

mutual

/-- A value inside a message, texts in quotes. -/
def shown : Json → String
  | null => "None"
  | bool b => boolText b
  | number n => n.text
  | text s => Text.quoted s
  | brokenText codes => Text.quotedCodes codes
  | array items => "[" ++ ", ".intercalate (shownItems items) ++ "]"
  | object fields => "\x7b" ++ ", ".intercalate (shownFields fields) ++ "\x7d"

/-- The items of an array inside a message. -/
def shownItems : List Json → List String
  | [] => []
  | item :: rest => shown item :: shownItems rest

/-- The fields of an object inside a message. -/
def shownFields : List (FieldName × Json) → List String
  | [] => []
  | (name, value) :: rest => (nameText name ++ ": " ++ shown value) :: shownFields rest

end

/-- A value on its own in a message, a text without quotes. -/
def bare : Json → String
  | text s => s
  | brokenText codes => Text.textOfCodes codes
  | value => value.shown

end Json

end FlightStream
