import FlightStream.Template
import FlightStream.Value

/-!
Functions on values that a described pipeline can name, for mapping and for filtering. Each
works on the kinds of values that have its operation, and fails on the others.
-/

namespace FlightStream.Value

/-- Two of a thing: twice a number, a text or a tuple repeated. -/
def double : Value → Except Fault Value
  | text s => .ok (text (s ++ s))
  | tuple items => .ok (tuple (items ++ items))
  | list items => .ok (list (items ++ items))
  | v =>
    match v.number? with
    | some n => (n.mul 2).map number
    | Option.none => unsupported "*" v (number 2)

/-- The negative of a number. -/
def negate (v : Value) : Except Fault Value :=
  match v.number? with
  | some n => .ok (number n.neg)
  | Option.none => mismatch s!"bad operand type for unary -: '{v.kindName}'"

/-- One divided by a number. -/
def reciprocal (v : Value) : Except Fault Value :=
  match v.number? with
  | some n => ((1 : Number).div n).map fun x => number (.float x)
  | Option.none => unsupported "/" (number 1) v

/-- A text as a template, filled with one whole number. -/
def filled (template : String) (i : Int) : Except Fault String :=
  Template.fill template [.number (.int i)]

/-- Whether nothing is left of a value when twos are taken out: of a number the remainder; of a
text what it comes to as a template for the number two. -/
def isSpent (v : Value) : Except Fault Bool :=
  match v with
  | text s => (filled s 2).map String.isEmpty
  | v =>
    match v.number? with
    | some n => .ok n.isEven
    | Option.none => unsupported "%" v (number 2)

/-- Whether a number is even. A text never is, even where nothing is left of it. -/
def isEven (v : Value) : Except Fault Bool :=
  v.isSpent.map fun spent =>
    match v with
    | text _ => false
    | _ => spent

/-- Whether a value counts as true: not nothing, not zero, not empty. -/
def truth : Value → Bool
  | none => false
  | bool b => b
  | number n => !n.eqv 0
  | text s => !s.isEmpty
  | tuple items | list items => !items.isEmpty
  | _ => true

/-- The functions that can be named. -/
inductive Function
  | identity | double | negate | reciprocal | evenOnly | isEven | isPositive | smallReciprocal
  deriving DecidableEq, Repr

/-- The function of a name. -/
def Function.ofName? : String → Option Function
  | "id" => some identity
  | "double" => some double
  | "negate" => some negate
  | "recip" => some reciprocal
  | "none_if_odd" => some evenOnly
  | "is_even" => some isEven
  | "positive" => some isPositive
  | "recip_small" => some smallReciprocal
  | _ => Option.none

/-- What a function makes of a value. -/
def Function.apply (f : Function) (v : Value) : Except Fault Value :=
  match f with
  | identity => .ok v
  | double => v.double
  | negate => v.negate
  | reciprocal => v.reciprocal
  | evenOnly => v.isSpent.map fun spent => if spent then v else .none
  | isEven => v.isEven.map .bool
  | isPositive => (v.exceeds (.number 0)).map .bool
  | smallReciprocal => do
    let r ← v.reciprocal
    return .bool ((r.number?.getD 0).lt (.float 0.5))

/-- A function for mapping: nothing means that the value is dropped. -/
def Function.mapping (f : Function) (v : Value) : Except Fault (Option Value) :=
  (f.apply v).map fun
    | .none => Option.none
    | result => some result

/-- A function for filtering. -/
def Function.filtering (f : Function) (v : Value) : Except Fault Bool := (f.apply v).map truth

end FlightStream.Value
