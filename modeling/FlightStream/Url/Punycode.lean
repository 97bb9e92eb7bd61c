/-!
Names in plain letters for texts of every script. The plain characters of a text are written
first; the others follow as numbers in a notation with 36 digits, each telling how far on the next
character is to be put, counted over all places in the text and all code points. What a number's
digits are worth is adapted to the numbers before it, so that most of them are short.

The two main definitions are `Punycode.encode` and `Punycode.decode?`.
-/

namespace FlightStream.Url.Punycode

/-! ## Digits -/

/-- The digit of a value below 36. -/
def digitChar (value : Nat) : Char :=
  if value < 26 then Char.ofNat ('a'.toNat + value) else Char.ofNat ('0'.toNat + (value - 26))

/-- The value of a digit in either case. -/
def digitValue? (c : Char) : Option Nat :=
  if 'a' ≤ c ∧ c ≤ 'z' then some (c.toNat - 'a'.toNat)
  else if 'A' ≤ c ∧ c ≤ 'Z' then some (c.toNat - 'A'.toNat)
  else if '0' ≤ c ∧ c ≤ '9' then some (c.toNat - '0'.toNat + 26)
  else none

theorem digitValue?_digitChar (n : Fin 36) : digitValue? (digitChar n) = some n.val := by
  revert n
  decide

/-- The bound of a digit: one below it is the last of its number. The place of a digit counts in
steps of 36 from 36 on. -/
def bound (bias place : Nat) : Nat := max 1 (min 26 (place - bias))

theorem one_le_bound (bias place : Nat) : 1 ≤ bound bias place := by
  unfold bound
  omega

/-- Divides by 35 until at most 455 is left, and counts 36 for each time. -/
def reduce (delta count : Nat) : Nat × Nat :=
  if 455 < delta then reduce (delta / 35) (count + 36) else (delta, count)
termination_by delta
decreasing_by exact Nat.div_lt_self (by omega) (by omega)

/-- The bias after a number, given how many characters there are now. -/
def adapt (delta length : Nat) (isFirst : Bool) : Nat :=
  let scaled := if isFirst then delta / 700 else delta / 2
  let (left, count) := reduce (scaled + scaled / length) 0
  count + 36 * left / (left + 38)

/-! ## Writing -/

/-- The digits of a number from a place on. -/
def digitsFrom (bias place number : Nat) : List Char :=
  let t := bound bias place
  if number < t then [digitChar number]
  else
    digitChar (t + (number - t) % (36 - t)) ::
      digitsFrom bias (place + 36) ((number - t) / (36 - t))
termination_by number
decreasing_by
  have := one_le_bound bias place
  have : (number - bound bias place) / (36 - bound bias place) ≤ number - bound bias place :=
    Nat.div_le_self _ _
  omega

/-- A text that is being written: what is written of its numbers, the number since the last one,
the bias, and how many characters are written. -/
structure Writing where
  written : List Char
  delta : Nat
  bias : Nat
  count : Nat
  isFirst : Bool

/-- Passes a character while those with the code point `next` are written. -/
def Writing.pass (next : Nat) (w : Writing) (n : Nat) : Writing :=
  if n < next then { w with delta := w.delta + 1 }
  else if n = next then
    { written := w.written ++ digitsFrom w.bias 36 w.delta
      delta := 0
      bias := adapt w.delta (w.count + 1) w.isFirst
      count := w.count + 1
      isFirst := false }
  else w

/-- Writes the characters with code points that are given in ascending order, all of them at least
`next`. -/
def Writing.writeAll (codes : List Nat) (next : Nat) (w : Writing) : List Nat → Writing
  | [] => w
  | n :: rest =>
    let w := { w with delta := w.delta + (n - next) * (w.count + 1) }
    let w := codes.foldl (Writing.pass n) w
    Writing.writeAll codes (n + 1) { w with delta := w.delta + 1 } rest

/-- Code points in ascending order, each once. -/
def ascending (codes : List Nat) : List Nat :=
  (codes.mergeSort fun a b => decide (a ≤ b)).eraseReps

/-- A text in plain characters. -/
def encode (codes : List Nat) : List Char :=
  let plain := (codes.filter (· < 128)).map Char.ofNat
  let others := ascending (codes.filter (128 ≤ ·))
  let start : Writing := ⟨[], 0, 72, plain.length, true⟩
  let lead := if plain.isEmpty then [] else plain ++ ['-']
  lead ++ (start.writeAll codes 128 others).written

/-! ## Reading -/

/-- A text that is being read: its code points so far; the code point and the place that the last
number led to, and the bias after it; and of the number that is being read its value, the worth
and the place of its next digit. -/
structure Reading where
  codes : List Nat
  next : Nat
  index : Nat
  bias : Nat
  isFirst : Bool
  value : Nat
  worth : Nat
  place : Nat

/-- Before the first number. -/
def Reading.start (plain : List Nat) : Reading := ⟨plain, 128, 0, 72, true, 0, 1, 36⟩

/-- Whether no number is cut off. -/
def Reading.isComplete (r : Reading) : Bool := r.place = 36

/-- Reads a digit; the last one of a number puts a character into the text. -/
def Reading.digit? (r : Reading) (c : Char) : Option Reading := do
  let d ← digitValue? c
  let value := r.value + d * r.worth
  let t := bound r.bias r.place
  if t ≤ d then
    return { r with value := value, worth := r.worth * (36 - t), place := r.place + 36 }
  let length := r.codes.length + 1
  let next := r.next + (r.index + value) / length
  let index := (r.index + value) % length
  if 0x10ffff < next then none
  else
    return { codes := r.codes.insertIdx index next, next := next, index := index + 1
             bias := adapt value length r.isFirst, isFirst := false
             value := 0, worth := 1, place := 36 }

/-- The code points of a text in plain characters; they may be surrogates. -/
def decode? (cs : List Char) : Option (List Nat) := do
  let numbers := (cs.reverse.takeWhile (· != '-')).reverse
  let plain := cs.take (cs.length - numbers.length - 1)
  let r ← numbers.foldlM Reading.digit? (.start (plain.map Char.toNat))
  if r.isComplete then return r.codes else none

end FlightStream.Url.Punycode
