import FlightStream.Json.Value
import FlightStream.Number.Places
import FlightStream.Text.Digit

/-!
Message templates. A percent sign starts a place that takes the next value: perhaps flags, a width,
a precision, and a letter that tells how the value is written. Two percent signs are one of them as
text. All values have to be used up. Values are not taken by name.
-/

namespace FlightStream.Template

/-! ## Values -/

/-- Takes the next of the values that are left for a template. -/
def takeNext : List Json → Except Fault (Json × List Json)
  | [] => .error (.typeMismatch "not enough arguments for format string")
  | value :: rest => .ok (value, rest)

/-- The fault of values that were not used. -/
def unused : Fault := .typeMismatch "not all arguments converted during string formatting"

/-- The whole number that a value is; truth values count as zero and one. -/
def whole? : Json → Option Int
  | .number (.int i) => some i
  | .bool b => some (if b then 1 else 0)
  | _ => none

/-! ## Reading a place -/

/-- How a value is to be written. -/
structure Place where
  left : Bool := false
  signed : Bool := false
  blank : Bool := false
  alternate : Bool := false
  zeros : Bool := false
  width : Option Nat := none
  precision : Option Nat := none
  letter : Char := '%'

/-- A point in a template: the characters that are left, their position, and the values that are
left. -/
structure Cursor where
  rest : List Char
  position : Nat
  values : List Json

namespace Cursor

/-- Reads a character, of which there has to be one. -/
def read (c : Cursor) : Except Fault (Char × Cursor) :=
  match c.rest with
  | [] => .error (.badTemplate "incomplete format")
  | next :: rest => .ok (next, { c with rest := rest, position := c.position + 1 })

/-- The value of digits at the front, if it is within a limit. -/
def digits (limit : Nat) (tooBig : String) (c : Cursor) : Except Fault (Option Nat × Cursor) :=
  let ds := c.rest.takeWhile (Text.plainDigit? · |>.isSome)
  let n := ds.foldl (fun n d => 10 * n + (Text.plainDigit? d).getD 0) 0
  if ds.isEmpty then .ok (none, c)
  else if limit < n then .error (.badTemplate tooBig)
  else
    .ok (some n, { c with
      rest := c.rest.drop ds.length
      position := c.position + ds.length })

/-- The whole number in the next value, within a limit, if a star stands in front. -/
def star (limit : Nat) (tooBig : String) (c : Cursor) : Except Fault (Option Int × Cursor) :=
  match c.rest with
  | '*' :: rest => do
    let (value, values) ← takeNext c.values
    match whole? value with
    | none => throw (.typeMismatch "* wants int")
    | some i =>
      if i < -(limit : Int) - 1 ∨ limit < i then throw (.numberTooWide tooBig)
      return (some i, ⟨rest, c.position + 1, values⟩)
  | _ => .ok (none, c)

/-- Reads flags. -/
def flags (p : Place) (position : Nat) : List Char → Place × Nat × List Char
  | '-' :: rest => flags { p with left := true } (position + 1) rest
  | '+' :: rest => flags { p with signed := true } (position + 1) rest
  | ' ' :: rest => flags { p with blank := true } (position + 1) rest
  | '#' :: rest => flags { p with alternate := true } (position + 1) rest
  | '0' :: rest => flags { p with zeros := true } (position + 1) rest
  | rest => (p, position, rest)

/-- Reads a width, in digits or as a star for a value; a negative one puts the text to the
left. -/
def width (p : Place) (c : Cursor) : Except Fault (Place × Cursor) := do
  match ← c.star 0x7fffffffffffffff "Python int too large to convert to C ssize_t" with
  | (some i, c) => return ({ p with width := some i.natAbs, left := p.left || i < 0 }, c)
  | (none, c) =>
    let (n, c) ← c.digits 0x7fffffffffffffff "width too big"
    return ({ p with width := n }, c)

/-- Reads a precision after a point, in digits or as a star for a value. -/
def precision (p : Place) (c : Cursor) : Except Fault (Place × Cursor) := do
  match c.rest with
  | '.' :: rest =>
    let c := { c with rest := rest, position := c.position + 1 }
    match ← c.star 0x7fffffff "Python int too large to convert to C int" with
    | (some i, c) => return ({ p with precision := some i.toNat }, c)
    | (none, c) =>
      let (n, c) ← c.digits 0x7fffffff "precision too big"
      return ({ p with precision := some (n.getD 0) }, c)
  | _ => return (p, c)

/-- Reads a place after its percent sign. One mark of length before the letter means nothing. -/
def place (c : Cursor) : Except Fault (Place × Cursor) := do
  if c.rest.head? = some '(' then throw (.typeMismatch "format requires a mapping")
  let (p, position, rest) := flags {} c.position c.rest
  let (p, c) ← width p { c with rest := rest, position := position }
  let (p, c) ← precision p c
  let (letter, c) ← c.read
  if letter = 'h' ∨ letter = 'l' ∨ letter = 'L' then
    let (letter, c) ← c.read
    return ({ p with letter := letter }, c)
  return ({ p with letter := letter }, c)

end Cursor

/-! ## Writing a value -/

/-- Sign, digits and zeros between them up to the precision; with the mark of the base before
them in the alternate form. -/
def wholeText (p : Place) (base : Nat) (mark : List Char) (i : Int) : List Char :=
  let ds := Nat.toDigits base i.natAbs
  let zeros := List.replicate (p.precision.getD 0 - ds.length) '0'
  (if i < 0 then ['-'] else []) ++ (if p.alternate then mark else []) ++ zeros ++ ds

/-- The fault of a value that is no number. -/
def wrongKind {ρ : Type} (p : Place) (wanted : String) (value : Json) : Except Fault ρ :=
  .error (.typeMismatch
    ("%" ++ String.singleton p.letter ++ s!" format: {wanted} is required, not {value.kindName}"))

/-- A value as a whole number in decimal digits; a fraction is left out. -/
def decimal (p : Place) (value : Json) : Except Fault (List Char) :=
  match value, whole? value with
  | _, some i => .ok (wholeText { p with alternate := false } 10 [] i)
  | .number n, none => n.truncate.map (wholeText { p with alternate := false } 10 [])
  | _, none => wrongKind p "a real number" value

/-- A value as a whole number in the digits of a base. -/
def based (p : Place) (base : Nat) (mark : List Char) (value : Json) :
    Except Fault (List Char) :=
  match whole? value with
  | some i => .ok (wholeText p base mark i)
  | none => wrongKind p "an integer" value

/-- A value as a float in a form; six is the precision where none is given. -/
def floating (p : Place) (form : PlacesForm) (value : Json) : Except Fault (List Char) := do
  let n ← match value, whole? value with
    | _, some i => Except.ok (Number.int i)
    | .number n, none => .ok n
    | _, none => .error (.typeMismatch s!"must be real number, not {value.kindName}")
  return (Places.text form (p.precision.getD 6) p.alternate (← n.toFloat)).toList

/-- A value as one character. -/
def character (value : Json) : Except Fault (List Char) :=
  match value, whole? value with
  | .text s, _ =>
    if s.length = 1 then .ok s.toList else .error (.typeMismatch "%c requires int or char")
  | _, some i =>
    if 0 ≤ i ∧ i < 0x110000 then .ok [Text.charOfCode i.toNat]
    else .error (.numberTooWide "%c arg not in range(0x110000)")
  | _, none => .error (.typeMismatch "%c requires int or char")

/-- A text in which every character that is not plain is given by number. -/
def plain (cs : List Char) : List Char :=
  cs.flatMap fun c => if c.toNat < 0x80 then [c] else Text.numberedChar c.toNat

/-- Capital letters for small ones, as they stand among digits. -/
def capital (cs : List Char) : List Char := cs.map Char.toUpper

/-- Lays a text out: within its width, and, if it is a number's, with its sign and the mark of
its base before any zeros. -/
def laidOut (p : Place) (isNumber : Bool) (cs : List Char) : List Char :=
  let (sign, cs) :=
    match isNumber, cs with
    | true, '-' :: rest => (['-'], rest)
    | true, cs =>
      ((if p.signed then ['+'] else if p.blank then [' '] else []), cs)
    | false, cs => ([], cs)
  let marked := p.alternate && isNumber && ['o', 'x', 'X'].contains p.letter
  let before := sign ++ (if marked then cs.take 2 else [])
  let body := if marked then cs.drop 2 else cs
  let room := p.width.getD 0 - before.length - body.length
  if p.left then before ++ body ++ List.replicate room ' '
  else if isNumber && p.zeros then before ++ List.replicate room '0' ++ body
  else List.replicate room ' ' ++ before ++ body

/-- A text up to the precision. -/
def cut (p : Place) (cs : List Char) : List Char :=
  match p.precision with
  | some count => cs.take count
  | none => cs

/-- The text about a letter that no value can be written by; it is shown if it is a plain
character. -/
def unsupported (c : Char) (index : Nat) : String :=
  let shown := if 0x1f ≤ c.toNat ∧ c.toNat ≤ 0x7e then c else '?'
  s!"unsupported format character '{shown}' (0x" ++ String.ofList (Nat.toDigits 16 c.toNat) ++
    s!") at index {index}"

/-- A value as a place wants it; the place's letter stands at an index. -/
def written (p : Place) (index : Nat) (value : Json) : Except Fault (List Char) :=
  let number (text : Except Fault (List Char)) := text.map (laidOut p true)
  match p.letter with
  | 's' => .ok (laidOut p false (cut p value.bare.toList))
  | 'r' => .ok (laidOut p false (cut p value.shown.toList))
  | 'a' => .ok (laidOut p false (cut p (plain value.shown.toList)))
  | 'c' => (character value).map (laidOut p false)
  | 'd' | 'i' | 'u' => number (decimal p value)
  | 'o' => number (based p 8 ['0', 'o'] value)
  | 'x' => number (based p 16 ['0', 'x'] value)
  | 'X' => number ((based p 16 ['0', 'x'] value).map capital)
  | 'f' => number (floating p .fixed value)
  | 'e' => number (floating p .power value)
  | 'g' => number (floating p .general value)
  | 'F' => number ((floating p .fixed value).map capital)
  | 'E' => number ((floating p .power value).map capital)
  | 'G' => number ((floating p .general value).map capital)
  | c => .error (.badTemplate (unsupported c index))

/-! ## Filling in -/

/-- Fills one place, after its percent sign, and answers with its text and the cursor after it. -/
def fillPlace (c : Cursor) : Except Fault (List Char × Cursor) := do
  match c.rest with
  | '%' :: rest => return (['%'], { c with rest := rest, position := c.position + 1 })
  | _ =>
    let (p, c) ← c.place
    let (value, values) ← takeNext c.values
    let text ← written p (c.position - 1) value
    return (text, { c with values := values })

/-- Fills the places of a template from left to right. The fuel bounds the characters left. -/
def fillFrom : Nat → Cursor → Except Fault (List Char)
  | 0, _ => .ok []
  | fuel + 1, c =>
    match c.rest with
    | [] => if c.values.isEmpty then .ok [] else .error unused
    | '%' :: rest => do
      let (text, c) ← fillPlace { c with rest := rest, position := c.position + 1 }
      return text ++ (← fillFrom fuel c)
    | next :: rest =>
      (fillFrom fuel { c with rest := rest, position := c.position + 1 }).map (next :: ·)

/-- The text of a template and its values. -/
def fill (template : String) (values : List Json) : Except Fault String :=
  let cs := template.toList
  (fillFrom (cs.length + 1) ⟨cs, 0, values⟩).map String.ofList

end FlightStream.Template
