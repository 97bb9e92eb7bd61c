import FlightStream.Graphite.Metric
import FlightStream.Number.Word
import FlightStream.Text.Quoted
import FlightStream.Text.Utf8

/-!
Frames, the form in which metrics go over the wire: four bytes of length, the most significant
first, and a payload of that length. The payload is a program for a small stack machine; run,
it leaves a list with one pair of a name and a pair of a time and a value. A written payload
puts each whole number in the shortest of five forms.
-/

namespace FlightStream.Frame

/-! ## Numbers in bytes -/

/-- The `count` low bytes of a number, the least significant first. -/
def lowBytes : Nat → Nat → List UInt8
  | 0, _ => []
  | count + 1, n => UInt8.ofNat (n % 256) :: lowBytes count (n / 256)

/-- The `count` low bytes of a number, the most significant first. -/
def highBytes (count n : Nat) : List UInt8 := (lowBytes count n).reverse

/-- The number of bytes with the least significant first. -/
def natOfBytes : List UInt8 → Nat
  | [] => 0
  | b :: rest => b.toNat + 256 * natOfBytes rest

/-- The number in two's complement of bytes with the least significant first. -/
def intOfBytes (bytes : List UInt8) : Int :=
  let n := natOfBytes bytes
  if 2 * n < Nat.pow 256 bytes.length then n else n - Nat.pow 256 bytes.length

/-- The fewest bytes in which a whole number has a two's complement. -/
def signedSize (i : Int) : Nat :=
  let magnitude := if 0 ≤ i then i.toNat else (-i - 1).toNat
  if magnitude = 0 then 1 else (magnitude.log2 + 1) / 8 + 1

/-- The two's complement of a whole number in its fewest bytes. -/
def signedBytes (i : Int) : List UInt8 :=
  lowBytes (signedSize i) (i % Nat.pow 256 (signedSize i)).toNat

/-! ## Writing -/

/-- A whole number: up to one byte, two bytes, four bytes with a sign, up to 255 bytes after
their count, or more bytes after a count of four bytes. -/
def writeInt (i : Int) : List UInt8 :=
  if 0 ≤ i ∧ i < 256 then 0x4b :: lowBytes 1 i.toNat
  else if 0 ≤ i ∧ i < 65536 then 0x4d :: lowBytes 2 i.toNat
  else if isWord32 i then 0x4a :: lowBytes 4 (i % 0x100000000).toNat
  else
    let size := signedSize i
    if size < 256 then 0x8a :: lowBytes 1 size ++ signedBytes i
    else 0x8b :: lowBytes 4 size ++ signedBytes i

/-- A text: the count of its bytes and the bytes. -/
def writeText (s : String) : List UInt8 :=
  let bytes := Utf8.encode s
  0x58 :: lowBytes 4 bytes.length ++ bytes

/-- A float: the bytes of its word. -/
def writeFloat (word : Nat) : List UInt8 :=
  0x47 :: highBytes 8 word

/-- The payload of a metric. -/
def payload (m : Metric) : List UInt8 :=
  [0x80, 0x02, 0x5d, 0x71, 0x00] ++ writeText m.name ++ [0x71, 0x01] ++
    writeInt m.timestamp ++ writeFloat m.word ++
    [0x86, 0x71, 0x02, 0x86, 0x71, 0x03, 0x61, 0x2e]

/-- The frame of a metric. -/
def encode (m : Metric) : List UInt8 :=
  let body := payload m
  highBytes 4 body.length ++ body

/-! ## The stack machine -/

/-- A value on the stack. -/
inductive Datum
  | int (value : Int)
  | float (value : Float)
  | text (value : String)
  | tuple (items : List Datum)
  | list (items : List Datum)
  deriving Inhabited

/-- The name of a value's type in messages. -/
def Datum.typeName : Datum → String
  | int _ => "int"
  | float _ => "float"
  | text _ => "str"
  | tuple _ => "tuple"
  | list _ => "list"

/-- The stack, its top first, and the marks set on it: how many values were below each, the
latest mark first. -/
structure Machine where
  stack : List Datum
  marks : List Nat

namespace Machine

/-- Before the first instruction. -/
def initial : Machine := ⟨[], []⟩

/-- How many values are out of reach below the latest mark. -/
def fence (m : Machine) : Nat := m.marks.headD 0

/-- The fault of reaching below what may be reached. -/
def underflow (m : Machine) : Fault :=
  .frameCorrupt
    (if m.marks.isEmpty then "unpickling stack underflow" else "unexpected MARK found")

/-- Puts a value on the stack. -/
def push (m : Machine) (d : Datum) : Machine := { m with stack := d :: m.stack }

/-- Fails unless `count` values can be reached. -/
def require (m : Machine) (count : Nat) : Except Fault Unit :=
  if m.fence + count ≤ m.stack.length then .ok () else .error m.underflow

/-- Replaces the `count` values on top by their tuple. -/
def makeTuple (m : Machine) (count : Nat) : Except Fault Machine := do
  m.require count
  return { m with stack := .tuple (m.stack.take count).reverse :: m.stack.drop count }

/-- Adds the values above the lowest `size` to the list below them. -/
def appendAbove (m : Machine) (size : Nat) : Except Fault Machine :=
  if m.stack.length < size ∨ size ≤ m.fence then .error m.underflow
  else if m.stack.length = size then .ok m
  else
    let above := m.stack.take (m.stack.length - size)
    match m.stack.drop (m.stack.length - size) with
    | .list items :: rest => .ok { m with stack := .list (items ++ above.reverse) :: rest }
    | other :: _ =>
      .error (.missingAttribute s!"'{other.typeName}' object has no attribute 'append'")
    | [] => .error m.underflow

/-- Adds the value on top to the list below it. -/
def append (m : Machine) : Except Fault Machine :=
  if m.stack.length ≤ m.fence + 1 then .error m.underflow
  else m.appendAbove (m.stack.length - 1)

/-- Adds all values above the latest mark to the list below it, and removes the mark. -/
def appendMarked (m : Machine) : Except Fault Machine :=
  match m.marks with
  | [] => .error (.frameCorrupt "could not find MARK")
  | mark :: rest => { m with marks := rest }.appendAbove mark

/-- The value on top. -/
def top (m : Machine) : Except Fault Datum := do
  m.require 1
  return m.stack.headD (.int 0)

end Machine

/-! ## Reading -/

/-- The first `count` bytes and the rest. -/
def take (count : Nat) (bytes : List UInt8) : Except Fault (List UInt8 × List UInt8) :=
  if count ≤ bytes.length then .ok (bytes.take count, bytes.drop count)
  else .error (.frameCorrupt "pickle data was truncated")

/-- The text of bytes. -/
def readText (bytes : List UInt8) : Except Fault String :=
  match Utf8.decode bytes with
  | .ok codes => .ok (Text.textOfCodes codes)
  | .error refusal => .error (.undecodable refusal.message)

/-- The text for an instruction that is not known. -/
def unknownInstruction (code : Nat) : String :=
  if 0x20 ≤ code ∧ code ≤ 0x7e ∧ code ≠ 0x27 ∧ code ≠ 0x5c then
    s!"invalid load key, '{Char.ofNat code}'."
  else "invalid load key, '\\x" ++ String.ofList (Text.hexDigits 2 code) ++ "'."

/-- What follows the count of a long whole number. -/
def readLong (m : Machine) (count : Nat) (bytes : List UInt8) :
    Except Fault (Machine × List UInt8) := do
  let (digits, rest) ← take count bytes
  return (m.push (.int (intOfBytes digits)), rest)

/-- One instruction other than the last, and the bytes after it. -/
def step (m : Machine) (code : Nat) (bytes : List UInt8) :
    Except Fault (Machine × List UInt8) :=
  match code with
  | 0x80 => do
    let (argument, rest) ← take 1 bytes
    if natOfBytes argument ≤ 5 then return (m, rest)
    throw (.frameVersion (natOfBytes argument))
  | 0x5d => .ok (m.push (.list []), bytes)
  | 0x29 => .ok (m.push (.tuple []), bytes)
  | 0x28 => .ok ({ m with marks := m.stack.length :: m.marks }, bytes)
  | 0x71 => do
    let (_, rest) ← take 1 bytes
    m.require 1
    return (m, rest)
  | 0x58 => do
    let (count, rest) ← take 4 bytes
    let (text, rest) ← take (natOfBytes count) rest
    return (m.push (.text (← readText text)), rest)
  | 0x4b => do
    let (argument, rest) ← take 1 bytes
    return (m.push (.int (natOfBytes argument)), rest)
  | 0x4d => do
    let (argument, rest) ← take 2 bytes
    return (m.push (.int (natOfBytes argument)), rest)
  | 0x4a => do
    let (argument, rest) ← take 4 bytes
    return (m.push (.int (intOfBytes argument)), rest)
  | 0x8a => do
    let (count, rest) ← take 1 bytes
    readLong m (natOfBytes count) rest
  | 0x8b => do
    let (count, rest) ← take 4 bytes
    if intOfBytes count < 0 then throw (.frameCorrupt "LONG pickle has negative byte count")
    readLong m (natOfBytes count) rest
  | 0x47 => do
    let (word, rest) ← take 8 bytes
    return (m.push (.float (Float.ofBits (UInt64.ofNat (natOfBytes word.reverse)))), rest)
  | 0x85 => (m.makeTuple 1).map fun m => (m, bytes)
  | 0x86 => (m.makeTuple 2).map fun m => (m, bytes)
  | 0x87 => (m.makeTuple 3).map fun m => (m, bytes)
  | 0x61 => m.append.map fun m => (m, bytes)
  | 0x65 => m.appendMarked.map fun m => (m, bytes)
  | _ => .error (.frameCorrupt (unknownInstruction code))

/-- Runs instructions up to the last one and answers with the value on top. The fuel bounds
the number of bytes left. -/
def run : Nat → Machine → List UInt8 → Except Fault Datum
  | _, _, [] => .error .frameEnded
  | 0, _, _ => .error .frameEnded
  | fuel + 1, m, code :: bytes =>
    if code.toNat = 0x2e then m.top
    else do
      let (m, rest) ← step m code.toNat bytes
      run fuel m rest

/-- The value that a payload leaves. -/
def load (bytes : List UInt8) : Except Fault Datum := run bytes.length .initial bytes

/-! ## Taking values apart -/

/-- The values in a value, where each character of a text counts as one. -/
def Datum.parts : Datum → Except Fault (List Datum)
  | tuple items | list items => .ok items
  | text s => .ok (s.toList.map fun c => .text (String.singleton c))
  | other => .error (.typeMismatch s!"cannot unpack non-iterable {other.typeName} object")

/-- The only value in a value. -/
def Datum.single (d : Datum) : Except Fault Datum := do
  match ← d.parts with
  | [one] => return one
  | [] => throw (.tooFewValues 1 0)
  | _ => throw (.tooManyValues 1)

/-- The two values in a value. -/
def Datum.pair (d : Datum) : Except Fault (Datum × Datum) := do
  match ← d.parts with
  | [one, two] => return (one, two)
  | [] => throw (.tooFewValues 2 0)
  | [_] => throw (.tooFewValues 2 1)
  | _ => throw (.tooManyValues 2)

/-- What a frame carries in the places of name, time and value. -/
structure Content where
  name : Datum
  timestamp : Datum
  value : Datum

/-- What a frame carries, its length checked first. -/
def decode (frame : List UInt8) : Except Fault Content := do
  if frame.length < 4 then throw .frameTooShort
  let declared := natOfBytes (frame.take 4).reverse
  let body := frame.drop 4
  if body.length ≠ declared then throw (.frameLength declared body.length)
  let (name, rest) ← (← (← load body).single).pair
  let (timestamp, value) ← rest.pair
  return ⟨name, timestamp, value⟩

/-- What the frame of a metric carries. -/
def Content.ofMetric (m : Metric) : Content :=
  ⟨.text m.name, .int m.timestamp, .float m.value⟩

end FlightStream.Frame
