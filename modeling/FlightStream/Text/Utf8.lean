import FlightStream.Text.CodePoint

/-!
Text in bytes: the UTF-8 form. One step reads one character or the longest run of bytes that
begins one and is broken off (`step`); what is done about the broken ones differs. The lossy
reading puts one replacement character in the place of each, and the strict reading stops and
says where and why, but lets surrogates pass.
-/

namespace FlightStream.Utf8

open Text (replacement)

/-- Why bytes are no character. -/
inductive Defect
  | start | continuation | ended
  deriving DecidableEq, Repr

/-- The words for a defect. -/
def Defect.reason : Defect → String
  | start => "invalid start byte"
  | continuation => "invalid continuation byte"
  | ended => "unexpected end of data"

/-- What the bytes at the front are: a character, a surrogate, or broken. -/
inductive Outcome
  | char (c : Char)
  | surrogate (code : Nat)
  | broken (defect : Defect)
  deriving DecidableEq, Repr

/-- One step of reading: the outcome, and how many bytes after the first it takes. -/
structure Step where
  outcome : Outcome
  taken : Nat
  deriving DecidableEq, Repr

/-- How many bytes follow a first byte, and the range that the second byte lies in. -/
def following (lead : Nat) : Option (Nat × Nat × Nat) :=
  if 0xc2 ≤ lead ∧ lead ≤ 0xdf then some (1, 0x80, 0xbf)
  else if lead = 0xe0 then some (2, 0xa0, 0xbf)
  else if lead = 0xed then some (2, 0x80, 0x9f)
  else if 0xe1 ≤ lead ∧ lead ≤ 0xef then some (2, 0x80, 0xbf)
  else if lead = 0xf0 then some (3, 0x90, 0xbf)
  else if 0xf1 ≤ lead ∧ lead ≤ 0xf3 then some (3, 0x80, 0xbf)
  else if lead = 0xf4 then some (3, 0x80, 0x8f)
  else none

/-- The bits of a first byte that belong to the character. -/
def leadBits (lead count : Nat) : Nat :=
  if count = 1 then lead % 0x20 else if count = 2 then lead % 0x10 else lead % 0x08

/-- Reads `count` more bytes, the next one from the given range, onto the bits so far. -/
def continueWith : Nat → Nat → Nat → Nat → Nat → List UInt8 → Step
  | 0, _, _, bits, taken, _ => ⟨.char (Char.ofNat bits), taken⟩
  | _ + 1, _, _, _, taken, [] => ⟨.broken .ended, taken⟩
  | count + 1, low, high, bits, taken, b :: rest =>
    if low ≤ b.toNat ∧ b.toNat ≤ high then
      continueWith count 0x80 0xbf (bits * 0x40 + b.toNat % 0x40) (taken + 1) rest
    else ⟨.broken .continuation, taken⟩

/-- The surrogate that three bytes are in the form of a character. -/
def surrogate? (lead : Nat) (rest : List UInt8) : Option Nat :=
  match rest with
  | second :: third :: _ =>
    if lead = 0xed ∧ (0xa0 ≤ second.toNat ∧ second.toNat ≤ 0xbf) ∧
        (0x80 ≤ third.toNat ∧ third.toNat ≤ 0xbf) then
      some (0xd000 + second.toNat % 0x40 * 0x40 + third.toNat % 0x40)
    else none
  | _ => none

/-- Reads what the bytes at the front are. -/
def step (lead : UInt8) (rest : List UInt8) : Step :=
  let n := lead.toNat
  if n < 0x80 then ⟨.char (Char.ofNat n), 0⟩
  else
    match surrogate? n rest, following n with
    | some code, _ => ⟨.surrogate code, 2⟩
    | none, none => ⟨.broken .start, 0⟩
    | none, some (count, low, high) => continueWith count low high (leadBits n count) 0 rest

/-- What is left after a step is shorter than what it was taken from. -/
theorem length_drop_lt_cons (lead : UInt8) (rest : List UInt8) (taken : Nat) :
    (rest.drop taken).length < (lead :: rest).length := by
  rw [List.length_drop, List.length_cons]
  exact Nat.lt_succ_of_le (Nat.sub_le _ _)

/-- Reads bytes, with one replacement character for each broken run, and one for each byte of
a surrogate. -/
def decodeLossy : List UInt8 → List Char
  | [] => []
  | lead :: rest =>
    let s := step lead rest
    match s.outcome with
    | .char c => c :: decodeLossy (rest.drop s.taken)
    | .surrogate _ => replacement :: decodeLossy rest
    | .broken _ => replacement :: decodeLossy (rest.drop s.taken)
termination_by bytes => bytes.length
decreasing_by
  · exact length_drop_lt_cons lead rest s.taken
  · exact Nat.lt_succ_self _
  · exact length_drop_lt_cons lead rest s.taken

/-- Where a reading stopped: the position, the number of bytes and why. -/
structure Refusal where
  position : Nat
  first : UInt8
  length : Nat
  defect : Defect
  deriving DecidableEq, Repr

/-- The words for a refusal. -/
def Refusal.message (r : Refusal) : String :=
  if r.length = 1 then
    let byte := String.ofList (['0', 'x'] ++ Nat.toDigits 16 r.first.toNat)
    s!"'utf-8' codec can't decode byte {byte} in position {r.position}: {r.defect.reason}"
  else
    s!"'utf-8' codec can't decode bytes in position {r.position}-" ++
      s!"{r.position + r.length - 1}: {r.defect.reason}"

/-- Reads the code points of bytes that start at a position; stops at the first broken run. -/
def decodeFrom (position : Nat) : List UInt8 → Except Refusal (List Nat)
  | [] => .ok []
  | lead :: rest =>
    let s := step lead rest
    match s.outcome with
    | .char c =>
      (decodeFrom (position + s.taken + 1) (rest.drop s.taken)).map (c.toNat :: ·)
    | .surrogate code =>
      (decodeFrom (position + s.taken + 1) (rest.drop s.taken)).map (code :: ·)
    | .broken defect => .error ⟨position, lead, s.taken + 1, defect⟩
termination_by bytes => bytes.length
decreasing_by
  · exact length_drop_lt_cons lead rest s.taken
  · exact length_drop_lt_cons lead rest s.taken

/-- Reads the code points of bytes, among which there may be surrogates. -/
def decode (bytes : List UInt8) : Except Refusal (List Nat) := decodeFrom 0 bytes

/-- The bytes of a text. -/
def encode (s : String) : List UInt8 := s.toUTF8.toList

example : decodeLossy [0x61, 0xff, 0x62, 0xc3] = ['a', replacement, 'b', replacement] := by
  cbv
example : decodeLossy [0xed, 0xa0, 0x80] = [replacement, replacement, replacement] := by cbv

end FlightStream.Utf8
