import FlightStream.Json.Value
import FlightStream.Number.Reading
import FlightStream.Text.CodePoint
import FlightStream.Text.Hex

/-!
Reading JSON text, given by its code points, among which there may be surrogates. The grammar is
strict, with three more words for numbers that JSON lacks: `NaN`, `Infinity` and `-Infinity`.
Whole numbers have any size up to the limit on digits, and values are nested up to a limit too.
Of two fields of one name the later value counts.
-/

namespace FlightStream.Json

/-- The two kinds of values that hold others. -/
inductive Container
  | array | object
  deriving DecidableEq, Repr

/-- Why a text is refused: it is no JSON, a whole number in it has too many digits, or its
values are nested too deeply. -/
inductive Refusal
  | malformed
  | digitLimit (digits : Nat)
  | tooDeep (inside : Container)
  deriving DecidableEq, Repr

/-- What a reader of records fails with; text that is no JSON is no failure of its own. -/
def Refusal.fault? : Refusal → Option Fault
  | malformed => none
  | digitLimit digits => some (.digitLimit digits)
  | tooDeep .array => some (.nestedTooDeep "array")
  | tooDeep .object => some (.nestedTooDeep "object")

/-- A value or part of one, with the code points after it. -/
abbrev Reading (α : Type) := Except Refusal (α × List Nat)

/-! ## Marks -/

/-- The mark around texts. -/
@[match_pattern] abbrev quoteMark : Nat := 0x22

/-- The mark before an escape. -/
@[match_pattern] abbrev backslash : Nat := 0x5c

/-- The mark before an array. -/
@[match_pattern] abbrev openBracket : Nat := 0x5b

/-- The mark after an array. -/
@[match_pattern] abbrev closeBracket : Nat := 0x5d

/-- The mark before an object. -/
@[match_pattern] abbrev openBrace : Nat := 0x7b

/-- The mark after an object. -/
@[match_pattern] abbrev closeBrace : Nat := 0x7d

/-- The mark between values. -/
@[match_pattern] abbrev comma : Nat := 0x2c

/-- The mark between a name and its value. -/
@[match_pattern] abbrev colon : Nat := 0x3a

/-- The mark before a fraction. -/
@[match_pattern] abbrev point : Nat := 0x2e

/-- The mark before a negative number. -/
@[match_pattern] abbrev minus : Nat := 0x2d

/-- The mark that may stand before a power of ten. -/
@[match_pattern] abbrev plus : Nat := 0x2b

/-- The digit zero. -/
@[match_pattern] abbrev zero : Nat := 0x30

/-- The letter of an escape by number. -/
@[match_pattern] abbrev letterU : Nat := 0x75

/-- Drops blanks between tokens. -/
def skipBlanks (codes : List Nat) : List Nat :=
  codes.dropWhile fun n => n = 0x20 ∨ n = 0x09 ∨ n = 0x0a ∨ n = 0x0d

/-! ## Texts -/

/-- The value of four hexadecimal digits. -/
def hex4? (a b c d : Nat) : Option Nat := do
  let digit (n : Nat) : Option Nat := Text.hexValue? (Text.charOfCode n)
  let high := 16 * (← digit a) + (← digit b)
  let low := 16 * (← digit c) + (← digit d)
  return 0x100 * high + low

/-- The code point of an escape of one letter. -/
def escape? (letter : Nat) : Option Nat :=
  if letter = quoteMark ∨ letter = backslash ∨ letter = '/'.toNat then some letter
  else if letter = 'b'.toNat then some 0x08
  else if letter = 'f'.toNat then some 0x0c
  else if letter = 'n'.toNat then some 0x0a
  else if letter = 'r'.toNat then some 0x0d
  else if letter = 't'.toNat then some 0x09
  else none

/-- A unit of a text: a code point as it stands, or what an escape gives by number. -/
inductive TextUnit
  | standing (code : Nat)
  | numbered (unit : Nat)
  deriving DecidableEq, Repr

/-- The code point or half of a pair in a unit. -/
def TextUnit.code : TextUnit → Nat
  | standing code | numbered code => code

/-- The code points of units. Only two halves that are both given by number are a pair. -/
def joinUnits : List TextUnit → List Nat
  | .numbered high :: .numbered low :: rest =>
    if Text.isHighSurrogate high && Text.isLowSurrogate low then
      Text.ofPair high low :: joinUnits rest
    else high :: joinUnits (.numbered low :: rest)
  | u :: rest => u.code :: joinUnits rest
  | [] => []

/-- The units of a text up to its closing quote. -/
def textUnits : List Nat → Reading (List TextUnit)
  | quoteMark :: rest => .ok ([], rest)
  | backslash :: letterU :: a :: b :: c :: d :: rest =>
    match hex4? a b c d with
    | none => .error .malformed
    | some unit => (textUnits rest).map fun (units, left) => (.numbered unit :: units, left)
  | backslash :: letter :: rest =>
    match escape? letter with
    | none => .error .malformed
    | some code => (textUnits rest).map fun (units, left) => (.standing code :: units, left)
  | n :: rest =>
    if n < 0x20 ∨ n = backslash then .error .malformed
    else (textUnits rest).map fun (units, left) => (.standing n :: units, left)
  | [] => .error .malformed

/-- The code points of a text after its opening quote. -/
def readCodes (codes : List Nat) : Reading (List Nat) :=
  (textUnits codes).map fun (units, left) => (joinUnits units, left)

/-- The value of code points, which are a text if there is no surrogate among them. -/
def ofCodes (codes : List Nat) : Json :=
  if codes.any Text.isSurrogate then .brokenText codes else .text (Text.textOfCodes codes)

/-- The name of a field of these code points. -/
def nameOfCodes (codes : List Nat) : FieldName :=
  if codes.any Text.isSurrogate then .broken codes else .plain (Text.textOfCodes codes)

/-! ## Numbers -/

/-- The value of a digit. -/
def digit? (n : Nat) : Option Nat := if zero ≤ n ∧ n ≤ 0x39 then some (n - zero) else none

/-- The digits at the front. -/
def digitsOf (codes : List Nat) : List Nat × List Nat :=
  ((codes.takeWhile (digit? · |>.isSome)).filterMap digit?,
    codes.dropWhile (digit? · |>.isSome))

/-- The digits before the point: one zero, or digits that start with another. -/
def wholeDigits : List Nat → Option (List Nat × List Nat)
  | zero :: rest => some ([0], rest)
  | codes =>
    match digitsOf codes with
    | ([], _) => none
    | found => some found

/-- The digits after a point, if a point and a digit follow. -/
def fraction : List Nat → Option (List Nat × List Nat)
  | point :: rest =>
    match digitsOf rest with
    | ([], _) => none
    | found => some found
  | _ => none

/-- Whether a minus sign stands in front, and what follows the sign, if there is one. -/
def sign : List Nat → Bool × List Nat
  | minus :: rest => (true, rest)
  | plus :: rest => (false, rest)
  | codes => (false, codes)

/-- The power of ten, if a mark, perhaps a sign, and a digit follow. -/
def powerOfTen : List Nat → Option (Int × List Nat)
  | mark :: rest =>
    if mark = 'e'.toNat ∨ mark = 'E'.toNat then
      let (negative, body) := sign rest
      match digitsOf body with
      | ([], _) => none
      | (ds, left) =>
        let e : Int := Reading.value ds
        some (if negative then -e else e, left)
    else none
  | [] => none

/-- A number after its sign: a float if it has a fraction or a power of ten. -/
def readUnsigned (negative : Bool) (codes : List Nat) : Reading Number :=
  match wholeDigits codes with
  | none => .error .malformed
  | some (before, rest) =>
    let (after, rest, exact) :=
      match fraction rest with
      | some (ds, left) => (ds, left, false)
      | none => ([], rest, true)
    let (power, rest, exact) :=
      match powerOfTen rest with
      | some (e, left) => (e, left, false)
      | none => ((0 : Int), rest, exact)
    if exact then
      if Reading.digitLimit < before.length then .error (.digitLimit before.length)
      else .ok (.int (Reading.WholeText.toInt ⟨negative, before⟩), rest)
    else
      let x := Reading.floatOfDigits negative (before ++ after) (power - (after.length : Int))
      .ok (.float x, rest)

/-! ## Values -/

/-- The code points of a text. -/
def codesOf (text : String) : List Nat := text.toList.map Char.toNat

/-- The words that stand for values. -/
def words : List (List Nat × Json) :=
  [(codesOf "null", .null), (codesOf "true", .bool true), (codesOf "false", .bool false),
    (codesOf "NaN", .number (.float Binary64.nan)), (codesOf "Infinity", .number .infinity),
    (codesOf "-Infinity", .number .negInfinity)]

/-- The word at the front, if there is one. -/
def word? (codes : List Nat) : Option (Json × List Nat) :=
  (words.find? fun (word, _) => word.isPrefixOf codes).map fun (word, value) =>
    (value, codes.drop word.length)

/-- A word or a number. -/
def readAtom (codes : List Nat) : Reading Json :=
  match word? codes with
  | some found => .ok found
  | none =>
    match codes with
    | minus :: rest => (readUnsigned true rest).map fun (n, left) => (.number n, left)
    | _ => (readUnsigned false codes).map fun (n, left) => (.number n, left)

/-- How deeply values may be nested. -/
def nestingLimit : Nat := 990

/-- One level deeper inside a value; refused if no level is left. -/
def deeper (inside : Container) : Nat → Except Refusal Nat
  | 0 => .error (.tooDeep inside)
  | levels + 1 => .ok levels

mutual

/-- A value at the front, without blanks before it, with so many levels left to nest values.
The fuel bounds the code points left. -/
def readValue (levels : Nat) : Nat → List Nat → Except Refusal (Json × List Nat)
  | 0, _ => .error .malformed
  | fuel + 1, codes =>
    match codes with
    | quoteMark :: rest =>
      (readCodes rest).map fun (codes, left) => (ofCodes codes, left)
    | openBracket :: rest => do
      let levels ← deeper .array levels
      match skipBlanks rest with
      | closeBracket :: left => return (.array [], left)
      | body => (readItems levels fuel body).map fun (items, left) => (.array items, left)
    | openBrace :: rest => do
      let levels ← deeper .object levels
      match skipBlanks rest with
      | closeBrace :: left => return (.object [], left)
      | body =>
        (readFields levels fuel body).map fun (fields, left) =>
          (.object (Keyed.ofList fields), left)
    | _ => readAtom codes

/-- The items of an array up to its closing bracket. -/
def readItems (levels : Nat) : Nat → List Nat → Except Refusal (List Json × List Nat)
  | 0, _ => .error .malformed
  | fuel + 1, codes => do
    let (item, rest) ← readValue levels fuel codes
    match skipBlanks rest with
    | closeBracket :: left => return ([item], left)
    | comma :: more =>
      let (items, left) ← readItems levels fuel (skipBlanks more)
      return (item :: items, left)
    | _ => .error .malformed

/-- The fields of an object up to its closing bracket. -/
def readFields (levels : Nat) :
    Nat → List Nat → Except Refusal (List (FieldName × Json) × List Nat)
  | 0, _ => .error .malformed
  | fuel + 1, codes =>
    match codes with
    | quoteMark :: body => do
      let (name, rest) ← readCodes body
      match skipBlanks rest with
      | colon :: rest =>
        let (value, rest) ← readValue levels fuel (skipBlanks rest)
        match skipBlanks rest with
        | closeBrace :: left => return ([(nameOfCodes name, value)], left)
        | comma :: more =>
          let (fields, left) ← readFields levels fuel (skipBlanks more)
          return ((nameOfCodes name, value) :: fields, left)
        | _ => .error .malformed
      | _ => .error .malformed
    | _ => .error .malformed

end

/-- The value that code points spell as a whole, blanks around it allowed. -/
def readAll (codes : List Nat) : Except Refusal Json :=
  match readValue nestingLimit (2 * codes.length + 2) (skipBlanks codes) with
  | .error refusal => .error refusal
  | .ok (value, rest) => if (skipBlanks rest).isEmpty then .ok value else .error .malformed

/-- The value that a whole text spells. -/
def read (cs : List Char) : Except Refusal Json := readAll (cs.map Char.toNat)

end FlightStream.Json
