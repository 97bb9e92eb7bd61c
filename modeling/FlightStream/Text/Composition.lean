import FlightStream.Text.Composition.Table
import FlightStream.Text.Ranges

/-!
Composed text: of the ways to write a letter with its marks the one that uses composed characters
wherever there are any. To find it, characters are taken apart into their base and their marks,
the marks are put into the order of their classes, and what can be composed is.
-/

namespace FlightStream.Text

/-- The class of a mark by where it is put, zero for all that starts a character. -/
def markClass (n : Nat) : Nat :=
  ((markClassRanges.find? fun (first, last, _) => first ≤ n && n ≤ last).map (·.2.2)).getD 0

/-! ## Korean syllables -/

/-- The base and the last part of a composed syllable: a lead and a vowel, or both with a tail. -/
def syllableParts? (n : Nat) : Option (Nat × Nat) :=
  if 0xac00 ≤ n ∧ n < 0xac00 + 11172 then
    let index := n - 0xac00
    if index % 28 = 0 then some (0x1100 + index / 588, 0x1161 + index % 588 / 28)
    else some (n - index % 28, 0x11a7 + index % 28)
  else none

/-- The syllable of a base and a part that follows it. -/
def syllable? (base part : Nat) : Option Nat :=
  if 0x1100 ≤ base ∧ base < 0x1113 ∧ 0x1161 ≤ part ∧ part < 0x1176 then
    some (0xac00 + ((base - 0x1100) * 21 + (part - 0x1161)) * 28)
  else if 0xac00 ≤ base ∧ base < 0xac00 + 11172 ∧ (base - 0xac00) % 28 = 0 ∧
      0x11a7 < part ∧ part < 0x11c3 then
    some (base + (part - 0x11a7))
  else none

/-! ## Taking apart and putting together -/

/-- The base and the mark of a composed character. -/
def composedParts? (n : Nat) : Option (Nat × Nat) :=
  (syllableParts? n).or
    ((composedPairs.find? fun (_, _, composed) => composed == n).map fun (base, mark, _) =>
      (base, mark))

/-- The composed character of a base and a mark. -/
def compose? (base mark : Nat) : Option Nat :=
  (syllable? base mark).or
    ((composedPairs.find? fun (b, m, _) => b == base && m == mark).map (·.2.2))

/-- A character with its marks apart. The fuel bounds how often a base is composed itself. -/
def apartWithin : Nat → Nat → List Nat
  | 0, n => [n]
  | fuel + 1, n =>
    match composedParts? n with
    | some (base, mark) => apartWithin fuel base ++ [mark]
    | none => [n]

/-- The greatest number of marks of a composed character, with room to spare. -/
def markLimit : Nat := 8

/-- Puts a character behind others, which are reversed: a mark passes marks of greater class. -/
def settle (n : Nat) : List Nat → List Nat
  | [] => [n]
  | last :: before =>
    if 0 < markClass n ∧ markClass n < markClass last then last :: settle n before
    else n :: last :: before

/-- A text with all marks apart and in order. -/
def apart (codes : List Nat) : List Nat :=
  ((codes.flatMap (apartWithin markLimit)).foldl (fun placed n => settle n placed) []).reverse

/-- Text that is being composed: what is done, the character that may still change, and the marks
after it that could not be joined to it. The lists are reversed. -/
structure Composing where
  done : List Nat
  base : Option Nat
  marks : List Nat

namespace Composing

/-- All that was composed, reversed. -/
def all (c : Composing) : List Nat := c.marks ++ c.base.toList ++ c.done

/-- Whether a character can be joined to the base, with no mark in its way. -/
def isOpenTo (c : Composing) (n : Nat) : Bool :=
  match c.marks.head? with
  | none => true
  | some last => decide (markClass last < markClass n)

/-- Adds a character. -/
def add (c : Composing) (n : Nat) : Composing :=
  match c.base.bind fun base => if c.isOpenTo n then compose? base n else none with
  | some composed => { c with base := some composed }
  | none =>
    if markClass n = 0 then ⟨c.all, some n, []⟩
    else if c.base.isNone then { c with done := n :: c.done }
    else { c with marks := n :: c.marks }

end Composing

/-- A text in its composed form. -/
def composed (codes : List Nat) : List Nat :=
  ((apart codes).foldl Composing.add ⟨[], none, []⟩).all.reverse

/-- Whether a text is in its composed form. -/
def isComposed (codes : List Nat) : Bool :=
  !(codes.any (inRanges alteredRanges)) && composed codes == codes

end FlightStream.Text
