import FlightStream.Text.LetterCase.Table
import FlightStream.Text.Ranges

/-!
Texts in upper and in lower case, for the letters of every script. A letter may have several
letters as its counterpart. In lower case one letter has two forms: the Greek sigma is written in
another way at the end of a word.
-/

namespace FlightStream.Text

/-- The counterpart of a letter in a table of runs. -/
def counterpart? (runs : Array (Nat × Nat × Nat × Int)) (n : Nat) : Option Nat :=
  (runs.find? fun (first, last, step, _) => first ≤ n && n ≤ last && (n - first) % step == 0).map
    fun (_, _, _, distance) => (n + distance).toNat

/-- A character in upper case. -/
def upperChar (c : Char) : List Char :=
  if c.toNat < 128 then [c.toUpper]
  else
    match raisedTexts.find? fun entry => entry.1 == c.toNat with
    | some (_, codes) => codes.map Char.ofNat
    | none => [((counterpart? raisedRuns c.toNat).map Char.ofNat).getD c]

/-- A text in upper case. -/
def upper (cs : List Char) : List Char := cs.flatMap upperChar

/-- The Greek sigma in upper case. -/
def capitalSigma : Char := Char.ofNat 0x3a3

/-- A character in lower case, unless that depends on where it stands. -/
def lowerChar (c : Char) : List Char :=
  if c.toNat < 128 then [c.toLower]
  else if c.toNat = 0x130 then [Char.ofNat 0x69, Char.ofNat 0x307]
  else [((counterpart? loweredRuns c.toNat).map Char.ofNat).getD c]

/-- Whether a letter with a case comes first, marks of words set aside. -/
def startsCased (cs : List Char) : Bool :=
  match (cs.dropWhile fun c => inRanges wordMarkRanges c.toNat).head? with
  | some c => inRanges casedRanges c.toNat
  | none => false

/-- A text in lower case, after the text that is read already, in reverse. A sigma ends a word if
a letter comes before it and none comes after it. -/
def lowerAfter (before : List Char) : List Char → List Char
  | [] => []
  | c :: rest =>
    let lowered :=
      if c = capitalSigma && startsCased before && !startsCased rest then [Char.ofNat 0x3c2]
      else lowerChar c
    lowered ++ lowerAfter (c :: before) rest

/-- A text in lower case. -/
def lower (cs : List Char) : List Char := lowerAfter [] cs

end FlightStream.Text
