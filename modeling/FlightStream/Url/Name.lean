import FlightStream.Fault
import FlightStream.Text.Composition
import FlightStream.Text.Mark
import FlightStream.Url.Name.Direction
import FlightStream.Url.Name.Joining
import FlightStream.Url.Name.Permitted
import FlightStream.Url.Name.Script
import FlightStream.Url.Punycode

/-!
Names of hosts in every script. A name consists of labels with points between them. A label with
other than plain characters is written in plain ones after a mark, `xn--`. Not every text is a
label: it has to be composed, of permitted characters, with those that depend on their neighbours
in the right place, and in one direction.

The main definitions are `Name.checkLabel`, `Name.toPlain` and `Name.check`.
-/

namespace FlightStream.Url.Name

/-- A label, by its code points. -/
abbrev Label := List Nat

/-- The fault of a label that has not the form of one. -/
def malformed {ρ : Type} (detail : String) : Except Fault ρ := .error (.badName .form detail)

/-! ## Characters and their neighbours -/

/-- A code point as messages show it. -/
def codeText (n : Nat) : String :=
  let width := if n < 0x10000 then 4 else if n < 0x100000 then 5 else 6
  "U+" ++ String.ofList ((Text.hexDigits width n).map Char.toUpper)

/-- Marks that take room of their own and are yet passed over where letters join. -/
def passedMarks : List Nat := [0xcbf, 0xcc6, 0x11a07, 0x11a08, 0x11c3f, 0x1e94b]

/-- Whether letters join across a character. -/
def isTransparent (n : Nat) : Bool :=
  (Text.isWidthless n && n != 0x1171e) || passedMarks.contains n

/-- Whether the first character that counts for joining is of a set. -/
def joinsWith (ranges : Array (Nat × Nat)) (codes : List Nat) : Bool :=
  match (codes.dropWhile isTransparent).head? with
  | some n => Text.inRanges ranges n
  | none => false

/-- Whether a character takes away the vowel of the letter before it. -/
def isVowelKiller (n : Nat) : Bool := Text.markClass n == 9

/-- Whether a joiner may stand between characters, of which those before it are reversed. -/
def joinerFits (n : Nat) (before after : List Nat) : Bool :=
  before.head?.any isVowelKiller ||
    (n == 0x200c && joinsWith joinsNextRanges before && joinsWith joinsPreviousRanges after)

/-- Whether a digit is one of two sets of Arabic digits that are not mixed. -/
def isArabicDigit (n : Nat) : Bool := 0x660 ≤ n && n ≤ 0x669

/-- Whether a digit is one of the other of two sets of Arabic digits that are not mixed. -/
def isEasternDigit (n : Nat) : Bool := 0x6f0 ≤ n && n ≤ 0x6f9

/-- Whether a character that depends on its neighbours may stand between characters, of which those
before it are reversed. None, if it does not depend on them. -/
def fits? (n : Nat) (before after : List Nat) : Option Bool :=
  let all := before ++ after
  if n = 0xb7 then some (before.head? == some 0x6c && after.head? == some 0x6c)
  else if n = 0x375 then some (after.head?.any (Text.inRanges greekRanges))
  else if n = 0x5f3 ∨ n = 0x5f4 then some (before.head?.any (Text.inRanges hebrewRanges))
  else if n = 0x30fb then
    some (all.any fun m => m != 0x30fb && Text.inRanges japaneseRanges m)
  else if isArabicDigit n then some (!all.any isEasternDigit)
  else if isEasternDigit n then some (!all.any isArabicDigit)
  else none

/-- Checks a character between others, of which those before it are reversed. -/
def checkCharacter (label : Label) (n : Nat) (before after : List Nat) : Except Fault Unit :=
  let place := s!"at position {before.length + 1}"
  let shown := Text.quotedCodes label
  if Text.inRanges permittedRanges n || Text.inRanges undirectedRanges n then .ok ()
  else if n = 0x200c ∨ n = 0x200d then
    if before.head?.any (Text.inRanges undirectedRanges) then
      malformed s!"Unknown codepoint adjacent to joiner {codeText n} {place} in {shown}"
    else if joinerFits n before after then .ok ()
    else .error (.badName .position s!"Joiner {codeText n} not allowed {place} in {shown}")
  else
    match fits? n before after with
    | some true => .ok ()
    | some false =>
      .error (.badName .position s!"Codepoint {codeText n} not allowed {place} in {shown}")
    | none =>
      .error (.badName .character s!"Codepoint {codeText n} {place} of {shown} not allowed")

/-- Checks the characters of a label from one on, after others that are reversed. -/
def checkCharacters (label : Label) (before : List Nat) : List Nat → Except Fault Unit
  | [] => .ok ()
  | n :: rest =>
    match checkCharacter label n before rest with
    | .error fault => .error fault
    | .ok () => checkCharacters label (n :: before) rest

/-! ## Directions -/

/-- The direction of a character. -/
inductive Direction
  | leftToRight | rightToLeft | arabicNumber | plainNumber | neutral | mark
  deriving DecidableEq, Repr

/-- The direction of a character of a label. -/
def Direction.of (n : Nat) : Direction :=
  if Text.inRanges rightToLeftRanges n then rightToLeft
  else if Text.inRanges arabicNumberRanges n then arabicNumber
  else if Text.inRanges plainNumberRanges n then plainNumber
  else if Text.isWidthless n then mark
  else if Text.inRanges neutralRanges n then neutral
  else leftToRight

/-- Whether a character makes a label one that is written from right to left, at least in part. -/
def Direction.isReverse : Direction → Bool
  | rightToLeft | arabicNumber => true
  | _ => false

/-- Whether a character is a digit of a direction. -/
def Direction.isNumber : Direction → Bool
  | arabicNumber | plainNumber => true
  | _ => false

/-- Checks the directions of a label that is written from right to left from a character on, given
its position and the kind of the digits so far. -/
def checkReversed (position : Nat) (digits : Option Direction) :
    List Direction → Except Fault Unit
  | [] => .ok ()
  | d :: rest =>
    if d = .leftToRight then
      .error (.badName .direction
        s!"Invalid direction for codepoint at position {position} in a right-to-left label")
    else if d.isNumber && digits.any (· != d) then
      .error (.badName .direction "Can not mix numeral types in a right-to-left label")
    else checkReversed (position + 1) (if d.isNumber then some d else digits) rest

/-- The position of the first character of a label that may not stand in one that is written from
left to right. -/
def reversePosition (directions : List Direction) : Nat :=
  (directions.takeWhile fun d => !d.isReverse).length + 1

/-- Whether the last character that is no mark may end a label from right to left. -/
def endsReversed (directions : List Direction) : Bool :=
  match (directions.reverse.dropWhile (· == .mark)).head? with
  | some d => d == .rightToLeft || d.isNumber
  | none => false

/-- Checks that a label is written in one direction. -/
def checkDirections (label : Label) : Except Fault Unit :=
  let directions := label.map Direction.of
  let known := label.takeWhile fun n => !Text.inRanges undirectedRanges n
  if known.length < label.length then
    .error (.badName .direction (s!"Unknown directionality in label {Text.quotedCodes label} " ++
      s!"at position {known.length + 1}"))
  else if !directions.any Direction.isReverse then .ok ()
  else
    match directions.head? with
    | some .rightToLeft =>
      match checkReversed 1 none directions with
      | .error fault => .error fault
      | .ok () =>
        if endsReversed directions then .ok ()
        else .error (.badName .direction "Label ends with illegal codepoint directionality")
    | some .leftToRight =>
      .error (.badName .direction ("Invalid direction for codepoint at position " ++
        s!"{reversePosition directions} in a left-to-right label"))
    | _ =>
      .error (.badName .direction (s!"First codepoint in label {Text.quotedCodes label} " ++
        "must be directionality L, R or AL"))

/-! ## Labels -/

/-- The code point of the hyphen. -/
def hyphen : Nat := 0x2d

/-- The greatest length of a label in plain characters. -/
def labelLimit : Nat := 63

/-- The greatest length of a name, a point at its end included. -/
def nameLimit : Nat := 254

/-- Checks that code points are a label. -/
def checkLabel (label : Label) : Except Fault Unit :=
  if label.isEmpty then malformed "Empty Label"
  else if nameLimit < label.length then malformed "Label too long"
  else if !Text.isComposed label then malformed "Label must be in Normalization Form C"
  else if (label.drop 2).take 2 = [hyphen, hyphen] then
    malformed "Label has disallowed hyphens in 3rd and 4th position"
  else if label.head? = some hyphen ∨ label.getLast? = some hyphen then
    malformed "Label must not start or end with a hyphen"
  else if label.head?.any Text.isMark then
    malformed "Label begins with an illegal combining character"
  else
    match checkCharacters label [] label with
    | .error fault => .error fault
    | .ok () => checkDirections label

/-- What stands before a label that is written in plain characters. -/
def mark : List Char := ['x', 'n', '-', '-']

/-- Checks a label of plain characters, which may be written for another one. -/
def checkPlain (label : List Char) : Except Fault Unit :=
  let label := label.map Char.toLower
  if !mark.isPrefixOf label then checkLabel (label.map Char.toNat)
  else
    let body := label.drop mark.length
    if body.isEmpty then malformed "Malformed A-label, no Punycode eligible content found"
    else if body.getLast? = some '-' then malformed "A-label must not end with a hyphen"
    else
      match Punycode.decode? body with
      | none => malformed "Invalid A-label"
      | some codes => do
        checkLabel codes
        if Punycode.encode codes ≠ body then
          malformed "A-label is not the canonical Punycode encoding of its U-label"

/-- A label in plain characters. -/
def plainLabel (label : Label) : Except Fault (List Char) := do
  let plain ←
    if label.all (· < 128) then do
      checkPlain (label.map Char.ofNat)
      pure (label.map Char.ofNat)
    else do
      checkLabel label
      pure (mark ++ Punycode.encode label)
  if labelLimit < plain.length then malformed "Label too long"
  return plain

/-! ## Names -/

/-- Whether a character stands between labels. -/
def isPoint (n : Nat) : Bool := n == 0x2e || n == 0x3002 || n == 0xff0e || n == 0xff61

/-- The labels of a name, and whether a point follows the last of them. -/
def labels (name : List Char) : Except Fault (List Label × Bool) :=
  if nameLimit < name.length then malformed "Domain too long"
  else
    let parts := (name.map fun c => if isPoint c.toNat then 0x2e else c.toNat).splitOn 0x2e
    if parts = [[]] then malformed "Empty domain"
    else if parts.getLast? = some [] then .ok (parts.dropLast, true)
    else .ok (parts, false)

/-- A name in plain characters. -/
def toPlain (name : List Char) : Except Fault (List Char) := do
  let (parts, isClosed) ← labels name
  let plain ← parts.mapM plainLabel
  let joined := ['.'].intercalate (if isClosed then plain ++ [[]] else plain)
  if (if isClosed then nameLimit else nameLimit - 1) < joined.length then
    malformed "Domain too long"
  return joined

/-- Checks that a name in plain characters is one. -/
def check (name : List Char) : Except Fault Unit := do
  let (parts, _) ← labels name
  for label in parts do
    checkPlain (label.map Char.ofNat)

end FlightStream.Url.Name
