import FlightStream.Text.Hex

/-!
Hosts that are given by number: four numbers with points between them, or eight in hexadecimal
with colons between them, of which a run of zeros may be left out.
-/

namespace FlightStream.Url

/-! ## Four numbers -/

/-- Whether a character is a decimal digit. -/
def isDigit (c : Char) : Bool := '0' ≤ c && c ≤ '9'

/-- Whether a text looks like four numbers: four runs of digits with points between them. -/
def looksLikeNumbers (cs : List Char) : Bool :=
  let parts := cs.splitOn '.'
  parts.length == 4 && parts.all fun part => !part.isEmpty && part.all isDigit

/-- Whether a text is a number below 256 without needless zeros. -/
def isByte (cs : List Char) : Bool :=
  !cs.isEmpty && cs.all isDigit && cs.length ≤ 3 && (cs == ['0'] || cs.head? != some '0') &&
    cs.foldl (fun n c => 10 * n + (c.toNat - '0'.toNat)) 0 < 256

/-- Whether a text is four numbers with points between them. -/
def isFourNumbers (cs : List Char) : Bool :=
  let parts := cs.splitOn '.'
  parts.length == 4 && parts.all isByte

/-! ## Eight numbers -/

/-- Whether a text is a number of one to four hexadecimal digits. -/
def isGroup (cs : List Char) : Bool :=
  !cs.isEmpty && cs.length ≤ 4 && cs.all fun c => (Text.hexValue? c).isSome

/-- The parts of an address between colons; four numbers at the end count as two parts. None, if
they are no four numbers. -/
def groups? (cs : List Char) : Option (List (List Char)) :=
  let parts := cs.splitOn ':'
  match parts.getLast? with
  | none => some parts
  | some last =>
    if last.contains '.' then
      if isFourNumbers last then some (parts.dropLast ++ [['0'], ['0']]) else none
    else some parts

/-- Whether what stands on one side of a gap is a list of numbers, perhaps of none: then it is a
single empty part. -/
def isSide (parts : List (List Char)) : Bool := parts == [[]] || parts.all isGroup

/-- How many numbers stand on one side of a gap. -/
def sideCount (parts : List (List Char)) : Nat := if parts == [[]] then 0 else parts.length

/-- Whether parts between colons are eight numbers, of which one run may be left out. -/
def isEightGroups (parts : List (List Char)) : Bool :=
  let inner := (parts.drop 1).dropLast
  match inner.count [] with
  | 0 => parts.length == 8 && parts.all isGroup
  | 1 =>
    let before := (parts.take 1) ++ inner.takeWhile (· != [])
    let after := parts.drop (before.length + 1)
    isSide before && isSide after && sideCount before + sideCount after < 8
  | _ => false

/-- Whether a text is an address of eight numbers, perhaps followed by the name of a zone. -/
def isEightNumbers (cs : List Char) : Bool :=
  let address := cs.takeWhile (· != '%')
  let zone := cs.drop (address.length + 1)
  let hasZone := address.length < cs.length
  if hasZone && (zone.isEmpty || zone.contains '%') then false
  else if (address.splitOn ':').length < 3 then false
  else
    match groups? address with
    | some parts => parts.length ≤ 9 && isEightGroups parts
    | none => false

end FlightStream.Url
