/-!
Blank characters and trimming. Two sets matter: the blanks around a number in a text, and
the blanks around a line, which also count the four information separators.
-/

namespace FlightStream.Text

/-- A space, tab, line end or other white space of any script. -/
def isBlank (c : Char) : Bool :=
  let n := c.toNat
  (9 ≤ n && n ≤ 13) || n == 0x20 || n == 0x85 || n == 0xa0 || n == 0x1680 ||
    (0x2000 ≤ n && n ≤ 0x200a) || n == 0x2028 || n == 0x2029 || n == 0x202f ||
    n == 0x205f || n == 0x3000

/-- What is trimmed from a line: the blanks and the four information separators. -/
def isLineBlank (c : Char) : Bool :=
  isBlank c || (0x1c ≤ c.toNat && c.toNat ≤ 0x1f)

/-- Drops the characters of a class from both ends. -/
def trimWith (blank : Char → Bool) (cs : List Char) : List Char :=
  ((cs.dropWhile blank).reverse.dropWhile blank).reverse

/-- Drops the blanks around a number. -/
def trim (cs : List Char) : List Char := trimWith isBlank cs

/-- Drops the blanks around a line. -/
def trimLine (cs : List Char) : List Char := trimWith isLineBlank cs

theorem isLineBlank_of_isBlank {c : Char} (h : isBlank c = true) : isLineBlank c = true := by
  simp [isLineBlank, h]

end FlightStream.Text
