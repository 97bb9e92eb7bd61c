/-!
Lines of a text. Nothing after the last line end is no line. A line of a file ends at a line feed,
at a carriage return, or at both in this order; on a screen the other characters that break lines
count too.
-/

namespace FlightStream.Text

/-- The lines of a text without their ends, given which characters end one and the reversed start
of the current line. -/
def linesAfter (isEnd : Char → Bool) (line : List Char) : List Char → List (List Char)
  | [] => if line.isEmpty then [] else [line.reverse]
  | '\r' :: '\n' :: rest => line.reverse :: linesAfter isEnd [] rest
  | c :: rest =>
    if isEnd c then line.reverse :: linesAfter isEnd [] rest
    else linesAfter isEnd (c :: line) rest

/-- Whether a line of a file ends at a character. -/
def endsFileLine (c : Char) : Bool := c == '\n' || c == '\r'

/-- Whether a line on a screen ends at a character. -/
def endsScreenLine (c : Char) : Bool :=
  let n := c.toNat
  (0xa ≤ n && n ≤ 0xd) || (0x1c ≤ n && n ≤ 0x1e) || n == 0x85 || n == 0x2028 || n == 0x2029

/-- The lines of a file without their ends. -/
def lines (text : List Char) : List (List Char) := linesAfter endsFileLine [] text

/-- The lines of a text on a screen without their ends. -/
def screenLines (text : String) : List String :=
  (linesAfter endsScreenLine [] text.toList).map String.ofList

theorem endsScreenLine_of_endsFileLine {c : Char} (h : endsFileLine c = true) :
    endsScreenLine c = true := by
  simp only [endsFileLine, Bool.or_eq_true, beq_iff_eq] at h
  rcases h with rfl | rfl <;> decide

example : lines "a\r\nb\rc\n\nd".toList = ["a".toList, "b".toList, "c".toList, [], "d".toList] := by
  decide

end FlightStream.Text
