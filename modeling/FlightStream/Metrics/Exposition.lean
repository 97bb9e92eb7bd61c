import FlightStream.Metrics.Registry
import FlightStream.Number.Shortest
import FlightStream.Text.Lines

/-!
The text form in which metrics are served: a line for each sample, with its labels in quotes.
-/

namespace FlightStream.Exposition

/-- Drops zeros and points from the end. -/
def dropZeros (cs : List Char) : List Char :=
  (cs.reverse.dropWhile fun c => c = '0' ∨ c = '.').reverse

/-- The text of a value: the shortest decimal, with a power of ten as soon as a positive value
has more than six digits before the point. -/
def valueText (x : Float) : String :=
  if x.isNaN then "NaN"
  else if x.isInf then (if 0 < x then "+Inf" else "-Inf")
  else
    let text := shortestText x
    let cs := text.toList
    let whole := cs.takeWhile (· ≠ '.')
    if 0 < x && cs.contains '.' && 6 < whole.length then
      let mantissa := whole.take 1 ++ '.' :: whole.drop 1 ++ cs.drop (whole.length + 1)
      let power := whole.length - 1
      String.ofList (dropZeros mantissa) ++ (if power < 10 then "e+0" else "e+") ++ toString power
    else text

/-- A label value between quotes. -/
def escapeLabel (value : String) : String :=
  String.ofList (value.toList.flatMap fun
    | '\\' => ['\\', '\\']
    | '\n' => ['\\', 'n']
    | '"' => ['\\', '"']
    | c => [c])

/-- The line of a sample. -/
def line (s : Sample) : String :=
  let labels := s.sortedLabels.map fun (name, value) =>
    name ++ "=\"" ++ escapeLabel value ++ "\""
  let braces := if labels.isEmpty then "" else "\x7b" ++ ",".intercalate labels ++ "\x7d"
  s.name ++ braces ++ " " ++ valueText s.value

/-- Whether a line is shown: comments are not, nor what names a time of creation. -/
def isShown (line : String) : Bool :=
  line.toList.head? != some '#' && (line.splitOn Registry.createdEnding).length == 1

/-- The lines of all samples as they appear on a screen, in ascending order. A label value can
break a line. -/
def lines (r : Registry) : List String :=
  ((r.samples.flatMap fun s => Text.screenLines (line s)).filter isShown).mergeSort
    fun a b => decide (a ≤ b)

end FlightStream.Exposition
