import FlightStream.EventTime.SlidingWindow
import FlightStream.Number

/-!
Windows as an aggregator uses them: which windows cover a time, where a window ends, and when it
is closed under a watermark. Times `θ` and window starts `τ` are whole numbers as a rule, and
then the windows are those of a `SlidingWindow`.
-/

namespace FlightStream

/-- How windows cover times, by their starts in ascending order, where they end, and under which
watermarks they are closed. -/
structure Windowing (θ τ : Type) where
  startsFor : θ → Except Fault (List τ)
  endOf : τ → τ
  isClosed : Number → τ → Bool

/-- Sliding windows of whole times, which stay open for some lateness after their end. -/
def SlidingWindow.windowing (w : SlidingWindow) (lateness : Int) : Windowing Int Int where
  startsFor time := .ok (w.startsFor time)
  endOf := w.endOf
  isClosed watermark start := (Number.int (w.endOf start + lateness)).le watermark

end FlightStream
