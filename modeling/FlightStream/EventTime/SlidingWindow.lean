import FlightStream.Fault

/-!
Overlapping windows of event time. All windows have the same size and start at the multiples
of the slide; a window covers the times from its start up to, but without, its end.
-/

namespace FlightStream

/-- Windows of one size whose starts are the multiples of a slide no longer than the size. -/
structure SlidingWindow where
  size : Int
  slide : Int
  slide_pos : 0 < slide
  slide_le_size : slide ≤ size

namespace SlidingWindow

/-- The window definition with this size and slide, if it is one. -/
def define? (size slide : Int) : Except Fault SlidingWindow :=
  if positive : 0 < size ∧ 0 < slide then
    if fits : slide ≤ size then .ok ⟨size, slide, positive.2, fits⟩
    else .error .slideExceedsSize
  else .error .windowNotPositive

variable (w : SlidingWindow)

/-- The end of the window with this start. -/
def endOf (start : Int) : Int := start + w.size

/-- The last window start at or before a time. -/
def lastStart (time : Int) : Int := time - time % w.slide

/-- The starts from `start` back to the first window that still covers `time`, put in
ascending order before the later ones. -/
def startsBackFrom (time start : Int) (later : List Int) : List Int :=
  if _ : time < w.endOf start then
    startsBackFrom time (start - w.slide) (start :: later)
  else later
termination_by (w.endOf start - time).toNat
decreasing_by
  have := w.slide_pos
  unfold endOf at *
  omega

/-- The starts of the windows that cover a time, in ascending order. -/
def startsFor (time : Int) : List Int := w.startsBackFrom time (w.lastStart time) []

/-- The windows that cover a time, as pairs of start and end. -/
def assign (time : Int) : List (Int × Int) :=
  (w.startsFor time).map fun start => (start, w.endOf start)

/-- The definition in words. -/
def text : String :=
  s!"SlidingWindow(size_ms={w.size}, slide_ms={w.slide})"

end SlidingWindow

end FlightStream
