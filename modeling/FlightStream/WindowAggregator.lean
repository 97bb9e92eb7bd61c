import FlightStream.Aggregation
import FlightStream.EventTime.Windowing
import FlightStream.Keyed
import FlightStream.Number.Writing

/-!
Keyed aggregation over sliding windows, driven by a watermark. An item is folded into the
accumulator of each pair of window and key that it belongs to. A window is closed once its end
and the allowed lateness are at or below the watermark: its accumulators are finished, handed
out stamped with the window's end, and forgotten. Items all of whose windows are closed are
late; they are counted and change nothing else. What is said about a late item is put together
before it is known whether anybody reads it, and may fail.
-/

namespace FlightStream

/-- A result stamped with a time, under a key. -/
structure TimestampedEntry (τ κ ρ : Type) where
  timestamp : τ
  key : κ
  value : ρ
  deriving DecidableEq, Repr

/-- What is aggregated: the windows, the time and the key of an item, the fold, and the texts of
times and keys inside messages. -/
structure WindowAggregator (θ τ α κ σ ρ : Type) where
  windowing : Windowing θ τ
  timeOf : α → Except Fault θ
  keyOf : α → Except Fault κ
  aggregation : Aggregation α σ ρ
  timeText : θ → Except Fault String
  keyText : κ → Except Fault String

/-- The open windows in ascending order of start, each with its accumulators in order of key
arrival; the count of late items; and the number of open windows that was last published. -/
structure OpenWindows (τ κ σ : Type) where
  windows : List (τ × Keyed κ σ)
  late : Nat
  published : Nat
  deriving Repr

namespace OpenWindows

variable {τ κ σ : Type}

/-- No window is open and no item was late. -/
def empty : OpenWindows τ κ σ := ⟨[], 0, 0⟩

/-- The starts of the open windows, ascending. -/
def starts (o : OpenWindows τ κ σ) : List τ := o.windows.map (·.1)

/-- The accumulators of the window with this start, if it is open. -/
def accumulators? [BEq τ] (o : OpenWindows τ κ σ) (start : τ) : Option (Keyed κ σ) :=
  (o.windows.find? fun entry => entry.1 == start).map (·.2)

/-- The accumulator of a window and key. -/
def accumulator? [BEq τ] [BEq κ] (o : OpenWindows τ κ σ) (start : τ) (key : κ) : Option σ :=
  (o.accumulators? start).bind fun keyed => keyed.find? key

/-- Gives the window with this start these accumulators, in its place among the others. An open
window keeps the spelling of its start. -/
def place [LT τ] [DecidableLT τ] [BEq τ] (start : τ) (keyed : Keyed κ σ) :
    List (τ × Keyed κ σ) → List (τ × Keyed κ σ)
  | [] => [(start, keyed)]
  | (other, present) :: rest =>
    if start < other then (start, keyed) :: (other, present) :: rest
    else if start == other then (other, keyed) :: rest
    else (other, present) :: place start keyed rest

/-- Opens the window with this start, without accumulators, unless it is open already. The
number of open windows is published whenever one is opened. -/
def ensure [LT τ] [DecidableLT τ] [BEq τ] (o : OpenWindows τ κ σ) (start : τ) :
    OpenWindows τ κ σ :=
  match o.accumulators? start with
  | some _ => o
  | none =>
    let windows := place start [] o.windows
    { o with windows := windows, published := windows.length }

/-- Sets the accumulator of an open window and key. -/
def store [LT τ] [DecidableLT τ] [BEq τ] [BEq κ] (o : OpenWindows τ κ σ) (start : τ)
    (key : κ) (acc : σ) : OpenWindows τ κ σ :=
  let keyed := (o.accumulators? start).getD []
  { o with windows := place start (keyed.set key acc) o.windows }

/-- Forgets the window with this start. -/
def discard [BEq τ] (o : OpenWindows τ κ σ) (start : τ) : OpenWindows τ κ σ :=
  { o with windows := o.windows.filter fun entry => entry.1 != start }

end OpenWindows

namespace WindowAggregator

variable {θ τ α κ σ ρ : Type} (agg : WindowAggregator θ τ α κ σ ρ)

/-- Whether the window with this start is closed under a watermark. -/
def isClosed (watermark : Number) (start : τ) : Bool := agg.windowing.isClosed watermark start

/-! ## Folding items -/

section Folding

variable [LT τ] [DecidableLT τ] [BEq τ] [BEq κ]

/-- Folds an item into one window and key; a closed window is left alone, which the answer
tells. If the fold fails, a present accumulator keeps what the failure left of it. -/
def fold (watermark : Number) (o : OpenWindows τ κ σ) (start : τ) (key : κ)
    (item : α) : OpenWindows τ κ σ × Except Fault Bool :=
  if agg.isClosed watermark start then (o, .ok false)
  else
    let o := o.ensure start
    let present := o.accumulator? start key
    let folded := agg.aggregation.accumulate (present.getD agg.aggregation.create) item
    match folded.result with
    | .ok acc => (o.store start key acc, .ok true)
    | .error fault => (if present.isSome then o.store start key folded.left else o, .error fault)

/-- Folds an item into the windows with these starts, one after the other, up to the first
failure; the answer tells whether one of them was open. -/
def foldAll (watermark : Number) (o : OpenWindows τ κ σ) (key : κ) (item : α) :
    List τ → OpenWindows τ κ σ × Except Fault Bool
  | [] => (o, .ok false)
  | start :: rest =>
    match agg.fold watermark o start key item with
    | (o, .error fault) => (o, .error fault)
    | (o, .ok folded) =>
      let (o, others) := foldAll watermark o key item rest
      (o, others.map (folded || ·))

/-- What is said about a late item: its key, its time and the watermark, in this order. -/
def lateMessage (watermark : Number) (time : θ) (key : κ) : Except Fault String := do
  let key ← agg.keyText key
  let time ← agg.timeText time
  let watermark ← Writing.number watermark
  return s!"Dropping late event for key {key} at {time} (watermark {watermark})"

/-- Folds an item into every open window that covers its time. An item without such a window
is late and counted; the answer tells whether it was not, unless the message about it cannot be
put together. -/
def accumulate (watermark : Number) (o : OpenWindows τ κ σ) (item : α) :
    OpenWindows τ κ σ × Except Fault Bool :=
  let placed := do
    let time ← agg.timeOf item
    let key ← agg.keyOf item
    return (time, key, ← agg.windowing.startsFor time)
  match placed with
  | .error fault => (o, .error fault)
  | .ok (time, key, starts) =>
    match agg.foldAll watermark o key item starts with
    | (o, .ok false) =>
      ({ o with late := o.late + 1 }, (agg.lateMessage watermark time key).map fun _ => false)
    | answer => answer

end Folding

/-! ## Closing windows -/

/-- The results of one window, in order of key arrival. -/
def finishWindow (start : τ) (keyed : Keyed κ σ) :
    Except Fault (List (TimestampedEntry τ κ ρ)) :=
  keyed.mapM fun (key, acc) =>
    (agg.aggregation.finish acc).map fun value => ⟨agg.windowing.endOf start, key, value⟩

/-- Closes windows one after the other: each is forgotten first and finished then, so a
failure loses its own results and those before it, and keeps the windows after it. -/
def closeEach [BEq τ] (o : OpenWindows τ κ σ) :
    List τ → OpenWindows τ κ σ × Except Fault (List (TimestampedEntry τ κ ρ))
  | [] => (o, .ok [])
  | start :: rest =>
    match agg.finishWindow start ((o.accumulators? start).getD []) with
    | .error fault => (o.discard start, .error fault)
    | .ok entries =>
      let (o, others) := closeEach (o.discard start) rest
      (o, others.map (entries ++ ·))

/-- Closes the windows with these starts and publishes how many are left open. -/
def close [BEq τ] (o : OpenWindows τ κ σ) (starts : List τ) :
    OpenWindows τ κ σ × Except Fault (List (TimestampedEntry τ κ ρ)) :=
  if starts.isEmpty then (o, .ok [])
  else
    match agg.closeEach o starts with
    | (o, .error fault) => (o, .error fault)
    | (o, .ok entries) => ({ o with published := o.windows.length }, .ok entries)

/-- Closes every window that is due under the watermark, oldest first. -/
def closeDue [BEq τ] (watermark : Number) (o : OpenWindows τ κ σ) :
    OpenWindows τ κ σ × Except Fault (List (TimestampedEntry τ κ ρ)) :=
  agg.close o (o.starts.filter (agg.isClosed watermark))

/-- Closes every open window, oldest first. -/
def flush [BEq τ] (o : OpenWindows τ κ σ) :
    OpenWindows τ κ σ × Except Fault (List (TimestampedEntry τ κ ρ)) :=
  agg.close o o.starts

/-! ## An aggregator with its own watermark -/

/-- Open windows and the greatest watermark that was announced. -/
structure State (τ κ σ : Type) where
  watermark : Number
  opened : OpenWindows τ κ σ

/-- No window is open and no watermark was announced. -/
def State.fresh : State τ κ σ := ⟨.negInfinity, .empty⟩

section Folding

variable [LT τ] [DecidableLT τ] [BEq τ] [BEq κ]

/-- Folds an item into every open window that covers its time. -/
def State.accumulate (s : State τ κ σ) (item : α) : State τ κ σ × Except Fault Bool :=
  let (opened, answer) := agg.accumulate s.watermark s.opened item
  ({ s with opened := opened }, answer)

/-- Folds an item into one window and key. -/
def State.fold (s : State τ κ σ) (start : τ) (key : κ) (item : α) :
    State τ κ σ × Except Fault Bool :=
  let (opened, answer) := agg.fold s.watermark s.opened start key item
  ({ s with opened := opened }, answer)

end Folding

/-- What folding into one window comes to if the key cannot be kept: the window is opened, unless
it is closed, and nothing else happens. -/
def State.refuse [LT τ] [DecidableLT τ] [BEq τ] (s : State τ κ σ) (start : τ) (fault : Fault) :
    State τ κ σ × Except Fault Bool :=
  if agg.isClosed s.watermark start then (s, .ok false)
  else ({ s with opened := s.opened.ensure start }, .error fault)

/-- Announces a watermark, which counts if it is above the present one, and closes every window
that is due. -/
def State.tryClose [BEq τ] (s : State τ κ σ) (watermark : Number) :
    State τ κ σ × Except Fault (List (TimestampedEntry τ κ ρ)) :=
  let watermark := if s.watermark.lt watermark then watermark else s.watermark
  let (opened, answer) := agg.closeDue watermark s.opened
  (⟨watermark, opened⟩, answer)

/-- Closes every open window. -/
def State.flush [BEq τ] (s : State τ κ σ) :
    State τ κ σ × Except Fault (List (TimestampedEntry τ κ ρ)) :=
  let (opened, answer) := agg.flush s.opened
  ({ s with opened := opened }, answer)

end WindowAggregator

end FlightStream
