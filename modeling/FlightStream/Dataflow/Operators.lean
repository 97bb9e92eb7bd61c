import FlightStream.EventTime.Watermark
import FlightStream.Graphite.Sink
import FlightStream.Dataflow.Operator
import FlightStream.WindowAggregator

/-!
The operators that pipelines are built from: mapping, filtering, the origin of watermarks,
windowed aggregation, and the sinks that print, note or deliver what reaches them.
-/

namespace FlightStream.Dataflow.Operators

variable {α : Type}

/-! ## One element at a time -/

/-- An operator without state that answers each element with elements, or fails. -/
def perElement (name : String) (answer : α → Except Fault (List α)) : Operator α Unit where
  name := name
  start := ()
  behaviour :=
    { element := fun _ s value =>
        match answer value with
        | .ok values => { state := s, outputs := values.map .element }
        | .error fault => { state := s, failure := some fault }
      advanced := fun _ s => .none s
      finish := fun _ s => .none s }

/-- Sends on what a function makes of each element; where it makes nothing, the element is
dropped. -/
def map (name : String) (f : α → Except Fault (Option α)) : Operator α Unit :=
  perElement name fun value => (f value).map Option.toList

/-- Sends on the elements that a predicate holds of. -/
def filter (name : String) (p : α → Except Fault Bool) : Operator α Unit :=
  perElement name fun value => (p value).map fun holds => if holds then [value] else []

/-! ## Event time -/

/-- The state of an origin of event time: its tracker, the element with the latest time, and the
watermark that it sent last. -/
structure Clock (α : Type) where
  tracker : WatermarkTracker
  latest : Option α
  watermark : Number

/-- Observes the time of an element, after the element was sent on: a watermark above the last
one is published and sent. A watermark beyond the range of floats cannot be published; then it
is kept but not sent. -/
def Clock.observe (name : String) (value : α) (c : Clock α) (time : Number) :
    Reaction α (Clock α) :=
  let c :=
    { c with
      tracker := c.tracker.observe time
      latest := if c.tracker.latest.lt time then some value else c.latest }
  match c.tracker.current with
  | .error fault => { state := c, outputs := [.element value], failure := some fault }
  | .ok watermark =>
    if c.watermark.lt watermark then
      let c := { c with watermark := watermark }
      let effects := [Effect.measured .watermark [name] (.assign watermark)]
      match watermark.toFloat with
      | .ok _ =>
        { state := c, outputs := [.element value, .watermark watermark], effects := effects }
      | .error fault =>
        { state := c, outputs := [.element value], effects := effects, failure := some fault }
    else { state := c, outputs := [.element value] }

/-- Sends every element on, and a watermark after it whenever the watermark advances. `timeOf`
is told the element with the latest time so far, which its faults may name. -/
def insertWatermarks (name : String) (timeOf : Option α → α → Except Fault Number)
    (tracker : WatermarkTracker) : Operator α (Clock α) where
  name := name
  start := ⟨tracker, none, .negInfinity⟩
  ownClock := some (·.watermark)
  behaviour :=
    { element := fun _ c value =>
        match timeOf c.latest value with
        | .ok time => c.observe name value time
        | .error fault => { state := c, outputs := [.element value], failure := some fault }
      advanced := fun _ c => .none c
      finish := fun _ c => .none c }

/-! ## Windows -/

/-- What a change of the open windows publishes. -/
def windowEffects {τ κ σ : Type} (name : String) (before after : OpenWindows τ κ σ) :
    List (Effect α) :=
  (if before.late < after.late then [.measured .lateEvents [name] (.increase 1)] else []) ++
    (if before.published = after.published then []
      else [.measured .openWindows [name] (.assign (.int after.published))])

/-- Aggregates elements over windows; the entries of closed windows are wrapped as elements. -/
def window {θ τ κ σ ρ : Type} [LT τ] [DecidableLT τ] [BEq τ] [BEq κ] (name : String)
    (agg : WindowAggregator θ τ α κ σ ρ) (wrap : TimestampedEntry τ κ ρ → α) :
    Operator α (OpenWindows τ κ σ) where
  name := name
  start := .empty
  instruments := [.lateEvents, .openWindows]
  figures := fun o => [("open_windows", .count o.windows.length), ("late_events", .count o.late)]
  behaviour :=
    { element := fun watermark o value =>
        match agg.accumulate watermark o value with
        | (next, .ok _) => { state := next, effects := windowEffects name o next }
        | (next, .error fault) =>
          { state := next, effects := windowEffects name o next, failure := some fault }
      advanced := fun watermark o => send o (agg.closeDue watermark o)
      finish := fun _ o => send o (agg.flush o) }
where
  /-- Sends the entries of closed windows. -/
  send (o : OpenWindows τ κ σ)
      (answer : OpenWindows τ κ σ × Except Fault (List (TimestampedEntry τ κ ρ))) :
      Reaction α (OpenWindows τ κ σ) :=
    match answer with
    | (next, .ok entries) =>
      { state := next
        outputs := entries.map fun entry => .element (wrap entry)
        effects := windowEffects name o next }
    | (next, .error fault) =>
      { state := next, effects := windowEffects name o next, failure := some fault }

/-! ## Sinks -/

/-- When noting fails: for which elements, at which watermarks, and whether at the end. -/
structure Failures (α : Type) where
  element : α → Option Fault
  watermark : Number → Option Fault
  finish : Option Fault

/-- Noting never fails. -/
def Failures.never : Failures α := ⟨fun _ => none, fun _ => none, none⟩

/-- Notes an output unless that fails. -/
def note (output : Output α) : Option Fault → Reaction α Unit
  | some fault => { state := (), failure := some fault }
  | none => { state := (), effects := [.noted output] }

/-- Notes everything that reaches it. -/
def recorder (name : String) (failures : Failures α) : Operator α Unit where
  name := name
  start := ()
  behaviour :=
    { element := fun _ _ value => note (.element value) (failures.element value)
      advanced := fun time _ => note (.watermark time) (failures.watermark time)
      finish := fun _ _ => note .ended failures.finish }

/-- Notes everything that reaches it, and asks for a stop at its `limit`-th element. -/
def collector (name : String) (limit : Option Nat) : Operator α Nat where
  name := name
  start := 0
  behaviour :=
    { element := fun _ count value =>
        let stop := if limit = some (count + 1) then [Effect.stopRequested] else []
        { state := count + 1, effects := .noted (.element value) :: stop }
      advanced := fun _ count => .none count
      finish := fun _ count => { state := count, effects := [.noted .ended] } }

/-- Prints the metrics that elements have, each after some leading text. -/
def console (name lead : String) (metricOf : α → Except Fault (Option Metric)) :
    Operator α Unit where
  name := name
  start := ()
  behaviour :=
    { element := fun _ _ value =>
        match metricOf value with
        | .ok (some metric) =>
          { state := (), effects := [.printed (metric.line lead)] }
        | .ok none => .none ()
        | .error fault => { state := (), failure := some fault }
      advanced := fun _ _ => .none ()
      finish := fun _ _ => .none () }

/-- The state of a delivering sink: its delivery and the network. -/
structure Delivering (ω τ : Type) where
  delivery : Graphite.Delivery τ
  link : ω

/-- The count and the warning of an incident. -/
def incidentEffects {τ : Type} (name : String) (config : Graphite.Config τ)
    (incident : Graphite.Incident) : List (Effect α) :=
  let counted := match incident with
    | .sent => [Effect.measured .metricsSent [] (.increase 1)]
    | .dropped _ => [Effect.measured .metricsDropped [] (.increase 1)]
    | .unreachable _ _ _ => [Effect.measured .reconnectFailures [] (.increase 1)]
    | _ => []
  counted ++ ((incident.warning? config).map (Effect.warned name)).toList

/-- Delivers the metrics that elements have. `observe` tells what the other side saw since it
was last asked. -/
def graphite {ω τ : Type} [Add τ] [LT τ] [DecidableLT τ] [OfNat τ 0] (name : String)
    (config : Graphite.Config τ) (link : Graphite.Link ω τ) (network : ω)
    (observe : ω → ω × List Traffic) (metricOf : α → Except Fault (Option Metric)) :
    Operator α (Delivering ω τ) where
  name := name
  start := ⟨.initial config, network⟩
  instruments := [.metricsSent, .metricsDropped, .reconnectFailures]
  figures := fun s =>
    [("connected", .flag s.delivery.connected), ("backlog", .count s.delivery.backlog.length),
      ("sent", .count s.delivery.sent), ("dropped", .count s.delivery.dropped)]
  behaviour :=
    { element := fun _ s value =>
        match metricOf value with
        | .ok (some metric) => settle (s.delivery.send config link s.link metric)
        | .ok none => .none s
        | .error fault => { state := s, failure := some fault }
      advanced := fun _ s => .none s
      finish := fun _ s => settle (s.delivery.finish config link s.link) }
where
  /-- Takes over what a step of the delivery came to. -/
  settle (step : Graphite.Step ω τ) : Reaction α (Delivering ω τ) :=
    let (network, traffic) := observe step.link
    { state := ⟨step.delivery, network⟩
      effects := traffic.map .carried ++ step.incidents.flatMap (incidentEffects name config)
      failure := step.failure }

end FlightStream.Dataflow.Operators
