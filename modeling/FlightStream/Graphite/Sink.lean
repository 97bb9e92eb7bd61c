import FlightStream.Graphite.Frame

/-!
Delivery of metrics over one connection that may fail at any time. Metrics that were accepted
but not yet written wait in a bounded backlog. While there is no connection, each accepted
metric may try to make one, but not before a delay that doubles from failure to failure. Once
the backlog is full, the oldest metric is dropped for each new one.

The network and the clock are a `Link`: an arbitrary environment whose every answer is an
outcome. Times are of any type with an order, a sum and a zero.
-/

namespace FlightStream.Graphite

/-- A failure of the connection: its cause and what it says. -/
structure Breakage where
  cause : LinkFault
  text : String
  deriving DecidableEq, Repr

/-- Whether delivery deals with a breakage; an internal one escapes. -/
def Breakage.isHandled (b : Breakage) : Bool := b.cause != .internal

/-- A breakage as a fault. -/
def Breakage.fault (b : Breakage) : Fault := .link b.cause b.text

/-- What a connection can be asked to do, in an environment `ω` with times `τ`. A failing
`drain` has put the frame on the wire already; a failing `write` has not. -/
structure Link (ω τ : Type) where
  now : ω → τ
  connect : ω → ω × Except Breakage Unit
  write : List UInt8 → ω → ω × Except Breakage Unit
  drain : ω → ω × Except Breakage Unit
  close : ω → ω × Except Breakage Unit

/-- What stays fixed: the receiver's address, whether connecting is given no time at all, the
first and the greatest delay, how many metrics may wait, and the text of a delay. -/
structure Config (τ : Type) where
  host : String
  port : Int
  noTimeToConnect : Bool
  initialDelay : τ
  maxDelay : τ
  capacity : Nat
  delayText : τ → String

/-- What changes: the metrics that wait, whether there is a connection, the next delay, the
time before which no connection is tried, and the counts of what was sent and dropped. -/
structure Delivery (τ : Type) where
  backlog : List Metric
  connected : Bool
  delay : τ
  nextAttempt : τ
  sent : Nat
  dropped : Nat

/-- What happened during a step, as far as others can see it. -/
inductive Incident
  | sent
  | dropped (capacity : Nat)
  | unreachable (shown delay : String) (waiting : Nat)
  | lost (text : String)
  | discarded (waiting : Nat)
  deriving DecidableEq, Repr

/-- A step: the new delivery and environment, what happened, and a failure that escaped. -/
structure Step (ω τ : Type) where
  delivery : Delivery τ
  link : ω
  incidents : List Incident
  failure : Option Fault

namespace Step

variable {ω τ : Type}

/-- Nothing happened. -/
def stay (delivery : Delivery τ) (link : ω) : Step ω τ := ⟨delivery, link, [], none⟩

/-- Puts incidents before those of a step. -/
def after (before : List Incident) (s : Step ω τ) : Step ω τ :=
  { s with incidents := before ++ s.incidents }

/-- Goes on with another step unless a failure escaped. -/
def andThen (s : Step ω τ) (next : Delivery τ → ω → Step ω τ) : Step ω τ :=
  match s.failure with
  | some _ => s
  | none => (next s.delivery s.link).after s.incidents

end Step

namespace Delivery

variable {ω τ : Type}

/-- Before the first metric. -/
def initial [OfNat τ 0] (config : Config τ) : Delivery τ :=
  ⟨[], false, config.initialDelay, 0, 0, 0⟩

/-- After a failure handled at a time: no attempt before the delay is over, and twice the delay
next time, up to the greatest one. -/
def scheduleRetry [Add τ] [LT τ] [DecidableLT τ] (d : Delivery τ) (config : Config τ)
    (now : τ) : Delivery τ :=
  let doubled := d.delay + d.delay
  { d with
    nextAttempt := now + d.delay
    delay := if config.maxDelay < doubled then config.maxDelay else doubled }

/-- Takes a metric into the backlog; a full backlog loses its oldest metric. -/
def accept (d : Delivery τ) (config : Config τ) (m : Metric) : Delivery τ × List Incident :=
  let grown := d.backlog ++ [m]
  let kept := grown.drop (grown.length - config.capacity)
  if d.backlog.length = config.capacity then
    ({ d with backlog := kept, dropped := d.dropped + 1 }, [.dropped config.capacity])
  else ({ d with backlog := kept }, [])

/-- Gives up the connection. A breakage while closing is ignored unless it is internal. -/
def disconnect (link : Link ω τ) (d : Delivery τ) (env : ω) : Step ω τ :=
  if d.connected then
    let d := { d with connected := false }
    match link.close env with
    | (env, .ok ()) => .stay d env
    | (env, .error b) => ⟨d, env, [], if b.isHandled then none else some b.fault⟩
  else .stay d env

variable [Add τ] [LT τ] [DecidableLT τ]

/-- Deals with a breakage while writing: the connection is given up and a retry scheduled. -/
def handleLoss (config : Config τ) (link : Link ω τ) (d : Delivery τ) (env : ω)
    (b : Breakage) : Step ω τ :=
  if b.isHandled then
    ((d.disconnect link env).andThen fun d env =>
      .stay (d.scheduleRetry config (link.now env)) env).after [.lost b.text]
  else ⟨d, env, [], some b.fault⟩

/-- Writes the waiting metrics in order. A metric leaves the backlog only once its frame was
drained. -/
def writeAll (config : Config τ) (link : Link ω τ) (d : Delivery τ) (env : ω) :
    List Metric → Step ω τ
  | [] => .stay { d with backlog := [] } env
  | m :: rest =>
    let d := { d with backlog := m :: rest }
    match link.write (Frame.encode m) env with
    | (env, .error b) => d.handleLoss config link env b
    | (env, .ok ()) =>
      match link.drain env with
      | (env, .error b) => d.handleLoss config link env b
      | (env, .ok ()) =>
        (writeAll config link { d with backlog := rest, sent := d.sent + 1 } env rest).after
          [.sent]

/-- One attempt to connect. -/
def attempt (config : Config τ) (link : Link ω τ) (env : ω) : ω × Except Breakage Unit :=
  if config.noTimeToConnect then (env, .error ⟨.waitExpired, ""⟩) else link.connect env

/-- Makes sure that there is a connection, if it is time to try. -/
def ensureConnected (config : Config τ) (link : Link ω τ) (d : Delivery τ) (env : ω) :
    Step ω τ :=
  if d.connected then .stay d env
  else if link.now env < d.nextAttempt then .stay d env
  else
    match attempt config link env with
    | (env, .ok ()) => .stay { d with connected := true, delay := config.initialDelay } env
    | (env, .error b) =>
      if b.isHandled then
        ⟨d.scheduleRetry config (link.now env), env,
          [.unreachable b.fault.shown (config.delayText d.delay) d.backlog.length], none⟩
      else ⟨d, env, [], some b.fault⟩

/-- Writes the waiting metrics if there is a connection or one can be made. -/
def flush (config : Config τ) (link : Link ω τ) (d : Delivery τ) (env : ω) : Step ω τ :=
  (d.ensureConnected config link env).andThen fun d env =>
    if d.connected then d.writeAll config link env d.backlog else .stay d env

/-- Accepts a metric and writes what the connection allows. -/
def send (config : Config τ) (link : Link ω τ) (d : Delivery τ) (env : ω) (m : Metric) :
    Step ω τ :=
  let (d, incidents) := d.accept config m
  (d.flush config link env).after incidents

/-- Discards what still waits. -/
def discard (d : Delivery τ) (env : ω) : Step ω τ :=
  if d.backlog.isEmpty then .stay d env
  else ⟨{ d with backlog := [] }, env, [.discarded d.backlog.length], none⟩

/-- The end: what waits is tried once more whatever the delay, the rest is discarded, and the
connection is given up. -/
def finish [OfNat τ 0] (config : Config τ) (link : Link ω τ) (d : Delivery τ) (env : ω) :
    Step ω τ :=
  let tried :=
    if d.backlog.isEmpty then .stay d env
    else { d with nextAttempt := 0 }.flush config link env
  (tried.andThen discard).andThen fun d env => d.disconnect link env

end Delivery

/-- The warning about an incident, if it is one to warn of. -/
def Incident.warning? {τ : Type} (config : Config τ) : Incident → Option String
  | sent => none
  | dropped capacity =>
    some s!"Graphite backlog full ({capacity}); dropping oldest buffered metric"
  | unreachable shown delay waiting =>
    some (s!"Cannot connect to Graphite at {config.host}:{config.port} ({shown}); " ++
      s!"retrying in {delay}s, {waiting} metric(s) buffered")
  | lost text => some s!"Lost connection to Graphite at {config.host}:{config.port}: {text}"
  | discarded waiting => some s!"Discarding {waiting} undelivered metric(s) on shutdown"

/-- The number of metrics that may wait; a negative one is refused. -/
def capacity? (size : Int) : Except Fault Nat :=
  if size < 0 then .error .negativeBacklog else .ok size.toNat

end FlightStream.Graphite
