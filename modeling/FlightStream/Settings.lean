import FlightStream.Number.Reading
import FlightStream.Text.LetterCase
import FlightStream.Validation

/-!
The configuration of the job. Each setting has a name and a default; a given value counts
before the environment, and the environment before the default. All flaws are reported
together, in the order of the settings.
-/

namespace FlightStream

/-- The settings. Times are in milliseconds where the name ends so, and in seconds where it
ends in `S`. -/
structure Settings where
  feedUrl : String := "https://public-api.adsbexchange.com/VirtualRadar/AircraftList.json"
  pollIntervalMs : Int := 10000
  httpTimeoutS : Float := 10
  allowedLatenessMs : Int := 15000
  windowSizeMs : Int := 60000
  windowSlideMs : Int := 30000
  windowAllowedLatenessMs : Int := 0
  lowAltitudeCeilingFt : Int := 3000
  airportRadiusMiles : Float := 80
  graphiteHost : String := "127.0.0.1"
  graphitePort : Int := 2004
  graphiteConnectTimeoutS : Float := 5
  sinkQueueSize : Int := 1000
  sinkBufferSize : Int := 10000
  sinkReconnectBackoffS : Float := 1
  sinkReconnectMaxBackoffS : Float := 30
  adminEnabled : Bool := false
  adminPort : Int := 8001
  otelEnabled : Bool := false
  logLevel : String := "INFO"
  logFormat : String := "text"

namespace Settings

/-- The value of a setting. -/
inductive Value
  | text (value : String)
  | whole (value : Int)
  | real (value : Float)
  | truth (value : Bool)

/-- A setting: its name, what it holds, and how it is set from a raw value. -/
structure Field where
  name : String
  get : Settings → Value
  set : Json → Except Issue (Settings → Settings)

/-- A setting that is a text. -/
def textField (name : String) (get : Settings → String)
    (put : String → Settings → Settings) : Field :=
  ⟨name, fun s => .text (get s), fun raw => (Validation.text raw).map put⟩

/-- A setting that is a whole number. -/
def wholeField (name : String) (get : Settings → Int)
    (put : Int → Settings → Settings) : Field :=
  ⟨name, fun s => .whole (get s), fun raw => (Validation.integer raw).map put⟩

/-- A setting that is a float. -/
def realField (name : String) (get : Settings → Float)
    (put : Float → Settings → Settings) : Field :=
  ⟨name, fun s => .real (get s), fun raw => (Validation.float raw).map put⟩

/-- A setting that is a truth value. -/
def truthField (name : String) (get : Settings → Bool)
    (put : Bool → Settings → Settings) : Field :=
  ⟨name, fun s => .truth (get s), fun raw => (Validation.truth raw).map put⟩

/-- All settings, in order. -/
def fields : List Field :=
  [textField "FEED_URL" (·.feedUrl) fun x s => { s with feedUrl := x },
    wholeField "POLL_INTERVAL_MS" (·.pollIntervalMs) fun x s => { s with pollIntervalMs := x },
    realField "HTTP_TIMEOUT_S" (·.httpTimeoutS) fun x s => { s with httpTimeoutS := x },
    wholeField "ALLOWED_LATENESS_MS" (·.allowedLatenessMs) fun x s =>
      { s with allowedLatenessMs := x },
    wholeField "WINDOW_SIZE_MS" (·.windowSizeMs) fun x s => { s with windowSizeMs := x },
    wholeField "WINDOW_SLIDE_MS" (·.windowSlideMs) fun x s => { s with windowSlideMs := x },
    wholeField "WINDOW_ALLOWED_LATENESS_MS" (·.windowAllowedLatenessMs) fun x s =>
      { s with windowAllowedLatenessMs := x },
    wholeField "LOW_ALTITUDE_CEILING_FT" (·.lowAltitudeCeilingFt) fun x s =>
      { s with lowAltitudeCeilingFt := x },
    realField "AIRPORT_RADIUS_MILES" (·.airportRadiusMiles) fun x s =>
      { s with airportRadiusMiles := x },
    textField "GRAPHITE_HOST" (·.graphiteHost) fun x s => { s with graphiteHost := x },
    wholeField "GRAPHITE_PORT" (·.graphitePort) fun x s => { s with graphitePort := x },
    realField "GRAPHITE_CONNECT_TIMEOUT_S" (·.graphiteConnectTimeoutS) fun x s =>
      { s with graphiteConnectTimeoutS := x },
    wholeField "SINK_QUEUE_SIZE" (·.sinkQueueSize) fun x s => { s with sinkQueueSize := x },
    wholeField "SINK_BUFFER_SIZE" (·.sinkBufferSize) fun x s => { s with sinkBufferSize := x },
    realField "SINK_RECONNECT_BACKOFF_S" (·.sinkReconnectBackoffS) fun x s =>
      { s with sinkReconnectBackoffS := x },
    realField "SINK_RECONNECT_MAX_BACKOFF_S" (·.sinkReconnectMaxBackoffS) fun x s =>
      { s with sinkReconnectMaxBackoffS := x },
    truthField "ADMIN_ENABLED" (·.adminEnabled) fun x s => { s with adminEnabled := x },
    wholeField "ADMIN_PORT" (·.adminPort) fun x s => { s with adminPort := x },
    truthField "OTEL_ENABLED" (·.otelEnabled) fun x s => { s with otelEnabled := x },
    textField "LOG_LEVEL" (·.logLevel) fun x s => { s with logLevel := x },
    textField "LOG_FORMAT" (·.logFormat) fun x s => { s with logFormat := x }]

/-- Whether a setting of exactly this name holds a text. -/
def isTextual (name : String) : Bool :=
  fields.any fun field => field.name == name &&
    match field.get {} with
    | .text _ => true
    | _ => false

/-- Given values of settings, where a text stands for a float unless the setting holds a text. -/
def plainValues : Keyed String Json → Except Fault (Keyed String Json)
  | [] => .ok []
  | (name, value) :: rest => do
    let value ← match value with
      | .text s => if isTextual name then .ok value else (Reading.number s).map Json.number
      | other => .ok other
    return (name, value) :: (← plainValues rest)

/-- The settings with what a source of raw values gives, or the flaws of those values. -/
def read (source : String → Option Json) : Except (List Flaw) Settings :=
  let step (state : Settings × List Flaw) (field : Field) : Settings × List Flaw :=
    match source field.name with
    | none => state
    | some raw =>
      match field.set raw with
      | .ok change => (change state.1, state.2)
      | .error issue => (state.1, state.2 ++ [⟨field.name, issue⟩])
  match fields.foldl step ({}, []) with
  | (settings, []) => .ok settings
  | (_, flaws) => .error flaws

/-- What stands under the name of a setting, whose letters count in any case; of several
spellings the last one counts. -/
def lookup? {α : Type} (values : Keyed String α) (name : String) : Option α :=
  let found := values.reverse.find? fun entry =>
    Text.lower entry.1.toList == Text.lower name.toList
  found.map (·.2)

/-- The settings from given values and an environment. -/
def load (environment : Keyed String String) (given : Keyed String Json) :
    Except (List Flaw) Settings :=
  read fun name => (lookup? given name).or ((lookup? environment name).map .text)

/-- The settings with their names. -/
def entries (s : Settings) : List (String × Value) :=
  fields.map fun field => (field.name, field.get s)

end Settings

end FlightStream
