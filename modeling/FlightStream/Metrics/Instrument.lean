import FlightStream.Metrics.Registry

/-!
The meters that the job keeps about itself.
-/

namespace FlightStream

/-- A meter of the job. -/
inductive Instrument
  | operatorErrors | recordsEmitted | malformedRecords
  | lateEvents | openWindows | watermark
  | metricsSent | metricsDropped | reconnectFailures
  deriving DecidableEq, Repr

namespace Instrument

/-- The name of a meter. -/
def name : Instrument → String
  | operatorErrors => "operator_errors"
  | recordsEmitted => "records_emitted"
  | malformedRecords => "malformed_records"
  | lateEvents => "late_events_dropped"
  | openWindows => "open_windows"
  | watermark => "watermark_ms"
  | metricsSent => "sink_metrics_sent"
  | metricsDropped => "sink_metrics_dropped"
  | reconnectFailures => "sink_reconnect_failures"

/-- The kind of a meter. -/
def kind : Instrument → MeterKind
  | openWindows | watermark => .gauge
  | _ => .counter

/-- The names of a meter's labels. -/
def labels : Instrument → List String
  | recordsEmitted => ["source"]
  | operatorErrors | lateEvents | openWindows | watermark => ["operator"]
  | _ => []

end Instrument

/-- Changes the sample of a meter of the job, which comes into being on first use. -/
def Registry.measure (r : Registry) (instrument : Instrument) (values : List String)
    (change : Registry.Change) : Registry :=
  match r.create instrument.name instrument.kind instrument.labels with
  | .ok r => (r.change instrument.name values change).1
  | .error _ => r

end FlightStream
