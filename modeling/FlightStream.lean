import FlightStream.Admin
import FlightStream.Aggregation
import FlightStream.Aircraft.Record
import FlightStream.Aircraft.Report
import FlightStream.Blueprint
import FlightStream.CommandLine.Arguments
import FlightStream.CommandLine.Execution
import FlightStream.Dataflow.Draft
import FlightStream.Dataflow.Effect
import FlightStream.Dataflow.Network
import FlightStream.Dataflow.Operator
import FlightStream.Dataflow.Operators
import FlightStream.Dataflow.Probe
import FlightStream.Dataflow.Runner
import FlightStream.Dataflow.Snapshot
import FlightStream.Dataflow.Source
import FlightStream.Dataflow.Wiring
import FlightStream.Enrichment
import FlightStream.EventTime.Calendar
import FlightStream.EventTime.SlidingWindow
import FlightStream.EventTime.Watermark
import FlightStream.EventTime.Windowing
import FlightStream.Fault
import FlightStream.Feed.Address
import FlightStream.Feed.Intake
import FlightStream.Feed.Poll
import FlightStream.Feed.Replay
import FlightStream.FlightJob.Element
import FlightStream.FlightJob.Pipeline
import FlightStream.Graphite.Frame
import FlightStream.Graphite.Metric
import FlightStream.Graphite.Simulation
import FlightStream.Graphite.Sink
import FlightStream.Graphite.Trial
import FlightStream.Json.Bytes
import FlightStream.Json.Reader
import FlightStream.Json.Value
import FlightStream.Json.Writer
import FlightStream.Keyed
import FlightStream.Log.Format
import FlightStream.Log.Setup
import FlightStream.Main
import FlightStream.Metrics.Exposition
import FlightStream.Metrics.Instrument
import FlightStream.Metrics.Registry
import FlightStream.Number
import FlightStream.Number.Binary64
import FlightStream.Number.Loose
import FlightStream.Number.Places
import FlightStream.Number.Reading
import FlightStream.Number.Remainder
import FlightStream.Number.Shortest
import FlightStream.Number.Word
import FlightStream.Number.Writing
import FlightStream.Proofs.EventTime.SlidingWindow
import FlightStream.Proofs.Keyed
import FlightStream.Proofs.Number.Order
import FlightStream.Reference.Data
import FlightStream.Reference.NoiseTable
import FlightStream.Settings
import FlightStream.Template
import FlightStream.Text.Blank
import FlightStream.Text.CodePoint
import FlightStream.Text.Composition
import FlightStream.Text.Composition.Table
import FlightStream.Text.Digit
import FlightStream.Text.Hex
import FlightStream.Text.LetterCase
import FlightStream.Text.LetterCase.Table
import FlightStream.Text.Lines
import FlightStream.Text.Mark
import FlightStream.Text.Printable
import FlightStream.Text.Quoted
import FlightStream.Text.Ranges
import FlightStream.Text.Utf8
import FlightStream.Text.Wide
import FlightStream.Trend
import FlightStream.Url
import FlightStream.Url.Name
import FlightStream.Url.Name.Direction
import FlightStream.Url.Name.Joining
import FlightStream.Url.Name.Permitted
import FlightStream.Url.Name.Script
import FlightStream.Url.Number
import FlightStream.Url.Percent
import FlightStream.Url.Punycode
import FlightStream.Validation
import FlightStream.Value
import FlightStream.Value.Functions
import FlightStream.Value.Metric
import FlightStream.Value.Plain
import FlightStream.Value.Quantity
import FlightStream.Value.Recipe
import FlightStream.Value.Windowing
import FlightStream.VerticalDirection
import FlightStream.WindowAggregator
import FlightStream.Proofs.Windows.View
import FlightStream.Proofs.Windows.Closing
import FlightStream.Proofs.Windows.Sliding
import FlightStream.Proofs.Windows.Content
import FlightStream.Proofs.Windows.Tally
import FlightStream.Proofs.Windows.Batch
import FlightStream.Proofs.Windows.Sealing
import FlightStream.Proofs.Windows.Reopening
import FlightStream.Proofs.Windows.Unfailing
import FlightStream.Proofs.Dataflow.History
import FlightStream.Proofs.Dataflow.Ends
import FlightStream.Proofs.Dataflow.Drain
import FlightStream.Proofs.Dataflow.Termination
import FlightStream.Proofs.Dataflow.Stream
import FlightStream.Proofs.Dataflow.Operators
import FlightStream.Proofs.Dataflow.Windowed
import FlightStream.Proofs.Number.Binary64
import FlightStream.Proofs.Trend
import FlightStream.Proofs.FlightJob.Aggregations
import FlightStream.Proofs.FlightJob.Windows
import FlightStream.Proofs.FlightJob.Layout
import FlightStream.Proofs.Dataflow.Reading
import FlightStream.Proofs.FlightJob.Streams
import FlightStream.Proofs.FlightJob.Results
import FlightStream.Proofs.FlightJob.SecondPass
import FlightStream.Proofs.FlightJob.Disorder
import FlightStream.Proofs.Graphite.Recording
import FlightStream.Proofs.Graphite.Accounting
import FlightStream.Proofs.Dataflow.Mirror
import FlightStream.Proofs.Dataflow.Hooks
import FlightStream.Proofs.Dataflow.Progress
import FlightStream.Proofs.Feed.Ingestion
import FlightStream.Proofs.Metrics.Counters
import FlightStream.Proofs.Graphite.Sink
import FlightStream.Proofs.Dataflow.Unfailing
import FlightStream.Proofs.Dataflow.UnfailingOperators
import FlightStream.Proofs.FlightJob.Unfailing
import FlightStream.Proofs.Dataflow.FanIn
import FlightStream.Proofs.Graphite.Frame
import FlightStream.Proofs.Windows.Failing
import FlightStream.Proofs.Graphite.WireOrder
import FlightStream.Proofs.Feed.Polling
import FlightStream.Proofs.Dataflow.Connections
import FlightStream.Proofs.Dataflow.Determinacy
import FlightStream.Proofs.Dataflow.Clock
import FlightStream.Proofs.LeastSquares
import FlightStream.Proofs.Dataflow.WindowBound
import FlightStream.Proofs.Windows.Keys
import FlightStream.Proofs.MonotoneTrend
import FlightStream.Proofs.Graphite.Backoff
import FlightStream.Proofs.Windows.Skipping
import FlightStream.Proofs.Windows.Stepwise
import FlightStream.Proofs.FlightJob.Classification
import FlightStream.Proofs.Feed.Forgetting
import FlightStream.Proofs.Composite
import FlightStream.Proofs.Dataflow.Preorder
import FlightStream.Proofs.Reference.NoiseTable
import FlightStream.Proofs.Metrics.History
import FlightStream.Proofs.Metrics.Reading
import FlightStream.Proofs.Json.Limit
