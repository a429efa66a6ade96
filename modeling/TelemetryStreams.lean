import TelemetryStreams.Text.Utf8
import TelemetryStreams.Text.Quoted
import TelemetryStreams.Text.Blank
import TelemetryStreams.Text.Lowercase
import TelemetryStreams.Json.Reader
import TelemetryStreams.Duration.Human
import TelemetryStreams.Config
import TelemetryStreams.Batch
import TelemetryStreams.Metadata
import TelemetryStreams.Codec
import TelemetryStreams.Service
import TelemetryStreams.Telemetry
import TelemetryStreams.Context
import TelemetryStreams.Schedule
import TelemetryStreams.Selection
import TelemetryStreams.Stream.Step
import TelemetryStreams.Pool.Settle
import TelemetryStreams.Stream.Received
import TelemetryStreams.Grpc.Session
import TelemetryStreams.Proofs.Pool.Release
import TelemetryStreams.Proofs.Pool.Results
import TelemetryStreams.Proofs.Pool.Delivery
import TelemetryStreams.Proofs.Pool.Ready
import TelemetryStreams.Proofs.Pool.Turns
import TelemetryStreams.Proofs.Pool.Conservation
import TelemetryStreams.Proofs.Pool.Stranded
import TelemetryStreams.Proofs.Stream.Verdicts
import TelemetryStreams.Proofs.Pool.Downgrade
import TelemetryStreams.Proofs.Pool.Joins
import TelemetryStreams.Proofs.Pool.Settled
import TelemetryStreams.Proofs.Pool.Shutdown
import TelemetryStreams.Proofs.Pool.Prompts
import TelemetryStreams.Proofs.Stream.Endings
import TelemetryStreams.Proofs.Pool.Endings
import TelemetryStreams.Proofs.Stream.Outstanding
import TelemetryStreams.Proofs.Pool.Honesty
import TelemetryStreams.Proofs.Pool.Blame
import TelemetryStreams.Proofs.Pool.Disguise
import TelemetryStreams.Proofs.Pool.Privacy
import TelemetryStreams.Proofs.Selection.Wakeups
import TelemetryStreams.Proofs.Selection.Order
import TelemetryStreams.Proofs.Pool.Aftermath
import TelemetryStreams.Proofs.Pool.Expiry
import TelemetryStreams.Proofs.Pool.Refusals
import TelemetryStreams.Proofs.Hpack.Blocks
import TelemetryStreams.Proofs.Metadata
import TelemetryStreams.Proofs.Stream.Order
import TelemetryStreams.Proofs.Pool.Headers
import TelemetryStreams.Proofs.Stream.Acknowledgments
import TelemetryStreams.Proofs.Hpack.Breakdowns
import TelemetryStreams.Proofs.Batch
import TelemetryStreams.Proofs.Config
import TelemetryStreams.Proofs.Context.Ends
import TelemetryStreams.Proofs.Pool.Sizes
import TelemetryStreams.Proofs.Pool.Spans
import TelemetryStreams.Proofs.Grpc.Request
