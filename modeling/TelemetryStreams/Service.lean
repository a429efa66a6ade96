/-!
# Services

The services on which a stream can be opened: one that carries every signal on one stream, and one
for each signal.
-/
namespace TelemetryStreams

/-- A service on which a stream can be opened. -/
inductive Service where
  | mixed | traces | logs | metrics
  deriving DecidableEq, Repr, Inhabited

namespace Service

def name : Service → String
  | .mixed => "Mixed"
  | .traces => "Traces"
  | .logs => "Logs"
  | .metrics => "Metrics"

/-- The method of a service, after the package. -/
def method : Service → String
  | .mixed => "ArrowStreamService/ArrowStream"
  | .traces => "ArrowTracesService/ArrowTraces"
  | .logs => "ArrowLogsService/ArrowLogs"
  | .metrics => "ArrowMetricsService/ArrowMetrics"

/-- The path under which a service is called. -/
def path (service : Service) : String :=
  "/opentelemetry.proto.experimental.arrow.v1." ++ service.method

end Service

end TelemetryStreams
