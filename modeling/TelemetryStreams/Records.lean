import TelemetryStreams.Json.Reader
import TelemetryStreams.Otlp.Signals

/-!
# Submitted records

What a caller submits: an export request of one of the three signals. Its size on the wire is
computed without encoding it, in the task of the caller; `length_encode_records` says that the codec
meets exactly that many octets.
-/
namespace TelemetryStreams

/-- The kind of telemetry in a submission. -/
inductive Signal where
  | traces | logs | metrics
  deriving DecidableEq, Repr

namespace Signal

def name : Signal → String
  | .traces => "Traces"
  | .logs => "Logs"
  | .metrics => "Metrics"

/-- Every signal with the word for it in JSON. -/
def words : List (Signal × String) := [(.traces, "traces"), (.logs, "logs"), (.metrics, "metrics")]

def word : Signal → String
  | .traces => "traces"
  | .logs => "logs"
  | .metrics => "metrics"

def ofWord (word : String) : Json.Reader Signal :=
  match words.find? (·.2 = word) with
  | some row => pure row.1
  | none => Json.Reader.misfit (.unknownVariant word (words.map (·.2)))

/-- A signal: its word alone, or as the only key of an object whose value is null. -/
def reader : Json.Reader Signal := do
  match ← Json.Reader.front with
  | '\x7b' =>
    Json.Reader.skip
    let signal ← ofWord (← Json.Reader.name)
    Json.Reader.colon
    Json.Reader.null
    match ← Json.Reader.front with
    | '\x7d' => Json.Reader.skip; pure signal
    | _ => Json.Reader.fail .malformed
  | '"' => do ofWord (← Json.Reader.name)
  | _ => Json.Reader.fail .malformed

def parse (text : String) : Except Json.Fault Signal := Json.Reader.whole reader text

end Signal

/-- An export request. -/
inductive Records where
  | traces (groups : List (Otlp.Group Otlp.Span))
  | logs (groups : List (Otlp.Group Otlp.LogRecord))
  | metrics (groups : List (Otlp.Group Otlp.Metric))

namespace Records

def signal : Records → Signal
  | .traces _ => .traces
  | .logs _ => .logs
  | .metrics _ => .metrics

def fields : Records → Wire.Message
  | .traces groups => Otlp.requestFields Otlp.Span.fields groups
  | .logs groups => Otlp.requestFields Otlp.LogRecord.fields groups
  | .metrics groups => Otlp.requestFields Otlp.Metric.fields groups

def size (records : Records) : Nat := Wire.size records.fields

def encode (records : Records) : Octets := Wire.encode records.fields

theorem length_encode_records (records : Records) : records.encode.length = records.size :=
  Wire.length_encode _

/-! ### Samples -/

/-- A request that holds its items in one scope of one resource. -/
def single (items : List α) : List (Otlp.Group α) := [{ scopes := [{ items := items }] }]

def sampleTime : UInt64 := 1700000000000000000

/-- A request of `n` spans of one trace. -/
def sampleTraces (n : Nat) : Records :=
  .traces (single ((List.range n).map fun i =>
    { traceId := List.replicate 16 1
      spanId := (Octets.littleEndian 8 (i + 1)).reverse
      name := "span-" ++ toString i
      startTime := sampleTime
      endTime := sampleTime + 1000 }))

def sampleLogs (n : Nat) : Records :=
  .logs (single ((List.range n).map fun i =>
    { time := sampleTime, severityText := "INFO", body := some (.text ("record " ++ toString i)) }))

/-- A request of one gauge with `n` points. -/
def sampleMetrics (n : Nat) : Records :=
  let points := (List.range n).map fun i =>
    { time := sampleTime, measure := .integer (Int64.ofNat i) : Otlp.Point }
  .metrics (single [{ name := "queue_size", series := .gauge points }])

end Records

end TelemetryStreams
