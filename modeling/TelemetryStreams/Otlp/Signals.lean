import TelemetryStreams.Otlp.Value

/-!
# Spans, log records and metrics

The items of the three signals with their fields on the wire. Numbers and texts that hold nothing are
left out; members that are optional are written as soon as they are set. Doubles are kept as their
64 bits.
-/
namespace TelemetryStreams.Otlp

/-! ### Traces -/

/-- Something that happened during a span. -/
structure SpanEvent where
  time : UInt64 := 0
  name : String := ""
  attributes : List Attribute := []
  dropped : UInt32 := 0

def SpanEvent.fields (event : SpanEvent) : Wire.Message :=
  Wire.word64 1 event.time ++ Wire.text 2 event.name ++ attributeFields 3 event.attributes ++
    Wire.number 4 event.dropped.toNat

/-- A reference to another span. -/
structure SpanLink where
  traceId : Octets := []
  spanId : Octets := []
  traceState : String := ""
  attributes : List Attribute := []
  dropped : UInt32 := 0
  flags : UInt32 := 0

def SpanLink.fields (link : SpanLink) : Wire.Message :=
  Wire.bytes 1 link.traceId ++ Wire.bytes 2 link.spanId ++ Wire.text 3 link.traceState ++
    attributeFields 4 link.attributes ++ Wire.number 5 link.dropped.toNat ++
    Wire.word32 6 link.flags

/-- How a span ended. -/
structure SpanStatus where
  code : Int32 := 0
  message : String := ""

def SpanStatus.fields (status : SpanStatus) : Wire.Message :=
  Wire.text 2 status.message ++ Wire.signed32 3 status.code

/-- One operation of a trace. -/
structure Span where
  traceId : Octets := []
  spanId : Octets := []
  traceState : String := ""
  parentId : Octets := []
  name : String := ""
  kind : Int32 := 0
  startTime : UInt64 := 0
  endTime : UInt64 := 0
  attributes : List Attribute := []
  dropped : UInt32 := 0
  events : List SpanEvent := []
  links : List SpanLink := []
  status : Option SpanStatus := none
  flags : UInt32 := 0

def Span.fields (span : Span) : Wire.Message :=
  Wire.bytes 1 span.traceId ++ Wire.bytes 2 span.spanId ++ Wire.text 3 span.traceState ++
    Wire.bytes 4 span.parentId ++ Wire.text 5 span.name ++ Wire.signed32 6 span.kind ++
    Wire.word64 7 span.startTime ++ Wire.word64 8 span.endTime ++
    attributeFields 9 span.attributes ++ Wire.number 10 span.dropped.toNat ++
    Wire.messages 11 span.events SpanEvent.fields ++
    Wire.messages 13 span.links SpanLink.fields ++
    Wire.optional 15 span.status SpanStatus.fields ++ Wire.word32 16 span.flags

/-! ### Logs -/

/-- One log record. -/
structure LogRecord where
  time : UInt64 := 0
  observed : UInt64 := 0
  severity : Int32 := 0
  severityText : String := ""
  body : Option Value := none
  attributes : List Attribute := []
  dropped : UInt32 := 0
  flags : UInt32 := 0
  traceId : Octets := []
  spanId : Octets := []

def LogRecord.fields (log : LogRecord) : Wire.Message :=
  Wire.word64 1 log.time ++ Wire.signed32 2 log.severity ++ Wire.text 3 log.severityText ++
    Wire.optional 5 log.body Value.fields ++ attributeFields 6 log.attributes ++
    Wire.number 7 log.dropped.toNat ++ Wire.word32 8 log.flags ++ Wire.bytes 9 log.traceId ++
    Wire.bytes 10 log.spanId ++ Wire.word64 11 log.observed

/-! ### Metrics -/

/-- The number of a point or an exemplar. -/
inductive Measure where
  | none
  | double (bits : UInt64)
  | integer (value : Int64)

/-- The field of a number. The tag of a double depends on whose number it is. -/
def Measure.fields (double : Nat) : Measure → Wire.Message
  | .none => []
  | .double bits => [.fixed64 double bits]
  | .integer value => [.fixed64 6 value.toUInt64]

/-- A measurement that stands for others of its point. -/
structure Exemplar where
  attributes : List Attribute := []
  time : UInt64 := 0
  measure : Measure := .none
  spanId : Octets := []
  traceId : Octets := []

def Exemplar.fields (exemplar : Exemplar) : Wire.Message :=
  Wire.word64 2 exemplar.time ++ exemplar.measure.fields 3 ++ Wire.bytes 4 exemplar.spanId ++
    Wire.bytes 5 exemplar.traceId ++ attributeFields 7 exemplar.attributes

/-- One number at one time. -/
structure Point where
  attributes : List Attribute := []
  startTime : UInt64 := 0
  time : UInt64 := 0
  flags : UInt32 := 0
  measure : Measure := .none
  exemplars : List Exemplar := []

def Point.fields (point : Point) : Wire.Message :=
  Wire.word64 2 point.startTime ++ Wire.word64 3 point.time ++ point.measure.fields 4 ++
    Wire.messages 5 point.exemplars Exemplar.fields ++ attributeFields 7 point.attributes ++
    Wire.number 8 point.flags.toNat

/-- A double that is written as soon as it is set. -/
def double (tag : Nat) : Option UInt64 → Wire.Message
  | none => []
  | some bits => [.fixed64 tag bits]

/-- A distribution at one time. -/
structure HistogramPoint where
  attributes : List Attribute := []
  startTime : UInt64 := 0
  time : UInt64 := 0
  count : UInt64 := 0
  sum : Option UInt64 := none
  buckets : List UInt64 := []
  bounds : List UInt64 := []
  exemplars : List Exemplar := []
  flags : UInt32 := 0
  min : Option UInt64 := none
  max : Option UInt64 := none

def HistogramPoint.fields (point : HistogramPoint) : Wire.Message :=
  Wire.word64 2 point.startTime ++ Wire.word64 3 point.time ++ Wire.word64 4 point.count ++
    double 5 point.sum ++ Wire.packed64 6 point.buckets ++ Wire.packed64 7 point.bounds ++
    Wire.messages 8 point.exemplars Exemplar.fields ++ attributeFields 9 point.attributes ++
    Wire.number 10 point.flags.toNat ++ double 11 point.min ++ double 12 point.max

/-- The counts of buckets next to each other. -/
structure Buckets where
  offset : Int32 := 0
  counts : List UInt64 := []

def Buckets.fields (buckets : Buckets) : Wire.Message :=
  Wire.zigzag32 1 buckets.offset ++ Wire.packedNumbers 2 buckets.counts

/-- A distribution at one time over buckets that grow exponentially. -/
structure ExponentialPoint where
  attributes : List Attribute := []
  startTime : UInt64 := 0
  time : UInt64 := 0
  count : UInt64 := 0
  sum : Option UInt64 := none
  scale : Int32 := 0
  zeroCount : UInt64 := 0
  positive : Option Buckets := none
  negative : Option Buckets := none
  flags : UInt32 := 0
  exemplars : List Exemplar := []
  min : Option UInt64 := none
  max : Option UInt64 := none
  zeroThreshold : UInt64 := 0

def ExponentialPoint.fields (point : ExponentialPoint) : Wire.Message :=
  attributeFields 1 point.attributes ++ Wire.word64 2 point.startTime ++ Wire.word64 3 point.time ++
    Wire.word64 4 point.count ++ double 5 point.sum ++ Wire.zigzag32 6 point.scale ++
    Wire.word64 7 point.zeroCount ++ Wire.optional 8 point.positive Buckets.fields ++
    Wire.optional 9 point.negative Buckets.fields ++ Wire.number 10 point.flags.toNat ++
    Wire.messages 11 point.exemplars Exemplar.fields ++ double 12 point.min ++
    double 13 point.max ++ Wire.double 14 point.zeroThreshold

/-- A value below which a part of a distribution lies. -/
structure Quantile where
  quantile : UInt64 := 0
  value : UInt64 := 0

def Quantile.fields (quantile : Quantile) : Wire.Message :=
  Wire.double 1 quantile.quantile ++ Wire.double 2 quantile.value

/-- A distribution at one time by its quantiles. -/
structure SummaryPoint where
  attributes : List Attribute := []
  startTime : UInt64 := 0
  time : UInt64 := 0
  count : UInt64 := 0
  sum : UInt64 := 0
  quantiles : List Quantile := []
  flags : UInt32 := 0

def SummaryPoint.fields (point : SummaryPoint) : Wire.Message :=
  Wire.word64 2 point.startTime ++ Wire.word64 3 point.time ++ Wire.word64 4 point.count ++
    Wire.double 5 point.sum ++ Wire.messages 6 point.quantiles Quantile.fields ++
    attributeFields 7 point.attributes ++ Wire.number 8 point.flags.toNat

/-- The points of a metric. -/
inductive Series where
  | none
  | gauge (points : List Point)
  | sum (points : List Point) (temporality : Int32) (monotonic : Bool)
  | histogram (points : List HistogramPoint) (temporality : Int32)
  | exponential (points : List ExponentialPoint) (temporality : Int32)
  | summary (points : List SummaryPoint)

def Series.fields : Series → Wire.Message
  | .none => []
  | .gauge points => [.message 5 (Wire.messages 1 points Point.fields)]
  | .sum points temporality monotonic =>
    [.message 7 (Wire.messages 1 points Point.fields ++ Wire.signed32 2 temporality ++
      Wire.truth 3 monotonic)]
  | .histogram points temporality =>
    [.message 9 (Wire.messages 1 points HistogramPoint.fields ++ Wire.signed32 2 temporality)]
  | .exponential points temporality =>
    [.message 10 (Wire.messages 1 points ExponentialPoint.fields ++ Wire.signed32 2 temporality)]
  | .summary points => [.message 11 (Wire.messages 1 points SummaryPoint.fields)]

/-- One metric. -/
structure Metric where
  name : String := ""
  description : String := ""
  unit : String := ""
  series : Series := .none
  metadata : List Attribute := []

def Metric.fields (metric : Metric) : Wire.Message :=
  Wire.text 1 metric.name ++ Wire.text 2 metric.description ++ Wire.text 3 metric.unit ++
    metric.series.fields ++ attributeFields 12 metric.metadata

end TelemetryStreams.Otlp
