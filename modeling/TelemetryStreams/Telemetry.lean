import TelemetryStreams.Metadata
import TelemetryStreams.Text.Lowercase
import TelemetryStreams.Text.Quoted

/-!
# Telemetry about the streams themselves

Each batch that is sent gets a span, its size is reported if sizes are measured, and the trace
context can be injected into the metadata of its caller. A tracer numbers its spans from one; a span
whose parent has valid ids joins the trace of the parent and otherwise starts a trace of its own. The
ids are kept as numbers and written in 32 and 16 hexadecimal digits.
-/
namespace TelemetryStreams

/-- The identity of a span. -/
structure SpanContext where
  trace : Nat
  span : Nat
  deriving DecidableEq, Repr

namespace SpanContext

def isValid (context : SpanContext) : Bool := context.trace ≠ 0 ∧ context.span ≠ 0

def digits (width n : Nat) : String :=
  let ds := Nat.toDigits 16 n
  String.ofList (List.replicate (width - ds.length) '0' ++ ds)

def traceText (context : SpanContext) : String := digits 32 context.trace

def spanText (context : SpanContext) : String := digits 16 context.span

/-- Reads hexadecimal digits, the first of which are worth `n`. -/
def number? : (n : Nat) → List Char → Option Nat
  | n, [] => some n
  | n, c :: rest => (Octets.hexValue? c).bind fun d => number? (16 * n + d) rest

/-- The id that a text holds, or zero if it holds none of at most `bits` bits. -/
def idOfText (bits : Nat) (text : String) : Nat :=
  let digits := match text.toList with
    | '+' :: rest => rest
    | all => all
  match digits with
  | [] => 0
  | _ => match number? 0 digits with
    | some n => if n < Nat.pow 2 bits then n else 0
    | none => 0

/-- The identity that two texts hold, if both ids are valid. -/
def ofTexts (trace span : String) : Option SpanContext :=
  let context : SpanContext := ⟨idOfText 128 trace, idOfText 64 span⟩
  if context.isValid then some context else none

def traceparent (context : SpanContext) : String :=
  "00-" ++ context.traceText ++ "-" ++ context.spanText ++ "-01"

end SpanContext

/-- Injects trace context into metadata. -/
structure Propagator where
  /-- The keys it declares; without one it injects nothing. -/
  declared : List String := []
  /-- What it puts into the metadata of a batch, by the span of its caller and its own. -/
  rows : Option SpanContext → SpanContext → List (String × String) := fun _ _ => []

namespace Propagator

/-- Puts the same pairs into all metadata and, if it `namesSpan`, the name of the span of the batch. -/
def ofPairs (declared : List String) (pairs : List (String × String)) (namesSpan : Bool) :
    Propagator :=
  { declared := declared
    rows := fun _ span => pairs ++
      if namesSpan then [("traceparent", SpanContext.traceparent span)] else [] }

/-- Injects into the metadata of one batch. Keys are written in lower case. -/
def inject (propagator : Propagator) (parent : Option SpanContext) (span : SpanContext)
    (metadata : Metadata) : Metadata :=
  metadata.overlay ((propagator.rows parent span).map fun row => (Text.lowercase row.1, row.2))

end Propagator

/-- The size of one request. -/
structure Measured where
  method : String := ""
  length : Int64 := 0
  deriving DecidableEq, Repr

/-- The greatest size that a report can hold. -/
def Measured.greatest : Nat := 9223372036854775807

def Measured.debugText (measured : Measured) : String :=
  "SizesStruct \x7b method: " ++ Text.quoted measured.method ++ ", length: " ++
    toString measured.length.toInt ++ " \x7d"

/-- What the streams are told about telemetry. -/
structure Telemetry where
  propagator : Option Propagator := none
  detailed : Bool := false
  traced : Bool := false

def Telemetry.debugText (telemetry : Telemetry) : String :=
  let truth (b : Bool) : String := if b then "true" else "false"
  "TelemetrySettings \x7b propagator: " ++ truth telemetry.propagator.isSome ++
    ", detailed_metrics: " ++ truth telemetry.detailed ++ ", .. \x7d"

end TelemetryStreams
