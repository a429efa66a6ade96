import TelemetryStreams.Codec
import TelemetryStreams.InFlight
import TelemetryStreams.Stream.Call
import TelemetryStreams.Stream.Log
import TelemetryStreams.Telemetry

/-!
# Streams

A stream carries batches over one call. Callers put items into its queue, which has room for one;
others wait behind it. The writer takes an item at a time, has it encoded, registers its caller under
the id of the batch and sends it. The reader takes acknowledgments and tells the callers. When both
have ended, whoever is still registered is released, and only then the stream counts as finished.

A caller is known to a stream by its ticket only: nothing here depends on what else a caller is. What
a stream does is written down as events, in order; callers and the prioritizer learn from them.
-/
namespace TelemetryStreams

/-- What a caller hands over. -/
structure Item where
  /-- Who is told the result. -/
  ticket : Nat
  records : Records
  metadata : Option Metadata
  /-- The size of the records, or zero if sizes are not measured. -/
  size : Nat
  /-- The span to which the send belongs. -/
  parent : Option SpanContext

/-- The size of an item as it is reported. -/
def Item.reported (item : Item) : Nat := min item.size Measured.greatest

/-- The span around one send. -/
structure SendSpan where
  context : SpanContext
  /-- The span that it belongs to. -/
  parent : Option Nat
  /-- The size that was reported for it. -/
  size : Option Nat := none
  deriving DecidableEq, Repr

namespace SendSpan

def name : String := "otel_arrow_stream_send"

def sizeAttribute : String := "stream_client_uncompressed_request_size"

/-- Starts the span with a number: in the trace of its parent, if that is valid, or else in one of its
own. -/
def start (number : Nat) (parent : Option SpanContext) : SendSpan :=
  match parent.filter SpanContext.isValid with
  | some parent => { context := ⟨parent.trace, number⟩, parent := some parent.span }
  | none => { context := ⟨number, number⟩, parent := none }

/-- What stands for a span that is not recorded. -/
def unrecorded (parent : Option SpanContext) : SendSpan :=
  { context := parent.getD ⟨0, 0⟩, parent := none }

end SendSpan

/-- How far the stream as a whole has come. -/
inductive RunPhase where
  | idle
  /-- About to open the call. -/
  | starting
  /-- The call is being opened. -/
  | opening
  | reading
  /-- The reader has ended; the writer is waited for. -/
  | joining (read : Except Error Unit)
  /-- Both directions have ended; registered callers are to be released. -/
  | sweeping
  /-- All registered callers have been released. -/
  | finishing
  | done
  /-- The reader broke down. -/
  | brokeDown
  deriving DecidableEq, Repr

/-- How far the writer has come. -/
inductive WriterPhase where
  | absent
  /-- About to offer the stream. -/
  | offering
  /-- Waiting for an item. -/
  | waiting
  | encoding (item : Item) (span : SendSpan)
  | sending (batch : Batch) (span : SendSpan)
  | ended (result : Except Error Unit)
  /-- A send broke down. -/
  | brokeDown

/-- What a stream has done. -/
inductive Event where
  | opened (call : Nat)
  /-- The stream is ready for a batch. -/
  | offered
  /-- The stream is not ready any more. -/
  | withdrawn
  /-- An item has entered the queue. -/
  | entered (item : Item)
  /-- The writer has taken an item. -/
  | taken (item : Item)
  | spanStarted (span : SendSpan)
  | spanEnded (span : SendSpan) (failure : Option String)
  /-- A caller was registered under the id of its batch. -/
  | registered (id : Int64) (ticket : Nat)
  /-- A caller was told its result. -/
  | answered (ticket : Nat) (result : Except Error Unit)
  | measured (size : Measured)
  | sent (call : Nat) (batch : Batch)
  /-- The send direction was closed. -/
  | closed (call : Nat)
  | received (message : Incoming)
  | logged (log : Log)
  /-- Nobody is waited for any more, and callers to come get this error. -/
  | finished (cause : Error)

/-- A stream. -/
structure Stream where
  /-- How long the writer works; zero means without limit. -/
  lifetime : Duration := .zero
  telemetry : Telemetry := {}
  codec : Codec := {}
  /-- The table of the header blocks. -/
  headers : Hpack.Table := {}
  run : RunPhase := .idle
  writer : WriterPhase := .absent
  /-- When the lifetime is over. -/
  expiry : Option Nat := none
  call : Option Call := none
  /-- The item in the queue, if any. -/
  queue : List Item := []
  /-- Items that wait for room in the queue. -/
  senders : List Item := []
  inFlight : InFlight := []
  /-- Whether the call was canceled by the stream itself. -/
  canceled : Bool := false
  /-- Whether the end was asked for from outside. -/
  parentCanceled : Bool := false
  /-- Whether the endpoint is known to accept the protocol. -/
  established : Bool := false
  method : Option String := none
  /-- What callers are told once the stream has finished. -/
  cause : Option Error := none
  history : List Event := []

namespace Stream

def isCanceled (s : Stream) : Bool := s.canceled || s.parentCanceled

def callNumber (s : Stream) : Nat := (s.call.map Call.number).getD 0

def load (s : Stream) : Nat := s.inFlight.length

def debugText (s : Stream) : String :=
  let method := match s.method with
    | some name => "Some(" ++ Text.quoted name ++ ")"
    | none => "None"
  "Stream \x7b max_stream_lifetime: " ++ s.lifetime.debugText ++
    ", established: " ++ (if s.established then "true" else "false") ++ ", method: " ++ method ++
    ", in_flight: " ++ toString s.load ++ ", .. \x7d"

end Stream

end TelemetryStreams
