import TelemetryStreams.Wire.Message
import TelemetryStreams.Wire.Reader

/-!
# Batches and acknowledgments

The two messages that a stream exchanges with its peer: a batch of payloads under an id, and the
acknowledgment of a batch by id. Both keep numbers that are no member of their enumerations, so
that they can be reported as they came.
-/
namespace TelemetryStreams

/-- The kind of table in a payload. -/
inductive PayloadType where
  | unknown | resourceAttrs | scopeAttrs | univariateMetrics | logs | logAttrs | spans | spanAttrs
  deriving DecidableEq, Repr

def PayloadType.table : List (PayloadType × Int32 × String) :=
  [(.unknown, 0, "Unknown"), (.resourceAttrs, 1, "ResourceAttrs"), (.scopeAttrs, 2, "ScopeAttrs"),
   (.univariateMetrics, 10, "UnivariateMetrics"), (.logs, 30, "Logs"), (.logAttrs, 31, "LogAttrs"),
   (.spans, 40, "Spans"), (.spanAttrs, 41, "SpanAttrs")]

/-- The verdict on a batch. -/
inductive Verdict where
  | ok | canceled | invalidArgument | deadlineExceeded | permissionDenied | resourceExhausted
  | aborted | internal | unavailable | unauthenticated
  deriving DecidableEq, Repr

def Verdict.table : List (Verdict × Int32 × String) :=
  [(.ok, 0, "Ok"), (.canceled, 1, "Canceled"), (.invalidArgument, 3, "InvalidArgument"),
   (.deadlineExceeded, 4, "DeadlineExceeded"), (.permissionDenied, 7, "PermissionDenied"),
   (.resourceExhausted, 8, "ResourceExhausted"), (.aborted, 10, "Aborted"),
   (.internal, 13, "Internal"), (.unavailable, 14, "Unavailable"),
   (.unauthenticated, 16, "Unauthenticated")]

/-- A number that is no member of its enumeration. -/
structure UnknownNumber where
  number : Int32
  deriving DecidableEq, Repr

def UnknownNumber.message (unknown : UnknownNumber) : String :=
  "unknown enumeration value " ++ toString unknown.number.toInt

/-- The member of an enumeration with a number. -/
def memberOf (table : List (α × Int32 × String)) (number : Int32) : Except UnknownNumber α :=
  match table.find? fun row => row.2.1 = number with
  | some row => .ok row.1
  | none => .error ⟨number⟩

def nameIn (table : List (α × Int32 × String)) (number : Int32) : String :=
  match table.find? fun row => row.2.1 = number with
  | some row => row.2.2
  | none => match table with
    | [] => ""
    | row :: _ => row.2.2

def Verdict.ofNumber (number : Int32) : Except UnknownNumber Verdict := memberOf Verdict.table number

/-- One encoded table. -/
structure Payload where
  schemaId : String := ""
  type : Int32 := 0
  record : Octets := []
  deriving DecidableEq, Repr

/-- What is sent for one submission. -/
structure Batch where
  id : Int64 := 0
  payloads : List Payload := []
  /-- The header block with the metadata of the caller, or nothing. -/
  headers : Octets := []
  deriving DecidableEq, Repr

/-- What the peer says about one batch. -/
structure Acknowledgment where
  id : Int64 := 0
  code : Int32 := 0
  message : String := ""
  deriving DecidableEq, Repr

namespace Payload

def fields (payload : Payload) : Wire.Message :=
  Wire.text 1 payload.schemaId ++ Wire.signed32 2 payload.type ++ Wire.bytes 3 payload.record

def merge : Wire.Merge Payload := fun depth payload tag layout octets =>
  match tag with
  | 1 => Wire.within "ArrowPayload" "schema_id" do
    let (text, rest) ← Wire.takeText layout octets
    pure ({ payload with schemaId := text }, rest)
  | 2 => Wire.within "ArrowPayload" "r#type" do
    let (type, rest) ← Wire.takeInt32 layout octets
    pure ({ payload with type := type }, rest)
  | 3 => Wire.within "ArrowPayload" "record" do
    let (record, rest) ← Wire.takeBytes layout octets
    pure ({ payload with record := record }, rest)
  | _ => do
    let rest ← Wire.skipUnknown depth tag layout octets
    pure (payload, rest)

def encode (payload : Payload) : Octets := Wire.encode payload.fields

def decode (octets : Octets) : Except Wire.Fault Payload := Wire.decode merge {} octets

end Payload

namespace Batch

def fields (batch : Batch) : Wire.Message :=
  Wire.signed 1 batch.id ++ Wire.messages 2 batch.payloads Payload.fields ++
    Wire.bytes 3 batch.headers

def merge : Wire.Merge Batch := fun depth batch tag layout octets =>
  match tag with
  | 1 => Wire.within "BatchArrowRecords" "batch_id" do
    let (id, rest) ← Wire.takeInt64 layout octets
    pure ({ batch with id := id }, rest)
  | 2 => Wire.within "BatchArrowRecords" "arrow_payloads" do
    let (payload, rest) ← Wire.takeMessage Payload.merge {} depth layout octets
    pure ({ batch with payloads := batch.payloads ++ [payload] }, rest)
  | 3 => Wire.within "BatchArrowRecords" "headers" do
    let (headers, rest) ← Wire.takeBytes layout octets
    pure ({ batch with headers := headers }, rest)
  | _ => do
    let rest ← Wire.skipUnknown depth tag layout octets
    pure (batch, rest)

def encode (batch : Batch) : Octets := Wire.encode batch.fields

def size (batch : Batch) : Nat := Wire.size batch.fields

def decode (octets : Octets) : Except Wire.Fault Batch := Wire.decode merge {} octets

end Batch

namespace Acknowledgment

def fields (ack : Acknowledgment) : Wire.Message :=
  Wire.signed 1 ack.id ++ Wire.signed32 2 ack.code ++ Wire.text 3 ack.message

def merge : Wire.Merge Acknowledgment := fun depth ack tag layout octets =>
  match tag with
  | 1 => Wire.within "BatchStatus" "batch_id" do
    let (id, rest) ← Wire.takeInt64 layout octets
    pure ({ ack with id := id }, rest)
  | 2 => Wire.within "BatchStatus" "status_code" do
    let (code, rest) ← Wire.takeInt32 layout octets
    pure ({ ack with code := code }, rest)
  | 3 => Wire.within "BatchStatus" "status_message" do
    let (message, rest) ← Wire.takeText layout octets
    pure ({ ack with message := message }, rest)
  | _ => do
    let rest ← Wire.skipUnknown depth tag layout octets
    pure (ack, rest)

def encode (ack : Acknowledgment) : Octets := Wire.encode ack.fields

def decode (octets : Octets) : Except Wire.Fault Acknowledgment := Wire.decode merge {} octets

end Acknowledgment

end TelemetryStreams
