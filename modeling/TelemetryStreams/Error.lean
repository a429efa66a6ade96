import TelemetryStreams.Status

/-!
# What can go wrong for a caller

Every error of the library is a cause, with its wording in `Error.message`. Two questions are asked
of an error: whether it marks a local defect, so that the data must be dropped (`isPermanent`), and
what a retry policy should do with it (`guidance`).
-/
namespace TelemetryStreams

instance (priority := high) decidableEqExcept {ε α : Type} [DecidableEq ε] [DecidableEq α] :
    DecidableEq (Except ε α)
  | .error e, .error f => decidable_of_decidable_of_iff (Except.error.injEq e f).symm.to_iff
  | .ok a, .ok b => decidable_of_decidable_of_iff (Except.ok.injEq a b).symm.to_iff
  | .error _, .ok _ => isFalse nofun
  | .ok _, .error _ => isFalse nofun

/-- Why a codec produced no batch. -/
inductive EncodeError where
  | codec (message : String)
  /-- The codec broke down; its last words were recovered. -/
  | breakdown (message : String)
  deriving DecidableEq, Repr

def EncodeError.message : EncodeError → String
  | .codec message => message
  | .breakdown message => "panic in otel-arrow-adapter: " ++ message

/-- Why a submission failed, or why one direction of a stream ended. -/
inductive Error where
  | encode (cause : EncodeError)
  /-- The metadata of a batch could not be written as a header block. -/
  | headerEncode (message : String)
  /-- The peer's verdict on a call or on one batch. -/
  | status (status : Status)
  /-- The stream ended while the batch was in flight. -/
  | streamRestarting
  /-- The peer acknowledged a batch that nobody waits for. -/
  | unrecognizedBatchId (id : Int64)
  /-- The peer acknowledged a batch with a code outside the recognized ones. -/
  | unexpectedStatus (status : Status)
  | credentials (message : String)
  | canceled
  | deadlineExceeded
  | writer (message : String)
  | invalidConfig (message : String)
  deriving DecidableEq, Repr

/-- What a retry policy should do. -/
inductive Guidance where
  | retryable
  | notRetryable
  /-- Whether to retry is for the policy's own settings to say. -/
  | policyDependent
  deriving DecidableEq, Repr

def Code.guidance : Code → Guidance
  | .cancelled | .deadlineExceeded | .aborted | .outOfRange | .unavailable | .dataLoss =>
    .retryable
  | .resourceExhausted => .policyDependent
  | _ => .notRetryable

namespace Error

def message : Error → String
  | .encode cause => "encode: " ++ cause.message
  | .headerEncode message => "hpack: " ++ message
  | .status final => final.text
  | .streamRestarting => "arrow stream is restarting"
  | .unrecognizedBatchId id => "process: unrecognized batch ID: " ++ toString id.toInt
  | .unexpectedStatus final => "process: " ++ final.message
  | .credentials message => "per-RPC credentials: " ++ message
  | .canceled => "context canceled"
  | .deadlineExceeded => "context deadline exceeded"
  | .writer message => "arrow stream writer failed: " ++ message
  | .invalidConfig message => "invalid configuration: " ++ message

/-- Whether the error marks a local defect. -/
def isPermanent : Error → Bool
  | .encode _ | .headerEncode _ => true
  | _ => false

def code? : Error → Option Code
  | .status final | .unexpectedStatus final => some final.code
  | _ => none

def cause? : Error → Option String
  | .encode cause => some cause.message
  | _ => none

/-- What a retry policy should do with the error. -/
def guidance : Error → Guidance
  | .encode _ | .headerEncode _ | .invalidConfig _ | .credentials _ => .notRetryable
  | .streamRestarting | .unrecognizedBatchId _ | .canceled | .deadlineExceeded | .writer _ =>
    .retryable
  | .status final | .unexpectedStatus final => final.code.guidance

end Error

end TelemetryStreams
