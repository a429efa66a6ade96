import TelemetryStreams.Duration.Basic
import TelemetryStreams.Error

/-!
# What is logged

Every entry is a cause, with its level, its wording and its fields in `Log.level`, `Log.message` and
`Log.fields`. An end that was asked for is told apart from a failure by its code.
-/
namespace TelemetryStreams

/-- One direction of a stream. -/
inductive Half where
  | reader | writer
  deriving DecidableEq, Repr

def Half.name : Half → String
  | .reader => "reader"
  | .writer => "writer"

/-- An entry of the log. -/
inductive Log where
  /-- The endpoint does not know the service. -/
  | unsupported (reason : String)
  /-- A call could not be opened. -/
  | cannotStart (status : Status)
  /-- A direction ended as it was asked to. -/
  | shutdown (half : Half) (reason : String)
  | failure (half : Half) (reason : String) (code : Code)
  /-- A caller is released as its stream ends. -/
  | releasing (id : Int64)
  | lifetimeReached (lifetime : Duration)
  /-- The codec broke down with some last words. -/
  | brokeDown (lastWords : String)
  /-- A batch took the id of one in flight. -/
  | duplicateId (id : Int64)
  /-- No stream is left to be used. -/
  | downgrading
  | controllerBroke (reason : String)
  deriving DecidableEq, Repr

/-- How urgent an entry is. -/
inductive Level where
  | debug | info | warn | error
  deriving DecidableEq, Repr

def Level.name : Level → String
  | .debug => "DEBUG"
  | .info => "INFO"
  | .warn => "WARN"
  | .error => "ERROR"

/-- The value of a field of an entry. -/
inductive LogValue where
  | text (text : String)
  | number (value : Nat)
  deriving DecidableEq, Repr

namespace Log

def level : Log → Level
  | .unsupported _ | .downgrading => .info
  | .cannotStart _ | .failure .. => .error
  | .duplicateId _ => .warn
  | _ => .debug

def message : Log → String
  | .unsupported _ => "arrow is not supported"
  | .cannotStart _ => "cannot start arrow stream"
  | .shutdown .. => "arrow stream shutdown"
  | .failure .. => "arrow stream error"
  | .releasing _ => "releasing waiter of restarting stream"
  | .lifetimeReached _ => "arrow stream reached max lifetime"
  | .brokeDown _ => "panic detail in otel-arrow-adapter"
  | .duplicateId _ => "duplicate batch ID in flight"
  | .downgrading => "arrow streams unavailable, downgrading to standard OTLP"
  | .controllerBroke _ => "stream controller ended abnormally"

def fields : Log → List (String × LogValue)
  | .unsupported reason => [("reason", .text reason)]
  | .cannotStart status => [("error", .text status.text)]
  | .shutdown half reason => [("which", .text half.name), ("reason", .text reason)]
  | .failure half reason code =>
    [("which", .text half.name), ("reason", .text reason), ("code", .number code.number)]
  | .releasing id | .duplicateId id => [("batch_id", .text (toString id.toInt))]
  | .lifetimeReached lifetime => [("lifetime", .text lifetime.debugText)]
  | .brokeDown lastWords => [("recovered", .text lastWords)]
  | .downgrading => []
  | .controllerBroke reason => [("error", .text reason)]

/-- The entry for a direction that ended with an error: a cancellation was asked for, anything else is
a failure. -/
def ofError (half : Half) (error : Error) : Log :=
  let (code, reason) : Code × String := match error with
    | .status status => (status.code, status.message)
    | .canceled => (.cancelled, error.message)
    | _ => (.internal, error.message)
  if code = .cancelled then .shutdown half reason else .failure half reason code

end Log

end TelemetryStreams
