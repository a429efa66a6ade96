import TelemetryStreams.Proofs.Stream.Steps

/-!
# How a codec fails

A codec fails by an error or by breaking down, with some words. A stream does the same in either case: only
what is said about the failure differs. `Stream.hushed` leaves out what is said: to the caller, in the span
and in the log of the writer, and the last words of a codec that broke down. What a stream does next does
not depend on it (`Stream.makeMove_hushed`).
-/
namespace TelemetryStreams

def Error.encodeText : String := "encode: "

/-- A wording of an error, but of a failure of the codec only how it begins. -/
def Error.hushedText (text : String) : String :=
  if encodeText.toList <+: text.toList then encodeText else text

def Error.hushed : Error → Error
  | .encode _ => .encode (.codec "")
  | error => error

/-- A turn of a codec that fails the same way whenever it fails. -/
def Turn.hushed : Turn → Turn
  | .batch => .batch
  | .refuse _ | .breakDown _ => .refuse ""

def Codec.hushed (codec : Codec) : Codec := { codec with script := codec.script.map Turn.hushed }

def Log.hushed : Log → Option Log
  | .brokeDown _ => none
  | .failure .writer reason code => some (.failure .writer (Error.hushedText reason) code)
  | log => some log

def Event.hushed : Event → Option Event
  | .logged log => log.hushed.map .logged
  | .spanEnded span failure => some (.spanEnded span (failure.map Error.hushedText))
  | .answered ticket result => some (.answered ticket (result.mapError Error.hushed))
  | .finished cause => some (.finished cause.hushed)
  | event => some event

def WriterPhase.hushed : WriterPhase → WriterPhase
  | .ended result => .ended (result.mapError Error.hushed)
  | writer => writer

namespace Stream

/-- A stream without what is said about failures of its codec. -/
def hushed (s : Stream) : Stream :=
  { s with
    codec := s.codec.hushed, writer := s.writer.hushed, cause := s.cause.map Error.hushed
    history := s.history.filterMap Event.hushed }

def Outcome.hushed (made : Outcome) : Outcome := (made.1.hushed, made.2.filterMap Event.hushed)

end Stream

/-! ### What is hushed stays so -/

@[simp] theorem Error.hushedText_hushedText (text : String) :
    hushedText (hushedText text) = hushedText text := by
  unfold hushedText
  split
  case isTrue => rw [if_pos (List.prefix_refl _)]
  case isFalse => rfl

@[simp] theorem Error.hushed_hushed (error : Error) : error.hushed.hushed = error.hushed := by
  cases error <;> rfl

@[simp] theorem Error.hushed_comp : Error.hushed ∘ Error.hushed = Error.hushed :=
  funext hushed_hushed

@[simp] theorem Turn.hushed_hushed (turn : Turn) : turn.hushed.hushed = turn.hushed := by
  cases turn <;> rfl

@[simp] theorem Codec.hushed_hushed (codec : Codec) : codec.hushed.hushed = codec.hushed := by
  simp [hushed, List.map_map, Function.comp_def]

@[simp] theorem mapError_hushed_hushed {α : Type} (result : Except Error α) :
    (result.mapError Error.hushed).mapError Error.hushed = result.mapError Error.hushed := by
  cases result with
  | ok => rfl
  | error error => exact congrArg Except.error error.hushed_hushed

@[simp] theorem WriterPhase.hushed_hushed (writer : WriterPhase) :
    writer.hushed.hushed = writer.hushed := by
  cases writer <;> simp [hushed]

@[simp] theorem Event.hushed_hushed (event : Event) :
    event.hushed.bind Event.hushed = event.hushed := by
  cases event with
  | logged log =>
    cases log with
    | failure half => cases half <;> simp [hushed, Log.hushed]
    | _ => rfl
  | spanEnded span failure => simp [hushed, Function.comp_def]
  | answered ticket result => simp [hushed]
  | finished cause => simp [hushed]
  | _ => rfl

@[simp] theorem Event.filterMap_hushed_hushed (events : List Event) :
    (events.filterMap hushed).filterMap hushed = events.filterMap hushed := by
  rw [List.filterMap_filterMap, funext Event.hushed_hushed]

def Encoded.hushed : Encoded → Encoded
  | .batch made => .batch made
  | .refused _ | .brokeDown _ => .refused ""

namespace Stream

@[simp] theorem hushed_hushed (s : Stream) : s.hushed.hushed = s.hushed := by
  simp [hushed]

theorem record_hushed (s : Stream) (events : List Event) :
    (s.record events).hushed = s.hushed.record (events.filterMap Event.hushed) := by
  simp [record, hushed]

@[simp] theorem run_hushed (s : Stream) : s.hushed.run = s.run := rfl

@[simp] theorem call_hushed (s : Stream) : s.hushed.call = s.call := rfl

@[simp] theorem queue_hushed (s : Stream) : s.hushed.queue = s.queue := rfl

end Stream

end TelemetryStreams
