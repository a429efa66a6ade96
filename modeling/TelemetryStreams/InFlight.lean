import TelemetryStreams.Batch
import TelemetryStreams.Error

/-!
# Batches in flight

The table that leads from the id of a batch to the ticket of the caller who waits for it. An id has at
most one entry; registering it again displaces the earlier ticket. An acknowledgment removes the
entry of its id and nothing else. Four codes are answers to a batch; any other code is still told to
the caller, but breaks the stream, and so does an id without an entry.
-/
namespace TelemetryStreams

namespace Acknowledgment

/-- What the caller of the batch is told, and whether the code is one of those that answer a batch. -/
def verdict (ack : Acknowledgment) : Except Error Unit × Bool :=
  let detail := toString ack.id.toInt ++ ": " ++ ack.message
  match Verdict.ofNumber ack.code with
  | .ok .ok => (.ok (), true)
  | .ok .unavailable =>
    (.error (.status ⟨.unavailable, "destination unavailable: " ++ detail⟩), true)
  | .ok .invalidArgument =>
    (.error (.status ⟨.invalidArgument, "invalid argument: " ++ detail⟩), true)
  | .ok .resourceExhausted =>
    (.error (.status ⟨.resourceExhausted, "resource exhausted: " ++ detail⟩), true)
  | _ => (.error (.status (unexpected detail)), false)
where
  /-- The status for a code that answers no batch. -/
  unexpected (detail : String) : Status := ⟨.internal, "unexpected stream response: " ++ detail⟩

/-- The status that breaks the stream if the code answers no batch. -/
def breach (ack : Acknowledgment) : Status :=
  verdict.unexpected (toString ack.id.toInt ++ ": " ++ ack.message)

end Acknowledgment

/-- Tickets under the ids of their batches. -/
abbrev InFlight := List (Int64 × Nat)

namespace InFlight

def ticket? (table : InFlight) (id : Int64) : Option Nat := (table.find? (·.1 = id)).map (·.2)

def erase (table : InFlight) (id : Int64) : InFlight := table.filter (·.1 ≠ id)

/-- Registers a batch, in the place of an earlier one of the same id. -/
def register (table : InFlight) (id : Int64) (ticket : Nat) : InFlight :=
  table.erase id ++ [(id, ticket)]

/-- What an acknowledgment amounts to. -/
structure Settlement where
  table : InFlight
  told : Option (Nat × Except Error Unit)
  /-- Why the stream cannot go on, if so. -/
  stop : Option Error
  deriving DecidableEq, Repr

def settle (table : InFlight) (ack : Acknowledgment) : Settlement :=
  match table.ticket? ack.id with
  | none => ⟨table, none, some (.unrecognizedBatchId ack.id)⟩
  | some ticket =>
    let (result, isAnswer) := ack.verdict
    ⟨table.erase ack.id, some (ticket, result),
      if isAnswer then none else some (.unexpectedStatus ack.breach)⟩

def byId (table : InFlight) : InFlight := table.mergeSort fun a b => decide (a.1 ≤ b.1)

end InFlight

end TelemetryStreams
