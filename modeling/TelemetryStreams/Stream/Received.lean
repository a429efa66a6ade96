import TelemetryStreams.Stream.Basic

/-!
# What a peer has received

The peer of a call gets the batches in the order in which they were sent, and reads their header
blocks one after the other with one table for the whole call. A batch without a block has no metadata.
-/
namespace TelemetryStreams

def Batch.readAll : Hpack.Table → List Batch → List (Batch × Option (Except Metadata.Fault Metadata))
  | _, [] => []
  | table, batch :: batches =>
    if batch.headers = [] then (batch, none) :: readAll table batches
    else
      let (metadata, table) := Metadata.decode table batch.headers
      (batch, some metadata) :: readAll table batches

namespace Event

def sentOn (call : Nat) (events : List Event) : List Batch :=
  events.filterMap fun
    | .sent number batch => if number = call then some batch else none
    | _ => none

def calls (events : List Event) : List Nat :=
  events.filterMap fun
    | .opened call => some call
    | _ => none

/-- All batches that were sent, by their calls, with what the peer reads from their header blocks. -/
def deliveries (events : List Event) :
    List (Nat × Batch × Option (Except Metadata.Fault Metadata)) :=
  (calls events).flatMap fun call => (Batch.readAll {} (sentOn call events)).map fun row => (call, row)

end Event

end TelemetryStreams
