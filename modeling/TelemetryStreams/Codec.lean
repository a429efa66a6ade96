import TelemetryStreams.Batch
import TelemetryStreams.Error
import TelemetryStreams.Records

/-!
# The codec

A codec turns records into batches and gives each batch its id. The codec here follows a script: at
each turn it makes a batch, refuses, or breaks down with some last words. Ids are taken from a list
and then counted up from the largest of them, wrapping around at 64 bits; a turn without a batch uses
up no id. `Codec.guarded` is how a stream calls a codec: a breakdown becomes an error like any other.
-/
namespace TelemetryStreams

/-- One turn of the script. -/
inductive Turn where
  | batch
  | refuse (message : String)
  /-- The last words, unless they are no text. -/
  | breakDown (lastWords : Option String)
  deriving DecidableEq, Repr

/-- What a turn amounts to. -/
inductive Encoded where
  | batch (batch : Batch)
  | refused (message : String)
  | brokeDown (lastWords : Option String)
  deriving DecidableEq, Repr

/-- The state of a codec. -/
structure Codec where
  ids : List Int64 := []
  /-- The id after which counting goes on. -/
  last : Int64 := 0
  script : List Turn := []
  deriving DecidableEq, Repr

namespace Codec

def largest : List Int64 → Int64
  | [] => 0
  | id :: ids => ids.foldl (fun a b => if a < b then b else a) id

/-- A codec that uses some ids first and follows a script. -/
def ofScript (ids : List Int64) (script : List Turn) : Codec :=
  { ids := ids, last := largest ids, script := script }

def payloadType : Signal → Int32
  | .traces => 40
  | .logs => 30
  | .metrics => 10

def payload (records : Records) : Payload :=
  { schemaId := records.signal.name, type := payloadType records.signal, record := records.encode }

def takeId (codec : Codec) : Int64 × Codec :=
  match codec.ids with
  | id :: ids => (id, { codec with ids := ids })
  | [] => (codec.last + 1, { codec with last := codec.last + 1 })

def encode (codec : Codec) (records : Records) : Encoded × Codec :=
  let after := { codec with script := codec.script.tail }
  match codec.script.head?.getD .batch with
  | .refuse message => (.refused message, after)
  | .breakDown lastWords => (.brokeDown lastWords, after)
  | .batch =>
    let (id, after) := after.takeId
    (.batch { id := id, payloads := [payload records] }, after)

def encodeAll : Codec → List Records → List (Records × Encoded)
  | _, [] => []
  | codec, records :: more =>
    let (encoded, after) := codec.encode records
    (records, encoded) :: encodeAll after more

/-- The signals of the records for which a batch was made. -/
def signals (turns : List (Records × Encoded)) : List Signal :=
  turns.filterMap fun turn => match turn.2 with
    | .batch _ => some turn.1.signal
    | _ => none

/-- What is told of last words that are no text. -/
def unspoken : String := "non-string panic payload"

/-- The outcome of a turn as an error or a batch. -/
def guarded : Encoded → Except EncodeError Batch
  | .batch batch => .ok batch
  | .refused message => .error (.codec message)
  | .brokeDown lastWords => .error (.breakdown (lastWords.getD unspoken))

end Codec

end TelemetryStreams
