import TelemetryStreams.Duration.Human
import TelemetryStreams.Error
import TelemetryStreams.Json.Reader

/-!
# Configuration of a pool

A configuration is read from JSON text, either as an object whose fields may be left out or as an
array of the fields in order, and is written as an object with the lifetime in the form that people
write. A field that is not given takes its value from the defaults that the reader is handed, for
the number of streams depends on the machine.
-/
namespace TelemetryStreams

/-- What a pool is started with. -/
structure Config where
  /-- How many streams run side by side. -/
  streams : UInt64
  /-- How long a stream may live; zero means without limit. -/
  maxStreamLifetime : Duration
  /-- Whether the size of every batch is measured. -/
  detailedMetrics : Bool
  deriving DecidableEq, Repr

namespace Config

/-- The default lifetime, below the age at which servers commonly end a connection. -/
def defaultLifetime : Duration := .ofParts 30 0

def defaults (streams : UInt64) : Config := ⟨streams, defaultLifetime, false⟩

def validate (config : Config) : Except Error Unit :=
  if config.streams = 0 then .error (.invalidConfig "num_streams must be at least 1") else .ok ()

/-! ### Reading -/

/-- The names of the fields, in their order. -/
def fieldNames : List String := ["num_streams", "max_stream_lifetime", "detailed_metrics"]

/-- The fields that have been read. -/
structure Given where
  streams : Option UInt64 := none
  lifetime : Option Duration := none
  detailed : Option Bool := none
  deriving DecidableEq, Repr

def Given.withDefaults (given : Given) (defaults : Config) : Config :=
  { streams := given.streams.getD defaults.streams
    maxStreamLifetime := given.lifetime.getD defaults.maxStreamLifetime
    detailedMetrics := given.detailed.getD defaults.detailedMetrics }

def readStreams : Json.Reader UInt64 := Json.Reader.natural "usize"

def readLifetime : Json.Reader Duration := do
  let text ← Json.Reader.text "a duration"
  match Human.read text with
  | .ok duration => pure duration
  | .error .unreadable => Json.Reader.misfit (.wrongValue (.string text) "a duration")
  | .error .overflow => Json.Reader.fail .overflow

def readField (given : Given) (name : String) : Json.Reader Given := do
  let once (taken : Bool) : Json.Reader Unit :=
    if taken then Json.Reader.misfit (.duplicateField name) else Json.Reader.colon
  if name = "num_streams" then
    once given.streams.isSome
    pure { given with streams := some (← readStreams) }
  else if name = "max_stream_lifetime" then
    once given.lifetime.isSome
    pure { given with lifetime := some (← readLifetime) }
  else if name = "detailed_metrics" then
    once given.detailed.isSome
    pure { given with detailed := some (← Json.Reader.boolean) }
  else Json.Reader.misfit (.unknownField name fieldNames)

/-- The fields of an object whose brace has been read. No field may come twice, so four rounds are
enough. -/
def readFields : (fuel : Nat) → (first : Bool) → Given → Json.Reader Given
  | 0, _, given => pure given
  | fuel + 1, first, given => do
    if ← Json.Reader.anotherField first then
      let name ← Json.Reader.name
      readFields fuel false (← readField given name)
    else
      Json.Reader.skip
      pure given

/-- The elements of an array whose bracket has been read. -/
def readElements : Json.Reader Given := do
  if !(← Json.Reader.anotherElement true) then
    Json.Reader.endSequence
    return {}
  let given : Given := { streams := some (← readStreams) }
  if !(← Json.Reader.anotherElement false) then
    Json.Reader.endSequence
    return given
  let given := { given with lifetime := some (← readLifetime) }
  if !(← Json.Reader.anotherElement false) then
    Json.Reader.endSequence
    return given
  let given := { given with detailed := some (← Json.Reader.boolean) }
  Json.Reader.endSequence
  return given

/-- A configuration as an object or as an array. -/
def reader : Json.Reader Given := do
  match ← Json.Reader.front with
  | '[' => Json.Reader.skip; readElements
  | '\x7b' => Json.Reader.skip; readFields 5 true {}
  | _ => Json.Reader.wrongType "struct Config"

def parse (text : String) : Except Json.Fault Given := Json.Reader.whole reader text

/-! ### Writing -/

def render (config : Config) : String :=
  "\x7b\"num_streams\":" ++ toString config.streams.toNat ++
    ",\"max_stream_lifetime\":\"" ++ Human.render config.maxStreamLifetime ++
    "\",\"detailed_metrics\":" ++ (if config.detailedMetrics then "true" else "false") ++ "\x7d"

end Config

end TelemetryStreams
