import TelemetryStreams.Hpack.Decoder
import TelemetryStreams.Hpack.Encoder

/-!
# Metadata of a caller, and header blocks

The headers of a call are fixed when it is established, so the metadata of a single caller travels
inside its batch as a header block. Metadata is a list of pairs with distinct keys, and a block holds
them by key, so it does not depend on their order in the list. Reading a block keeps the last value
of a key that comes twice.
-/
namespace TelemetryStreams

/-- Texts under distinct keys. -/
abbrev Metadata := List (String × String)

namespace Metadata

def value? (metadata : Metadata) (key : String) : Option String :=
  (metadata.find? (·.1 = key)).map (·.2)

/-- Puts a value under a key, in the place of an earlier one. -/
def put : Metadata → (key value : String) → Metadata
  | [], key, value => [(key, value)]
  | row :: rows, key, value =>
    if row.1 = key then (key, value) :: rows else row :: put rows key value

/-- Puts all pairs of another list on top. -/
def overlay (metadata extra : Metadata) : Metadata :=
  extra.foldl (fun md row => md.put row.1 row.2) metadata

def sorted (metadata : Metadata) : Metadata := metadata.mergeSort fun a b => decide (a.1 ≤ b.1)

def fields (metadata : Metadata) : List Hpack.Field :=
  metadata.sorted.map fun row => .ofTexts row.1 row.2

/-- Writes a header block, and returns the table for the next one. -/
def encode (table : Hpack.Table) (metadata : Metadata) : Octets × Hpack.Table :=
  Hpack.encode table metadata.fields

/-- Why a header block cannot be read. -/
inductive Fault where
  | block (fault : Hpack.Fault)
  | notText (fault : Utf8.Fault)
  deriving DecidableEq, Repr

def Fault.message? : Fault → Option String
  | .block fault => fault.message?
  | .notText fault => some fault.message

def texts (field : Hpack.Field) : Except Utf8.Fault (String × String) := do
  let name ← Utf8.decode field.name
  let value ← Utf8.decode field.value
  pure (name, value)

/-- Puts the texts of fields under their names, one after the other. -/
def ofFields : Metadata → List Hpack.Field → Except Utf8.Fault Metadata
  | metadata, [] => .ok metadata
  | metadata, field :: fields => do
    let (name, value) ← texts field
    ofFields (metadata.put name value) fields

def decode (table : Hpack.Table) (block : Octets) : Except Fault Metadata × Hpack.Table :=
  match Hpack.decode table block with
  | (.error fault, table) => (.error (.block fault), table)
  | (.ok fields, table) => ((ofFields [] fields).mapError .notText, table)

end Metadata

end TelemetryStreams
