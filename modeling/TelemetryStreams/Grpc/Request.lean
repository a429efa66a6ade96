import TelemetryStreams.Metadata
import TelemetryStreams.Status

/-!
# The request that establishes a call

The headers that are configured for a call are put into its metadata one after the other, under their
names in lower case, so a later one takes the place of an earlier one of the same name. A name that
no header can have, or a value with controls in it, refuses the whole request. Some names belong to
the protocol and do not reach the peer.
-/
namespace TelemetryStreams.Grpc

/-- The characters of names, besides letters and digits. -/
def nameMarks : List Char :=
  ['!', '#', '$', '%', '&', '\'', '*', '+', '-', '.', '^', '_', '\x60', '|', '~']

def isNameChar (c : Char) : Bool :=
  ('a' ≤ c && c ≤ 'z') || ('A' ≤ c && c ≤ 'Z') || ('0' ≤ c && c ≤ '9') || nameMarks.contains c

/-- The lowercase form of a letter of the English alphabet, and of nothing else. -/
def lowerChar (c : Char) : Char := if 'A' ≤ c ∧ c ≤ 'Z' then Char.ofNat (c.toNat + 32) else c

def nameLimit : Nat := 65535

/-- The end of the names whose values are not text. -/
def binaryMark : List Char := ['-', 'b', 'i', 'n']

/-- A name in lower case, if a header with a text value can have it. -/
def headerName? (name : String) : Option String :=
  let chars := name.toList
  let lower := chars.map lowerChar
  if chars = [] ∨ !chars.all isNameChar ∨ nameLimit < chars.length then none
  else if binaryMark.isSuffixOf lower then none
  else some (String.ofList lower)

def isValueChar (c : Char) : Bool := c = '\t' || (0x20 ≤ c.toNat && c.toNat ≠ 0x7f)

/-- Puts configured headers into metadata, in the order in which they come. -/
def putHeaders : Metadata → List (String × String) → Except Status Metadata
  | metadata, [] => .ok metadata
  | metadata, (name, value) :: headers =>
    match headerName? name with
    | none => .error ⟨.invalidArgument, "header " ++ name ++ ": invalid gRPC metadata key name"⟩
    | some lower =>
      if value.toList.all isValueChar then putHeaders (metadata.put lower value) headers
      else .error ⟨.invalidArgument, "header value: failed to parse metadata value"⟩

/-- The metadata of the request for configured headers. -/
def request (headers : List (String × String)) : Except Status Metadata := putHeaders [] headers

/-- The names that belong to the protocol or to the connection. -/
def reserved : List String :=
  ["te", "content-type", "grpc-message", "grpc-message-type", "grpc-status", "connection",
   "keep-alive", "proxy-connection", "transfer-encoding", "upgrade"]

/-- The name under which every client introduces itself, whatever its metadata says. -/
def ownName : String := "user-agent"

/-- What of the metadata reaches the peer, apart from how the client introduces itself. -/
def sentHeaders (metadata : Metadata) : Metadata :=
  metadata.filter fun row => row.1 ≠ ownName && !reserved.contains row.1

end TelemetryStreams.Grpc
