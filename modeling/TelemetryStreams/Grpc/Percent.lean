import TelemetryStreams.Status
import TelemetryStreams.Text.Utf8

/-!
# Percent-encoded messages

The message of a status travels percent-encoded. A percent sign that is not followed by two
hexadecimal digits stands for itself. A message whose octets are no text is replaced by a report of
that, and its code by `unknown`.
-/
namespace TelemetryStreams.Grpc

def hexPair? (high low : UInt8) : Option UInt8 := do
  let h ← Octets.hexValue? (Char.ofNat high.toNat)
  let l ← Octets.hexValue? (Char.ofNat low.toNat)
  pure (UInt8.ofNat (16 * h + l))

/-- Replaces each percent sign and its two digits, with fuel for each octet. -/
def percentDecode : (fuel : Nat) → Octets → Octets
  | 0, octets => octets
  | _ + 1, [] => []
  | fuel + 1, b :: rest =>
    match b, rest with
    | 0x25, high :: low :: more =>
      match hexPair? high low with
      | some octet => octet :: percentDecode fuel more
      | none => b :: percentDecode fuel rest
    | _, _ => b :: percentDecode fuel rest

/-- The status that a code and a message on the wire stand for. -/
def readStatus (status : Status) : Status :=
  let octets := Utf8.encode status.message
  match Utf8.decode (percentDecode octets.length octets) with
  | .ok message => { status with message := message }
  | .error fault => ⟨.unknown, "Error deserializing status message header: " ++ fault.message⟩

end TelemetryStreams.Grpc
