import TelemetryStreams.Text.Octets

/-!
# UTF-8

`Utf8.encode` writes a text and `Utf8.decode` reads it back. Octets that are no text are refused
with the place of the first octet that does not fit: either the octets there can begin no
character, or they begin one that the end cuts short. `decode_encode` says that reading undoes
writing.
-/
namespace TelemetryStreams.Utf8

def encode (text : String) : Octets := text.toUTF8.data.toList

/-- The first place at which octets stop being UTF-8. -/
inductive Fault where
  /-- `length` octets from `index` on begin no character. -/
  | invalid (length index : Nat)
  /-- The octets from `index` on begin a character that the end cuts short. -/
  | incomplete (index : Nat)
  deriving DecidableEq, Repr

def Fault.message : Fault → String
  | .invalid length index =>
    "invalid utf-8 sequence of " ++ toString length ++ " bytes from index " ++ toString index
  | .incomplete index => "incomplete utf-8 byte sequence from index " ++ toString index

def isTail (b : UInt8) : Bool := 0x80 ≤ b && b ≤ 0xBF

/-- The least and greatest octet that may follow the first octet of a longer character, and how
many more tails come after that one. -/
def opening? (first : UInt8) : Option (UInt8 × UInt8 × Nat) :=
  if 0xC2 ≤ first && first ≤ 0xDF then some (0x80, 0xBF, 0)
  else if first == 0xE0 then some (0xA0, 0xBF, 1)
  else if first == 0xED then some (0x80, 0x9F, 1)
  else if 0xE1 ≤ first && first ≤ 0xEF then some (0x80, 0xBF, 1)
  else if first == 0xF0 then some (0x90, 0xBF, 2)
  else if 0xF1 ≤ first && first ≤ 0xF3 then some (0x80, 0xBF, 2)
  else if first == 0xF4 then some (0x80, 0x8F, 2)
  else none

/-- What the tails of one character amount to: the octets after it, or the fault of the character
that begins at `index` and of which `seen` octets have fitted. -/
def tails (index : Nat) : (owed seen : Nat) → Octets → Except Fault Octets
  | 0, _, rest => .ok rest
  | _ + 1, _, [] => .error (.incomplete index)
  | owed + 1, seen, b :: rest =>
    if isTail b then tails index owed (seen + 1) rest else .error (.invalid seen index)

/-- The octets after the first character, or why there is none. -/
def afterCharacter (index : Nat) : Octets → Except Fault Octets
  | [] => .ok []
  | first :: rest =>
    if first < 0x80 then .ok rest
    else match opening? first with
      | none => .error (.invalid 1 index)
      | some (low, high, more) =>
        match rest with
        | [] => .error (.incomplete index)
        | second :: rest =>
          if low ≤ second && second ≤ high then tails index more 2 rest
          else .error (.invalid 1 index)

/-- The first fault of the octets, read from `index` on, with fuel for each octet. -/
def faultFrom : (fuel index : Nat) → Octets → Option Fault
  | 0, _, _ => none
  | _, _, [] => none
  | fuel + 1, index, octets =>
    match afterCharacter index octets with
    | .error fault => some fault
    | .ok rest => faultFrom fuel (index + (octets.length - rest.length)) rest

def firstFault (octets : Octets) : Fault :=
  (faultFrom octets.length 0 octets).getD (.incomplete 0)

/-- The text of the octets, or the first place where they are none. -/
def decode (octets : Octets) : Except Fault String :=
  match String.fromUTF8? ⟨octets.toArray⟩ with
  | some text => .ok text
  | none => .error (firstFault octets)

theorem decode_encode (text : String) : decode (encode text) = .ok text := by
  have h : (⟨(encode text).toArray⟩ : ByteArray) = text.toByteArray := by
    simp [encode, String.toUTF8]
  simp [decode, h, String.fromUTF8?, text.isValidUTF8, String.fromUTF8]

end TelemetryStreams.Utf8
