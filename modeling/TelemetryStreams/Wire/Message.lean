import TelemetryStreams.Text.Utf8
import TelemetryStreams.Wire.Varint

/-!
# Messages on the wire

A message is a list of tagged fields, and a field holds a number, a fixed-width word, octets or
another message. `encode` writes the fields one after the other. `size` computes how many octets
that will be without writing any, as is done in the task of a caller that only wants the number;
`length_encode` says that the two agree.
-/
namespace TelemetryStreams.Wire

/-- A tagged field. -/
inductive Field where
  /-- A number below two to the 64th. -/
  | varint (tag value : Nat)
  | fixed64 (tag : Nat) (bits : UInt64)
  | fixed32 (tag : Nat) (bits : UInt32)
  | octets (tag : Nat) (octets : Octets)
  | message (tag : Nat) (fields : List Field)
  deriving Repr

abbrev Message := List Field

def key (tag type : Nat) : Octets := Wire.varint (8 * tag + type)

def keySize (tag type : Nat) : Nat := varintSize (8 * tag + type)

mutual

def Field.encode : Field → Octets
  | .varint tag value => key tag 0 ++ Wire.varint value
  | .fixed64 tag bits => key tag 1 ++ Octets.littleEndian 8 bits.toNat
  | .fixed32 tag bits => key tag 5 ++ Octets.littleEndian 4 bits.toNat
  | .octets tag octets => key tag 2 ++ Wire.varint octets.length ++ octets
  | .message tag fields =>
    let inner := encode fields
    key tag 2 ++ Wire.varint inner.length ++ inner

def encode : Message → Octets
  | [] => []
  | field :: fields => field.encode ++ encode fields

end

mutual

def Field.size : Field → Nat
  | .varint tag value => keySize tag 0 + varintSize value
  | .fixed64 tag _ => keySize tag 1 + 8
  | .fixed32 tag _ => keySize tag 5 + 4
  | .octets tag octets => keySize tag 2 + varintSize octets.length + octets.length
  | .message tag fields => keySize tag 2 + varintSize (size fields) + size fields

def size : Message → Nat
  | [] => 0
  | field :: fields => field.size + size fields

end

theorem length_key (tag type : Nat) : (key tag type).length = keySize tag type :=
  length_varint _

mutual

theorem Field.length_encode (field : Field) : field.encode.length = field.size := by
  cases field with
  | varint tag value => simp [Field.encode, Field.size, length_key, length_varint]
  | fixed64 tag bits => simp [Field.encode, Field.size, length_key, Octets.length_littleEndian]
  | fixed32 tag bits => simp [Field.encode, Field.size, length_key, Octets.length_littleEndian]
  | octets tag octets => simp [Field.encode, Field.size, length_key, length_varint, Nat.add_assoc]
  | message tag fields =>
    have h := length_encode fields
    simp [Field.encode, Field.size, length_key, length_varint, h, Nat.add_assoc]

theorem length_encode (message : Message) : (encode message).length = size message := by
  cases message with
  | nil => rfl
  | cons field fields =>
    have h := Field.length_encode field
    have hs := length_encode fields
    simp [encode, size, h, hs]

end

/-! ### Fields that are left out when they hold nothing -/

def number (tag value : Nat) : Message := if value = 0 then [] else [.varint tag value]

/-- A signed number in two's complement of 64 bits, unless it is zero. -/
def signed (tag : Nat) (value : Int64) : Message := number tag value.toUInt64.toNat

def signed32 (tag : Nat) (value : Int32) : Message := signed tag value.toInt64

/-- A signed number of 32 bits with its sign as the lowest bit, unless it is zero. -/
def zigzag32 (tag : Nat) (value : Int32) : Message :=
  number tag (if value < 0 then -2 * value.toInt - 1 else 2 * value.toInt).toNat

def truth (tag : Nat) (value : Bool) : Message := if value then [.varint tag 1] else []

def word64 (tag : Nat) (bits : UInt64) : Message := if bits = 0 then [] else [.fixed64 tag bits]

def word32 (tag : Nat) (bits : UInt32) : Message := if bits = 0 then [] else [.fixed32 tag bits]

/-- A double given by its bits, unless it is zero of either sign. -/
def double (tag : Nat) (bits : UInt64) : Message :=
  if bits = 0 ∨ bits = 0x8000000000000000 then [] else [.fixed64 tag bits]

def bytes (tag : Nat) (octets : Octets) : Message :=
  if octets = [] then [] else [.octets tag octets]

def text (tag : Nat) (value : String) : Message := bytes tag (Utf8.encode value)

/-- Words of 64 bits, one after the other in one field, unless there are none. -/
def packed64 (tag : Nat) (words : List UInt64) : Message :=
  bytes tag (words.flatMap fun w => Octets.littleEndian 8 w.toNat)

/-- Numbers, one after the other in one field, unless there are none. -/
def packedNumbers (tag : Nat) (numbers : List UInt64) : Message :=
  bytes tag (numbers.flatMap fun n => varint n.toNat)

def messages (tag : Nat) (elements : List α) (fields : α → Message) : Message :=
  elements.map fun a => .message tag (fields a)

def optional (tag : Nat) (element : Option α) (fields : α → Message) : Message :=
  match element with
  | none => []
  | some a => [.message tag (fields a)]

end TelemetryStreams.Wire
