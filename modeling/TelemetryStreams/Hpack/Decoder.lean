import TelemetryStreams.Hpack.Huffman
import TelemetryStreams.Hpack.Integer
import TelemetryStreams.Hpack.Table

/-!
# Reading header blocks

A block is a sequence of instructions: a field, to be added to the table or not, or a new size of the
table. The first octet of an instruction says which it is. What the instructions before a fault did
to the table stays done. A new size whose number cannot be read is no fault that the reader reports:
it breaks down.
-/
namespace TelemetryStreams.Hpack

/-- Why a text cannot be read. -/
inductive StringFault where
  | notEnoughOctets
  | huffman (fault : Huffman.Fault)
  deriving DecidableEq, Repr

/-- Why a block cannot be read. -/
inductive Fault where
  | indexOutOfBounds
  | integer (fault : IntegerFault)
  | string (fault : StringFault)
  /-- The number of a new size cannot be read. -/
  | breakdown
  deriving DecidableEq, Repr

def IntegerFault.name : IntegerFault → String
  | .tooManyOctets => "TooManyOctets"
  | .notEnoughOctets => "NotEnoughOctets"

def Huffman.Fault.name : Huffman.Fault → String
  | .endInside => "EOSInString"
  | .paddingTooLong => "PaddingTooLarge"
  | .paddingNotOnes => "InvalidPadding"

def StringFault.name : StringFault → String
  | .notEnoughOctets => "NotEnoughOctets"
  | .huffman fault => "HuffmanDecoderError(" ++ fault.name ++ ")"

def Fault.message? : Fault → Option String
  | .indexOutOfBounds => some "hpack: HeaderIndexOutOfBounds"
  | .integer fault => some ("hpack: IntegerDecodingError(" ++ fault.name ++ ")")
  | .string fault => some ("hpack: StringDecodingError(" ++ fault.name ++ ")")
  | .breakdown => none

/-- What a block asks for. -/
inductive Instruction where
  /-- A field that leaves the table alone. -/
  | plain (field : Field)
  /-- A field that becomes an entry. -/
  | added (field : Field)
  | resize (capacity : Nat)
  deriving DecidableEq, Repr

def takeNumber (width : Nat) (octets : Octets) : Except Fault (Nat × Octets) :=
  (takeInteger width octets).mapError .integer

def takeString (octets : Octets) : Except Fault (Octets × Octets) := do
  let (n, rest) ← takeNumber 7 octets
  if rest.length < n then throw (.string .notEnoughOctets)
  else if (octets.head?.getD 0).toNat < 128 then pure (rest.take n, rest.drop n)
  else match Huffman.decode (rest.take n) with
    | .ok text => pure (text, rest.drop n)
    | .error fault => throw (.string (.huffman fault))

def Table.takeField (table : Table) (place : Nat) : Except Fault Field :=
  match table.field? place with
  | some field => .ok field
  | none => .error .indexOutOfBounds

/-- Reads a field of which the name may be a place, from the low `width` bits on. -/
def Table.takeLiteral (table : Table) (width : Nat) (octets : Octets) :
    Except Fault (Field × Octets) := do
  let (place, rest) ← takeNumber width octets
  let (name, rest) ← if place = 0 then takeString rest
    else do
      let field ← table.takeField place
      pure (field.name, rest)
  let (value, rest) ← takeString rest
  pure (⟨name, value⟩, rest)

/-- Reads one instruction, which begins with the octet `first`. -/
def Table.takeInstruction (table : Table) (first : UInt8) (octets : Octets) :
    Except Fault (Instruction × Octets) :=
  if 128 ≤ first.toNat then do
    let (place, rest) ← takeNumber 7 octets
    let field ← table.takeField place
    pure (.plain field, rest)
  else if 64 ≤ first.toNat then do
    let (field, rest) ← table.takeLiteral 6 octets
    pure (.added field, rest)
  else if 32 ≤ first.toNat then
    match takeInteger 5 octets with
    | .ok (capacity, rest) => .ok (.resize capacity, rest)
    | .error _ => .error .breakdown
  else do
    let (field, rest) ← table.takeLiteral 4 octets
    pure (.plain field, rest)

def Table.afterInstruction (table : Table) : Instruction → Table
  | .plain _ => table
  | .added field => table.add field
  | .resize capacity => table.resize capacity

def Instruction.field? : Instruction → Option Field
  | .plain field | .added field => some field
  | .resize _ => none

/-- Reads instructions to the end, with fuel for each octet, and returns the table as it was left
together with the fields or the fault. -/
def decodeFrom : (fuel : Nat) → Table → Octets → Except Fault (List Field) × Table
  | 0, table, _ => (.ok [], table)
  | _, table, [] => (.ok [], table)
  | fuel + 1, table, first :: rest =>
    match table.takeInstruction first (first :: rest) with
    | .error fault => (.error fault, table)
    | .ok (instruction, rest) =>
      let (fields, table) := decodeFrom fuel (table.afterInstruction instruction) rest
      (fields.map (instruction.field?.toList ++ ·), table)

def decode (table : Table) (block : Octets) : Except Fault (List Field) × Table :=
  decodeFrom block.length table block

end TelemetryStreams.Hpack
