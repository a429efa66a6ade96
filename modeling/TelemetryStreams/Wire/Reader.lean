import TelemetryStreams.Text.Utf8
import TelemetryStreams.Wire.Varint

/-!
# Reading messages off the wire

A message is read field by field into a value that starts out empty: a later field of the same tag
replaces an earlier one, a repeated one adds to it, and a field with an unknown tag is passed over.
The fields of an inner message are read from the same octets up to where it ends, so a field that
runs past that end is noticed only after it has been read.
-/
namespace TelemetryStreams.Wire

/-- How the value of a field is laid out. -/
inductive Layout where
  | varint | sixtyFourBit | lengthDelimited | startGroup | endGroup | thirtyTwoBit
  deriving DecidableEq, Repr

def Layout.ofNumber? : Nat → Option Layout
  | 0 => some .varint
  | 1 => some .sixtyFourBit
  | 2 => some .lengthDelimited
  | 3 => some .startGroup
  | 4 => some .endGroup
  | 5 => some .thirtyTwoBit
  | _ => none

def Layout.name : Layout → String
  | .varint => "Varint"
  | .sixtyFourBit => "SixtyFourBit"
  | .lengthDelimited => "LengthDelimited"
  | .startGroup => "StartGroup"
  | .endGroup => "EndGroup"
  | .thirtyTwoBit => "ThirtyTwoBit"

/-- What is wrong with some octets. -/
inductive Reason where
  | invalidVarint
  | invalidKey (value : Nat)
  | invalidLayout (number : Nat)
  | invalidTag
  | wrongLayout (found expected : Layout)
  | underflow
  | lengthExceeded
  | notUtf8
  | tooDeep
  | unexpectedEndGroup
  deriving DecidableEq, Repr

def Reason.message : Reason → String
  | .invalidVarint => "invalid varint"
  | .invalidKey value => "invalid key value: " ++ toString value
  | .invalidLayout number => "invalid wire type value: " ++ toString number
  | .invalidTag => "invalid tag value: 0"
  | .wrongLayout found expected =>
    "invalid wire type: " ++ found.name ++ " (expected " ++ expected.name ++ ")"
  | .underflow => "buffer underflow"
  | .lengthExceeded => "delimited length exceeded"
  | .notUtf8 => "invalid string value: data is not UTF-8 encoded"
  | .tooDeep => "recursion limit reached"
  | .unexpectedEndGroup => "unexpected end group tag"

/-- A reason with the fields in which it arose, innermost first: the name of the message and of the
field. -/
structure Fault where
  reason : Reason
  path : List (String × String) := []
  deriving DecidableEq, Repr

def Fault.message (fault : Fault) : String :=
  "failed to decode Protobuf message: " ++
    String.join (fault.path.map fun (message, field) => message ++ "." ++ field ++ ": ") ++
    fault.reason.message

/-- How deep groups and messages may be nested. -/
def depthLimit : Nat := 100

def takeVarint (octets : Octets) : Except Fault (Nat × Octets) :=
  match varint? octets with
  | some taken => .ok taken
  | none => .error ⟨.invalidVarint, []⟩

def takeKey (octets : Octets) : Except Fault ((Nat × Layout) × Octets) := do
  let (value, rest) ← takeVarint octets
  if UInt32.size ≤ value then throw ⟨.invalidKey value, []⟩
  else match Layout.ofNumber? (value % 8) with
    | none => throw ⟨.invalidLayout (value % 8), []⟩
    | some layout => if value / 8 = 0 then throw ⟨.invalidTag, []⟩ else pure ((value / 8, layout), rest)

def passOver (n : Nat) (octets : Octets) : Except Fault Octets :=
  if octets.length < n then .error ⟨.underflow, []⟩ else .ok (octets.drop n)

mutual

/-- Passes over a field of unknown tag, in which `depth` more groups may be nested, with fuel for each
octet. -/
def skipField : (fuel depth : Nat) → (tag : Nat) → Layout → Octets → Except Fault Octets
  | 0, _, _, _, _ => .error ⟨.tooDeep, []⟩
  | _ + 1, 0, _, _, _ => .error ⟨.tooDeep, []⟩
  | fuel + 1, depth + 1, tag, layout, octets =>
    match layout with
    | .varint => do
      let (_, rest) ← takeVarint octets
      pure rest
    | .thirtyTwoBit => passOver 4 octets
    | .sixtyFourBit => passOver 8 octets
    | .lengthDelimited => do
      let (n, rest) ← takeVarint octets
      passOver n rest
    | .startGroup => skipGroup fuel depth tag octets
    | .endGroup => .error ⟨.unexpectedEndGroup, []⟩

/-- Passes over the fields of a group up to its end. -/
def skipGroup : (fuel depth : Nat) → (tag : Nat) → Octets → Except Fault Octets
  | 0, _, _, _ => .error ⟨.tooDeep, []⟩
  | fuel + 1, depth, tag, octets => do
    let ((innerTag, layout), rest) ← takeKey octets
    match layout with
    | .endGroup => if innerTag = tag then pure rest else throw ⟨.unexpectedEndGroup, []⟩
    | _ => do
      let rest ← skipField fuel depth innerTag layout rest
      skipGroup fuel depth tag rest

end

def skipUnknown (depth tag : Nat) (layout : Layout) (octets : Octets) : Except Fault Octets :=
  skipField (2 * octets.length + 2) depth tag layout octets

def expect (expected found : Layout) : Except Fault Unit :=
  if found = expected then .ok () else .error ⟨.wrongLayout found expected, []⟩

def takeInt64 (layout : Layout) (octets : Octets) : Except Fault (Int64 × Octets) := do
  expect .varint layout
  let (n, rest) ← takeVarint octets
  pure ((UInt64.ofNat n).toInt64, rest)

/-- A signed number of 32 bits: the low half of what is written. -/
def takeInt32 (layout : Layout) (octets : Octets) : Except Fault (Int32 × Octets) := do
  let (n, rest) ← takeInt64 layout octets
  pure (n.toInt32, rest)

def takeBytes (layout : Layout) (octets : Octets) : Except Fault (Octets × Octets) := do
  expect .lengthDelimited layout
  let (n, rest) ← takeVarint octets
  if rest.length < n then throw ⟨.underflow, []⟩ else pure (rest.take n, rest.drop n)

def takeText (layout : Layout) (octets : Octets) : Except Fault (String × Octets) := do
  let (bytes, rest) ← takeBytes layout octets
  match Utf8.decode bytes with
  | .ok text => pure (text, rest)
  | .error _ => throw ⟨.notUtf8, []⟩

/-- How a field is merged into a value: by its depth, tag, layout and octets. -/
abbrev Merge (α : Type) := (depth : Nat) → α → (tag : Nat) → Layout → Octets → Except Fault (α × Octets)

/-- Merges fields until no more than `limit` octets are left, with fuel for each octet. -/
def mergeFields (merge : Merge α) (depth limit : Nat) : (fuel : Nat) → α → Octets → Except Fault (α × Octets)
  | 0, value, octets => .ok (value, octets)
  | fuel + 1, value, octets =>
    if octets.length ≤ limit then .ok (value, octets)
    else do
      let ((tag, layout), rest) ← takeKey octets
      let (value, rest) ← merge depth value tag layout rest
      mergeFields merge depth limit fuel value rest

/-- A message inside another one, read into an empty value. -/
def takeMessage (merge : Merge α) (empty : α) (depth : Nat) (layout : Layout) (octets : Octets) :
    Except Fault (α × Octets) := do
  expect .lengthDelimited layout
  match depth with
  | 0 => throw ⟨.tooDeep, []⟩
  | depth + 1 =>
    let (n, rest) ← takeVarint octets
    if rest.length < n then throw ⟨.underflow, []⟩
    else
      let limit := rest.length - n
      let (value, rest) ← mergeFields merge depth limit rest.length empty rest
      if rest.length = limit then pure (value, rest) else throw ⟨.lengthExceeded, []⟩

def decode (merge : Merge α) (empty : α) (octets : Octets) : Except Fault α := do
  let (value, _) ← mergeFields merge depthLimit 0 octets.length empty octets
  pure value

/-- Names the field in which a fault arose. -/
def within (message field : String) (taken : Except Fault (α × Octets)) :
    Except Fault (α × Octets) :=
  match taken with
  | .ok value => .ok value
  | .error fault => .error { fault with path := fault.path ++ [(message, field)] }

end TelemetryStreams.Wire
