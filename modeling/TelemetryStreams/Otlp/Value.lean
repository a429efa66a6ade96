import TelemetryStreams.Wire.Message

/-!
# Attributes, resources and scopes

The parts that every signal shares: a value of any kind, attributes, the resource that a signal comes
from and the instrumentation scope that recorded it. A value whose kind is set is written even if it
holds nothing.
-/
namespace TelemetryStreams.Otlp

mutual

/-- A value of any kind. -/
inductive Value where
  | unset
  | text (text : String)
  | truth (value : Bool)
  | integer (value : Int64)
  | double (bits : UInt64)
  | list (elements : List Value)
  | map (entries : List Attribute)
  | octets (octets : Octets)

/-- A value under a key; the value may be missing. -/
inductive Attribute where
  | entry (key : String) (value : Option Value)

end

instance : Inhabited Value := ⟨.unset⟩

mutual

def Value.fields : Value → Wire.Message
  | .unset => []
  | .text text => [.octets 1 (Utf8.encode text)]
  | .truth value => [.varint 2 value.toNat]
  | .integer value => [.varint 3 value.toUInt64.toNat]
  | .double bits => [.fixed64 4 bits]
  | .list elements => [.message 5 (elementFields elements)]
  | .map entries => [.message 6 (attributeFields 1 entries)]
  | .octets octets => [.octets 7 octets]

def elementFields : List Value → Wire.Message
  | [] => []
  | value :: values => .message 1 value.fields :: elementFields values

def Attribute.fields : Attribute → Wire.Message
  | .entry key none => Wire.text 1 key
  | .entry key (some value) => Wire.text 1 key ++ [.message 2 value.fields]

def attributeFields (tag : Nat) : List Attribute → Wire.Message
  | [] => []
  | entry :: entries => .message tag entry.fields :: attributeFields tag entries

end

/-- What a signal comes from. -/
structure Resource where
  attributes : List Attribute := []
  dropped : UInt32 := 0

def Resource.fields (resource : Resource) : Wire.Message :=
  attributeFields 1 resource.attributes ++ Wire.number 2 resource.dropped.toNat

/-- What recorded a signal. -/
structure Scope where
  name : String := ""
  version : String := ""
  attributes : List Attribute := []
  dropped : UInt32 := 0

def Scope.fields (scope : Scope) : Wire.Message :=
  Wire.text 1 scope.name ++ Wire.text 2 scope.version ++ attributeFields 3 scope.attributes ++
    Wire.number 4 scope.dropped.toNat

/-- What one scope recorded. -/
structure Scoped (α : Type) where
  scope : Option Scope := none
  items : List α := []
  schemaUrl : String := ""

def Scoped.fields (item : α → Wire.Message) (part : Scoped α) : Wire.Message :=
  Wire.optional 1 part.scope Scope.fields ++ Wire.messages 2 part.items item ++
    Wire.text 3 part.schemaUrl

/-- What comes from one resource. -/
structure Group (α : Type) where
  resource : Option Resource := none
  scopes : List (Scoped α) := []
  schemaUrl : String := ""

def Group.fields (item : α → Wire.Message) (group : Group α) : Wire.Message :=
  Wire.optional 1 group.resource Resource.fields ++
    Wire.messages 2 group.scopes (Scoped.fields item) ++ Wire.text 3 group.schemaUrl

/-- The fields of an export request: one group for each resource. -/
def requestFields (item : α → Wire.Message) (groups : List (Group α)) : Wire.Message :=
  Wire.messages 1 groups (Group.fields item)

end TelemetryStreams.Otlp
