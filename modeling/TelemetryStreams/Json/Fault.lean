import TelemetryStreams.Decimal.Shortest
import TelemetryStreams.Text.Quoted

/-!
# What can be wrong with a JSON text

A JSON text is malformed, ends too early, or is well formed as far as it was read but does not fit
what was asked of it. Only the last kind has a wording of its own.
-/
namespace TelemetryStreams.Json

/-- What stands in a text where something else was expected. -/
inductive Found where
  | null
  | boolean (value : Bool)
  | integer (value : Int)
  | double (bits : UInt64)
  | string (text : String)
  | sequence
  | map
  deriving DecidableEq, Repr

/-- A value that does not fit. -/
inductive Mismatch where
  | wrongType (found : Found) (expected : String)
  | wrongValue (found : Found) (expected : String)
  | unknownField (name : String) (known : List String)
  | duplicateField (name : String)
  | unknownVariant (name : String) (known : List String)
  deriving DecidableEq, Repr

/-- Why a text cannot be read. -/
inductive Fault where
  /-- A character that no JSON text has there, or a number out of range. -/
  | malformed
  /-- The text ends before the value does. -/
  | truncated
  | mismatch (what : Mismatch)
  /-- A duration whose last carry does not fit; no answer can be given. -/
  | overflow
  deriving DecidableEq, Repr

def Found.describe : Found → String
  | .null => "null"
  | .boolean value => "boolean `" ++ (if value then "true" else "false") ++ "`"
  | .integer value => "integer `" ++ toString value ++ "`"
  | .double bits => "floating point `" ++ Decimal.text bits ++ "`"
  | .string text => "string " ++ Text.quoted text
  | .sequence => "sequence"
  | .map => "map"

/-- Names between backticks, joined for a list of choices. -/
def choices : List String → String
  | [a] => "`" ++ a ++ "`"
  | [a, b] => "`" ++ a ++ "` or `" ++ b ++ "`"
  | names => "one of " ++ ", ".intercalate (names.map fun a => "`" ++ a ++ "`")

def Mismatch.message : Mismatch → String
  | .wrongType found expected => "invalid type: " ++ found.describe ++ ", expected " ++ expected
  | .wrongValue found expected => "invalid value: " ++ found.describe ++ ", expected " ++ expected
  | .unknownField name known => "unknown field `" ++ name ++ "`, expected " ++ choices known
  | .duplicateField name => "duplicate field `" ++ name ++ "`"
  | .unknownVariant name known => "unknown variant `" ++ name ++ "`, expected " ++ choices known

end TelemetryStreams.Json
