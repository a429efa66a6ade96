import TelemetryStreams.Text.Unprintable
import TelemetryStreams.Text.Extending

/-!
# Quoted text

A text inside an error message or a debug view stands between double quotes. The quote, the
backslash and the common controls have short escapes; characters without a shape of their own are
shown by number, as `\u{301}`; all else stands as it is.
-/
namespace TelemetryStreams.Text

def hexDigits (n : Nat) : List Char := Nat.toDigits 16 n

def isHidden (c : Char) : Bool := extending.holds c.toNat || unprintable.holds c.toNat

def escape (c : Char) : List Char :=
  if c = '"' then ['\\', '"']
  else if c = '\\' then ['\\', '\\']
  else if c = '\n' then ['\\', 'n']
  else if c = '\r' then ['\\', 'r']
  else if c = '\t' then ['\\', 't']
  else if c = '\x00' then ['\\', '0']
  else if 0x20 ≤ c.toNat ∧ c.toNat ≤ 0x7E then [c]
  else if isHidden c then ['\\', 'u', '\x7b'] ++ hexDigits c.toNat ++ ['\x7d']
  else [c]

def quoted (text : String) : String :=
  String.ofList ('"' :: text.toList.flatMap escape ++ ['"'])

end TelemetryStreams.Text
