/-!
# Octets

A wire format of this library is a list of octets, so that its readers recurse on the data and its
writers are appends. Also here: the two-digit hexadecimal form in which octets are shown.
-/
namespace TelemetryStreams

abbrev Octets := List UInt8

namespace Octets

/-- The lowercase hexadecimal digit of a value below sixteen. -/
def hexDigit (n : Nat) : Char :=
  if n < 10 then Char.ofNat (n + 48) else Char.ofNat (n + 87)

def hexValue? (c : Char) : Option Nat :=
  if '0' ≤ c ∧ c ≤ '9' then some (c.toNat - 48)
  else if 'a' ≤ c ∧ c ≤ 'f' then some (c.toNat - 87)
  else if 'A' ≤ c ∧ c ≤ 'F' then some (c.toNat - 55)
  else none

def toHex (octets : Octets) : String :=
  String.ofList (octets.flatMap fun b => [hexDigit (b.toNat / 16), hexDigit (b.toNat % 16)])

/-- Reads digits in pairs. A lone or a foreign digit leaves nothing. -/
def hexPairs? : List Char → Option Octets
  | [] => some []
  | [_] => none
  | high :: low :: rest => do
    let h ← hexValue? high
    let l ← hexValue? low
    let tail ← hexPairs? rest
    pure (UInt8.ofNat (16 * h + l) :: tail)

def ofHex? (text : String) : Option Octets := hexPairs? text.toList

/-- The octets of a natural number, least significant first, in `width` octets. -/
def littleEndian : (width : Nat) → Nat → Octets
  | 0, _ => []
  | width + 1, n => UInt8.ofNat (n % 256) :: littleEndian width (n / 256)

theorem length_littleEndian (width n : Nat) : (littleEndian width n).length = width := by
  induction width generalizing n with
  | zero => rfl
  | succ width ih => simp [littleEndian, ih]

/-- An octet that is marked as not the last one of a number keeps seven bits of it. -/
theorem toNat_marked (n : Nat) : (UInt8.ofNat (n % 128 + 128)).toNat = n % 128 + 128 := by
  rw [UInt8.toNat_ofNat']
  omega

/-- A number is its lowest seven bits and the others, which weigh 128 times as much. -/
theorem mod_mul_add_div_mul (n weight : Nat) :
    n % 128 * weight + n / 128 * (weight * 128) = n * weight :=
  calc n % 128 * weight + n / 128 * (weight * 128)
      = (n % 128 + 128 * (n / 128)) * weight := by
        rw [Nat.add_mul, Nat.mul_comm 128, Nat.mul_assoc, Nat.mul_comm weight]
    _ = n * weight := by rw [Nat.mod_add_div]

end Octets

end TelemetryStreams
