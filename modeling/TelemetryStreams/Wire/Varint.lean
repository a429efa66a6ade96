import TelemetryStreams.Text.Octets

/-!
# Variable-length integers

A natural number below two to the 64th in groups of seven bits, least significant first, every
octet but the last marked by its top bit. A reader takes ten octets at most and refuses what does
not fit 64 bits.
-/
namespace TelemetryStreams.Wire

def varint (n : Nat) : Octets :=
  if n < 128 then [UInt8.ofNat n] else UInt8.ofNat (n % 128 + 128) :: varint (n / 128)
termination_by n
decreasing_by omega

def varintSize (n : Nat) : Nat := if n < 128 then 1 else 1 + varintSize (n / 128)
termination_by n
decreasing_by omega

theorem length_varint (n : Nat) : (varint n).length = varintSize n := by
  fun_induction varint n with
  | case1 n h => rw [varintSize, if_pos h]; rfl
  | case2 n h ih => rw [varintSize, if_neg h, List.length_cons, ih]; omega

/-- Reads groups, of which the next weighs `weight`, while `left` octets may follow. -/
def varintFrom? : (left weight : Nat) → Octets → Option (Nat × Octets)
  | 0, _, _ => none
  | _ + 1, _, [] => none
  | left + 1, weight, b :: rest =>
    if b.toNat < 128 then
      let n := b.toNat * weight
      if n < UInt64.size then some (n, rest) else none
    else
      match varintFrom? left (weight * 128) rest with
      | some (n, rest) => some ((b.toNat - 128) * weight + n, rest)
      | none => none

/-- The number in front of some octets, and the octets after it. -/
def varint? (octets : Octets) : Option (Nat × Octets) := varintFrom? 10 1 octets

end TelemetryStreams.Wire
