import TelemetryStreams.Text.Octets

/-!
# Prefix integers

A number starts in the low bits of an octet whose high bits say something else. If it does not fit
there, these bits are all set and the rest follows in groups of seven bits, least significant first,
every octet but the last marked by its top bit. A reader takes five octets at most.
-/
namespace TelemetryStreams.Hpack

def groups (n : Nat) : Octets :=
  if n < 128 then [UInt8.ofNat n] else UInt8.ofNat (n % 128 + 128) :: groups (n / 128)
termination_by n
decreasing_by omega

/-- A number behind the leading bits `lead` in an octet with `width` bits left. -/
def integer (lead width n : Nat) : Octets :=
  let limit := Nat.pow 2 width - 1
  if n < limit then [UInt8.ofNat (lead + n)] else UInt8.ofNat (lead + limit) :: groups (n - limit)

/-- Why a number cannot be read. -/
inductive IntegerFault where
  | tooManyOctets
  | notEnoughOctets
  deriving DecidableEq, Repr

/-- Reads groups, of which the next weighs `weight`, while `left` octets may follow. -/
def takeGroups : (left weight : Nat) → Octets → Except IntegerFault (Nat × Octets)
  | 0, _, _ => .error .tooManyOctets
  | _ + 1, _, [] => .error .notEnoughOctets
  | left + 1, weight, b :: rest =>
    if b.toNat < 128 then .ok (b.toNat * weight, rest)
    else do
      let (n, rest) ← takeGroups left (weight * 128) rest
      pure ((b.toNat - 128) * weight + n, rest)

/-- Reads a number from the low `width` bits of the first octet on. -/
def takeInteger (width : Nat) : Octets → Except IntegerFault (Nat × Octets)
  | [] => .error .notEnoughOctets
  | b :: rest =>
    let limit := Nat.pow 2 width - 1
    let low := b.toNat % Nat.pow 2 width
    if low < limit then .ok (low, rest)
    else do
      let (n, rest) ← takeGroups 4 1 rest
      pure (limit + n, rest)

end TelemetryStreams.Hpack
