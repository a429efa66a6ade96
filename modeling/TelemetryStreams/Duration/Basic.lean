/-!
# Durations

A duration is a count of whole seconds in 64 bits and of nanoseconds below one second. Its debug
text uses the largest of the units `s`, `ms`, `µs` and `ns` that leaves a whole part, followed by
the fraction without zeros at its end.
-/
namespace TelemetryStreams

/-- A length of time, exact to the nanosecond. -/
structure Duration where
  seconds : UInt64
  nanoseconds : Fin 1000000000
  deriving DecidableEq, Repr

namespace Duration

/-- A number of seconds and of nanoseconds, each of them cut to its range. -/
def ofParts (seconds nanoseconds : Nat) : Duration :=
  ⟨UInt64.ofNat seconds, Fin.ofNat 1000000000 nanoseconds⟩

def zero : Duration := ofParts 0 0

def ofMillis (ms : Nat) : Duration := ofParts (ms / 1000) (ms % 1000 * 1000000)

def toNanos (d : Duration) : Nat := d.seconds.toNat * 1000000000 + d.nanoseconds.val

/-- The digits of a fraction, of which the first weighs `weight`, without zeros at its end. -/
def fraction : (places weight n : Nat) → List Char
  | 0, _, _ => []
  | places + 1, weight, n =>
    if n = 0 then []
    else (toString (n / weight)).toList ++ fraction places (weight / 10) (n % weight)

/-- A whole part and a fraction of which the first digit weighs `weight`. -/
def decimal (whole rest places weight : Nat) : String :=
  toString whole ++
    (if rest = 0 then "" else "." ++ String.ofList (fraction places weight rest))

def debugText (d : Duration) : String :=
  let n := d.nanoseconds.val
  if d.seconds ≠ 0 then decimal d.seconds.toNat n 9 100000000 ++ "s"
  else if 1000000 ≤ n then decimal (n / 1000000) (n % 1000000) 6 100000 ++ "ms"
  else if 1000 ≤ n then decimal (n / 1000) (n % 1000) 3 100 ++ "µs"
  else toString n ++ "ns"

end Duration

end TelemetryStreams
