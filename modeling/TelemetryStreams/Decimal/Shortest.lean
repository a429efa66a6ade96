/-!
# The shortest decimal of a double

A finite double stands for all reals that round to it, an interval around its value whose ends
belong to it when its significand is even. `shortest` looks for the fewest digits with which a
decimal lies in that interval, and of two such decimals takes the nearer. `text` writes the digits
positionally between ten to the minus fifth and ten to the sixteenth, and with a signed exponent of
at least two digits elsewhere.
-/
namespace TelemetryStreams.Decimal

/-- A positive finite double in exact terms: the value, the lower and the upper end of its interval
are `value`, `low` and `high` over `unit`. -/
structure Interval where
  value : Nat
  low : Nat
  high : Nat
  unit : Nat
  closed : Bool
  deriving Repr, DecidableEq

/-- The interval of the double with significand `m` and exponent `q`. Below a power of two the gap
is half as wide. -/
def Interval.ofParts (m : Nat) (q : Int) (lowest : Bool) : Interval :=
  let up := Nat.pow 2 q.toNat
  { value := 4 * m * up
    low := 4 * m * up - (if m = Nat.pow 2 52 ∧ !lowest then 1 else 2) * up
    high := 4 * m * up + 2 * up
    unit := 4 * Nat.pow 2 (-q).toNat
    closed := m % 2 = 0 }

def Interval.holds (i : Interval) (digits : Nat) (exponent : Int) : Bool :=
  let a := digits * Nat.pow 10 exponent.toNat * i.unit
  let b := Nat.pow 10 (-exponent).toNat
  if i.closed then i.low * b ≤ a && a ≤ i.high * b else i.low * b < a && a < i.high * b

/-- The distance of `digits * 10 ^ exponent` from the value, up to a factor that depends on the
exponent alone. -/
def Interval.distance (i : Interval) (digits : Nat) (exponent : Int) : Nat :=
  let a := digits * Nat.pow 10 exponent.toNat * i.unit
  let b := i.value * Nat.pow 10 (-exponent).toNat
  (a - b) + (b - a)

/-- The least `k` with the value below ten to the `k`th, looked for upward from `k`. -/
def Interval.magnitudeFrom (i : Interval) : (fuel : Nat) → Int → Int
  | 0, k => k
  | fuel + 1, k =>
    if i.value * Nat.pow 10 (-k).toNat < i.unit * Nat.pow 10 k.toNat then k
    else i.magnitudeFrom fuel (k + 1)

/-- The decimal with `n` digits in the interval that is nearest to the value. -/
def Interval.withDigits? (i : Interval) (k : Int) (n : Nat) : Option (Nat × Int) :=
  let e := k - n
  let below := (i.value * Nat.pow 10 (-e).toNat) / (i.unit * Nat.pow 10 e.toNat)
  match i.holds below e, i.holds (below + 1) e with
  | true, true =>
    if i.distance below e < i.distance (below + 1) e
        ∨ (i.distance below e = i.distance (below + 1) e ∧ below % 2 = 0)
    then some (below, e) else some (below + 1, e)
  | true, false => some (below, e)
  | false, true => some (below + 1, e)
  | false, false => none

/-- Drops zeros at the end of the digits. -/
def trimZeros : (fuel : Nat) → Nat → Int → Nat × Int
  | 0, d, e => (d, e)
  | fuel + 1, d, e => if d ≠ 0 ∧ d % 10 = 0 then trimZeros fuel (d / 10) (e + 1) else (d, e)

/-- The digits and the exponent of the shortest decimal of a positive finite double. -/
def shortest (m : Nat) (q : Int) (lowest : Bool) : Nat × Int :=
  let i := Interval.ofParts m q lowest
  let k := i.magnitudeFrom 700 (-330)
  match (List.range 17).findSome? fun n => i.withDigits? k (n + 1) with
  | some (d, e) => trimZeros 20 d e
  | none => (0, 0)

def twoDigits (n : Nat) : String := if n < 10 then "0" ++ toString n else toString n

/-- The digits `d`, scaled by ten to the `e`th, in the form that a reader of the message sees. -/
def layout (d : Nat) (e : Int) : String :=
  let digits := (toString d).toList
  let point : Int := digits.length + e
  let place : Int := point - 1
  if place < -5 ∨ 15 < place then
    let mantissa := match digits with
      | [] => []
      | [x] => [x]
      | x :: rest => x :: '.' :: rest
    String.ofList mantissa ++ "e" ++ (if place < 0 then "-" else "+") ++ twoDigits place.natAbs
  else if 0 ≤ e then
    String.ofList (digits ++ List.replicate e.toNat '0' ++ ['.', '0'])
  else if 0 < point then
    String.ofList (digits.take point.toNat ++ '.' :: digits.drop point.toNat)
  else
    String.ofList ('0' :: '.' :: List.replicate (-point).toNat '0' ++ digits)

/-- The text of the double with the given bits. -/
def text (bits : UInt64) : String :=
  let negative := bits.toNat / Nat.pow 2 63 = 1
  let biased : Nat := bits.toNat / Nat.pow 2 52 % 2048
  let fraction := bits.toNat % Nat.pow 2 52
  let sign := if negative then "-" else ""
  if biased = 2047 then (if fraction = 0 then sign ++ "inf" else "NaN")
  else if biased = 0 ∧ fraction = 0 then sign ++ "0.0"
  else
    let (d, e) :=
      if biased = 0 then shortest fraction (-1074) true
      else shortest (Nat.pow 2 52 + fraction) ((biased : Int) - 1075) (biased = 1)
    sign ++ layout d e

end TelemetryStreams.Decimal
