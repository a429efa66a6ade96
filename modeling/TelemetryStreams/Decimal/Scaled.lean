/-!
# Doubles from a significand and a power of ten

The double of `significand * 10 ^ exponent`, by one multiplication or division with a power of ten
after the significand has been rounded. Powers below the range are taken in steps. A value that
would become infinite has no double.
-/
namespace TelemetryStreams.Decimal

def powerOfTen (n : Nat) : Float := Float.ofScientific 1 false n

/-- Scales by a power of ten, in steps of 308 below the range. After three steps nothing is left of
any significand, so a fuel of four is enough. -/
def scale? : (fuel : Nat) → Float → Int → Option Float
  | 0, f, _ => some f
  | fuel + 1, f, exponent =>
    if exponent.natAbs ≤ 308 then
      if 0 ≤ exponent then
        let scaled := f * powerOfTen exponent.toNat
        if scaled.isInf then none else some scaled
      else some (f / powerOfTen exponent.natAbs)
    else if f == 0 then some f
    else if 0 ≤ exponent then none
    else scale? fuel (f / powerOfTen 308) (exponent + 308)

/-- The bits of the double of a signed decimal, unless it is out of range. -/
def doubleBits? (negative : Bool) (significand : UInt64) (exponent : Int) : Option UInt64 :=
  (scale? 4 significand.toFloat exponent).map fun f => (if negative then -f else f).toBits

end TelemetryStreams.Decimal
