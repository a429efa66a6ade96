/-!
# Sets of characters

A property of characters is a list of code point ranges, both ends included, in increasing order.
-/
namespace TelemetryStreams

abbrev CharRanges := List (Nat × Nat)

def CharRanges.holds (ranges : CharRanges) (code : Nat) : Bool :=
  ranges.any fun range => range.1 ≤ code && code ≤ range.2

end TelemetryStreams
