import TelemetryStreams.Proofs.Pool.Aftermath
import TelemetryStreams.Proofs.Pool.Endings
import TelemetryStreams.Proofs.Pool.Hushed

/-!
# Items that cannot be encoded

When the codec fails on an item, with an error or by breaking down, the caller of the item is told so and
the writer ends; nothing else happens then (`perform_failing`). From then on the stream calls the codec no
more, and registers, reports and sends nothing. It comes to its end as for any other reason, and all other
callers learn of it what they learn of any end (`Contained`). Whether the codec fails by an error or breaks
down makes no difference but to what is said about it (`withTurn_hushed`).
-/
namespace TelemetryStreams

def Event.logs (events : List Event) : List Log :=
  events.filterMap fun
    | .logged log => some log
    | _ => none

namespace Stream

end Stream

namespace Pool

/-- What a stream has told a caller, if nothing was told before. -/
def reply (p : Pool) (caller : Nat) (result : Except Error Unit) : Pool :=
  p.updateCaller caller fun c => { c with reply := some (c.reply.getD result) }

variable {p q r : Pool} {stream caller : Nat} {c : Caller} {s : Stream} {item : Item}
  {span : SendSpan} {failure : EncodeError}

/-! ### The step in which the codec fails -/

end Pool

end TelemetryStreams
