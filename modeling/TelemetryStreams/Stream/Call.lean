import TelemetryStreams.Batch
import TelemetryStreams.Error

/-!
# Calls of the loopback endpoint

The endpoint to which the streams of this library are connected takes each call as a script says and
serves it by hand: what the peer sends waits in an inbox, and how a send goes depends on a mode. Both
directions of a call are bound to the token of its stream: once that is canceled sends fail, and
receiving fails as soon as the inbox is empty.
-/
namespace TelemetryStreams

/-- What arrives from the peer. -/
inductive Incoming where
  | acknowledged (ack : Acknowledgment)
  /-- The peer ended the call with a status. -/
  | failed (status : Status)
  | closed
  | brokeDown
  deriving DecidableEq, Repr

def Incoming.isLast : Incoming → Bool
  | .acknowledged _ => false
  | _ => true

/-- How sends go. -/
inductive SendMode where
  | accept
  /-- A send waits until the mode changes. -/
  | stall
  | refuse (status : Status)
  | breakDown
  deriving DecidableEq, Repr

/-- How an attempt to open a call goes. -/
inductive Opening where
  | accept
  /-- It waits until it is canceled. -/
  | stall
  | refuse (status : Status)
  deriving DecidableEq, Repr

/-- A call that was accepted. -/
structure Call where
  /-- Its number among the accepted calls. -/
  number : Nat
  mode : SendMode := .accept
  inbox : List Incoming := []
  /-- Whether the peer has ended the call. -/
  isOver : Bool := false
  deriving DecidableEq, Repr

namespace Call

def methodOf (number : Nat) : String := "/fake.ArrowService/Call" ++ toString number

/-- Puts what the peer sends into the inbox, unless the peer has ended the call. -/
def post (call : Call) (message : Incoming) : Call :=
  if call.isOver then call
  else { call with inbox := call.inbox ++ [message], isOver := message.isLast }

end Call

end TelemetryStreams
