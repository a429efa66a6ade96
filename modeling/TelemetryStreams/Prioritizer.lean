/-!
# The prioritizer

Streams that wait for a batch stand in a queue without duplicates, and callers take them from the
front. A caller that finds no stream waits to be notified; each stream that becomes ready notifies
one caller, the one that has waited longest, or leaves a permit for the next caller to come. A caller
that was notified looks again, and may find that another one was faster. If it leaves without having
looked, it hands its notification on. Once downgraded, the prioritizer has no streams any more.

Streams and callers are named by numbers.
-/
namespace TelemetryStreams

/-- The streams that are ready and the callers that wait for one. -/
structure Prioritizer where
  /-- The streams that are ready, the oldest first. -/
  ready : List Nat := []
  downgraded : Bool := false
  /-- A notification that no caller was there to take. -/
  permit : Bool := false
  /-- The callers that wait, first come first. -/
  waiting : List Nat := []
  /-- The callers that were notified and have not looked again. -/
  notified : List Nat := []
  deriving DecidableEq, Repr

/-- What a caller finds. -/
inductive Find where
  | stream (stream : Nat)
  | downgraded
  /-- Nothing; it waits now. -/
  | nothing
  deriving DecidableEq, Repr

namespace Prioritizer

/-- Notifies the caller that has waited longest, or leaves a permit. -/
def notifyOne (p : Prioritizer) : Prioritizer :=
  match p.waiting with
  | [] => { p with permit := true }
  | caller :: waiting => { p with waiting := waiting, notified := p.notified ++ [caller] }

/-- Makes a stream ready, unless it is ready or there are no streams any more. -/
def setReady (p : Prioritizer) (stream : Nat) : Prioritizer :=
  if p.downgraded ∨ stream ∈ p.ready then p
  else notifyOne { p with ready := p.ready ++ [stream] }

def removeReady (p : Prioritizer) (stream : Nat) : Prioritizer :=
  { p with ready := p.ready.filter (· ≠ stream) }

def downgrade (p : Prioritizer) : Prioritizer := { p with downgraded := true, ready := [] }

/-- A caller looks for a stream, and uses up the permit. If there is none it waits behind the others. -/
def look (p : Prioritizer) (caller : Nat) : Find × Prioritizer :=
  match p.ready with
  | stream :: ready => (.stream stream, { p with ready := ready, permit := false })
  | [] =>
    if p.downgraded then (.downgraded, { p with permit := false })
    else (.nothing, { p with permit := false, waiting := p.waiting ++ [caller] })

def lookAgain (p : Prioritizer) (caller : Nat) : Find × Prioritizer :=
  look { p with notified := p.notified.erase caller } caller

/-- A caller leaves, and hands on a notification that it has not used. -/
def leave (p : Prioritizer) (caller : Nat) : Prioritizer :=
  if caller ∈ p.notified then notifyOne { p with notified := p.notified.erase caller }
  else { p with waiting := p.waiting.erase caller }

/-- A caller looks once and does not wait. -/
def glance (p : Prioritizer) (caller : Nat) : Find × Prioritizer :=
  match p.look caller with
  | (.nothing, p) => (.nothing, p.leave caller)
  | found => found

end Prioritizer

end TelemetryStreams
