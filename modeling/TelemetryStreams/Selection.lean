import TelemetryStreams.Context
import TelemetryStreams.Prioritizer
import TelemetryStreams.Schedule

/-!
# Callers of the prioritizer

Callers ask the prioritizer for a stream and wait until one is handed to them, until it has none any
more, or until their contexts end. A caller first looks when it is its turn to run. Each operation of
the prioritizer and each look of a caller is one step, and the steps may come in any order.
-/
namespace TelemetryStreams

/-- How far a caller has come. -/
inductive Seeking where
  | arriving
  | waiting
  /-- A stream or none, or the reason for which the context ended. -/
  | done (result : Except Error (Option Nat))
  deriving DecidableEq, Repr

/-- A caller of the prioritizer. -/
structure Seeker where
  deadline : Option Nat
  canceled : Bool
  phase : Seeking := .arriving
  deriving DecidableEq, Repr

/-- The prioritizer and its callers. -/
structure Selection where
  now : Nat := 0
  prioritizer : Prioritizer := {}
  seekers : List Seeker := []
  deriving DecidableEq, Repr

namespace Selection

/-- What can happen. -/
inductive Action where
  | setReady (stream : Nat)
  | removeReady (stream : Nat)
  | downgrade
  | arrive (spec : CallerSpec)
  | cancel (caller : Nat)
  | advance (time : Nat)
  /-- A caller looks for the first time. -/
  | look (caller : Nat)
  | lookAgain (caller : Nat)
  /-- A waiting caller sees that there are no streams any more. -/
  | dismiss (caller : Nat)
  /-- A waiting caller sees that its context has ended. -/
  | giveUp (caller : Nat) (late : Bool)
  deriving DecidableEq, Repr

/-- Where a caller stands after it has looked. -/
def ofFind : Find → Seeking
  | .stream stream => .done (.ok (some stream))
  | .downgraded => .done (.ok none)
  | .nothing => .waiting

def found (s : Selection) (caller : Nat) (look : Find × Prioritizer) : Selection :=
  { s with
    prioritizer := look.2
    seekers := s.seekers.modify caller fun c => { c with phase := ofFind look.1 } }

/-- The state after a caller has left with a result. -/
def left (s : Selection) (caller : Nat) (result : Except Error (Option Nat)) : Selection :=
  { s with
    prioritizer := s.prioritizer.leave caller
    seekers := s.seekers.modify caller fun c => { c with phase := .done result } }

def perform (s : Selection) : Action → Option Selection
  | .setReady stream => some { s with prioritizer := s.prioritizer.setReady stream }
  | .removeReady stream => some { s with prioritizer := s.prioritizer.removeReady stream }
  | .downgrade => some { s with prioritizer := s.prioritizer.downgrade }
  | .arrive spec =>
    some { s with
      seekers := s.seekers ++
        [{ deadline := spec.timeout.map (s.now + ·), canceled := spec.canceled }] }
  | .cancel caller => do
    let _ ← s.seekers[caller]?
    pure { s with seekers := s.seekers.modify caller fun c => { c with canceled := true } }
  | .advance time => some { s with now := s.now + time }
  | .look caller => do
    let seeker ← s.seekers[caller]?
    if seeker.phase = .arriving then s.found caller (s.prioritizer.look caller) else none
  | .lookAgain caller => do
    let seeker ← s.seekers[caller]?
    if seeker.phase = .waiting ∧ caller ∈ s.prioritizer.notified then
      s.found caller (s.prioritizer.lookAgain caller)
    else none
  | .dismiss caller => do
    let seeker ← s.seekers[caller]?
    if seeker.phase = .waiting ∧ s.prioritizer.downgraded then s.left caller (.ok none) else none
  | .giveUp caller late => do
    let seeker ← s.seekers[caller]?
    let reason ← wakeReason s.now seeker.canceled late seeker.deadline
    if seeker.phase = .waiting then s.left caller (.error reason) else none

def system : System Selection Nat Action where
  parties s := List.range s.seekers.length
  moves _ caller :=
    [.look caller, .lookAgain caller, .dismiss caller, .giveUp caller false, .giveUp caller true]
  perform := perform

/-- Performs actions one after the other, with the parties that can move joining the queue, and says
whether all were possible. -/
def act : List Action → Selection × List Nat × Bool → Selection × List Nat × Bool
  | [], s => s
  | action :: actions, (s, queue, fine) =>
    match s.perform action with
    | none => act actions (s, queue, false)
    | some s => act actions (s, system.join s queue, fine)

/-- Performs actions and lets the callers run until all of them wait. -/
def step (s : Selection) (actions : List Action) : Selection × Bool :=
  let (s, queue, fine) := act actions (s, [], true)
  (system.run (8 * (s.seekers.length + 1) * (s.seekers.length + 1)) queue s, fine)

end Selection

end TelemetryStreams
