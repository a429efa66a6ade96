import TelemetryStreams.Clock
import TelemetryStreams.Error
import TelemetryStreams.Telemetry

/-!
# Contexts of callers

A context bounds how long its caller waits. It ends when its token is canceled or its deadline is
reached. Clones share the token of the context that they come from. There are two ways to learn of
the end. It can be asked at any moment whether a context has ended (`Contexts.ended?`), which compares
the deadline with the clock and reports the cancellation if both have happened. Or the end can be
waited for: a watch looks when it begins, and after that only when its token is canceled or the timer
serves its deadline, which wakes it; it reports either if both have happened.

A history starts at time zero without tokens, and every operation names contexts and tokens by their
places. A token is canceled by itself only: tokens that are canceled with another one are not among
those of a history. Neither are timeouts that no clock could hold, with which whoever sets them breaks
down.
-/
namespace TelemetryStreams

/-- Why a context has ended, for one who asks: because it was canceled, or else because its deadline
has been reached. -/
def endReason (now : Nat) (canceled : Bool) (deadline : Option Nat) : Option Error :=
  if canceled then some .canceled
  else match deadline with
    | some d => if d ≤ now then some .deadlineExceeded else none
    | none => none

/-- Why a context has ended, for one who waits: because it was canceled, or because the timer has served
its deadline. Of both a look that is `late` finds the latter. -/
def wakeReason (now : Nat) (canceled late : Bool) (deadline : Option Nat) : Option Error :=
  let cancellation := if canceled then some Error.canceled else none
  let expiry := if deadline.any (Clock.servedAt · ≤ now) then some Error.deadlineExceeded else none
  if late then expiry.or cancellation else cancellation.or expiry

/-- The reasons that one who waits may find. -/
def Wakes (now : Nat) (canceled : Bool) (deadline : Option Nat) : Error → Prop
  | .canceled => canceled = true
  | .deadlineExceeded => ∃ time, deadline = some time ∧ Clock.servedAt time ≤ now
  | _ => False

section
variable {now after : Nat} {canceled canceled' late : Bool} {deadline : Option Nat} {reason : Error}

/-- Whether the timer has served a deadline, as a proposition. To compute it with an unknown time takes a
step for each nanosecond of a tick, so that proofs rewrite with this and leave the test closed. -/
theorem any_served_iff : deadline.any (Clock.servedAt · ≤ now) = true ↔
    ∃ time, deadline = some time ∧ Clock.servedAt time ≤ now := by
  simp [Option.any_eq_true]

theorem wakes_of_wakeReason (found : wakeReason now canceled late deadline = some reason) :
    Wakes now canceled deadline reason := by
  unfold wakeReason at found
  cases canceled <;> cases late <;> cases served : deadline.any (Clock.servedAt · ≤ now) <;>
    simp [served] at found <;> subst found
  all_goals first | rfl | exact any_served_iff.mp served

/-- Whoever waits finds a reason if there is one. -/
theorem wakeReason_eq_none_iff :
    wakeReason now canceled late deadline = none ↔ ∀ reason, ¬ Wakes now canceled deadline reason := by
  constructor
  · intro nothing reason wakes
    unfold wakeReason at nothing
    cases reason with
    | canceled =>
      obtain rfl : canceled = true := wakes
      cases late <;> simp at nothing
    | deadlineExceeded =>
      have served := any_served_iff.mpr wakes
      cases late <;> cases canceled <;> simp [served] at nothing
    | _ => exact wakes
  · intro none
    refine Option.eq_none_iff_forall_ne_some.mpr fun reason found => ?_
    exact none reason (wakes_of_wakeReason found)

theorem Wakes.later (wakes : Wakes now canceled deadline reason) (order : now ≤ after)
    (stays : canceled = true → canceled' = true) : Wakes after canceled' deadline reason := by
  cases reason with
  | canceled => exact stays wakes
  | deadlineExceeded =>
    obtain ⟨time, isDeadline, served⟩ := wakes
    exact ⟨time, isDeadline, Nat.le_trans served order⟩
  | _ => exact wakes

end

/-- The earlier of two deadlines, of which either may be missing. -/
def earlier : Option Nat → Nat → Nat
  | some a, b => min a b
  | none, b => b

/-- The context of a caller. -/
structure Context where
  token : Nat
  deadline : Option Nat := none
  /-- The span to which what the caller causes belongs. -/
  parent : Option SpanContext := none
  metadata : Metadata := []
  deriving DecidableEq, Repr

/-- A change that derives a context from another one. -/
inductive Change where
  | deadline (time : Nat)
  | timeout (after : Nat)
  /-- Is canceled by another token, and no longer by its own. -/
  | link (token : Nat)
  | parent (parent : Option SpanContext)
  | metadata (metadata : Metadata)
  deriving DecidableEq, Repr

def Context.derive (now : Nat) (context : Context) : Change → Context
  | .deadline d => { context with deadline := some (earlier context.deadline d) }
  | .timeout after => { context with deadline := some (earlier context.deadline (now + after)) }
  | .link token => { context with token := token }
  | .parent parent => { context with parent := parent }
  | .metadata metadata => { context with metadata := metadata }

/-- Waits for the end of a context. -/
structure Watch where
  token : Nat
  deadline : Option Nat
  /-- Whether it is about to look. -/
  woken : Bool := true
  /-- What it has reported. -/
  released : Option Error := none
  deriving DecidableEq, Repr

namespace Watch

/-- Looks, if it is about to. What it has reported stays. -/
def look (watch : Watch) (now : Nat) (canceled late : Bool) : Watch :=
  if watch.woken then
    { watch with
      woken := false
      released := watch.released.or (wakeReason now canceled late watch.deadline) }
  else watch

end Watch

/-- What a caller asks for when its context is made. -/
structure CallerSpec where
  timeout : Option Nat := none
  metadata : Metadata := []
  parent : Option SpanContext := none
  /-- Whether it is canceled before it is used. -/
  canceled : Bool := false
  deriving DecidableEq, Repr

/-- All contexts and tokens. -/
structure Contexts where
  now : Nat := 0
  /-- Whether each token has been canceled. -/
  tokens : List Bool := []
  /-- The places of the tokens that belong to no context. -/
  shared : List Nat := []
  contexts : List Context := []
  watches : List Watch := []
  deriving DecidableEq, Repr

namespace Contexts

def isCanceled (s : Contexts) (token : Nat) : Bool := s.tokens[token]?.getD false

/-- Why a context has ended, if it has. -/
def endOf (s : Contexts) (context : Context) : Option Error :=
  endReason s.now (s.isCanceled context.token) context.deadline

/-- Why the context at a place has ended, if it has. -/
def ended? (s : Contexts) (place : Nat) : Option Error := (s.contexts[place]?).bind s.endOf

/-- Wakes the watches that fit. -/
def wake (s : Contexts) (fits : Watch → Bool) : Contexts :=
  { s with watches := s.watches.map fun w => if fits w then { w with woken := true } else w }

/-- Cancels a token, which wakes the watches on it. -/
def cancelToken (s : Contexts) (token : Nat) : Contexts :=
  { s with tokens := s.tokens.set token true }.wake (·.token = token)

/-- Lets time pass, which wakes the watches whose deadlines the timer serves. -/
def advance (s : Contexts) (time : Nat) : Contexts :=
  { s with now := s.now + time }.wake fun w => w.deadline.any (Clock.servedAt · ≤ s.now + time)

/-- Everybody who is about to look does so. The watches at the places in `late` look at their deadlines
first, all others at their tokens. -/
def look (s : Contexts) (late : List Nat) : Contexts :=
  { s with watches := s.watches.mapIdx fun place w =>
      w.look s.now (s.isCanceled w.token) (late.contains place) }

/-- Whether nobody is about to look. -/
def isSettled (s : Contexts) : Bool := s.watches.all fun w => !w.woken

/-- Makes a context with a token of its own. -/
def create (s : Contexts) (spec : CallerSpec) : Contexts :=
  { s with
    tokens := s.tokens ++ [spec.canceled]
    contexts := s.contexts ++
      [{ token := s.tokens.length
         deadline := spec.timeout.map (s.now + ·)
         parent := spec.parent
         metadata := spec.metadata }] }

/-- Makes a token that belongs to no context. -/
def share (s : Contexts) : Contexts :=
  { s with tokens := s.tokens ++ [false], shared := s.shared ++ [s.tokens.length] }

/-- Whether a change names nothing that does not exist: contexts are linked to shared tokens. -/
def admits (s : Contexts) : Change → Bool
  | .link token => s.shared.contains token
  | _ => true

/-- An operation on contexts. -/
inductive Action where
  | create (spec : CallerSpec)
  | clone (context : Nat)
  | share
  /-- Puts a context that is derived from it in the place of a context. -/
  | change (context : Nat) (change : Change)
  | cancel (context : Nat)
  /-- Cancels the shared token at a place among the shared ones. -/
  | cancelShared (shared : Nat)
  | advance (time : Nat)
  | watch (context : Nat)
  | look (late : List Nat)
  deriving DecidableEq, Repr

def step (s : Contexts) : Action → Option Contexts
  | .create spec => some (s.create spec)
  | .clone place => do
    let context ← s.contexts[place]?
    pure { s with contexts := s.contexts ++ [context] }
  | .share => some s.share
  | .change place change => do
    let context ← s.contexts[place]?
    if s.admits change then
      pure { s with contexts := s.contexts.set place (context.derive s.now change) }
    else none
  | .cancel place => do
    let context ← s.contexts[place]?
    pure (s.cancelToken context.token)
  | .cancelShared place => do
    let token ← s.shared[place]?
    pure (s.cancelToken token)
  | .advance time => some (s.advance time)
  | .watch place => do
    let context ← s.contexts[place]?
    let watch : Watch := { token := context.token, deadline := context.deadline }
    pure { s with watches := s.watches ++ [watch] }
  | .look late => some (s.look late)

/-- Performs an operation, after which everybody looks who is about to. -/
def perform (s : Contexts) (action : Action) : Option Contexts :=
  (s.step action).map fun after => after.look []

end Contexts

end TelemetryStreams
