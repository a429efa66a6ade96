import TelemetryStreams.Pool.Basic

/-!
# Steps of a pool

`Pool.perform` makes one step if it is possible. A caller fetches its credentials, finds or is given
a stream, hands over its item and waits for the result; at each point it says what it looks at first
when several things have happened. A caller that took a stream hands its item over even if its
context has ended, since the writer waits for exactly that item. The share of the pool that is held for
a caller is let go some time after the caller is done.
-/
namespace TelemetryStreams.Pool

/-- What can happen. -/
inductive Action where
  | stream (stream : Nat) (move : Move)
  /-- A stream is told to run. -/
  | run (stream : Nat)
  /-- A caller comes; it may have chosen a stream. -/
  | arrive (spec : CallerSpec) (records : Records) (target : Option Nat)
  | cancelCaller (caller : Nat)
  | advance (time : Nat)
  /-- The peer of a call sends something. -/
  | deliver (call : Nat) (message : Incoming)
  /-- Sends on a call go another way. -/
  | setMode (call : Nat) (mode : SendMode)
  | cancel
  /-- Somebody takes a stream and does nothing with it. -/
  | glance
  /-- A caller asks for its credentials. -/
  | enter (caller : Nat)
  | fetched (caller : Nat)
  /-- A caller hands over its item. If its context has ended for two reasons, `late` says which one it
  sees, here and below. -/
  | submit (caller : Nat) (late : Bool)
  /-- A caller that waits for room looks where it stands. -/
  | recheck (caller : Nat) (late : Bool)
  /-- A caller looks for a stream. -/
  | look (caller : Nat)
  | lookAgain (caller : Nat)
  /-- A caller learns that the pool is shut down. -/
  | release (caller : Nat)
  /-- A caller learns that the pool is downgraded. -/
  | dismiss (caller : Nat)
  /-- A caller that waits for a stream sees that its context has ended. -/
  | giveUp (caller : Nat) (late : Bool)
  | collect (caller : Nat) (late : Bool)
  /-- The share of a caller that is done is let go. -/
  | dropShare (caller : Nat)
  | proceed (controller : Nat)
  | askShutdown
  /-- A shutdown cancels the streams and takes the controllers. -/
  | beginShutdown (shutdown : Nat)
  /-- All controllers that a shutdown waits for have exited. -/
  | endShutdown (shutdown : Nat)
  /-- Whoever made a shutdown goes away before its end. -/
  | dropShutdown (shutdown : Nat)
  /-- The owner lets go of the pool. -/
  | letGo

/-! ### Letting go -/

def cancel (p : Pool) : Pool :=
  { p with canceled := true, streams := p.streams.map fun s => { s with parentCanceled := true } }

/-- Whether nobody holds the pool any more: neither its owner nor a caller nor a shutdown. -/
def isAbandoned (p : Pool) : Bool :=
  !p.held && p.callers.all (fun c => !c.holds) && p.shutdowns.all Shutdown.isOver

/-- Asks all streams to end if nobody holds the pool any more. -/
def endIfAbandoned (p : Pool) : Pool := if p.isAbandoned then p.cancel else p

/-! ### Callers -/

def finish (p : Pool) (caller : Nat) (result : Except Error Bool) : Pool :=
  p.setPhase caller (.done result)

def dropShare (p : Pool) (caller : Nat) : Option Pool := do
  let c ← p.callers[caller]?
  if c.isDone && c.holds then
    (p.updateCaller caller fun c => { c with holds := false }).endIfAbandoned
  else none

def afterCredentials (p : Pool) (caller : Nat) (target : Option Nat) (metadata : Option Metadata) :
    Pool :=
  p.setPhase caller (match target with
    | some stream => .submitting stream true metadata
    | none => .choosing metadata)

/-- A caller begins. Without a stream of its own choice it first makes sure that its context is
live. -/
def beginCaller (p : Pool) (caller : Nat) : Option Pool := do
  let c ← p.callers[caller]?
  match c.phase with
  | .arriving =>
    match c.target, c.ended? p.now with
    | none, some reason => p.finish caller (.error reason)
    | _, _ =>
      match p.setup.credentials with
      | none => p.afterCredentials caller c.target none
      | some credentials => p.setPhase caller (.fetching (p.now + (credentials.fetch caller).delay))
  | _ => none

def fetched (p : Pool) (caller : Nat) : Option Pool := do
  let c ← p.callers[caller]?
  let credentials ← p.setup.credentials
  match c.phase with
  | .fetching ready =>
    if ready ≤ p.now then
      match credentials.metadata caller c.metadata with
      | .error error => p.finish caller (.error error)
      | .ok metadata => p.afterCredentials caller c.target (some metadata)
    else none
  | _ => none

def itemOf (p : Pool) (caller : Nat) (c : Caller) (metadata : Option Metadata) : Item :=
  { ticket := caller, records := c.records, metadata := metadata, parent := c.parent
    size := if p.setup.telemetry.detailed then c.records.size else 0 }

/-- Hands over an item: a caller with a stream of its own choice looks at its context first, and every
caller looks whether the stream has finished. -/
def submit (p : Pool) (caller : Nat) (late : Bool) : Option Pool := do
  let c ← p.callers[caller]?
  match c.phase with
  | .submitting stream bound metadata =>
    let s ← p.streams[stream]?
    match (if bound then c.sees p.now late else none), s.cause with
    | some reason, _ => p.finish caller (.error reason)
    | none, some cause => p.finish caller (.error cause)
    | none, none =>
      let p' ← p.onStream stream (.submit (p.itemOf caller c metadata))
      pure (p'.setPhase caller (if s.queue = [] then .awaiting stream else .queued stream bound))
  | _ => none

/-- A caller that waits for room looks at the same things again; if neither has happened its item may
have moved into the queue. -/
def recheck (p : Pool) (caller : Nat) (late : Bool) : Option Pool := do
  let c ← p.callers[caller]?
  match c.phase with
  | .queued stream bound =>
    let s ← p.streams[stream]?
    let leaves (error : Error) : Option Pool := do
      let p ← p.onStream stream (.leave caller)
      pure (p.finish caller (.error error))
    match (if bound then c.sees p.now late else none), s.cause with
    | some reason, _ => leaves reason
    | none, some cause => leaves cause
    | none, none =>
      if s.senders.any (·.ticket = caller) then none else p.setPhase caller (.awaiting stream)
  | _ => none

/-- Where a caller stands after it has looked for a stream. -/
def found (p : Pool) (caller : Nat) (metadata : Option Metadata) (look : Find × Prioritizer) : Pool :=
  let p := { p with prioritizer := look.2 }
  match look.1 with
  | .stream stream => p.setPhase caller (.submitting stream false metadata)
  | .downgraded => p.finish caller (.ok false)
  | .nothing => p.setPhase caller (.seeking metadata)

def leaves (p : Pool) (caller : Nat) (result : Except Error Bool) : Pool :=
  { p with prioritizer := p.prioritizer.leave caller }.finish caller result

/-- A caller takes its result. A reply comes before the end of its context, and that before the end of
the stream. -/
def collect (p : Pool) (caller : Nat) (late : Bool) : Option Pool := do
  let c ← p.callers[caller]?
  match c.phase with
  | .awaiting stream =>
    let s ← p.streams[stream]?
    match c.reply, c.sees p.now late, s.cause with
    | some (.ok _), _, _ => p.finish caller (.ok true)
    | some (.error error), _, _ => p.finish caller (.error error)
    | none, some reason, _ => p.finish caller (.error reason)
    | none, none, some cause => p.finish caller (.error cause)
    | none, none, none => none
  | _ => none

/-! ### Controllers -/

def setController (p : Pool) (controller : Nat) (phase : ControllerPhase) : Pool :=
  { p with controllers := p.controllers.set controller phase }

def startStream (p : Pool) (controller : Nat) : Pool :=
  { p with streams := p.streams ++ [{ p.newStream with run := .starting }] }.setController controller
    (.running p.streams.length)

/-- A controller gives up, and the last one to do so downgrades the pool. -/
def giveUp (p : Pool) (controller : Nat) : Pool :=
  let p := { p with active := p.active - 1 }.setController controller .gaveUp
  if p.active = 0 then
    { p with prioritizer := p.prioritizer.downgrade, logs := p.logs ++ [.downgrading] }
  else p

/-- A controller goes on: until the end is asked for it replaces a stream that was established. -/
def proceed (p : Pool) (controller : Nat) : Option Pool := do
  match ← p.controllers[controller]? with
  | .starting => if p.canceled then p.setController controller .stopped else p.startStream controller
  | .running stream =>
    let s ← p.streams[stream]?
    match s.run with
    | .done =>
      if s.established then p.setController controller .starting
      else if p.canceled then p.setController controller .stopped
      else p.giveUp controller
    | .brokeDown => p.setController controller .brokeDown
    | _ => none
  | _ => none

/-! ### The end -/

/-- The controllers that no shutdown has taken yet. -/
def untaken (p : Pool) : List Nat :=
  (List.range p.controllers.length).filter fun controller =>
    !p.shutdowns.any fun
      | .joining taken => taken.contains controller
      | .done => true
      | .asked => false
      | .dropped begun => begun

def beginShutdown (p : Pool) (shutdown : Nat) : Option Pool := do
  match ← p.shutdowns[shutdown]? with
  | .asked =>
    let p := p.cancel
    pure { p with shutdowns := p.shutdowns.set shutdown (.joining p.untaken) }
  | _ => none

/-- A shutdown has waited long enough, and tells which controllers broke down. -/
def endShutdown (p : Pool) (shutdown : Nat) : Option Pool := do
  match ← p.shutdowns[shutdown]? with
  | .joining taken =>
    let phases := taken.filterMap fun controller => p.controllers[controller]?
    if phases.all ControllerPhase.hasExited then
      let broke := phases.filter (· = .brokeDown)
      let told := broke.map fun _ => Log.controllerBroke (Stream.lastWords "source panicked")
      pure { p with shutdowns := p.shutdowns.set shutdown .done, logs := p.logs ++ told }
    else none
  | _ => none

/-- A shutdown that is not waited for any more lets go of the pool. The controllers that it has taken go
on, and no other shutdown waits for them. -/
def dropShutdown (p : Pool) (shutdown : Nat) : Option Pool := do
  let dropped (begun : Bool) : Pool :=
    { p with shutdowns := p.shutdowns.set shutdown (.dropped begun) }.endIfAbandoned
  match ← p.shutdowns[shutdown]? with
  | .asked => dropped false
  | .joining _ => dropped true
  | _ => none

/-! ### All steps -/

/-- The stream that has a call, unless the call is over for it. -/
def streamOf? (p : Pool) (call : Nat) : Option Nat :=
  p.streams.findIdx? fun s => (s.call.map Call.number) = some call

/-- A step of the stream that has a call. A call that was accepted once may have none any more. -/
def onCall (p : Pool) (call : Nat) (action : Stream.Action) : Option Pool :=
  if p.endpoint.accepted ≤ call then none
  else match p.streamOf? call with
    | some stream => p.onStream stream action
    | none => some p

/-- The metadata of a caller that waits for a stream, while the end has not been asked for. -/
def seeker? (p : Pool) (caller : Nat) : Option (Caller × Option Metadata) := do
  let c ← p.callers[caller]?
  match c.phase with
  | .seeking metadata => if p.canceled then none else some (c, metadata)
  | _ => none

/-- A move of a stream; an attempt to open a call counts for the endpoint. -/
def moveStream (p : Pool) (stream : Nat) (move : Move) : Option Pool := do
  let s ← p.streams[stream]?
  let p' ← p.onStream stream (.move move p.surroundings)
  let tried := move = .establish ∧ !s.isCanceled
  pure (if tried then { p' with endpoint := { p'.endpoint with attempts := p'.endpoint.attempts + 1 } }
    else p')

def perform (p : Pool) : Action → Option Pool
  | .stream stream move => p.moveStream stream move
  | .run stream => do
    let s ← p.streams[stream]?
    match s.rerun with
    | some s => pure { p with streams := p.streams.set stream s }
    | none => p.onStream stream .start
  | .arrive spec records target =>
    some { p with
      callers := p.callers ++
        [{ records := records, metadata := spec.metadata, parent := spec.parent
           deadline := spec.timeout.map (p.now + ·), canceled := spec.canceled, target := target }] }
  | .cancelCaller caller => do
    let _ ← p.callers[caller]?
    pure (p.updateCaller caller fun c => { c with canceled := true })
  | .advance time => some { p with now := p.now + time }
  | .deliver call message => p.onCall call (.deliver message)
  | .setMode call mode => p.onCall call (.setMode mode)
  | .cancel => some p.cancel
  | .glance => some { p with prioritizer := (p.prioritizer.glance p.callers.length).2 }
  | .enter caller => p.beginCaller caller
  | .fetched caller => p.fetched caller
  | .submit caller late => p.submit caller late
  | .recheck caller late => p.recheck caller late
  | .look caller => do
    let c ← p.callers[caller]?
    match c.phase with
    | .choosing metadata =>
      if p.canceled then p.finish caller (.error .streamRestarting)
      else p.found caller metadata (p.prioritizer.look caller)
    | _ => none
  | .lookAgain caller => do
    let (_, metadata) ← p.seeker? caller
    if caller ∈ p.prioritizer.notified then
      p.found caller metadata (p.prioritizer.lookAgain caller)
    else none
  | .release caller => do
    let c ← p.callers[caller]?
    match c.phase with
    | .seeking _ => if p.canceled then p.leaves caller (.error .streamRestarting) else none
    | _ => none
  | .dismiss caller => do
    let _ ← p.seeker? caller
    if p.prioritizer.downgraded then p.leaves caller (.ok false) else none
  | .giveUp caller late => do
    let (c, _) ← p.seeker? caller
    let reason ← c.sees p.now late
    pure (p.leaves caller (.error reason))
  | .collect caller late => p.collect caller late
  | .dropShare caller => p.dropShare caller
  | .proceed controller => p.proceed controller
  | .askShutdown => some { p with shutdowns := p.shutdowns ++ [.asked] }
  | .beginShutdown shutdown => p.beginShutdown shutdown
  | .endShutdown shutdown => p.endShutdown shutdown
  | .dropShutdown shutdown => p.dropShutdown shutdown
  | .letGo => some { p with held := false }.endIfAbandoned

end TelemetryStreams.Pool
