import TelemetryStreams.Context
import TelemetryStreams.Prioritizer
import TelemetryStreams.Schedule
import TelemetryStreams.Stream.Step

/-!
# Pools of streams

A pool has streams over one endpoint, a prioritizer that hands them to callers, and controllers, each
of which runs one stream at a time and replaces it when it ends. A controller whose stream ends
without being established gives up; when the last one does, the pool is downgraded. A caller either
submits to a stream of its own choice or takes the one that is handed to it. A single stream is a
pool without controllers.

Callers, streams and controllers are known by their places. The ticket of a caller on a stream is the
place of the caller.
-/
namespace TelemetryStreams

/-- How the metadata for a submission is fetched. -/
structure Fetch where
  failure : Option String := none
  /-- How long it takes. -/
  delay : Nat := 0
  deriving DecidableEq, Repr

/-- What contributes metadata to every submission. -/
structure Credentials extends Fetch where
  fixed : Metadata := []
  /-- Whether the metadata of the caller goes on top. -/
  forwards : Bool := false
  /-- How it goes for the first callers, if not as for all others. -/
  fetches : List Fetch := []
  deriving DecidableEq, Repr

/-- How it goes for the caller at a place. -/
def Credentials.fetch (credentials : Credentials) (caller : Nat) : Fetch :=
  credentials.fetches[caller]?.getD credentials.toFetch

/-- The metadata for the caller at a place. -/
def Credentials.metadata (credentials : Credentials) (caller : Nat) (given : Metadata) :
    Except Error Metadata :=
  match (credentials.fetch caller).failure with
  | some text => .error (.credentials text)
  | none => .ok (if credentials.forwards then credentials.fixed.overlay given else credentials.fixed)

/-- The endpoint and how it takes calls. -/
structure Endpoint where
  /-- How attempts go; the last entry repeats. -/
  script : List Opening := []
  attempts : Nat := 0
  accepted : Nat := 0
  deriving DecidableEq, Repr

def Endpoint.next (endpoint : Endpoint) : Opening :=
  (endpoint.script[endpoint.attempts]?).getD (endpoint.script.getLast?.getD .accept)

/-- How far a submission has come. -/
inductive CallPhase where
  | arriving
  /-- Its credentials take until a time. -/
  | fetching (ready : Nat)
  /-- About to put its item into the queue of a stream; `bound` says whether it would leave the queue
  as its context ends. -/
  | submitting (stream : Nat) (bound : Bool) (metadata : Option Metadata)
  /-- About to look for a stream. -/
  | choosing (metadata : Option Metadata)
  /-- Waits for a stream. -/
  | seeking (metadata : Option Metadata)
  /-- Waits for room in the queue. -/
  | queued (stream : Nat) (bound : Bool)
  /-- Waits for its result. -/
  | awaiting (stream : Nat)
  /-- It has its result: whether the records were sent. -/
  | done (result : Except Error Bool)
  deriving DecidableEq, Repr

/-- A caller and its submission. -/
structure Caller where
  records : Records
  metadata : Metadata := []
  parent : Option SpanContext := none
  deadline : Option Nat := none
  canceled : Bool := false
  /-- The stream of its own choice, if it has one. -/
  target : Option Nat := none
  phase : CallPhase := .arriving
  /-- What a stream has told it. -/
  reply : Option (Except Error Unit) := none
  /-- Whether it still holds its share of the pool. -/
  holds : Bool := true

/-- Why the context of a caller has ended, if it asks. -/
def Caller.ended? (caller : Caller) (now : Nat) : Option Error :=
  endReason now caller.canceled caller.deadline

/-- What a caller that waits sees of the end of its context. -/
def Caller.sees (caller : Caller) (now : Nat) (late : Bool) : Option Error :=
  wakeReason now caller.canceled late caller.deadline

def Caller.isDone (caller : Caller) : Bool :=
  match caller.phase with
  | .done _ => true
  | _ => false

/-- How far a controller has come. -/
inductive ControllerPhase where
  /-- About to start a stream. -/
  | starting
  | running (stream : Nat)
  | gaveUp
  /-- It ended with the pool. -/
  | stopped
  /-- Its stream broke down. -/
  | brokeDown
  deriving DecidableEq, Repr

def ControllerPhase.hasExited : ControllerPhase → Bool
  | .gaveUp | .stopped | .brokeDown => true
  | _ => false

/-- A request to shut the pool down. -/
inductive Shutdown where
  | asked
  /-- Waits for controllers. -/
  | joining (controllers : List Nat)
  | done
  /-- Whoever made it has gone away; `begun` says whether it had taken controllers by then. -/
  | dropped (begun : Bool)
  deriving DecidableEq, Repr

/-- Whether nobody waits for it any more. -/
def Shutdown.isOver : Shutdown → Bool
  | .done | .dropped _ => true
  | .asked | .joining _ => false

/-- What all streams of a pool have in common. -/
structure Setup where
  lifetime : Duration := .zero
  telemetry : Telemetry := {}
  codec : Codec := {}
  /-- The lifetimes and codecs of the first streams, if not as for all others. -/
  variants : List (Duration × Codec) := []
  credentials : Option Credentials := none

/-- A pool. -/
structure Pool where
  setup : Setup := {}
  now : Nat := 0
  endpoint : Endpoint := {}
  prioritizer : Prioritizer := {}
  streams : List Stream := []
  callers : List Caller := []
  controllers : List ControllerPhase := []
  /-- The controllers that have not given up. -/
  active : Nat := 0
  /-- Whether the end was asked for. -/
  canceled : Bool := false
  shutdowns : List Shutdown := []
  /-- Whether the pool is still held by its owner. -/
  held : Bool := true
  /-- How many spans have been started. -/
  spans : Nat := 0
  /-- What the pool itself has logged. -/
  logs : List Log := []

namespace Pool

/-- A stream of the pool that has not started. -/
def newStream (p : Pool) : Stream :=
  let (lifetime, codec) :=
    p.setup.variants[p.streams.length]?.getD (p.setup.lifetime, p.setup.codec)
  { lifetime := lifetime, telemetry := p.setup.telemetry, codec := codec
    parentCanceled := p.canceled }

/-- A pool of one stream and no controllers. -/
def single (setup : Setup) (script : List Opening) : Pool :=
  let empty : Pool := { setup := setup, endpoint := { script := script } }
  { empty with streams := [empty.newStream] }

/-- A pool of controllers about to start their streams. -/
def ofControllers (setup : Setup) (script : List Opening) (count : Nat) : Pool :=
  { setup := setup, endpoint := { script := script }
    controllers := List.replicate count .starting, active := count }

/-- What the streams depend on when they move. -/
def surroundings (p : Pool) : Surroundings :=
  { now := p.now, opening := p.endpoint.next, nextCall := p.endpoint.accepted
    nextSpan := p.spans + 1 }

def updateCaller (p : Pool) (caller : Nat) (change : Caller → Caller) : Pool :=
  { p with callers := p.callers.modify caller change }

def setPhase (p : Pool) (caller : Nat) (phase : CallPhase) : Pool :=
  p.updateCaller caller fun c => { c with phase := phase }

/-- What the rest of the pool learns from an event of a stream. A caller keeps the first reply. -/
def notice (p : Pool) (stream : Nat) : Event → Pool
  | .offered => { p with prioritizer := p.prioritizer.setReady stream }
  | .withdrawn => { p with prioritizer := p.prioritizer.removeReady stream }
  | .answered ticket result =>
    p.updateCaller ticket fun c => { c with reply := some (c.reply.getD result) }
  | .opened _ => { p with endpoint := { p.endpoint with accepted := p.endpoint.accepted + 1 } }
  | .spanStarted _ => { p with spans := p.spans + 1 }
  | _ => p

def onStream (p : Pool) (stream : Nat) (action : Stream.Action) : Option Pool := do
  let s ← p.streams[stream]?
  let (after, events) ← s.step action
  let p := { p with streams := p.streams.set stream (after.record events) }
  pure (events.foldl (fun p event => p.notice stream event) p)

end Pool

end TelemetryStreams
