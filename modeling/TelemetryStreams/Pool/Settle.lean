import TelemetryStreams.Pool.Step

/-!
# Letting a pool run

The parties of a pool are its callers, those who hold shares of it for them, the writers and runners of
its streams, its controllers and the shutdowns. A controller is the runner of its stream. After an
outside action those who can move join the queue; when time passes, those whose time has come go first,
in the order of their times, and of two with the same time the one that has waited longer.
-/
namespace TelemetryStreams.Pool

/-- Who can move. -/
inductive Party where
  | caller (caller : Nat)
  /-- Holds the share of a caller. -/
  | holder (caller : Nat)
  | runner (stream : Nat)
  | writer (stream : Nat)
  | controller (controller : Nat)
  | shutdown (shutdown : Nat)
  deriving DecidableEq, Repr

def runnerMoves : List Move := [.establish, .stopOpening, .receive, .join, .sweep, .finish]

def writerMoves : List Move := [.offer, .take, .expire, .quit, .encode, .send]

def movesOf (p : Pool) : Party → List Action
  | .caller c =>
    [.enter c, .fetched c, .submit c false, .recheck c false, .look c, .release c, .lookAgain c,
      .dismiss c, .giveUp c false, .collect c false]
  | .holder c => [.dropShare c]
  | .runner stream => runnerMoves.map (.stream stream)
  | .writer stream => writerMoves.map (.stream stream)
  | .controller i =>
    let moves : List Action := match p.controllers[i]? with
      | some (.running stream) => runnerMoves.map (.stream stream)
      | _ => []
    moves ++ [.proceed i]
  | .shutdown i => [.beginShutdown i, .endShutdown i]

def parties (p : Pool) : List Party :=
  let streams := List.range p.streams.length
  (List.range p.callers.length).map .caller ++ (List.range p.callers.length).map .holder ++
    (if p.controllers = [] then streams.map .runner else []) ++
    streams.map .writer ++ (List.range p.controllers.length).map .controller ++
    (List.range p.shutdowns.length).map .shutdown

def system : System Pool Party Action where
  parties := parties
  moves := movesOf
  perform := perform

/-- Somebody whom the timer wakes. -/
structure Timer where
  due : Nat
  since : Nat
  party : Party
  deriving DecidableEq, Repr

/-- Whether one timer goes before another one, or with it. -/
def Timer.le (a b : Timer) : Bool := a.due < b.due || (a.due == b.due && a.since ≤ b.since)

/-- The timer of a writer, which counts the lifetime. -/
def writerTimer (row : Stream × Nat) : Option Timer :=
  row.1.expiry.map fun time => ⟨Clock.servedAt time, time - row.1.lifetime.toNanos, .writer row.2⟩

/-- The timer of a caller: for its credentials, or else for its deadline, before which nothing else
can depend on it. -/
def callerTimer (p : Pool) (row : Caller × Nat) : Option Timer :=
  match row.1.phase, p.setup.credentials with
  | .fetching ready, some credentials =>
    some ⟨ready, ready - (credentials.fetch row.2).delay, .caller row.2⟩
  | _, _ => row.1.deadline.map fun time => ⟨Clock.servedAt time, time, .caller row.2⟩

def timers (p : Pool) : List Timer :=
  p.streams.zipIdx.filterMap writerTimer ++ p.callers.zipIdx.filterMap p.callerTimer

/-- The parties whose time has come, in the order of their times. -/
def due (p : Pool) : List Party :=
  ((p.timers.filter (·.due ≤ p.now)).mergeSort Timer.le).map Timer.party

/-- The parties that join the queue after an outside action. -/
def woken (p : Pool) (queue : List Party) : Action → List Party
  | .advance _ =>
    let first := p.due.filter fun party => !queue.contains party && system.canMove p party
    system.join p (queue ++ first)
  | _ => system.join p queue

/-- Performs outside actions one after the other, and says whether all were possible. -/
def act : List Action → Pool × List Party × Bool → Pool × List Party × Bool
  | [], s => s
  | action :: actions, (p, queue, fine) =>
    match p.perform action with
    | none => act actions (p, queue, false)
    | some p => act actions (p, woken p queue action, fine)

/-- More turns than any pool takes between two outside actions of a session. -/
def patience : Nat := 1000000

/-- Performs outside actions and lets all parties run until none can move. Those who could move before
are the first in the queue. -/
def step (p : Pool) (actions : List Action) : Pool × Bool :=
  let (p, queue, fine) := act actions (p, system.join p [], true)
  (system.run patience queue p, fine)

end TelemetryStreams.Pool
