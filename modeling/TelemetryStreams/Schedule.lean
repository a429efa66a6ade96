/-!
# Running a system of parties

A system has parties, and each party has moves that it tries in order. To settle is to let the parties
run until none of them can move. Parties that can move wait in a queue, first come first; the one in
front runs as long as it can, and after each of its moves the parties that can move now join the
queue. A settled state is one in which no party can move (`System.isSettled`).
-/
namespace TelemetryStreams

/-- A system with states `σ`, parties `π` and moves `μ`. -/
structure System (σ π μ : Type) where
  /-- The parties of a state, in order. -/
  parties : σ → List π
  /-- The moves that a party tries, in order. -/
  moves : σ → π → List μ
  /-- Makes a move if it is possible. -/
  perform : σ → μ → Option σ

namespace System

variable {σ π μ : Type}

/-- The state after the first possible move of a party. -/
def next? (system : System σ π μ) (state : σ) (party : π) : Option σ :=
  (system.moves state party).findSome? (system.perform state)

def canMove (system : System σ π μ) (state : σ) (party : π) : Bool :=
  (system.next? state party).isSome

def isSettled (system : System σ π μ) (state : σ) : Bool :=
  (system.parties state).all fun party => !system.canMove state party

variable [DecidableEq π]

/-- Parties that can move and are not waiting yet join the queue. -/
def join (system : System σ π μ) (state : σ) (queue : List π) : List π :=
  queue ++ (system.parties state).filter fun party =>
    !queue.contains party && system.canMove state party

/-- Lets the party in front run until it cannot move, then the next one, for at most `fuel` turns. -/
def run (system : System σ π μ) : (fuel : Nat) → List π → σ → σ
  | 0, _, state => state
  | _ + 1, [], state => state
  | fuel + 1, party :: queue, state =>
    match system.next? state party with
    | none => system.run fuel queue state
    | some state => system.run fuel (system.join state (party :: queue)) state

end System

end TelemetryStreams
