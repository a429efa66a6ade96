import TelemetryStreams.Proofs.Stream.Runs

/-!
# What is left for a stream to do

A stream that is asked to end has only so many moves left: each one brings the writer or the run as
a whole closer to its end, or takes a message that has arrived (`Step.remaining_lt`). Until it is
done it can move (`Connected.exists_move`), unless its reader broke down, and then its writer still
comes to an end (`Connected.exists_write`). So it ends, in whatever order the parties take turns.
-/
namespace TelemetryStreams

/-- How many moves a writer has left once its call is canceled. -/
def WriterPhase.remaining : WriterPhase → Nat
  | .offering => 4
  | .waiting => 3
  | .encoding .. => 2
  | .sending .. => 1
  | .absent | .ended _ | .brokeDown => 0

/-- How many moves a run has left once its call is canceled, if so many messages have arrived. -/
def RunPhase.remaining (arrived : Nat) : RunPhase → Nat
  | .starting | .opening => 2
  | .reading => arrived + 4
  | .joining _ => 3
  | .sweeping => 2
  | .finishing => 1
  | .idle | .done | .brokeDown => 0

def RunPhase.IsConnected : RunPhase → Prop
  | .reading | .joining _ => True
  | _ => False

namespace Stream

def arrived (s : Stream) : Nat := (s.call.map fun call => call.inbox.length).getD 0

/-- How many moves are left at most once the end is asked for. -/
def remaining (s : Stream) : Nat := s.run.remaining s.arrived + s.writer.remaining

variable {s next : Stream} {action : Action} {events : List Event} {env : Surroundings}
  {move : Move}

/-- Every move of a canceled stream leaves less to do. -/
theorem Step.remaining_lt (step : Step s (.move move env) events next)
    (canceled : s.isCanceled = true) : next.remaining < s.remaining := by
  unfold remaining
  cases step with
  | refused _ alive | stalled _ alive | opened _ alive | sent _ _ alive | sinkBroke _ _ alive =>
    rw [canceled] at alive
    cases alive
  -- the run
  | openingCanceled early =>
    obtain ⟨phase, -⟩ | ⟨phase, -⟩ := early
    · simp only [phase, RunPhase.remaining]
      omega
    · simp only [phase, RunPhase.remaining]
      omega
  | readCanceled reading called empty =>
    simp only [reading, RunPhase.remaining]
    omega
  | @settled env call ack rest ticket reading called inbox =>
    have fewer : s.arrived = rest.length + 1 := by simp [arrived, called, inbox]
    change s.run.remaining rest.length + _ < _
    rw [fewer, reading]
    simp only [RunPhase.remaining]
    omega
  | unrecognized reading | unexpected reading | readEnded reading | sourceBroke reading =>
    simp only [reading, RunPhase.remaining]
    omega
  | joined joining =>
    simp only [joining, RunPhase.remaining]
    omega
  | swept sweeping =>
    simp only [sweeping, RunPhase.remaining]
    omega
  | finished finishing =>
    simp only [finishing, RunPhase.remaining]
    omega
  -- the writer
  | offered phase | taken phase | expired phase | quit phase | notEncoded phase | encoded phase
  | notSent phase =>
    refine Nat.add_lt_add_left ?_ _
    simp only [phase, WriterPhase.remaining]
    omega

theorem Step.stays_asked (step : Step s action events next) (asked : s.parentCanceled = true) :
    next.parentCanceled = true := by
  cases step with
  | parentCanceled => rfl
  | _ => exact asked

/-! ### Whether it can move -/

/-- The run has begun, and whoever reads or writes has a call to do so. -/
structure Connected (s : Stream) : Prop where
  begun : s.run ≠ .idle
  called : s.writer ≠ .absent → ∃ call, s.call = some call
  written : s.run.IsConnected → s.writer ≠ .absent

theorem Connected.step (connected : s.Connected) (step : Step s action events next) :
    (next.record events).Connected := by
  obtain ⟨begun, called, written⟩ := connected
  cases step with
  | started idle => exact absurd idle begun
  | opened => exact ⟨nofun, fun _ => ⟨_, rfl⟩, fun _ => nofun⟩
  | openingCanceled | refused | stalled | joined | swept | finished =>
    exact ⟨nofun, called, nofun⟩
  | sourceBroke => exact ⟨nofun, fun _ => ⟨_, rfl⟩, nofun⟩
  | offered phase | taken phase | expired phase | quit phase | notEncoded phase | encoded phase
  | notSent phase | sent phase | sinkBroke phase =>
    have busy : s.writer ≠ .absent := by rw [phase]; exact nofun
    exact ⟨begun, fun _ => called busy, fun _ => nofun⟩
  | readCanceled reading =>
    have busy := written (by rw [reading]; trivial)
    exact ⟨nofun, called, fun _ => busy⟩
  | unrecognized reading | unexpected reading | readEnded reading =>
    have busy := written (by rw [reading]; trivial)
    exact ⟨nofun, fun _ => ⟨_, rfl⟩, fun _ => busy⟩
  | settled reading =>
    have busy := written (by rw [reading]; trivial)
    exact ⟨begun, fun _ => ⟨_, rfl⟩, fun _ => busy⟩
  | delivered | modeSet => exact ⟨begun, fun _ => ⟨_, rfl⟩, written⟩
  | entered | linedUp | left | parentCanceled => exact ⟨begun, called, written⟩

theorem Connected.exists_write (connected : s.Connected) (canceled : s.isCanceled = true)
    (busy : ¬ s.writer.IsOver) (env : Surroundings) :
    ∃ move, (s.makeMove env move).isSome = true := by
  have called := connected.called
  cases phase : s.writer with
  | offering => exact ⟨.offer, by simp [makeMove, offer, phase]⟩
  | waiting => exact ⟨.quit, by simp [makeMove, quit, phase, canceled]⟩
  | encoding item span =>
    refine ⟨.encode, ?_⟩
    simp only [makeMove, encode, phase]
    split <;> rfl
  | sending batch span =>
    have present : s.writer ≠ .absent := fun absent => by rw [phase] at absent; cases absent
    obtain ⟨call, isCall⟩ := called present
    exact ⟨.send, by simp [makeMove, send, phase, isCall, canceled]⟩
  | absent | ended | brokeDown =>
    rw [phase] at busy
    exact absurd trivial busy

/-- A canceled stream can move until it is done, unless its reader broke down. -/
theorem Connected.exists_move (connected : s.Connected) (canceled : s.isCanceled = true)
    (undone : s.run ≠ .done) (unbroken : s.run ≠ .brokeDown) (env : Surroundings) :
    ∃ move, (s.makeMove env move).isSome = true := by
  have written := connected.written
  cases phase : s.run with
  | idle => exact absurd phase connected.begun
  | done => exact absurd phase undone
  | brokeDown => exact absurd phase unbroken
  | starting => exact ⟨.establish, by simp [makeMove, establish, phase, canceled]⟩
  | opening => exact ⟨.stopOpening, by simp [makeMove, stopOpening, phase, canceled]⟩
  | sweeping => exact ⟨.sweep, by simp [makeMove, sweep, phase]⟩
  | finishing => exact ⟨.finish, by simp [makeMove, finish, phase]⟩
  | reading =>
    obtain ⟨call, isCall⟩ := connected.called (written (by rw [phase]; trivial))
    refine ⟨.receive, ?_⟩
    cases inbox : call.inbox with
    | nil => simp [makeMove, receive, phase, isCall, inbox, canceled]
    | cons message rest => simp [makeMove, receive, phase, isCall, inbox]
  | joining read =>
    have present := written (by rw [phase]; trivial)
    by_cases busy : s.writer.IsOver
    · refine ⟨.join, ?_⟩
      cases writer : s.writer with
      | absent => exact absurd writer present
      | ended | brokeDown => simp [makeMove, join, phase, writerResult, writer]
      | offering | waiting | encoding | sending => rw [writer] at busy; cases busy
    · exact connected.exists_write canceled busy env

end Stream

end TelemetryStreams
