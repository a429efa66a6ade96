import TelemetryStreams.Proofs.InFlight
import TelemetryStreams.Proofs.Stream.Steps

/-!
# The phases of a stream

The phases of the stream as a whole, of its writer and of its table belong together: there is no
writer and no entry before the call is opened, the table is emptied only after the writer has ended,
and nobody is told a cause before that. Every step keeps this (`Coherent.step`). What follows is that
a stream that is done stays as it is for good (`Coherent.done_step`).
-/
namespace TelemetryStreams

def RunPhase.IsEarly (run : RunPhase) : Prop := run = .idle ∨ run = .starting ∨ run = .opening

def RunPhase.IsLate (run : RunPhase) : Prop := run = .sweeping ∨ run = .finishing ∨ run = .done

def WriterPhase.IsOver : WriterPhase → Prop
  | .absent | .ended _ | .brokeDown => True
  | _ => False

theorem RunPhase.joining_between (read : Except Error Unit) :
    ¬ (joining read).IsEarly ∧ ¬ (joining read).IsLate := by
  simp [IsEarly, IsLate]

namespace Stream

/-- A stream that nothing has happened to yet. -/
structure Fresh (s : Stream) : Prop where
  run : s.run = .idle
  writer : s.writer = .absent
  call : s.call = none
  queue : s.queue = []
  senders : s.senders = []
  inFlight : s.inFlight = []
  cause : s.cause = none
  history : s.history = []

/-- The phases belong together. -/
structure Coherent (s : Stream) : Prop where
  early : s.run.IsEarly → s.writer = .absent ∧ s.inFlight = [] ∧ s.call = none
  late : s.run.IsLate → s.writer.IsOver
  drained : s.run = .finishing ∨ s.run = .done → s.inFlight = []
  told : s.cause.isSome = true ↔ s.run = .done
  distinct : s.inFlight.IsTable

variable {s next : Stream} {action : Action} {events : List Event}

theorem Fresh.coherent (fresh : s.Fresh) : s.Coherent where
  early _ := ⟨fresh.writer, fresh.inFlight, fresh.call⟩
  late _ := by rw [fresh.writer]; trivial
  drained _ := fresh.inFlight
  told := by simp [fresh.cause, fresh.run]
  distinct := by rw [fresh.inFlight]; exact InFlight.isTable_nil

/-- Before the call is opened there is neither a writer nor an entry, so every phase may follow but the
last. -/
theorem Coherent.opens (coherent : s.Coherent) (early : s.run.IsEarly) (run : next.run ≠ .done)
    (writer : next.writer = s.writer) (call : next.call = s.call)
    (inFlight : next.inFlight = s.inFlight) (cause : next.cause = s.cause) : next.Coherent := by
  obtain ⟨absent, empty, uncalled⟩ := coherent.early early
  have undone : s.run ≠ .done := by
    intro done
    rw [done] at early
    simp [RunPhase.IsEarly] at early
  refine ⟨fun _ => ⟨writer.trans absent, inFlight.trans empty, call.trans uncalled⟩, fun _ => ?_,
    fun _ => inFlight.trans empty, ?_, ?_⟩
  · rw [writer, absent]
    trivial
  · rw [cause, coherent.told]
    exact iff_of_false undone run
  · rw [inFlight]
    exact coherent.distinct

theorem Coherent.between (coherent : s.Coherent) (busy : ¬ s.writer.IsOver) :
    ¬ s.run.IsEarly ∧ ¬ s.run.IsLate := by
  refine ⟨fun early => busy ?_, fun late => busy (coherent.late late)⟩
  rw [(coherent.early early).1]
  trivial

/-- Steps of the writer leave the phase of the stream alone. -/
theorem Coherent.writes (coherent : s.Coherent) (busy : ¬ s.writer.IsOver) (run : next.run = s.run)
    (cause : next.cause = s.cause) (distinct : next.inFlight.IsTable) : next.Coherent := by
  obtain ⟨notEarly, notLate⟩ := coherent.between busy
  refine ⟨fun early => ?_, fun late => ?_, fun ended => ?_, ?_, distinct⟩
  · exact absurd (run ▸ early) notEarly
  · exact absurd (run ▸ late) notLate
  · rw [run] at ended
    exact absurd (.inr ended) notLate
  · rw [run, cause]
    exact coherent.told

/-- Steps of the reader happen between the opening and the end. -/
theorem Coherent.reads (coherent : s.Coherent) (reading : s.run = .reading)
    (cause : next.cause = s.cause)
    (run : ¬ next.run.IsEarly ∧ ¬ next.run.IsLate) (distinct : next.inFlight.IsTable) :
    next.Coherent := by
  obtain ⟨notEarly, notLate⟩ := run
  have untold : s.cause.isSome ≠ true := by simp [coherent.told, reading]
  refine ⟨fun early => absurd early notEarly, fun late => absurd late notLate,
    fun ended => absurd (.inr ended) notLate, ?_, distinct⟩
  rw [cause]
  exact ⟨fun told => absurd told untold, fun done => absurd (.inr (.inr done)) notLate⟩

theorem Coherent.frame (coherent : s.Coherent) (run : next.run = s.run)
    (writer : next.writer = s.writer) (call : s.call = none → next.call = none)
    (inFlight : next.inFlight = s.inFlight) (cause : next.cause = s.cause) : next.Coherent := by
  refine ⟨?_, ?_, ?_, ?_, ?_⟩
  · rw [run, writer, inFlight]
    exact fun early => (coherent.early early).imp_right (.imp_right call)
  · rw [run, writer]
    exact coherent.late
  · rw [run, inFlight]
    exact coherent.drained
  · rw [run, cause]
    exact coherent.told
  · rw [inFlight]
    exact coherent.distinct

/-- Every step keeps the phases together. -/
theorem Coherent.step (coherent : s.Coherent) (step : Step s action events next) :
    next.Coherent := by
  have distinct := coherent.distinct
  cases step with
  -- opening
  | started idle => exact coherent.opens (.inl idle) nofun rfl rfl rfl rfl
  | openingCanceled early canceled =>
    obtain ⟨phase, -⟩ | ⟨phase, -⟩ := early
    · exact coherent.opens (.inr (.inl phase)) nofun rfl rfl rfl rfl
    · exact coherent.opens (.inr (.inr phase)) nofun rfl rfl rfl rfl
  | refused starting alive opening =>
    exact coherent.opens (.inr (.inl starting)) nofun rfl rfl rfl rfl
  | stalled starting alive opening =>
    exact coherent.opens (.inr (.inl starting)) nofun rfl rfl rfl rfl
  | opened starting alive opening =>
    have untold := coherent.told
    refine ⟨fun early => ?_, fun late => ?_, fun ended => ?_, ?_, distinct⟩
    · simp [RunPhase.IsEarly] at early
    · simp [RunPhase.IsLate] at late
    · simp at ended
    · simpa [starting] using untold
  -- writing
  | offered offering =>
    exact coherent.writes (by simp [offering, WriterPhase.IsOver]) rfl rfl distinct
  | taken waiting queued =>
    exact coherent.writes (by simp [waiting, WriterPhase.IsOver]) rfl rfl distinct
  | expired waiting limited isOver =>
    exact coherent.writes (by simp [waiting, WriterPhase.IsOver]) rfl rfl distinct
  | quit waiting canceled =>
    exact coherent.writes (by simp [waiting, WriterPhase.IsOver]) rfl rfl distinct
  | notEncoded encoding fails =>
    exact coherent.writes (by simp [encoding, WriterPhase.IsOver]) rfl rfl distinct
  | encoded encoding works =>
    exact coherent.writes (by simp [encoding, WriterPhase.IsOver]) rfl rfl distinct.register
  | notSent sending called fails =>
    exact coherent.writes (by simp [sending, WriterPhase.IsOver]) rfl rfl distinct
  | sent sending called alive accepts =>
    exact coherent.writes (by simp [sending, WriterPhase.IsOver]) rfl rfl distinct
  | sinkBroke sending called alive breaks =>
    exact coherent.writes (by simp [sending, WriterPhase.IsOver]) rfl rfl distinct
  -- reading
  | readCanceled reading called empty canceled =>
    exact coherent.reads reading rfl (RunPhase.joining_between _) distinct
  | unrecognized reading called inbox absent =>
    exact coherent.reads reading rfl (RunPhase.joining_between _) distinct
  | unexpected reading called inbox found breaks =>
    exact coherent.reads reading rfl (RunPhase.joining_between _) distinct.erase
  | settled reading called inbox found answers =>
    exact coherent.reads reading rfl (by simp [reading, RunPhase.IsEarly, RunPhase.IsLate])
      distinct.erase
  | readEnded reading called inbox last =>
    exact coherent.reads reading rfl (RunPhase.joining_between _) distinct
  | sourceBroke reading called inbox =>
    exact coherent.reads reading rfl (by simp [RunPhase.IsEarly, RunPhase.IsLate]) distinct
  -- ending: the writer is over, and the table is emptied on the way
  | joined joining isOver =>
    have untold := coherent.told
    refine ⟨fun early => ?_, fun _ => ?_, fun ended => ?_, ?_, distinct⟩
    · simp [RunPhase.IsEarly] at early
    · revert isOver
      unfold writerResult WriterPhase.IsOver
      cases s.writer <;> simp
    · simp at ended
    · simpa [joining] using untold
  | swept sweeping =>
    have untold := coherent.told
    refine ⟨fun early => ?_, fun _ => coherent.late (.inl sweeping), fun _ => rfl, ?_,
      InFlight.isTable_nil⟩
    · simp [RunPhase.IsEarly] at early
    · simpa [sweeping] using untold
  | finished finishing =>
    refine ⟨fun early => ?_, fun _ => coherent.late (.inr (.inl finishing)),
      fun _ => coherent.drained (.inl finishing), by simp, distinct⟩
    simp [RunPhase.IsEarly] at early
  -- from outside
  | entered empty => exact coherent.frame rfl rfl id rfl rfl
  | linedUp full => exact coherent.frame rfl rfl id rfl rfl
  | left => exact coherent.frame rfl rfl id rfl rfl
  | delivered called =>
    exact coherent.frame rfl rfl (fun none => by simp [none] at called) rfl rfl
  | modeSet called =>
    exact coherent.frame rfl rfl (fun none => by simp [none] at called) rfl rfl
  | parentCanceled => exact coherent.frame rfl rfl id rfl rfl

theorem Coherent.done_step (coherent : s.Coherent) (done : s.run = .done)
    (step : Step s action events next) :
    next.run = .done ∧ next.inFlight = [] ∧ next.cause = s.cause ∧ next.writer = s.writer ∧
      (events = [] ∨ ∃ item, events = [.entered item]) := by
  have isOver : s.writer.IsOver := coherent.late (.inr (.inr done))
  have drained := coherent.drained (.inr done)
  cases step with
  | started phase | refused phase | stalled phase | opened phase | readCanceled phase
  | unrecognized phase | unexpected phase | settled phase | readEnded phase | sourceBroke phase
  | joined phase | swept phase | finished phase => rw [done] at phase; cases phase
  | openingCanceled early =>
    obtain ⟨phase, -⟩ | ⟨phase, -⟩ := early
    · rw [done] at phase; cases phase
    · rw [done] at phase; cases phase
  | offered busy | taken busy | expired busy | quit busy | notEncoded busy | encoded busy
  | notSent busy | sent busy | sinkBroke busy => rw [busy] at isOver; cases isOver
  | entered => exact ⟨done, drained, rfl, rfl, .inr ⟨_, rfl⟩⟩
  | linedUp | left | delivered | modeSet | parentCanceled =>
    exact ⟨done, drained, rfl, rfl, .inl rfl⟩

theorem Coherent.not_move {move : Move} {env : Surroundings} (coherent : s.Coherent)
    (done : s.run = .done) : ¬ Step s (.move move env) events next := by
  intro step
  have isOver : s.writer.IsOver := coherent.late (.inr (.inr done))
  cases step with
  | refused phase | stalled phase | opened phase | readCanceled phase | unrecognized phase
  | unexpected phase | settled phase | readEnded phase | sourceBroke phase | joined phase
  | swept phase | finished phase => rw [done] at phase; cases phase
  | openingCanceled early =>
    obtain ⟨phase, -⟩ | ⟨phase, -⟩ := early
    · rw [done] at phase; cases phase
    · rw [done] at phase; cases phase
  | offered busy | taken busy | expired busy | quit busy | notEncoded busy | encoded busy
  | notSent busy | sent busy | sinkBroke busy => rw [busy] at isOver; cases isOver

end Stream

end TelemetryStreams
