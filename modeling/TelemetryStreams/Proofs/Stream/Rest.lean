import TelemetryStreams.Proofs.Stream.Inbox
import TelemetryStreams.Proofs.Stream.Order

/-!
# Writers at rest

A writer that does not exist or has come to its end does nothing for any item: it takes none, and calls
neither the codec nor the peer (`Step.idles`). Once it has come to its end, or the stream is done, that is
so for good (`Becomes.idles`). The reader goes on meanwhile: an acknowledgment of a batch in flight that
waits in the inbox is what the caller of the batch is told (`Becomes.answered_at_rest`).
-/
namespace TelemetryStreams

namespace Event

def measurements (events : List Event) : List Measured :=
  events.filterMap fun
    | .measured size => some size
    | _ => none

@[simp] theorem measurements_append (a b : List Event) :
    measurements (a ++ b) = measurements a ++ measurements b := List.filterMap_append

/-- Whether an event is about a batch on its way, or its size. -/
def isDue : Event → Bool
  | .measured _ => true
  | event => event.isTransit

/-- Nothing happens to any item. -/
def Calm (events : List Event) : Prop := ∀ event ∈ events, event.isDue = false

variable {events more : List Event}

theorem Calm.append (first : Calm events) (second : Calm more) : Calm (events ++ more) :=
  fun event isEvent => (List.mem_append.mp isEvent).elim (first event) (second event)

theorem Calm.still (calm : Calm events) : Still events := by
  intro event isEvent
  have quiet := calm event isEvent
  cases event <;> first | rfl | cases quiet

theorem Calm.measurements (calm : Calm events) : measurements events = [] := by
  refine List.filterMap_eq_nil_iff.mpr fun event isEvent => ?_
  have quiet := calm event isEvent
  cases event <;> first | rfl | cases quiet

theorem calm_encodeLog (failure : EncodeError) : Calm (Stream.encodeLog failure) := by
  cases failure <;> simp [Stream.encodeLog, Calm, isDue, isTransit]

theorem calm_spanEnds (s : Stream) (span : SendSpan) (failure : Option String) :
    Calm (s.spanEnds span failure) := by
  unfold Stream.spanEnds Calm
  split <;> simp [isDue, isTransit]

theorem calm_endLogs (read written : Except Error Unit) : Calm (Stream.endLogs read written) := by
  cases written <;> simp [Stream.endLogs, Calm, isDue, isTransit]

theorem calm_release (rows : InFlight) : Calm (rows.flatMap Stream.release) := by
  intro event isEvent
  obtain ⟨row, -, isEvent⟩ := List.mem_flatMap.mp isEvent
  have kind : event = .logged (.releasing row.1) ∨
      event = .answered row.2 (.error .streamRestarting) := by simpa [Stream.release] using isEvent
  obtain rfl | rfl := kind
  · rfl
  · rfl

end Event

theorem Ledger.all_isDistinct {ledger : Ledger} {events : List Event}
    (none : Event.registrations events = []) : ledger.all isDistinct events = true := by
  induction events generalizing ledger with
  | nil => rfl
  | cons event events ih =>
    cases event with
    | registered => cases none
    | _ => exact ih none

namespace Stream

/-- Between two states a stream takes no item, calls no codec, and registers, reports and sends nothing. -/
structure Idles (s t : Stream) : Prop where
  codec : t.codec = s.codec
  taken : Event.takenItems t.history = Event.takenItems s.history
  registrations : Event.registrations t.history = Event.registrations s.history
  measurements : Event.measurements t.history = Event.measurements s.history
  sent : Event.sentBatches t.history = Event.sentBatches s.history

variable {s t u next : Stream} {action : Action} {events : List Event}

theorem Idles.refl (s : Stream) : Idles s s := ⟨rfl, rfl, rfl, rfl, rfl⟩

theorem Idles.trans (first : Idles s t) (second : Idles t u) : Idles s u :=
  ⟨second.codec.trans first.codec, second.taken.trans first.taken,
    second.registrations.trans first.registrations,
    second.measurements.trans first.measurements, second.sent.trans first.sent⟩

theorem idles_of_calm (codec : t.codec = s.codec) (history : t.history = s.history ++ events)
    (calm : Event.Calm events) : Idles s t where
  codec := codec
  taken := by rw [history, Event.takenItems_append, calm.still.takenItems, List.append_nil]
  registrations := by
    rw [history, Event.registrations_append, calm.still.registrations, List.append_nil]
  measurements := by rw [history, Event.measurements_append, calm.measurements, List.append_nil]
  sent := by rw [history, Event.sentBatches_append, calm.still.sentBatches, List.append_nil]

/-- While there is no writer at work nothing happens to any item. -/
theorem Step.idles (step : Step s action events next) (isOver : s.writer.IsOver) :
    Idles s (next.record events) := by
  have made := step
  cases step with
  | offered busy | taken busy | expired busy | quit busy | notEncoded busy | encoded busy
  | notSent busy | sent busy | sinkBroke busy => rw [busy] at isOver; cases isOver
  | joined => exact idles_of_calm rfl made.record_history (Event.calm_endLogs _ _)
  | swept => exact idles_of_calm rfl made.record_history (Event.calm_release _)
  | _ =>
    exact idles_of_calm rfl made.record_history (by simp [Event.Calm, Event.isDue, Event.isTransit])

theorem isOver_of_hasEnded {writer : WriterPhase} (ended : writer.HasEnded) : writer.IsOver := by
  cases writer with
  | ended | brokeDown => trivial
  | _ => cases ended

theorem Becomes.idles (becomes : Becomes s t) (sound : s.Sound)
    (isOver : s.writer.HasEnded ∨ s.run = .done) : Idles s t := by
  suffices both : (t.writer.HasEnded ∨ t.run = .done) ∧ Idles s t from both.2
  induction becomes with
  | refl => exact ⟨isOver, Idles.refl s⟩
  | step earlier step ih =>
    obtain ⟨isOver, idles⟩ := ih
    have coherent := (earlier.sound sound).coherent
    obtain ended | done := isOver
    · have ended' := coherent.hasEnded_step ended step
      exact ⟨.inl ended', idles.trans (step.idles (isOver_of_hasEnded ended))⟩
    · exact ⟨.inr (coherent.done_step done step).1,
        idles.trans (step.idles (coherent.late (.inr (.inr done))))⟩

theorem Becomes.hasEnded (becomes : Becomes s t) (sound : s.Sound) (ended : s.writer.HasEnded) :
    t.writer.HasEnded := by
  induction becomes with
  | refl => exact ended
  | step earlier step ih =>
    have ended := (earlier.sound sound).coherent.hasEnded_step ih step
    exact ended

/-! ### Acknowledgments -/

/-- After the end of the writer an acknowledgment waits until the caller of the batch has been told the
verdict. -/
theorem Becomes.awaits_at_rest {ack : Acknowledgment} {ticket : Nat} (becomes : Becomes s t)
    (sound : s.Sound) (ended : s.writer.HasEnded) (awaits : s.Awaits ack ticket)
    (harmless : Ledger.all (Ledger.isHarmless (ack.id, ticket)) {} t.history) :
    t.Awaits ack ticket ∨ (ticket, ack.verdict.1) ∈ Event.answers t.history := by
  induction becomes with
  | refl => exact .inl awaits
  | @step t action events next earlier step ih =>
    rw [step.record_history, Ledger.all_append, Bool.and_eq_true] at harmless
    rw [step.record_history, Event.answers_append]
    obtain waits | told := ih harmless.1
    · -- Nobody is registered any more, so no id is taken again.
      have isOver := isOver_of_hasEnded (earlier.hasEnded sound ended)
      have same := (step.idles isOver).registrations
      rw [step.record_history, Event.registrations_append, List.append_right_eq_self] at same
      have accounted := (earlier.sound sound).accounted
      obtain waits | told :=
        waits.step accounted step (Ledger.all_isDistinct same) harmless.2
      · exact .inl (waits.frame rfl rfl rfl)
      · exact .inr (List.mem_append_right _ told)
    · exact .inr (List.mem_append_left _ told)

/-- After the end of the writer the caller of a batch has been told the verdict that waited for it when
the reader has ended. -/
theorem Becomes.answered_at_rest {ack : Acknowledgment} {ticket : Nat} (becomes : Becomes s t)
    (sound : s.Sound) (ended : s.writer.HasEnded) (awaits : s.Awaits ack ticket)
    (read : t.run ≠ .reading)
    (harmless : Ledger.all (Ledger.isHarmless (ack.id, ticket)) {} t.history) :
    (ticket, ack.verdict.1) ∈ Event.answers t.history := by
  obtain waits | told := becomes.awaits_at_rest sound ended awaits harmless
  · exact absurd waits.reading read
  · exact told

end Stream

end TelemetryStreams
