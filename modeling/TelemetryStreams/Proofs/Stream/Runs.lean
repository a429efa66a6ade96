import TelemetryStreams.Proofs.Stream.Items

/-!
# Runs of a stream

What a stream can become by steps of its own (`Becomes`). What every step keeps is kept along the way,
and a stream that is done tells nobody anything any more (`Becomes.done`).
-/
namespace TelemetryStreams

namespace Stream

/-- What a stream can become in one step, if it takes part in it. -/
def Stays (s t : Stream) : Prop :=
  t = s ∨ ∃ action events next, Step s action events next ∧ t = next.record events

/-- What a stream can become. -/
inductive Becomes (s : Stream) : Stream → Prop
  | refl : Becomes s s
  | step {t action events next} (earlier : Becomes s t) (step : Step t action events next) :
      Becomes s (next.record events)

variable {s t u : Stream}

theorem Stays.becomes (stays : Stays s t) : Becomes s t := by
  obtain rfl | ⟨action, events, next, step, rfl⟩ := stays
  · exact .refl
  · exact .step .refl step

theorem Becomes.trans (first : Becomes s t) (second : Becomes t u) : Becomes s u := by
  induction second with
  | refl => exact first
  | step _ step ih => exact .step ih step

theorem Becomes.sound (becomes : Becomes s t) (sound : s.Sound) : t.Sound := by
  induction becomes with
  | refl => exact sound
  | step _ step ih => exact ih.step step

theorem Becomes.history (becomes : Becomes s t) : ∃ more, t.history = s.history ++ more := by
  induction becomes with
  | refl => exact ⟨[], (List.append_nil _).symm⟩
  | @step _ _ events _ _ step ih =>
    obtain ⟨more, history⟩ := ih
    exact ⟨more ++ events, by rw [step.record_history, history, List.append_assoc]⟩

/-- A stream that is done stays done, with an empty table and the same cause, and only takes items into
its queue. -/
theorem Becomes.rests (becomes : Becomes s t) (sound : s.Sound) (done : s.run = .done) :
    t.run = .done ∧ t.inFlight = [] ∧ t.cause = s.cause ∧
      ∃ items : List Item, t.history = s.history ++ items.map .entered := by
  induction becomes with
  | refl => exact ⟨done, sound.coherent.drained (.inr done), rfl, [], (List.append_nil _).symm⟩
  | step earlier step ih =>
    obtain ⟨run, -, cause, items, history⟩ := ih
    obtain ⟨run', inFlight, cause', -, silent⟩ := (earlier.sound sound).coherent.done_step run step
    refine ⟨run', inFlight, cause'.trans cause, ?_⟩
    rw [step.record_history, history]
    obtain rfl | ⟨item, rfl⟩ := silent
    · exact ⟨items, List.append_nil _⟩
    · exact ⟨items ++ [item], by simp⟩

theorem idle_entered (items : List Item) : Event.Idle (items.map .entered) := by
  intro event isEvent
  obtain ⟨item, -, rfl⟩ := List.mem_map.mp isEvent
  rfl

theorem Becomes.done (becomes : Becomes s t) (sound : s.Sound) (done : s.run = .done) :
    t.run = .done ∧ t.inFlight = [] ∧ t.cause = s.cause ∧
      Event.answers t.history = Event.answers s.history := by
  obtain ⟨run, inFlight, cause, items, history⟩ := becomes.rests sound done
  refine ⟨run, inFlight, cause, ?_⟩
  rw [history, Event.answers_append, Event.answers_of_idle (idle_entered items), List.append_nil]

theorem Becomes.sentBatches_done (becomes : Becomes s t) (sound : s.Sound) (done : s.run = .done) :
    Event.sentBatches t.history = Event.sentBatches s.history := by
  obtain ⟨-, -, -, items, history⟩ := becomes.rests sound done
  rw [history, Event.sentBatches_append, Event.sentBatches_of_idle (idle_entered items),
    List.append_nil]

theorem Becomes.registrations_done (becomes : Becomes s t) (sound : s.Sound) (done : s.run = .done) :
    Event.registrations t.history = Event.registrations s.history := by
  obtain ⟨-, -, -, items, history⟩ := becomes.rests sound done
  rw [history, Event.registrations_append, Event.registrations_of_idle (idle_entered items),
    List.append_nil]

theorem record_nil (s : Stream) : s.record [] = s := by
  unfold record
  rw [List.append_nil]

theorem stays_cancelParent (s : Stream) : Stays s { s with parentCanceled := true } :=
  .inr ⟨_, _, _, .parentCanceled, (record_nil _).symm⟩

end Stream

end TelemetryStreams
