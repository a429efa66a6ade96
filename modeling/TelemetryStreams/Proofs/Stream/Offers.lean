import TelemetryStreams.Proofs.Stream.Phases

/-!
# Offers of a stream

The writer offers its stream before it waits, and withdraws it when it stops waiting without an item.
A writer that ends while it has an item at hand withdraws nothing (`Step.offers_cases`). One that has
ended never offers its stream again (`Coherent.hasEnded_step`).
-/
namespace TelemetryStreams

/-- Whether the writer has come to its end. -/
def WriterPhase.HasEnded : WriterPhase → Prop
  | .ended _ | .brokeDown => True
  | _ => False

def WriterPhase.IsAtWork : WriterPhase → Prop
  | .encoding .. | .sending .. => True
  | _ => False

instance : DecidablePred WriterPhase.HasEnded
  | .ended _ | .brokeDown => .isTrue trivial
  | .absent | .offering | .waiting | .encoding .. | .sending .. => .isFalse id

instance : DecidablePred WriterPhase.IsAtWork
  | .encoding .. | .sending .. => .isTrue trivial
  | .absent | .offering | .waiting | .ended _ | .brokeDown => .isFalse id

namespace Event

/-- Whether an event only reports something: a log, the end of a span, a size or an answer. -/
def isReport : Event → Bool
  | .spanEnded .. | .answered .. | .measured _ | .logged _ => true
  | _ => false

def Reports (events : List Event) : Prop := ∀ event ∈ events, event.isReport = true

/-- Whether an event is a report, or tells which span starts or who is in the queue. -/
def isAside : Event → Bool
  | .entered _ | .spanStarted _ => true
  | event => event.isReport

def Aside (events : List Event) : Prop := ∀ event ∈ events, event.isAside = true

theorem Reports.aside {events : List Event} (reports : Reports events) : Aside events := by
  intro event isEvent
  have report := reports event isEvent
  cases event <;> first | rfl | exact report

theorem reports_spanEnds (s : Stream) (span : SendSpan) (failure : Option String) :
    Reports (s.spanEnds span failure) := by
  unfold Stream.spanEnds Reports
  split <;> simp [isReport]

theorem reports_encodeLog (failure : EncodeError) : Reports (Stream.encodeLog failure) := by
  cases failure <;> simp [Stream.encodeLog, Reports, isReport]

theorem reports_measurement (s : Stream) (item : Item) : Reports (s.measurement item) := by
  unfold Stream.measurement Reports
  split <;> simp [isReport]

theorem reports_displacement (table : InFlight) (id : Int64) :
    Reports (Stream.displacement table id) := by
  unfold Stream.displacement Reports
  split <;> simp [isReport]

theorem reports_endLogs (read written : Except Error Unit) :
    Reports (Stream.endLogs read written) := by
  cases written <;> simp [Stream.endLogs, Reports, isReport]

theorem reports_release (rows : InFlight) : Reports (rows.flatMap Stream.release) := by
  intro event isEvent
  obtain ⟨row, -, isEvent⟩ := List.mem_flatMap.mp isEvent
  have kind : event = .logged (.releasing row.1) ∨
      event = .answered row.2 (.error .streamRestarting) := by simpa [Stream.release] using isEvent
  obtain rfl | rfl := kind
  · rfl
  · rfl

theorem aside_takeEvents (s : Stream) (number : Nat) (item : Item) :
    Aside (s.takeEvents number item) := by
  unfold Stream.takeEvents
  intro event isEvent
  obtain started | entered := List.mem_append.mp isEvent
  · split at started
    · rw [List.mem_singleton.mp started]
      rfl
    · cases started
  · obtain ⟨other, -, rfl⟩ := List.mem_map.mp entered
    rfl

def isOffer : Event → Bool
  | .offered | .withdrawn => true
  | _ => false

def offers (events : List Event) : List Event := events.filter isOffer

@[simp] theorem offers_append (a b : List Event) : offers (a ++ b) = offers a ++ offers b :=
  List.filter_append ..

theorem offers_of_aside {events : List Event} (aside : Aside events) : offers events = [] := by
  refine List.filter_eq_nil_iff.mpr fun event isEvent => ?_
  have reports := aside event isEvent
  cases event <;> simp_all [isAside, isReport, isOffer]

end Event

namespace Stream

variable {s next : Stream} {action : Action} {events : List Event}

/-- How a step changes whether the stream is ready: it is offered, or withdrawn as the writer ends, or
nothing changes, and then the writer ends only with an item at hand. -/
theorem Step.offers_cases (step : Step s action events next) :
    (s.writer = .offering ∧ next.writer = .waiting ∧ Event.offers events = [.offered]) ∨
    (s.writer = .waiting ∧ next.writer.HasEnded ∧ Event.offers events = [.withdrawn]) ∨
    Event.offers events = [] ∧
      (next.writer.HasEnded → ¬ s.writer.HasEnded → s.writer.IsAtWork) := by
  cases step with
  | offered offering => exact .inl ⟨offering, rfl, rfl⟩
  | expired waiting | quit waiting => exact .inr (.inl ⟨waiting, trivial, rfl⟩)
  | @taken env item =>
    have silent := Event.offers_of_aside (Event.aside_takeEvents s env.nextSpan item)
    exact .inr (.inr ⟨silent, nofun⟩)
  | notEncoded encoding =>
    refine .inr (.inr ⟨?_, fun _ _ => ?_⟩)
    · simp only [Event.offers_append, Event.offers_of_aside (Event.reports_encodeLog _).aside,
        Event.offers_of_aside (Event.reports_spanEnds _ _ _).aside]
      rfl
    · rw [encoding]
      trivial
  | @encoded env item span batch =>
    have silent := Event.offers_of_aside (Event.reports_displacement s.inFlight batch.id).aside
    refine .inr (.inr ⟨?_, nofun⟩)
    rw [Event.offers_append, Event.offers_of_aside (Event.reports_measurement _ _).aside,
      List.append_nil]
    exact silent
  | notSent sending =>
    refine .inr (.inr ⟨?_, fun _ _ => ?_⟩)
    · rw [Event.offers_append, Event.offers_of_aside (Event.reports_spanEnds _ _ _).aside]
      rfl
    · rw [sending]
      trivial
  | sinkBroke sending =>
    refine .inr (.inr ⟨rfl, fun _ _ => ?_⟩)
    rw [sending]
    trivial
  | @sent env batch span =>
    have silent := Event.offers_of_aside (Event.reports_spanEnds s span none).aside
    exact .inr (.inr ⟨silent, nofun⟩)
  | opened => exact .inr (.inr ⟨rfl, nofun⟩)
  | @joined env read written =>
    have silent := Event.offers_of_aside (Event.reports_endLogs read written).aside
    exact .inr (.inr ⟨silent, fun ended works => absurd ended works⟩)
  | swept =>
    have silent := Event.offers_of_aside (Event.reports_release s.inFlight.byId).aside
    exact .inr (.inr ⟨silent, fun ended works => absurd ended works⟩)
  | _ => exact .inr (.inr ⟨rfl, fun ended works => absurd ended works⟩)

/-- A step that offers or withdraws its stream leaves what waits for the writer alone. -/
theorem Step.queue_of_offers (step : Step s action events next)
    (some : Event.offers events ≠ []) : next.queue = s.queue ∧ next.senders = s.senders := by
  cases step with
  | @taken env item =>
    exact absurd (Event.offers_of_aside (Event.aside_takeEvents s env.nextSpan item)) some
  | entered | linedUp | left => exact absurd rfl some
  | _ => exact ⟨rfl, rfl⟩

theorem Coherent.hasEnded_step (coherent : s.Coherent) (ended : s.writer.HasEnded)
    (step : Step s action events next) : next.writer.HasEnded := by
  cases step with
  | opened starting =>
    rw [(coherent.early (.inr (.inl starting))).1] at ended
    cases ended
  | offered busy | taken busy | encoded busy | sent busy => rw [busy] at ended; cases ended
  | expired | quit | notEncoded | notSent | sinkBroke => trivial
  | _ => exact ended

end Stream

end TelemetryStreams
