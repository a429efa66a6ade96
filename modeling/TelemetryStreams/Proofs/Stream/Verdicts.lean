import TelemetryStreams.Proofs.Stream.Runs
import TelemetryStreams.Proofs.Stream.Offers

/-!
# What a stream has learned of its endpoint

A stream is established when its call is opened, and it is known better only when the peer ends the
call with a status that says so. Two kinds of events decide this (`Event.verdicts`), and at most one
of each kind happens; which have happened goes with the phase of the stream (`Judged`). So a stream
that is done is established exactly if its call was opened and did not end that way
(`Judged.established_iff`).
-/
namespace TelemetryStreams

namespace Event

/-- Whether an event tells how the endpoint takes calls: one was opened, or failed. -/
def isVerdict : Event → Bool
  | .opened _ | .received (.failed _) => true
  | _ => false

def verdicts (events : List Event) : List Event := events.filter isVerdict

@[simp] theorem verdicts_append (a b : List Event) : verdicts (a ++ b) = verdicts a ++ verdicts b :=
  List.filter_append ..

theorem verdicts_of_aside {events : List Event} (aside : Aside events) : verdicts events = [] := by
  refine List.filter_eq_nil_iff.mpr fun event isEvent => ?_
  have reports := aside event isEvent
  cases event <;> simp_all [isAside, isReport, isVerdict]

end Event

/-- What a phase and its events say about the endpoint: whether it is known to accept the protocol.
-/
inductive Judgment : RunPhase → Bool → List Event → Prop
  | early {run} (early : run.IsEarly) : Judgment run false []
  | reading (call : Nat) : Judgment .reading true [.opened call]
  | brokeDown (call : Nat) : Judgment .brokeDown true [.opened call]
  | ended (call : Nat) {read} (other : (Stream.readerEnd read).2 = true) :
      Judgment (.joining read) true [.opened call]
  | failed (call : Nat) (status : Status) : Judgment (.joining (.error (.status status))) true
      [.opened call, .received (.failed status)]
  | refused {run} (late : run.IsLate) : Judgment run false []
  | accepted (call : Nat) {run} (late : run.IsLate) : Judgment run true [.opened call]
  | judged (call : Nat) (status : Status) {run} (late : run.IsLate) :
      Judgment run (decide (status.code ≠ .unimplemented))
        [.opened call, .received (.failed status)]

variable {run next : RunPhase} {established : Bool} {events : List Event}

theorem Judgment.of_early (judgment : Judgment run established events) (early : run.IsEarly) :
    established = false ∧ events = [] := by
  have apart : ¬ run.IsLate := by
    rintro (late | late | late) <;> simp [late, RunPhase.IsEarly] at early
  cases judgment with
  | early | refused => exact ⟨rfl, rfl⟩
  | reading | brokeDown | ended | failed => simp [RunPhase.IsEarly] at early
  | accepted _ late | judged _ _ late => exact absurd late apart

theorem Judgment.of_reading (judgment : Judgment .reading established events) :
    established = true ∧ ∃ call, events = [.opened call] := by
  cases judgment with
  | reading call => exact ⟨rfl, call, rfl⟩
  | early early => simp [RunPhase.IsEarly] at early
  | refused late | accepted _ late | judged _ _ late => simp [RunPhase.IsLate] at late

theorem Judgment.joins {read : Except Error Unit}
    (judgment : Judgment (.joining read) established events) (late : next.IsLate) :
    Judgment next (established && (Stream.readerEnd read).2) events := by
  cases judgment with
  | ended call other => rw [other]; exact .accepted call late
  | failed call status =>
    have same : (true && (Stream.readerEnd (.error (.status status))).2) =
        decide (status.code ≠ .unimplemented) := by
      unfold Stream.readerEnd
      by_cases unknown : status.code = .unimplemented <;> simp [unknown]
    rw [same]
    exact .judged call status late
  | early early => simp [RunPhase.IsEarly] at early
  | refused late | accepted _ late | judged _ _ late => simp [RunPhase.IsLate] at late

/-- Nothing is learned on the way from the end of both directions to the end of the stream. -/
theorem Judgment.ends (judgment : Judgment run established events) (late : run.IsLate)
    (late' : next.IsLate) : Judgment next established events := by
  cases judgment with
  | early early => rcases late with late | late | late <;> simp [late, RunPhase.IsEarly] at early
  | reading | brokeDown | ended | failed => simp [RunPhase.IsLate] at late
  | refused => exact .refused late'
  | accepted call => exact .accepted call late'
  | judged call status => exact .judged call status late'

namespace Stream

def Judged (s : Stream) : Prop := Judgment s.run s.established (Event.verdicts s.history)

variable {s next : Stream} {action : Action} {events : List Event}

theorem Judged.quiet (judged : s.Judged) (step : Step s action events next)
    (silent : Event.verdicts events = [])
    (follows : Judgment s.run s.established (Event.verdicts s.history) →
      Judgment next.run next.established (Event.verdicts s.history)) :
    (next.record events).Judged := by
  unfold Judged
  rw [step.record_history, Event.verdicts_append, silent, List.append_nil]
  exact follows judged

theorem Judged.notOpened (judged : s.Judged) (step : Step s action events next)
    (silent : Event.verdicts events = []) (early : s.run.IsEarly)
    (established : next.established = s.established) (follows : Judgment next.run false []) :
    (next.record events).Judged := by
  refine judged.quiet step silent fun judgment => ?_
  obtain ⟨unknown, none⟩ := judgment.of_early early
  rwa [established, unknown, none]

/-- The reader ends for a reason other than a status of the peer. -/
theorem Judged.stopsReading (judged : s.Judged) (step : Step s action events next)
    (silent : Event.verdicts events = []) (reading : s.run = .reading)
    (established : next.established = s.established) {read : Except Error Unit}
    (joining : next.run = .joining read) (other : (readerEnd read).2 = true) :
    (next.record events).Judged := by
  refine judged.quiet step silent fun judgment => ?_
  rw [reading] at judgment
  obtain ⟨known, call, opened⟩ := judgment.of_reading
  rw [joining, established, known, opened]
  exact .ended call other

theorem Step.quiet_of_run (step : Step s action events next) (same : next.run = s.run) :
    next.established = s.established ∧ Event.verdicts events = [] := by
  cases step with
  | started phase | refused phase | stalled phase | opened phase | readCanceled phase
  | unrecognized phase | unexpected phase | readEnded phase | sourceBroke phase | joined phase
  | swept phase | finished phase => rw [phase] at same; cases same
  | openingCanceled early =>
    obtain ⟨phase, -⟩ | ⟨phase, -⟩ := early
    · rw [phase] at same; cases same
    · rw [phase] at same; cases same
  | @taken env item =>
    have silent := Event.verdicts_of_aside (Event.aside_takeEvents s env.nextSpan item)
    exact ⟨rfl, silent⟩
  | notEncoded =>
    refine ⟨rfl, ?_⟩
    simp only [Event.verdicts_append, Event.verdicts_of_aside (Event.reports_encodeLog _).aside,
      Event.verdicts_of_aside (Event.reports_spanEnds _ _ _).aside]
    rfl
  | @encoded env item span batch =>
    have silent := Event.verdicts_of_aside (Event.reports_displacement s.inFlight batch.id).aside
    refine ⟨rfl, ?_⟩
    rw [Event.verdicts_append, Event.verdicts_of_aside (Event.reports_measurement _ _).aside,
      List.append_nil]
    exact silent
  | notSent =>
    refine ⟨rfl, ?_⟩
    rw [Event.verdicts_append, Event.verdicts_of_aside (Event.reports_spanEnds _ _ _).aside]
    rfl
  | @sent env batch span =>
    have silent := Event.verdicts_of_aside (Event.reports_spanEnds s span none).aside
    exact ⟨rfl, silent⟩
  | _ => exact ⟨rfl, rfl⟩

theorem Judged.step (judged : s.Judged) (step : Step s action events next) :
    (next.record events).Judged := by
  by_cases moves : next.run = s.run
  · obtain ⟨established, silent⟩ := step.quiet_of_run moves
    refine judged.quiet step silent fun judgment => ?_
    rwa [moves, established]
  have made := step
  cases step with
  | started idle => exact judged.notOpened made rfl (.inl idle) rfl (.early (.inr (.inl rfl)))
  | openingCanceled early =>
    have isEarly : s.run.IsEarly := by
      obtain ⟨phase, -⟩ | ⟨phase, -⟩ := early
      · exact .inr (.inl phase)
      · exact .inr (.inr phase)
    exact judged.notOpened made rfl isEarly rfl (.refused (.inr (.inl rfl)))
  | refused starting =>
    exact judged.notOpened made rfl (.inr (.inl starting)) rfl (.refused (.inr (.inl rfl)))
  | stalled starting =>
    exact judged.notOpened made rfl (.inr (.inl starting)) rfl (.early (.inr (.inr rfl)))
  | opened starting =>
    obtain ⟨-, none⟩ := judged.of_early (.inr (.inl starting))
    unfold Judged
    rw [made.record_history, Event.verdicts_append, none]
    exact .reading _
  | readCanceled reading => exact judged.stopsReading made rfl reading rfl rfl rfl
  | unrecognized reading => exact judged.stopsReading made rfl reading rfl rfl rfl
  | unexpected reading => exact judged.stopsReading made rfl reading rfl rfl rfl
  | @readEnded env call message rest result reading called inbox last =>
    cases message with
    | acknowledged | brokeDown => cases last
    | closed =>
      cases last
      exact judged.stopsReading made rfl reading rfl rfl rfl
    | failed status =>
      cases last
      have judgment : Judgment s.run s.established (Event.verdicts s.history) := judged
      rw [reading] at judgment
      obtain ⟨known, call, opened⟩ := judgment.of_reading
      unfold Judged
      rw [made.record_history, Event.verdicts_append, opened]
      change Judgment _ s.established _
      rw [known]
      exact .failed call status
  | sourceBroke reading =>
    refine judged.quiet made rfl fun judgment => ?_
    rw [reading] at judgment
    obtain ⟨known, call, opened⟩ := judgment.of_reading
    simp only [known, opened]
    exact .brokeDown call
  | joined joining =>
    refine judged.quiet made (Event.verdicts_of_aside (Event.reports_endLogs _ _).aside)
      fun judgment => ?_
    rw [joining] at judgment
    exact judgment.joins (.inl rfl)
  | swept sweeping =>
    refine judged.quiet made (Event.verdicts_of_aside (Event.reports_release _).aside) fun judgment => ?_
    exact judgment.ends (.inl sweeping) (.inr (.inl rfl))
  | finished finishing =>
    refine judged.quiet made rfl fun judgment => ?_
    exact judgment.ends (.inr (.inl finishing)) (.inr (.inr rfl))
  | _ => exact absurd rfl moves

/-- A stream that is done is established if its call was opened and the peer did not end it because
it does not know the protocol. -/
theorem Judged.established_iff (judged : s.Judged) (done : s.run = .done) :
    s.established = true ↔ (∃ call, .opened call ∈ s.history) ∧
      ∀ status, .received (.failed status) ∈ s.history → status.code ≠ .unimplemented := by
  have mem_history (event : Event) (isVerdict : event.isVerdict = true) :
      event ∈ s.history ↔ event ∈ Event.verdicts s.history := by
    rw [Event.verdicts, List.mem_filter, and_iff_left isVerdict]
  have opened (call : Nat) := mem_history (.opened call) rfl
  have failed (status : Status) := mem_history (.received (.failed status)) rfl
  simp only [opened, failed]
  have judgment : Judgment s.run s.established (Event.verdicts s.history) := judged
  rw [done] at judgment
  generalize Event.verdicts s.history = events at judgment
  generalize s.established = established at judgment
  cases judgment with
  | early early => simp [RunPhase.IsEarly] at early
  | refused => simp
  | accepted => simp
  | judged => simp

end Stream

end TelemetryStreams
