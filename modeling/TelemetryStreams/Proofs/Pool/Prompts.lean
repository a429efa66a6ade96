import TelemetryStreams.Proofs.Pool.Run

/-!
# What an action is for one stream

An action of a pool reaches a stream in at most two ways: the stream makes one step with it, of a
kind that the action tells (`Prompts`), and all streams may be asked to end, which is asked for
expressly or happens when nobody holds the pool any more (`Reaches`). Nothing else of the pool has a
hand in what a stream does (`perform_reaches`), so whatever a stream is after an action, it has been
reached so or has just been started (`perform_stream_cases`).
-/
namespace TelemetryStreams.Pool

/-- The step that an action is for the stream at a place. -/
inductive Prompts (p : Pool) (stream : Nat) : Action → Stream.Action → Prop
  | moved (move : Move) : Prompts p stream (.stream stream move) (.move move p.surroundings)
  | started : Prompts p stream (.run stream) .start
  | delivered {call message} (serves : p.streamOf? call = some stream) :
      Prompts p stream (.deliver call message) (.deliver message)
  | modeSet {call mode} : Prompts p stream (.setMode call mode) (.setMode mode)
  | submitted {action caller item} (own : action.caller? = some caller)
      (mine : item.ticket = caller) : Prompts p stream action (.submit item)
  | left {action caller} (own : action.caller? = some caller) : Prompts p stream action (.leave caller)

def Action.isEnd : Action → Bool
  | .cancel | .beginShutdown _ => true
  | _ => false

/-- The stream at a place makes at most one step with an action. -/
def Prompted (p : Pool) (stream : Nat) (action : Action) (s t : Stream) : Prop :=
  t = s ∨ ∃ prompted events next, Prompts p stream action prompted ∧
    Stream.Step s prompted events next ∧ t = next.record events

/-- The stream at a place after an action: it has made at most one step, and may have been asked to
end. -/
def Reaches (p q : Pool) (stream : Nat) (action : Action) (s t : Stream) : Prop :=
  ∃ r, Prompted p stream action s r ∧
    (t = r ∨ t = { r with parentCanceled := true } ∧ (action.isEnd = true ∨ q.held = false))

variable {p q r : Pool} {action : Action} {caller stream other : Nat} {s t u next : Stream}
  {events : List Event} {prompted : Stream.Action} {c : Caller}

theorem Prompted.stays (made : Prompted p stream action s t) : Stream.Stays s t := by
  obtain rfl | ⟨prompted, events, next, -, step, rfl⟩ := made
  · exact .inl rfl
  · exact .inr ⟨prompted, events, next, step, rfl⟩

theorem prompted_set (isOther : p.streams[other]? = some u) (prompts : Prompts p other action prompted)
    (step : Stream.Step u prompted events next) (isStream : p.streams[stream]? = some s) :
    ∃ t, (p.streams.set other (next.record events))[stream]? = some t ∧
      Prompted p stream action s t := by
  by_cases same : other = stream
  · subst same
    obtain rfl := Option.some.inj (isOther.symm.trans isStream)
    exact ⟨_, getElem?_set_self isStream, .inr ⟨_, _, _, prompts, step, rfl⟩⟩
  · exact ⟨s, by rw [List.getElem?_set_ne same, isStream], .inl rfl⟩

theorem cancel_getElem? (isStream : p.streams[stream]? = some s) :
    p.cancel.streams[stream]? = some { s with parentCanceled := true } := by
  simp [cancel, isStream]

theorem reaches_endIfAbandoned (isStream : q.streams[stream]? = some t)
    (made : Prompted p stream action s t) :
    ∃ u, q.endIfAbandoned.streams[stream]? = some u ∧
      Reaches p q.endIfAbandoned stream action s u := by
  unfold endIfAbandoned
  split
  case isTrue abandoned =>
    have unheld : q.held = false := by
      simp only [isAbandoned, Bool.and_eq_true, Bool.not_eq_true'] at abandoned
      exact abandoned.1.1
    exact ⟨_, cancel_getElem? isStream, t, made, .inr ⟨rfl, .inr unheld⟩⟩
  case isFalse => exact ⟨t, isStream, t, made, .inl rfl⟩

theorem Prompted.reaches (made : Prompted p stream action s t) : Reaches p q stream action s t :=
  ⟨t, made, .inl rfl⟩

/-- The stream of a call makes the step, if any does. -/
theorem onCall_serves {call : Nat} (made : p.onCall call prompted = some q) :
    q = p ∨ ∃ stream s next events, p.streamOf? call = some stream ∧ p.streams[stream]? = some s ∧
      Stream.Step s prompted events next ∧ q = p.afterMove stream next events := by
  unfold onCall at made
  split at made
  · cases made
  · split at made
    case h_1 stream serves =>
      obtain ⟨s, next, events, isStream, step, rfl⟩ := onStream_cases made
      exact .inr ⟨stream, s, next, events, serves, isStream, step, rfl⟩
    case h_2 => exact .inl (Option.some.inj made).symm

theorem Acts.reaches (own : action.caller? = some caller) (acts : Acts p caller c q)
    (isStream : p.streams[stream]? = some s) :
    ∃ t, q.streams[stream]? = some t ∧ Reaches p q stream action s t := by
  have still : Prompted p stream action s s := .inl rfl
  cases acts with
  | moves | returns | takes => exact ⟨s, isStream, still.reaches⟩
  | @hands at_ u bound metadata submitting isOther =>
    obtain ⟨t, isStream, made⟩ := prompted_set isOther (.submitted own rfl)
      (Stream.submit_cases (p.itemOf caller c metadata)) isStream
    exact ⟨t, isStream, made.reaches⟩
  | withdraws queued isOther =>
    obtain ⟨t, isStream, made⟩ := prompted_set isOther (.left own) .left isStream
    exact ⟨t, isStream, made.reaches⟩

/-- What an action is for the stream at a place. -/
theorem perform_reaches (permitted : p.permits action = true) (made : p.perform action = some q)
    (isStream : p.streams[stream]? = some s) :
    ∃ t, q.streams[stream]? = some t ∧ Reaches p q stream action s t := by
  have still : Prompted p stream action s s := .inl rfl
  have moves {other : Nat} {u next : Stream} {events : List Event} {prompted : Stream.Action}
      (isOther : p.streams[other]? = some u) (prompts : Prompts p other action prompted)
      (step : Stream.Step u prompted events next) :
      ∃ t, (p.afterMove other next events).streams[stream]? = some t ∧
        Prompted p stream action s t := by
    rw [afterMove_streams]
    exact prompted_set isOther prompts step isStream
  have delivers {call : Nat} {message : Incoming} (same : action = .deliver call message) :
      ∃ t, q.streams[stream]? = some t ∧ Reaches p q stream action s t := by
    subst same
    obtain rfl | ⟨_, u, next, events, serves, isOther, step, rfl⟩ := onCall_serves made
    · exact ⟨s, isStream, still.reaches⟩
    · obtain ⟨t, isStream, prompted⟩ := moves isOther (.delivered serves) step
      exact ⟨t, isStream, prompted.reaches⟩
  cases perform_turn made with
  | moved isOther step =>
    obtain ⟨t, isStream, prompted⟩ := moves isOther (.moved _) step
    exact ⟨t, isStream, prompted.reaches⟩
  | started isOther step =>
    obtain ⟨t, isStream, prompted⟩ := moves isOther .started step
    exact ⟨t, isStream, prompted.reaches⟩
  | restarted isOther again => simp [permits, isOther, again] at permitted
  | delivered | undelivered => exact delivers rfl
  | modeSet isOther step =>
    obtain ⟨t, isStream, prompted⟩ := moves isOther .modeSet step
    exact ⟨t, isStream, prompted.reaches⟩
  | acts own isCaller acts => exact acts.reaches own isStream
  | proceeds proceeds =>
    cases proceeds with
    | starts =>
      have inside := (List.getElem?_eq_some_iff.mp isStream).1
      exact ⟨s, (List.getElem?_append_left inside).trans isStream, still.reaches⟩
    | givesUp =>
      refine ⟨s, ?_, still.reaches⟩
      unfold giveUp
      dsimp only
      split <;> exact isStream
    | stops | resumes | retires | breaks => exact ⟨s, isStream, still.reaches⟩
  | began => exact ⟨_, cancel_getElem? isStream, s, still, .inr ⟨rfl, .inl rfl⟩⟩
  | canceled => exact ⟨_, cancel_getElem? isStream, s, still, .inr ⟨rfl, .inl rfl⟩⟩
  | parted | dropped | letGo => exact reaches_endIfAbandoned isStream still
  | modeUnset | arrived | contextEnded | glanced | asked | returned | advanced =>
    exact ⟨s, isStream, still.reaches⟩

theorem perform_new (permitted : p.permits action = true) (made : p.perform action = some q)
    (isStream : q.streams[stream]? = some t) (new : p.streams[stream]? = none) :
    t = p.startedStream ∨ t = { p.startedStream with parentCanceled := true } := by
  obtain ⟨r, change, trails⟩ := perform_cases permitted made
  obtain ⟨s, isStarted⟩ := trails.old isStream
  have started : s = p.startedStream := by
    obtain rfl | change := change
    · rw [new] at isStarted
      cases isStarted
    · exact change.started isStarted new
  obtain same | all := trails.streams
  · rw [same, isStarted] at isStream
    exact .inl ((Option.some.inj isStream).symm.trans started)
  · rw [all, List.getElem?_map, isStarted] at isStream
    exact .inr (started ▸ (Option.some.inj isStream).symm)

/-- Where a stream comes from that is there after an action. -/
theorem perform_stream_cases (permitted : p.permits action = true) (made : p.perform action = some q)
    (isStream : q.streams[stream]? = some t) :
    (t = p.startedStream ∨ t = { p.startedStream with parentCanceled := true }) ∨
      ∃ s, p.streams[stream]? = some s ∧ Reaches p q stream action s t := by
  cases before : p.streams[stream]? with
  | none => exact .inl (perform_new permitted made isStream before)
  | some s =>
    obtain ⟨u, isStream', reaches⟩ := perform_reaches permitted made before
    obtain rfl := Option.some.inj (isStream.symm.trans isStream')
    exact .inr ⟨s, rfl, reaches⟩

end TelemetryStreams.Pool
