import TelemetryStreams.Proofs.Pool.Turns

/-!
# The changes of a step

A step of a pool makes at most one change that matters to callers and streams (`Change`): a stream
moves, a stream is added, a caller comes, a caller moves on, perhaps taking a ready stream, handing
over its item or withdrawing it, the share of one is let go, or ready streams are lost to others. What
may follow in the same step (`Trails`) moves no caller: all streams are asked to end, and the rest of
the pool is brought up to date. Every step that is possible is of this form (`perform_cases`).
-/
namespace TelemetryStreams.Pool

/-- The changes that matter to callers and streams. -/
inductive Change (p : Pool) : Pool → Prop
  | moved {stream s action events next} (isStream : p.streams[stream]? = some s)
      (unsubmitted : ∀ item, action ≠ .submit item) (stayed : ∀ ticket, action ≠ .leave ticket)
      (step : Stream.Step s action events next) : Change p (p.afterMove stream next events)
  | grown : Change p { p with streams := p.streams ++ [{ p.newStream with run := .starting }] }
  | arrived {c} (arriving : c.phase = .arriving) (untold : c.reply = none) :
      Change p { p with callers := p.callers ++ [c] }
  | callerCanceled {caller} :
      Change p (p.updateCaller caller fun c => { c with canceled := true })
  | parted {caller c} (isCaller : p.callers[caller]? = some c) (done : c.isDone = true) :
      Change p (p.updateCaller caller fun c => { c with holds := false })
  | advanced {time} : Change p { p with now := p.now + time }
  | phased {caller c phase} (isCaller : p.callers[caller]? = some c)
      (moves : Moves p caller c phase) : Change p (p.setPhase caller phase)
  | took {caller c stream metadata prioritizer} (isCaller : p.callers[caller]? = some c)
      (looking : Looking c) (alive : p.canceled = false)
      (first : p.prioritizer.ready = stream :: prioritizer.ready)
      (brought : c.phase.metadata? = some metadata) :
      Change p (setPhase { p with prioritizer := prioritizer } caller
        (.submitting stream false metadata))
  | handed {caller c stream s bound metadata} (isCaller : p.callers[caller]? = some c)
      (submitting : c.phase = .submitting stream bound metadata)
      (isStream : p.streams[stream]? = some s) (alive : bound = true → c.IsLive p.now)
      (untold : s.cause = none) :
      Change p (setPhase { p with
        streams := p.streams.set stream ((s.submit (p.itemOf caller c metadata)).1.record
          (s.submit (p.itemOf caller c metadata)).2) } caller
        (if s.queue = [] then .awaiting stream else .queued stream bound))
  | withdrew {caller c stream s bound error} (isCaller : p.callers[caller]? = some c)
      (queued : c.phase = .queued stream bound) (isStream : p.streams[stream]? = some s)
      (reason : bound = true ∧ c.Ends p.now error ∨
        (bound = true → c.IsLive p.now) ∧ s.cause = some error) :
      Change p (setPhase { p with
        streams := p.streams.set stream ((s.leave caller).record []) } caller
        (.done (.error error)))
  | glanced {stream prioritizer} (first : p.prioritizer.ready = stream :: prioritizer.ready) :
      Change p { p with prioritizer := prioritizer }
  | downgraded {prioritizer} (empty : prioritizer.ready = []) :
      Change p { p with prioritizer := prioritizer }

/-- What may follow a change in the same step. -/
structure Trails (p q : Pool) : Prop where
  setup : q.setup = p.setup
  now : q.now = p.now
  callers : q.callers = p.callers
  streams : q.streams = p.streams ∨
    q.streams = p.streams.map fun s => { s with parentCanceled := true }
  canceled : p.canceled = true → q.canceled = true
  ready : q.prioritizer.ready = p.prioritizer.ready

variable {p q r : Pool}

theorem Trails.refl (p : Pool) : Trails p p :=
  ⟨rfl, rfl, rfl, .inl rfl, id, rfl⟩

theorem Trails.trans (first : Trails p q) (second : Trails q r) : Trails p r where
  setup := second.setup.trans first.setup
  now := second.now.trans first.now
  callers := second.callers.trans first.callers
  streams := by
    obtain same | all := second.streams
    · rw [same]
      exact first.streams
    · obtain same | all' := first.streams
      · rw [all, same]
        exact .inr rfl
      · rw [all, all', List.map_map]
        exact .inr rfl
  canceled canceled := second.canceled (first.canceled canceled)
  ready := second.ready.trans first.ready

theorem trails_cancel (p : Pool) : Trails p p.cancel :=
  ⟨rfl, rfl, rfl, .inr rfl, fun _ => rfl, rfl⟩

/-- What the end changes nothing about is the same whether or not it is asked for. -/
theorem view_endIfAbandoned {σ : Type} (view : Pool → σ) (still : ∀ p : Pool, view p.cancel = view p)
    (p : Pool) : view p.endIfAbandoned = view p := by
  unfold endIfAbandoned
  split
  · exact still p
  · rfl

theorem trails_endIfAbandoned (p : Pool) : Trails p p.endIfAbandoned := by
  unfold endIfAbandoned
  split
  · exact trails_cancel p
  · exact Trails.refl p

/-- A step: at most one change, and what follows. -/
def Changes (p q : Pool) : Prop := ∃ r, (r = p ∨ Change p r) ∧ Trails r q

theorem Trails.changes (trails : Trails p q) : Changes p q := ⟨p, .inl rfl, trails⟩

theorem Change.changes (change : Change p q) : Changes p q := ⟨q, .inr change, Trails.refl q⟩

theorem Changes.trans (changes : Changes p q) (trails : Trails q r) : Changes p r := by
  obtain ⟨middle, change, first⟩ := changes
  exact ⟨middle, change, first.trans trails⟩

/-- What does not concern callers and streams. -/
theorem trails_of_eq (setup : q.setup = p.setup) (now : q.now = p.now)
    (callers : q.callers = p.callers) (streams : q.streams = p.streams)
    (canceled : q.canceled = p.canceled)
    (ready : q.prioritizer.ready = p.prioritizer.ready) : Trails p q :=
  ⟨setup, now, callers, .inl streams, fun was => canceled.trans was, ready⟩

/-! ### Single turns -/

section
variable {caller controller stream : Nat} {c : Caller} {s next : Stream} {events : List Event}

theorem changes_afterMove {action : Stream.Action} (isStream : p.streams[stream]? = some s)
    (step : Stream.Step s action events next) (unsubmitted : ∀ item, action ≠ .submit item)
    (stayed : ∀ ticket, action ≠ .leave ticket) : Changes p (p.afterMove stream next events) :=
  (Change.moved isStream unsubmitted stayed step).changes

theorem Acts.changes (acts : Acts p caller c q) (isCaller : p.callers[caller]? = some c) :
    Changes p q := by
  cases acts with
  | moves moves undone same =>
    have change := (Change.phased isCaller moves).changes
    exact change.trans (trails_of_eq rfl rfl rfl rfl rfl same.ready)
  | returns returns same =>
    have change := (Change.phased isCaller (.returns returns)).changes
    exact change.trans (trails_of_eq rfl rfl rfl rfl rfl same.ready)
  | takes looking alive first _ brought =>
    exact (Change.took isCaller looking alive first brought).changes
  | hands submitting isStream alive untold =>
    exact (Change.handed isCaller submitting isStream alive untold).changes
  | withdraws queued isStream reason =>
    exact (Change.withdrew isCaller queued isStream reason).changes

theorem trails_setController (p : Pool) (controller : Nat) (phase : ControllerPhase) :
    Trails p (p.setController controller phase) :=
  trails_of_eq rfl rfl rfl rfl rfl rfl

theorem changes_giveUp (p : Pool) (controller : Nat) : Changes p (p.giveUp controller) := by
  unfold giveUp
  simp only
  split
  · have change : Change p { p with prioritizer := p.prioritizer.downgrade } := .downgraded rfl
    exact change.changes.trans (trails_of_eq rfl rfl rfl rfl rfl rfl)
  · exact Trails.changes (trails_of_eq rfl rfl rfl rfl rfl rfl)

theorem Proceeds.changes (proceeds : Proceeds p controller q) : Changes p q := by
  cases proceeds with
  | starts => exact Change.grown.changes.trans (trails_setController ..)
  | givesUp => exact changes_giveUp ..
  | stops | resumes | retires | breaks => exact (trails_setController ..).changes

end

theorem ready_glance (prioritizer : Prioritizer) (caller : Nat) :
    (∃ stream, prioritizer.ready = stream :: (prioritizer.glance caller).2.ready) ∨
      (prioritizer.glance caller).2.ready = prioritizer.ready := by
  obtain ⟨stream, found, first⟩ | ⟨found | found, none, left⟩ := Prioritizer.look_cases prioritizer caller
  · refine .inl ⟨stream, ?_⟩
    unfold Prioritizer.glance
    split
    case h_1 after look => rw [look] at found; cases found
    case h_2 => exact first
  · refine .inr ?_
    unfold Prioritizer.glance
    split
    case h_1 after look => rw [look] at found; cases found
    case h_2 => rw [left, none]
  · refine .inr ?_
    unfold Prioritizer.glance
    split
    case h_1 after look =>
      rw [look] at left
      rw [(Prioritizer.agrees_leave _ _).ready, left, none]
    case h_2 => rw [left, none]

/-! ### All steps -/

/-- Whether an action runs no stream again that has ended. A stream is run once. -/
def permits (p : Pool) : Action → Bool
  | .run stream => p.streams[stream]?.all fun s => s.rerun.isNone
  | _ => true

theorem perform_cases {action : Action} (permitted : p.permits action = true)
    (made : p.perform action = some q) : Changes p q := by
  cases perform_turn made with
  | moved isStream step =>
    have changes := changes_afterMove isStream step (fun _ => nofun) (fun _ => nofun)
    exact changes.trans (trails_of_eq rfl rfl rfl rfl rfl rfl)
  | started isStream step => exact changes_afterMove isStream step (fun _ => nofun) (fun _ => nofun)
  | restarted isStream again => simp [permits, isStream, again] at permitted
  | delivered isStream step =>
    exact changes_afterMove isStream step (fun _ => nofun) (fun _ => nofun)
  | modeSet isStream step => exact changes_afterMove isStream step (fun _ => nofun) (fun _ => nofun)
  | undelivered | modeUnset => exact (Trails.refl p).changes
  | arrived arriving untold => exact (Change.arrived arriving untold).changes
  | contextEnded => exact Change.callerCanceled.changes
  | acts own isCaller acts => exact acts.changes isCaller
  | parted isCaller done =>
    exact (Change.parted isCaller done).changes.trans (trails_endIfAbandoned _)
  | glanced =>
    obtain ⟨stream, first⟩ | same := ready_glance p.prioritizer p.callers.length
    · exact (Change.glanced first).changes
    · exact Trails.changes (trails_of_eq rfl rfl rfl rfl rfl same)
  | proceeds proceeds => exact proceeds.changes
  | asked | returned => exact Trails.changes (trails_of_eq rfl rfl rfl rfl rfl rfl)
  | began =>
    refine (trails_cancel p).changes.trans ?_
    exact trails_of_eq rfl rfl rfl rfl rfl rfl
  | dropped =>
    refine (Trails.changes ?_).trans (trails_endIfAbandoned _)
    exact trails_of_eq rfl rfl rfl rfl rfl rfl
  | advanced => exact Change.advanced.changes
  | canceled => exact (trails_cancel p).changes
  | letGo =>
    refine (Trails.changes ?_).trans (trails_endIfAbandoned _)
    exact trails_of_eq rfl rfl rfl rfl rfl rfl

end TelemetryStreams.Pool
