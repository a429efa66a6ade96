import TelemetryStreams.Proofs.Pool.Joins
import TelemetryStreams.Proofs.Stream.Remaining
import Mathlib.Algebra.GroupWithZero.Nat

/-!
# How a pool comes to rest

Once the end is asked for, each turn of a caller, a stream, a controller or a shutdown leaves less
to do (`Managed.remaining_lt`), so the pool settles after so many turns, in whatever order they are
taken (`Managed.turns_settle`). In the settled state all controllers have exited and nothing is
ready, and every caller has its result, unless its credentials have yet to come or the reader of its
stream broke down (`Managed.atRest`).
-/
namespace TelemetryStreams

/-- How many turns a caller has left once the end is asked for. -/
def CallPhase.remaining : CallPhase → Nat
  | .arriving => 5
  | .fetching _ => 4
  | .submitting .. | .choosing _ | .seeking _ => 3
  | .queued .. => 2
  | .awaiting _ => 1
  | .done _ => 0

/-- The turns of a caller, and the one in which its share is let go. -/
def Caller.remaining (c : Caller) : Nat := c.phase.remaining + c.holds.toNat

def ControllerPhase.remaining : ControllerPhase → Nat
  | .running _ => 2
  | .starting => 1
  | .gaveUp | .stopped | .brokeDown => 0

def Shutdown.remaining : Shutdown → Nat
  | .asked => 2
  | .joining _ => 1
  | .done | .dropped _ => 0

namespace Pool

variable {p q r : Pool} {action : Action} {caller controller stream count : Nat} {c : Caller}
  {s : Stream} {party : Party}

/-! ### Turns -/

/-- Whether an action is the turn of a caller, of whoever holds its share, of a stream, a controller or a
shutdown. -/
def Action.isTurn : Action → Bool
  | .stream .. | .dropShare _ | .proceed _ | .beginShutdown _ | .endShutdown _ => true
  | action => action.caller?.isSome

theorem Action.isManaged_of_isTurn (isTurn : action.isTurn = true) : action.isManaged = true := by
  cases action with
  | run | cancel | glance | arrive => cases isTurn
  | _ => rfl

theorem isTurn_of_mem_movesOf (isMove : action ∈ p.movesOf party) : action.isTurn = true := by
  have moves {moves : List Move} {stream : Nat} (isMove : action ∈ moves.map (.stream stream)) :
      action.isTurn = true := by
    obtain ⟨move, -, rfl⟩ := List.mem_map.mp isMove
    rfl
  cases party with
  | caller caller =>
    simp only [movesOf, List.mem_cons, List.not_mem_nil, or_false] at isMove
    rcases isMove with rfl | rfl | rfl | rfl | rfl | rfl | rfl | rfl | rfl | rfl
    all_goals rfl
  | holder =>
    obtain rfl := List.mem_singleton.mp isMove
    rfl
  | runner | writer => exact moves isMove
  | controller controller =>
    obtain runs | goesOn := List.mem_append.mp isMove
    · split at runs
      · exact moves runs
      · cases runs
    · obtain rfl := List.mem_singleton.mp goesOn
      rfl
  | shutdown shutdown =>
    simp only [movesOf, List.mem_cons, List.not_mem_nil, or_false] at isMove
    obtain rfl | rfl := isMove
    · rfl
    · rfl

/-- No move of any party is possible. -/
def Stuck (p : Pool) : Prop :=
  ∀ party ∈ p.parties, ∀ action ∈ p.movesOf party, p.perform action = none

theorem isSettled_iff : system.isSettled p = true ↔ Stuck p := by
  simp [Stuck, System.isSettled, System.canMove, System.next?, system]

/-! ### What is left to do -/

/-- How many turns are left at most once the end is asked for. -/
def remaining (p : Pool) : Nat :=
  (p.streams.map Stream.remaining).sum + (p.callers.map Caller.remaining).sum +
    (p.controllers.map ControllerPhase.remaining).sum + (p.shutdowns.map Shutdown.remaining).sum

theorem sum_map_set {α : Type} (weight : α → Nat) {l : List α} {i : Nat} {a b : α}
    (isOld : l[i]? = some a) :
    ((l.set i b).map weight).sum + weight a = (l.map weight).sum + weight b := by
  induction l generalizing i with
  | nil => cases isOld
  | cons first rest ih =>
    cases i with
    | zero =>
      obtain rfl := Option.some.inj isOld
      simp only [List.set_cons_zero, List.map_cons, List.sum_cons]
      omega
    | succ i =>
      have rest := ih (i := i) isOld
      simp only [List.set_cons_succ, List.map_cons, List.sum_cons]
      omega

/-- A caller goes on while nobody else gets more to do. -/
theorem remaining_setPhase_lt {phase : CallPhase} (same : r.remaining = p.remaining)
    (isCaller : r.callers[caller]? = some c) (less : phase.remaining < c.phase.remaining) :
    (r.setPhase caller phase).remaining < p.remaining := by
  have callers := sum_map_set Caller.remaining (b := { c with phase := phase }) isCaller
  rw [← same]
  unfold remaining
  rw [setPhase_callers_eq isCaller]
  simp only [setPhase, updateCaller, Caller.remaining] at callers ⊢
  omega

theorem remaining_dropShare_lt (isCaller : p.callers[caller]? = some c) (holds : c.holds = true) :
    (p.updateCaller caller fun c => { c with holds := false }).remaining < p.remaining := by
  have callers := sum_map_set Caller.remaining (b := { c with holds := false }) isCaller
  have less : Caller.remaining { c with holds := false } < c.remaining := by
    simp [Caller.remaining, holds]
  have changed : (p.updateCaller caller fun c => { c with holds := false }).callers =
      p.callers.set caller { c with holds := false } := by
    rw [updateCaller, List.modify_eq_set_getElem?, isCaller]
    rfl
  unfold remaining
  rw [changed]
  simp only [updateCaller]
  omega

theorem remaining_setStream {t : Stream} (isStream : p.streams[stream]? = some s) :
    remaining { p with streams := p.streams.set stream t } + s.remaining =
      p.remaining + t.remaining := by
  have streams := sum_map_set Stream.remaining (b := t) isStream
  unfold remaining
  simp only
  omega

theorem remaining_setController_lt {old phase : ControllerPhase}
    (isOld : p.controllers[controller]? = some old) (less : phase.remaining < old.remaining) :
    (p.setController controller phase).remaining < p.remaining := by
  have controllers := sum_map_set ControllerPhase.remaining (b := phase) isOld
  unfold remaining
  simp only [setController]
  omega

theorem remaining_setShutdown_lt {shutdown : Nat} {a b : Shutdown}
    (isOld : p.shutdowns[shutdown]? = some a) (less : b.remaining < a.remaining) :
    remaining { p with shutdowns := p.shutdowns.set shutdown b } < p.remaining := by
  have shutdowns := sum_map_set Shutdown.remaining (b := b) isOld
  unfold remaining
  simp only
  omega

theorem remaining_cancel (p : Pool) : p.cancel.remaining = p.remaining := by
  unfold remaining cancel
  simp only [List.map_map]
  rfl

theorem remaining_endIfAbandoned (p : Pool) : p.endIfAbandoned.remaining = p.remaining :=
  view_endIfAbandoned remaining remaining_cancel p

/-! ### Streams of a pool that is shut down -/

/-- All streams are asked to end once the pool is. -/
def Asks (p : Pool) : Prop :=
  p.canceled = true → ∀ (stream : Nat) (s : Stream), p.streams[stream]? = some s →
    s.parentCanceled = true

theorem asks_cancel (p : Pool) : Asks p.cancel := by
  intro canceled stream s isStream
  obtain ⟨old, -, rfl⟩ := Option.map_eq_some_iff.mp (List.getElem?_map ▸ isStream)
  rfl

theorem Asks.endIfAbandoned (asks : Asks p) : Asks p.endIfAbandoned := by
  unfold Pool.endIfAbandoned
  split
  · exact asks_cancel p
  · exact asks

theorem Asks.set (asks : Asks p) (canceled : q.canceled = p.canceled) {t : Stream}
    (streams : q.streams = p.streams.set stream t) (isStream : p.streams[stream]? = some s)
    (kept : s.parentCanceled = true → t.parentCanceled = true) : Asks q := by
  intro isCanceled other u isOther
  rw [canceled] at isCanceled
  rw [streams] at isOther
  obtain ⟨rfl, rfl⟩ | ⟨-, isOther⟩ := getElem?_set_cases isOther
  · exact kept (asks isCanceled stream s isStream)
  · exact asks isCanceled other u isOther

theorem Asks.acts (asks : Asks p) (acts : Acts p caller c q) : Asks q := by
  cases acts with
  | moves | returns | takes => exact asks
  | @hands stream s bound metadata submitting isStream =>
    have step := Stream.submit_cases (s := s) (p.itemOf caller c metadata)
    exact asks.set rfl rfl isStream step.stays_asked
  | withdraws queued isStream => exact asks.set rfl rfl isStream id

theorem Asks.proceeds (asks : Asks p) (proceeds : Proceeds p controller q) : Asks q := by
  cases proceeds with
  | stops | resumes | retires | breaks => exact asks
  | givesUp =>
    unfold giveUp
    simp only
    split
    · exact asks
    · exact asks
  | starts starting alive =>
    intro canceled
    rw [startStream, setController, alive] at canceled
    cases canceled

theorem Managed.asks (managed : Managed count p) : Asks p := by
  refine managed.invariant (fun setup script => nofun) ?_
  intro p q action managed asks isManaged made
  have moves {stream : Nat} {s next : Stream} {action : Stream.Action} {events : List Event}
      (isStream : p.streams[stream]? = some s) (step : Stream.Step s action events next) :
      Asks (p.afterMove stream next events) :=
    asks.set (afterMove_canceled ..) (afterMove_streams ..) isStream step.stays_asked
  cases perform_turn made with
  | moved isStream step => exact moves isStream step
  | delivered isStream step | modeSet isStream step => exact moves isStream step
  | started | restarted | glanced | canceled => cases isManaged
  | acts own isCaller acts => exact asks.acts acts
  | proceeds proceeds => exact asks.proceeds proceeds
  | began => exact asks_cancel p
  | parted | dropped | letGo => exact Asks.endIfAbandoned asks
  | undelivered | modeUnset | arrived | contextEnded | asked | returned | advanced => exact asks

theorem Managed.isCanceled (managed : Managed count p) (canceled : p.canceled = true)
    (isStream : p.streams[stream]? = some s) : s.isCanceled = true := by
  have asked := managed.asks canceled stream s isStream
  rw [Stream.isCanceled, asked, Bool.or_true]

theorem Managed.connected (managed : Managed count p) (isStream : p.streams[stream]? = some s) :
    s.Connected := by
  refine managed.each (fun p => ?_) (fun _ _ _ _ _ connected step => connected.step step) isStream
  exact ⟨nofun, fun present => absurd rfl present, nofun⟩

/-! ### Turns leave less to do -/

theorem Returns.remaining_pos {result : Except Error Bool} (returns : Returns p caller c result) :
    0 < c.phase.remaining := by
  cases returns with
  | overdue phase | uncredentialed phase | ended phase | refused phase | gaveUp phase
  | replied phase | left phase | abandoned phase => simp [phase, CallPhase.remaining]
  | shutDown looking | downgraded looking =>
    obtain ⟨metadata, phase | phase⟩ := looking
    · simp [phase, CallPhase.remaining]
    · simp [phase, CallPhase.remaining]

theorem Departing.remaining_lt (departing : Departing p c) : 3 < c.phase.remaining := by
  obtain ⟨phase, -⟩ | ⟨ready, phase⟩ := departing
  · simp [phase, CallPhase.remaining]
  · simp [phase, CallPhase.remaining]

theorem Moves.remaining_lt {phase : CallPhase} (moves : Moves p caller c phase)
    (canceled : p.canceled = true) : phase.remaining < c.phase.remaining := by
  cases moves with
  | fetches arriving => simp [arriving, CallPhase.remaining]
  | heads departing | looks departing => exact departing.remaining_lt
  | waits looking alive =>
    rw [canceled] at alive
    cases alive
  | accepted queued => simp [queued, CallPhase.remaining]
  | returns returns => exact returns.remaining_pos

theorem Acts.remaining_lt (acts : Acts p caller c q) (isCaller : p.callers[caller]? = some c)
    (canceled : p.canceled = true) : q.remaining < p.remaining := by
  cases acts with
  | moves moves => exact remaining_setPhase_lt rfl isCaller (moves.remaining_lt canceled)
  | returns returns => exact remaining_setPhase_lt rfl isCaller returns.remaining_pos
  | takes looking alive =>
    rw [canceled] at alive
    cases alive
  | @hands stream s bound metadata submitting isStream =>
    have still : ((s.submit (p.itemOf caller c metadata)).1.record
        (s.submit (p.itemOf caller c metadata)).2).remaining = s.remaining := by
      unfold Stream.submit
      split <;> rfl
    have same := remaining_setStream (t := (s.submit (p.itemOf caller c metadata)).1.record
      (s.submit (p.itemOf caller c metadata)).2) isStream
    refine remaining_setPhase_lt (by omega) isCaller ?_
    rw [submitting]
    split <;> simp [CallPhase.remaining]
  | @withdraws stream s bound error queued isStream =>
    have same := remaining_setStream (t := (s.leave caller).record []) isStream
    have still : ((s.leave caller).record []).remaining = s.remaining := rfl
    refine remaining_setPhase_lt (by omega) isCaller ?_
    simp [queued, CallPhase.remaining]

theorem Proceeds.remaining_lt (proceeds : Proceeds p controller q) (canceled : p.canceled = true) :
    q.remaining < p.remaining := by
  cases proceeds with
  | starts _ alive | givesUp _ _ _ _ alive =>
    rw [canceled] at alive
    cases alive
  | stops isOld | resumes isOld | retires isOld | breaks isOld =>
    exact remaining_setController_lt isOld (by simp [ControllerPhase.remaining])

theorem remaining_afterMove (next : Stream) (events : List Event)
    (isStream : p.streams[stream]? = some s) :
    (p.afterMove stream next events).remaining + s.remaining = p.remaining + next.remaining := by
  have streams := sum_map_set Stream.remaining (b := next.record events) isStream
  have still : (next.record events).remaining = next.remaining := rfl
  have callers : (p.afterMove stream next events).callers.map Caller.remaining =
      p.callers.map Caller.remaining := by
    refine List.ext_getElem? fun caller => ?_
    rw [List.getElem?_map, List.getElem?_map, afterMove_callers, Option.map_map]
    rfl
  unfold remaining
  rw [afterMove_streams, callers, (rests_afterMove p stream next events).controllers,
    afterMove_shutdowns]
  omega

/-- Every turn in a pool that is shut down leaves less to do. -/
theorem Managed.remaining_lt (managed : Managed count p) (canceled : p.canceled = true)
    (isTurn : action.isTurn = true) (made : p.perform action = some q) :
    q.remaining < p.remaining := by
  cases perform_turn made with
  | @moved stream s move next events attempts isStream step =>
    have less := step.remaining_lt (managed.isCanceled canceled isStream)
    have goes := remaining_afterMove next events isStream
    change (p.afterMove stream next events).remaining < _
    omega
  | acts own isCaller acts => exact acts.remaining_lt isCaller canceled
  | parted isCaller done holds =>
    rw [remaining_endIfAbandoned]
    exact remaining_dropShare_lt isCaller holds
  | proceeds proceeds => exact proceeds.remaining_lt canceled
  | began asked =>
    have less := remaining_setShutdown_lt (p := p.cancel) (b := .joining p.untaken) asked
      (Nat.lt_succ_self 1)
    rwa [remaining_cancel] at less
  | returned joining => exact remaining_setShutdown_lt (b := .done) joining Nat.zero_lt_one
  | started | restarted | delivered | modeSet | undelivered | modeUnset | arrived | contextEnded
  | glanced | asked | dropped | advanced | canceled | letGo => cases isTurn

/-! ### The pool settles -/

/-- A run of so many turns. -/
inductive TakesTurns (p : Pool) : Nat → Pool → Prop
  | none : TakesTurns p 0 p
  | more {number q r action} (earlier : TakesTurns p number q) (isTurn : action.isTurn = true)
      (made : q.perform action = some r) : TakesTurns p (number + 1) r

theorem TakesTurns.serves {number : Nat} (turns : TakesTurns p number q) : Serves p q := by
  induction turns with
  | none => exact Serves.refl p
  | more _ isTurn made ih =>
    exact ih.trans (Serves.one (Action.isManaged_of_isTurn isTurn) made)

theorem Managed.turns_le {number : Nat} (managed : Managed count p) (canceled : p.canceled = true)
    (turns : TakesTurns p number q) : number + q.remaining ≤ p.remaining := by
  induction turns with
  | none => omega
  | more earlier isTurn made ih =>
    have managed' := managed.serves earlier.serves
    have less := managed'.remaining_lt (earlier.serves.leads.canceled canceled) isTurn made
    omega

theorem Managed.turns_settle {number : Nat} (managed : Managed count p)
    (canceled : p.canceled = true) (turns : TakesTurns p number q) :
    ∃ number r, TakesTurns p number r ∧ system.isSettled r = true := by
  -- On what is left to do, which every turn makes less.
  induction left : q.remaining using Nat.strongRecOn generalizing number q with
  | ind left' ih =>
    by_cases settled : system.isSettled q = true
    · exact ⟨number, q, turns, settled⟩
    · obtain ⟨party, -, action, isMove, possible⟩ : ∃ party ∈ q.parties,
          ∃ action ∈ q.movesOf party, q.perform action ≠ none := by
        simpa [isSettled_iff, Stuck] using settled
      obtain ⟨r, made⟩ := Option.ne_none_iff_exists'.mp possible
      have isTurn := isTurn_of_mem_movesOf isMove
      have managed' := managed.serves turns.serves
      have less := managed'.remaining_lt (turns.serves.leads.canceled canceled) isTurn made
      exact ih r.remaining (left ▸ less) (turns.more isTurn made) rfl

/-! ### The settled state -/

/-- What holds in the settled state of a pool that is shut down. -/
structure AtRest (p : Pool) : Prop where
  exited : AllExited p
  ended : ∀ (stream : Nat) (s : Stream), p.streams[stream]? = some s →
    s.run = .done ∨ s.run = .brokeDown
  ready : p.prioritizer.ready = []
  returned : ∀ (caller : Nat) (c : Caller), p.callers[caller]? = some c →
    (∃ result, c.phase = .done result) ∨ AwaitsCredentials p caller c ∨
      ∃ stream s, c.phase = .awaiting stream ∧ p.streams[stream]? = some s ∧ s.run = .brokeDown

theorem makeMove_eq_none {move : Move} (isStream : p.streams[stream]? = some s)
    (impossible : p.perform (.stream stream move) = none) :
    s.makeMove p.surroundings move = none := by
  by_contra moves
  obtain ⟨outcome, moves⟩ := Option.ne_none_iff_exists'.mp moves
  simp [perform, moveStream, onStream, isStream, Stream.step, moves] at impossible

theorem mem_moves (move : Move) : move ∈ runnerMoves ∨ move ∈ writerMoves := by
  cases move <;> decide

section
variable (stuck : Stuck p) (isStream : p.streams[stream]? = some s)
include stuck isStream

/-- The writer of a stream is a party of its own. -/
theorem Stuck.not_write {move : Move} (isMove : move ∈ writerMoves) :
    s.makeMove p.surroundings move = none := by
  have inside := (List.getElem?_eq_some_iff.mp isStream).1
  refine makeMove_eq_none isStream (stuck (.writer stream) (by simp [parties, inside]) _ ?_)
  exact List.mem_map.mpr ⟨move, isMove, rfl⟩

theorem Stuck.not_run (running : p.controllers[controller]? = some (.running stream))
    (move : Move) : s.makeMove p.surroundings move = none := by
  obtain isMove | isMove := mem_moves move
  · have inside := (List.getElem?_eq_some_iff.mp running).1
    have isParty : .controller controller ∈ p.parties := by simp [parties, inside]
    refine makeMove_eq_none isStream (stuck (.controller controller) isParty _ ?_)
    refine List.mem_append_left _ ?_
    rw [running]
    exact List.mem_map.mpr ⟨move, isMove, rfl⟩
  · exact stuck.not_write isStream isMove

end

theorem Managed.allExited_of_stuck (managed : Managed count p) (canceled : p.canceled = true)
    (stuck : Stuck p) : AllExited p := by
  intro phase isPhase
  obtain ⟨controller, isPhase⟩ := List.mem_iff_getElem?.mp isPhase
  have inside := (List.getElem?_eq_some_iff.mp isPhase).1
  have impossible : p.perform (.proceed controller) = none :=
    stuck (.controller controller) (by simp [parties, inside]) _ (by simp [movesOf])
  cases phase with
  | gaveUp | stopped | brokeDown => rfl
  | starting => simp [perform, proceed, isPhase, canceled] at impossible
  | running stream =>
    obtain ⟨s, isStream⟩ := managed.governed.busy controller stream isPhase
    have ended : s.run = .done ∨ s.run = .brokeDown := by
      by_contra undone
      obtain ⟨undone, unbroken⟩ := not_or.mp undone
      obtain ⟨move, moves⟩ := (managed.connected isStream).exists_move
        (managed.isCanceled canceled isStream) undone unbroken p.surroundings
      rw [stuck.not_run isStream isPhase] at moves
      cases moves
    obtain done | broke := ended
    · simp only [perform, proceed, isPhase, isStream, done, canceled, Option.bind_eq_bind,
        Option.bind_some, if_true] at impossible
      split at impossible <;> cases impossible
    · simp [perform, proceed, isPhase, isStream, broke] at impossible

/-- A controller that has exited has left a stream that is done or broke down. -/
theorem Governed.ended_of_allExited (governed : Governed count p) (exited : AllExited p)
    (isStream : p.streams[stream]? = some s) : s.run = .done ∨ s.run = .brokeDown := by
  by_contra undone
  obtain ⟨undone, unbroken⟩ := not_or.mp undone
  obtain ⟨controller, running | ⟨broke, -⟩⟩ := governed.led stream s isStream undone
  · exact absurd (exited _ (List.mem_of_getElem? running)) nofun
  · exact unbroken broke

theorem Sound.exists_stream (sound : Sound p) (isCaller : p.callers[caller]? = some c)
    (waits : c.phase.WaitsWith stream) : ∃ s, p.streams[stream]? = some s := by
  obtain ⟨item, isItem, -⟩ := List.mem_map.mp (sound.placed.present caller c stream isCaller waits)
  cases isStream : p.streams[stream]? with
  | none => simp [itemsOf, isStream] at isItem
  | some s => exact ⟨s, rfl⟩

section
variable (isCaller : p.callers[caller]? = some c)
include isCaller

theorem enter_isSome (arriving : c.phase = .arriving) :
    (p.perform (.enter caller)).isSome = true := by
  simp only [perform, beginCaller, isCaller, arriving, Option.bind_eq_bind, Option.bind_some]
  split
  · rfl
  · split <;> rfl

theorem fetched_isSome {ready : Nat} {credentials : Credentials}
    (fetching : c.phase = .fetching ready) (equipped : p.setup.credentials = some credentials)
    (due : ready ≤ p.now) : (p.perform (.fetched caller)).isSome = true := by
  simp only [perform, fetched, isCaller, fetching, equipped, due, Option.bind_eq_bind,
    Option.bind_some, if_true]
  split <;> rfl

theorem submit_isSome {bound : Bool} {metadata : Option Metadata} (late : Bool)
    (submitting : c.phase = .submitting stream bound metadata)
    (isStream : p.streams[stream]? = some s) : (p.perform (.submit caller late)).isSome = true := by
  simp only [perform, submit, isCaller, submitting, isStream, onStream, Stream.step,
    Option.pure_def, Option.bind_eq_bind, Option.bind_some]
  split <;> rfl

theorem collect_isSome {cause : Error} (late : Bool) (awaiting : c.phase = .awaiting stream)
    (isStream : p.streams[stream]? = some s) (told : s.cause = some cause) :
    (p.perform (.collect caller late)).isSome = true := by
  simp only [perform, collect, isCaller, awaiting, isStream, told, Option.bind_eq_bind,
    Option.bind_some]
  cases heard : c.reply with
  | some reply => cases reply <;> simp
  | none => cases seen : c.sees p.now late <;> simp

end

/-- A caller that cannot move has its result, or waits for its credentials or for a stream that has
not finished. -/
theorem caller_stands (managed : Managed count p) (canceled : p.canceled = true)
    (isCaller : p.callers[caller]? = some c)
    (stuck : ∀ action ∈ p.movesOf (.caller caller), p.perform action = none) :
    (∃ result, c.phase = .done result) ∨ AwaitsCredentials p caller c ∨
      ∃ stream s, c.phase = .awaiting stream ∧ p.streams[stream]? = some s ∧ s.cause = none := by
  have conserved := managed.conserved
  have stays {action : Action} (isMove : action ∈ p.movesOf (.caller caller))
      (moves : (p.perform action).isSome = true) : False := by
    rw [stuck action isMove] at moves
    cases moves
  cases phase : c.phase with
  | done result => exact .inl ⟨result, rfl⟩
  | arriving => exact (stays (by simp [movesOf]) (enter_isSome isCaller phase)).elim
  | fetching ready =>
    refine .inr (.inl (.inl ⟨ready, phase, ?_⟩))
    by_contra late
    obtain ⟨credentials, equipped⟩ :=
      Option.isSome_iff_exists.mp (managed.reachable.equipped caller c ready isCaller phase)
    have due : ready ≤ p.now := Nat.le_of_not_lt late
    exact stays (by simp [movesOf]) (fetched_isSome isCaller phase equipped due)
  | submitting stream bound metadata =>
    have takes : c.phase.takes stream = true := by simp [phase, CallPhase.takes]
    obtain ⟨s, isStream⟩ := conserved.exists_stream isCaller takes
    exact (stays (by simp [movesOf]) (submit_isSome isCaller false phase isStream)).elim
  | choosing metadata =>
    have moves : (p.perform (.look caller)).isSome = true := by
      simp [perform, isCaller, phase, canceled]
    exact (stays (by simp [movesOf]) moves).elim
  | seeking metadata =>
    have moves : (p.perform (.release caller)).isSome = true := by
      simp [perform, isCaller, phase, canceled]
    exact (stays (by simp [movesOf]) moves).elim
  | queued stream bound =>
    have free := (conserved.free caller c isCaller).2
    rw [phase] at free
    cases free
  | awaiting stream =>
    have waits : c.phase.WaitsWith stream := by rw [phase]; rfl
    obtain ⟨s, isStream⟩ := managed.sound.exists_stream isCaller waits
    refine .inr (.inr ⟨stream, s, rfl, isStream, ?_⟩)
    by_contra told
    obtain ⟨cause, told⟩ := Option.ne_none_iff_exists'.mp told
    exact stays (by simp [movesOf]) (collect_isSome isCaller false phase isStream told)

/-- A pool that is shut down comes to rest in its settled state. -/
theorem Managed.atRest (managed : Managed count p) (canceled : p.canceled = true)
    (settled : system.isSettled p = true) : AtRest p := by
  have stuck := isSettled_iff.mp settled
  have exited := managed.allExited_of_stuck canceled stuck
  have ended : ∀ (stream : Nat) (s : Stream), p.streams[stream]? = some s →
      s.run = .done ∨ s.run = .brokeDown :=
    fun stream s isStream => managed.governed.ended_of_allExited exited isStream
  refine ⟨exited, ended, managed.conserved.ready_eq_nil ?_, ?_⟩
  · intro stream s isStream waiting
    have impossible := stuck.not_write isStream (show Move.quit ∈ writerMoves by decide)
    simp [Stream.makeMove, Stream.quit, waiting, managed.isCanceled canceled isStream] at impossible
  · intro caller c isCaller
    have inside := (List.getElem?_eq_some_iff.mp isCaller).1
    have stands := caller_stands managed canceled isCaller
      (stuck (.caller caller) (by simp [parties, inside]))
    obtain done | unequipped | ⟨stream, s, phase, isStream, untold⟩ := stands
    · exact .inl done
    · exact .inr (.inl unequipped)
    · refine .inr (.inr ⟨stream, s, phase, isStream, ?_⟩)
      refine (ended stream s isStream).resolve_left fun done => ?_
      have told := (managed.sound.healthy stream s isStream).coherent.told.mpr done
      rw [untold] at told
      cases told

end Pool

end TelemetryStreams
