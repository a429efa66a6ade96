import TelemetryStreams.Proofs.Pool.Callers

/-!
# Pools in another light

Some things about a pool can be told in another way and everybody goes on as before: the clock, as long as
nobody looks at it, or the wording of an error. Such a retelling (`Recast`) leaves alone what callers,
controllers and the endpoint look at. So whatever can happen in a pool can happen just as well in the
recast pool, with the recast effect (`Recast.perform_eq`), and runs are recast as a whole
(`Recast.follow_eq`), unless an action depends on what was retold (`Recast.UnseenIn`).
-/
namespace TelemetryStreams

/-- Whether the pool learns of an event. -/
def Event.isHeard : Event → Bool
  | .offered | .withdrawn | .answered .. | .opened _ | .spanStarted _ => true
  | _ => false

/-- An event with another wording of the error that a caller is told. -/
def Event.mapError (change : Error → Error) : Event → Event
  | .answered ticket result => .answered ticket (result.mapError change)
  | event => event

def CallPhase.mapError (change : Error → Error) : CallPhase → CallPhase
  | .done (.error error) => .done (.error (change error))
  | phase => phase

def Caller.mapError (change : Error → Error) (c : Caller) : Caller :=
  { c with phase := c.phase.mapError change, reply := c.reply.map (Except.mapError change) }

section
variable (change : Error → Error) (c : Caller)

@[simp] theorem Caller.mapError_phase : (c.mapError change).phase = c.phase.mapError change := rfl

@[simp] theorem Caller.mapError_reply :
    (c.mapError change).reply = c.reply.map (Except.mapError change) := rfl

@[simp] theorem Caller.mapError_target : (c.mapError change).target = c.target := rfl

@[simp] theorem Caller.mapError_metadata : (c.mapError change).metadata = c.metadata := rfl

@[simp] theorem Caller.mapError_ended? (now : Nat) :
    (c.mapError change).ended? now = c.ended? now := rfl

@[simp] theorem Caller.mapError_sees (now : Nat) (late : Bool) :
    (c.mapError change).sees now late = c.sees now late := rfl

@[simp] theorem Caller.mapError_holds : (c.mapError change).holds = c.holds := rfl

@[simp] theorem Caller.mapError_isDone : (c.mapError change).isDone = c.isDone := by
  unfold isDone mapError CallPhase.mapError
  cases c.phase with
  | done result => cases result <;> rfl
  | _ => rfl

end

/-- Whether an action of a stream comes from outside. -/
def Stream.Action.isOuter : Stream.Action → Bool
  | .move .. => false
  | _ => true

/-- A retelling of pools that leaves alone what callers, controllers and the endpoint look at. -/
structure Recast where
  now : Nat → Nat
  setup : Setup → Setup
  stream : Stream → Stream
  event : Event → Option Event
  error : Error → Error
  cause (s : Stream) : (stream s).cause = s.cause.map error
  queue (s : Stream) : (stream s).queue = s.queue
  senders (s : Stream) : (stream s).senders = s.senders
  run (s : Stream) : (stream s).run = s.run
  established (s : Stream) : (stream s).established = s.established
  call (s : Stream) : (stream s).call = s.call
  isCanceled (s : Stream) : (stream s).isCanceled = s.isCanceled
  record (s : Stream) (events : List Event) :
    stream (s.record events) = (stream s).record (events.filterMap event)
  ends (s : Stream) :
    stream { s with parentCanceled := true } = { stream s with parentCanceled := true }
  starts (s : Stream) : stream { s with run := .starting } = { stream s with run := .starting }
  rerun (s : Stream) : (stream s).rerun = s.rerun.map stream
  outer (s : Stream) (action : Stream.Action) (isOuter : action.isOuter = true) :
    (stream s).step action =
      (s.step action).map fun outcome => (stream outcome.1, outcome.2.filterMap event)
  /-- A stream is made from what the setup says. -/
  fresh (p : Pool) :
    Pool.newStream { p with setup := setup p.setup, streams := p.streams.map stream } =
      stream p.newStream
  credentials (given : Setup) : (setup given).credentials = given.credentials
  telemetry (given : Setup) : (setup given).telemetry = given.telemetry
  heard (e : Event) (isHeard : e.isHeard = true) : event e = some (e.mapError error)
  unheard (e : Event) (isHeard : e.isHeard = false) : ∀ told ∈ event e, told.isHeard = false
  /-- Errors that no codec has caused. -/
  plain (e : Error) (isPlain : ∀ failure, e ≠ .encode failure) : error e = e

namespace Recast

open Pool

variable (recast : Recast) {p q : Pool} {caller stream : Nat} {c : Caller} {s : Stream}

def pool (p : Pool) : Pool :=
  { p with
    now := recast.now p.now, setup := recast.setup p.setup
    streams := p.streams.map recast.stream, callers := p.callers.map (Caller.mapError recast.error) }

def outcome (made : Stream.Outcome) : Stream.Outcome :=
  (recast.stream made.1, made.2.filterMap recast.event)

theorem pool_now (p : Pool) : (recast.pool p).now = recast.now p.now := rfl

theorem pool_setup (p : Pool) : (recast.pool p).setup = recast.setup p.setup := rfl

theorem pool_prioritizer (p : Pool) : (recast.pool p).prioritizer = p.prioritizer := rfl

theorem pool_controllers (p : Pool) : (recast.pool p).controllers = p.controllers := rfl

theorem pool_canceled (p : Pool) : (recast.pool p).canceled = p.canceled := rfl

theorem pool_shutdowns (p : Pool) : (recast.pool p).shutdowns = p.shutdowns := rfl

theorem pool_stream (p : Pool) (stream : Nat) :
    (recast.pool p).streams[stream]? = (p.streams[stream]?).map recast.stream := List.getElem?_map

theorem pool_caller (p : Pool) (caller : Nat) :
    (recast.pool p).callers[caller]? = (p.callers[caller]?).map (Caller.mapError recast.error) :=
  List.getElem?_map

theorem updateCaller_pool {change : Caller → Caller} {change' : Caller → Caller}
    (same : ∀ c, change (c.mapError recast.error) = (change' c).mapError recast.error) :
    (recast.pool p).updateCaller caller change = recast.pool (p.updateCaller caller change') := by
  have callers : (p.callers.map (Caller.mapError recast.error)).modify caller change =
      (p.callers.modify caller change').map (Caller.mapError recast.error) := by
    refine List.ext_getElem? fun place => ?_
    simp only [List.getElem?_modify, List.getElem?_map]
    cases p.callers[place]? with
    | none => rfl
    | some c =>
      simp only [Option.map_some]
      split
      · exact congrArg some (same c)
      · rfl
  unfold updateCaller
  exact congrArg (fun callers => { recast.pool p with callers := callers }) callers

theorem setPhase_pool {phase told : CallPhase} (same : phase.mapError recast.error = told) :
    (recast.pool p).setPhase caller told = recast.pool (p.setPhase caller phase) := by
  subst same
  exact recast.updateCaller_pool fun _ => rfl

theorem cancel_pool : (recast.pool p).cancel = recast.pool p.cancel := by
  have streams : (p.streams.map recast.stream).map (fun s => { s with parentCanceled := true }) =
      (p.streams.map fun s => { s with parentCanceled := true }).map recast.stream := by
    simp only [List.map_map, Function.comp_def, recast.ends]
  unfold Pool.cancel
  exact congrArg (fun streams => { recast.pool p with canceled := true, streams := streams }) streams

theorem endIfAbandoned_pool : (recast.pool p).endIfAbandoned = recast.pool p.endIfAbandoned := by
  have same : (recast.pool p).isAbandoned = p.isAbandoned := by
    have callers : (p.callers.map (Caller.mapError recast.error)).all (fun c => !c.holds) =
        p.callers.all fun c => !c.holds := by
      simp only [List.all_map, Function.comp_def, Caller.mapError_holds]
    unfold isAbandoned
    exact congrArg (fun left => !p.held && left && p.shutdowns.all Shutdown.isOver) callers
  unfold endIfAbandoned
  rw [same]
  split
  · exact recast.cancel_pool
  · rfl

/-- A caller returns with the recast result. -/
theorem finish_pool {result told : Except Error Bool} (same : result.mapError recast.error = told) :
    (recast.pool p).finish caller told = recast.pool (p.finish caller result) := by
  have phase : (CallPhase.done result).mapError recast.error = .done told := by
    subst same
    cases result <;> rfl
  exact recast.setPhase_pool phase

/-- The end of its context is told to a caller as it is. -/
theorem finish_end {reason : Error} (isEnd : reason = .canceled ∨ reason = .deadlineExceeded) :
    (recast.pool p).finish caller (.error reason) = recast.pool (p.finish caller (.error reason)) := by
  refine recast.finish_pool (congrArg Except.error (recast.plain reason fun failure => ?_))
  obtain rfl | rfl := isEnd <;> exact fun same => by cases same

theorem dropShare_pool : (recast.pool p).dropShare caller = (p.dropShare caller).map recast.pool := by
  unfold dropShare
  rw [recast.pool_caller]
  cases isCaller : p.callers[caller]? with
  | none => rfl
  | some c =>
    simp only [Option.map_some, Option.bind_eq_bind, Option.bind_some, Caller.mapError_isDone,
      Caller.mapError_holds]
    split
    · have dropped : (recast.pool p).updateCaller caller (fun c => { c with holds := false }) =
          recast.pool (p.updateCaller caller fun c => { c with holds := false }) :=
        recast.updateCaller_pool fun _ => rfl
      rw [dropped, recast.endIfAbandoned_pool]
      rfl
    · rfl

/-! ### Streams -/

theorem notice_pool (event : Event) :
    recast.pool (p.notice stream event) =
      (recast.event event).elim (recast.pool p) ((recast.pool p).notice stream) := by
  cases isHeard : event.isHeard with
  | true =>
    rw [recast.heard event isHeard]
    cases event with
    | answered ticket result =>
      refine (recast.updateCaller_pool fun c => ?_).symm
      unfold Caller.mapError
      cases c.reply <;> rfl
    | offered | withdrawn | opened | spanStarted => rfl
    | _ => cases isHeard
  | false =>
    have silent (p : Pool) (other : Event) (isHeard : other.isHeard = false) :
        p.notice stream other = p := by
      cases other <;> first | rfl | cases isHeard
    rw [silent p event isHeard]
    cases told : recast.event event with
    | none => rfl
    | some other => exact (silent _ other (recast.unheard event isHeard other told)).symm

theorem afterMove_pool (next : Stream) (events : List Event) :
    recast.pool (p.afterMove stream next events) =
      (recast.pool p).afterMove stream (recast.stream next) (events.filterMap recast.event) := by
  have notices (events : List Event) (p : Pool) :
      recast.pool (events.foldl (fun p event => p.notice stream event) p) =
        (events.filterMap recast.event).foldl (fun p event => p.notice stream event)
          (recast.pool p) := by
    induction events generalizing p with
    | nil => rfl
    | cons event events ih =>
      rw [List.foldl_cons, ih, notice_pool, List.filterMap_cons]
      cases recast.event event <;> rfl
  have streams : (p.streams.map recast.stream).set stream
      ((recast.stream next).record (events.filterMap recast.event)) =
      (p.streams.set stream (next.record events)).map recast.stream := by
    rw [List.map_set, recast.record]
  unfold afterMove
  rw [notices]
  simp only [pool, streams]

theorem onStream_pool {action action' : Stream.Action}
    (step : ∀ s, p.streams[stream]? = some s →
      (recast.stream s).step action' = (s.step action).map recast.outcome) :
    (recast.pool p).onStream stream action' = (p.onStream stream action).map recast.pool := by
  unfold onStream
  rw [recast.pool_stream]
  cases isStream : p.streams[stream]? with
  | none => rfl
  | some s =>
    simp only [Option.map_some, Option.bind_eq_bind, Option.bind_some, step s isStream]
    cases s.step action with
    | none => rfl
    | some made => exact congrArg some (recast.afterMove_pool made.1 made.2).symm

theorem outer_pool (stream : Nat) (action : Stream.Action) (isOuter : action.isOuter = true) :
    (recast.pool p).onStream stream action = (p.onStream stream action).map recast.pool :=
  recast.onStream_pool fun s _ => recast.outer s action isOuter

theorem onCall_pool {call : Nat} {action : Stream.Action} (isOuter : action.isOuter = true) :
    (recast.pool p).onCall call action = (p.onCall call action).map recast.pool := by
  have same : (recast.pool p).streamOf? call = p.streamOf? call := by
    unfold streamOf?
    change (p.streams.map recast.stream).findIdx? _ = _
    rw [List.findIdx?_map]
    simp only [Function.comp_def, recast.call]
  unfold onCall
  rw [same]
  change (if p.endpoint.accepted ≤ call then none else _) = _
  split
  · rfl
  · split
    · exact recast.outer_pool _ action isOuter
    · rfl

/-! ### Callers -/

/-- A caller that does not see that the clock is told in another way. -/
structure UnseenBy (p : Pool) (c : Caller) : Prop where
  ended : c.ended? (recast.now p.now) = c.ended? p.now
  sees (late : Bool) : c.sees (recast.now p.now) late = c.sees p.now late
  begins : c.phase = .arriving → p.setup.credentials ≠ none → recast.now p.now = p.now
  fetches : ∀ ready, c.phase = .fetching ready → (ready ≤ recast.now p.now ↔ ready ≤ p.now)

theorem afterCredentials_pool (target : Option Nat) (metadata : Option Metadata) :
    (recast.pool p).afterCredentials caller target metadata =
      recast.pool (p.afterCredentials caller target metadata) := by
  unfold afterCredentials
  cases target <;> exact recast.setPhase_pool rfl

theorem seeker?_pool : (recast.pool p).seeker? caller =
    (p.seeker? caller).map fun found => (found.1.mapError recast.error, found.2) := by
  unfold seeker?
  rw [recast.pool_caller]
  cases isCaller : p.callers[caller]? with
  | none => rfl
  | some c =>
    simp only [Option.map_some, Option.bind_eq_bind, Option.bind_some, Caller.mapError_phase]
    rw [recast.pool_canceled]
    cases phase : c.phase with
    | seeking metadata =>
      simp only [CallPhase.mapError]
      split <;> rfl
    | done result => cases result <;> rfl
    | _ => rfl

section
variable (unseen : ∀ c, p.callers[caller]? = some c → recast.UnseenBy p c)
include unseen

theorem beginCaller_pool :
    (recast.pool p).beginCaller caller = (p.beginCaller caller).map recast.pool := by
  unfold beginCaller
  rw [recast.pool_caller]
  cases isCaller : p.callers[caller]? with
  | none => rfl
  | some c =>
    obtain ⟨ended, -, begins, -⟩ := unseen c isCaller
    simp only [Option.map_some, Option.bind_eq_bind, Option.bind_some, Caller.mapError_phase,
      Caller.mapError_target, Caller.mapError_ended?]
    cases phase : c.phase with
    | arriving =>
      simp only [CallPhase.mapError]
      rw [recast.pool_now, ended,
        recast.pool_setup, recast.credentials]
      split
      case h_1 reason free past =>
        exact congrArg some (recast.finish_end (ended?_cases past))
      case h_2 =>
        cases equipped : p.setup.credentials with
        | none => exact congrArg some (recast.afterCredentials_pool _ _)
        | some credentials =>
          have still := begins phase (by rw [equipped]; exact fun none => by cases none)
          rw [still]
          exact congrArg some (recast.setPhase_pool rfl)
    | done result => cases result <;> rfl
    | _ => rfl

theorem fetched_pool : (recast.pool p).fetched caller = (p.fetched caller).map recast.pool := by
  unfold fetched
  rw [recast.pool_caller, recast.pool_setup,
    recast.credentials]
  cases isCaller : p.callers[caller]? with
  | none => rfl
  | some c =>
    obtain ⟨-, -, -, fetches⟩ := unseen c isCaller
    cases equipped : p.setup.credentials with
    | none => rfl
    | some credentials =>
      simp only [Option.map_some, Option.bind_eq_bind, Option.bind_some, Caller.mapError_phase,
        Caller.mapError_metadata, Caller.mapError_target]
      cases phase : c.phase with
      | fetching ready =>
        simp only [CallPhase.mapError]
        rw [recast.pool_now, if_congr (fetches ready phase) rfl rfl]
        split
        · cases given : credentials.metadata caller c.metadata with
          | error error =>
            refine congrArg some (recast.finish_pool (congrArg Except.error (recast.plain error ?_)))
            rintro failure rfl
            unfold Credentials.metadata at given
            split at given <;> cases given
          | ok metadata => exact congrArg some (recast.afterCredentials_pool _ _)
        · rfl
      | done result => cases result <;> rfl
      | _ => rfl

theorem submit_pool {late : Bool} :
    (recast.pool p).submit caller late = (p.submit caller late).map recast.pool := by
  unfold submit
  rw [recast.pool_caller]
  cases isCaller : p.callers[caller]? with
  | none => rfl
  | some c =>
    have sees := (unseen c isCaller).sees
    simp only [Option.map_some, Option.bind_eq_bind, Option.bind_some, Caller.mapError_phase,
      Caller.mapError_sees]
    cases phase : c.phase with
    | submitting stream bound metadata =>
      simp only [CallPhase.mapError]
      rw [recast.pool_stream, recast.pool_now, sees]
      cases isStream : p.streams[stream]? with
      | none => rfl
      | some s =>
        simp only [Option.map_some, Option.bind_some, recast.cause, recast.queue]
        cases past : (if bound then c.sees p.now late else none) with
        | some reason =>
          have ends := (Caller.ends_of_bound past).2
          exact congrArg some (recast.finish_end (ends_cases ends))
        | none =>
          cases told : s.cause with
          | some cause => exact congrArg some (recast.finish_pool rfl)
          | none =>
            have item : (recast.pool p).itemOf caller (c.mapError recast.error) metadata =
                p.itemOf caller c metadata := by
              unfold itemOf
              rw [recast.pool_setup, recast.telemetry]
              rfl
            have entered := recast.outer_pool (p := p) stream (.submit (p.itemOf caller c metadata)) rfl
            simp only [Option.map_none, item, entered]
            cases p.onStream stream (.submit (p.itemOf caller c metadata)) with
            | none => rfl
            | some q =>
              refine congrArg some (recast.setPhase_pool ?_)
              split <;> rfl
    | done result => cases result <;> rfl
    | _ => rfl

theorem recheck_pool {late : Bool} :
    (recast.pool p).recheck caller late = (p.recheck caller late).map recast.pool := by
  unfold recheck
  rw [recast.pool_caller]
  cases isCaller : p.callers[caller]? with
  | none => rfl
  | some c =>
    have sees := (unseen c isCaller).sees
    simp only [Option.map_some, Option.bind_eq_bind, Option.bind_some, Caller.mapError_phase,
      Caller.mapError_sees]
    cases phase : c.phase with
    | queued stream bound =>
      simp only [CallPhase.mapError]
      rw [recast.pool_stream, recast.pool_now, sees]
      have left := recast.outer_pool (p := p) stream (.leave caller) rfl
      cases isStream : p.streams[stream]? with
      | none => rfl
      | some s =>
        simp only [Option.map_some, Option.bind_some, recast.cause, recast.senders, left]
        cases past : (if bound then c.sees p.now late else none) with
        | some reason =>
          have ends := (Caller.ends_of_bound past).2
          cases p.onStream stream (.leave caller) with
          | none => rfl
          | some q => exact congrArg some (recast.finish_end (ends_cases ends))
        | none =>
          cases told : s.cause with
          | some cause =>
            cases p.onStream stream (.leave caller) with
            | none => rfl
            | some q => exact congrArg some (recast.finish_pool rfl)
          | none =>
            simp only [Option.map_none]
            split
            · rfl
            · exact congrArg some (recast.setPhase_pool rfl)
    | done result => cases result <;> rfl
    | _ => rfl

theorem collect_pool {late : Bool} :
    (recast.pool p).collect caller late = (p.collect caller late).map recast.pool := by
  unfold collect
  rw [recast.pool_caller]
  cases isCaller : p.callers[caller]? with
  | none => rfl
  | some c =>
    have sees := (unseen c isCaller).sees
    simp only [Option.map_some, Option.bind_eq_bind, Option.bind_some, Caller.mapError_phase,
      Caller.mapError_sees, Caller.mapError_reply]
    cases phase : c.phase with
    | awaiting stream =>
      simp only [CallPhase.mapError]
      rw [recast.pool_stream, recast.pool_now, sees]
      cases isStream : p.streams[stream]? with
      | none => rfl
      | some s =>
        simp only [Option.map_some, Option.bind_some, recast.cause]
        cases told : c.reply with
        | some reply => cases reply <;> exact congrArg some (recast.finish_pool rfl)
        | none =>
          cases past : c.sees p.now late with
          | some reason =>
            have ends := Caller.ends_of_sees past
            exact congrArg some (recast.finish_end (ends_cases ends))
          | none =>
            cases s.cause with
            | some cause => exact congrArg some (recast.finish_pool rfl)
            | none => rfl
    | done result => cases result <;> rfl
    | _ => rfl

theorem giveUp_pool {late : Bool} :
    (recast.pool p).perform (.giveUp caller late) =
      (p.perform (.giveUp caller late)).map recast.pool := by
  unfold perform
  simp only [recast.seeker?_pool]
  cases seeks : p.seeker? caller with
  | none => rfl
  | some found =>
    obtain ⟨c, metadata⟩ := found
    have sees := (unseen c (seeker?_cases seeks).1).sees
    simp only [Option.map_some, Option.bind_eq_bind, Option.bind_some, Caller.mapError_sees]
    rw [recast.pool_now, sees]
    cases past : c.sees p.now late with
    | none => rfl
    | some reason =>
      have ends := Caller.ends_of_sees past
      exact congrArg some (recast.finish_end
        (p := { p with prioritizer := p.prioritizer.leave caller }) (ends_cases ends))

end

theorem leaves_pool {result told : Except Error Bool}
    (same : result.mapError recast.error = told) :
    (recast.pool p).leaves caller told = recast.pool (p.leaves caller result) :=
  recast.finish_pool (p := { p with prioritizer := p.prioritizer.leave caller }) same

theorem found_pool {metadata : Option Metadata} {look : Find × Prioritizer} :
    (recast.pool p).found caller metadata look = recast.pool (p.found caller metadata look) := by
  unfold found
  cases look.1 with
  | stream => exact recast.setPhase_pool (p := { p with prioritizer := look.2 }) rfl
  | downgraded => exact recast.finish_pool (p := { p with prioritizer := look.2 }) rfl
  | nothing => exact recast.setPhase_pool (p := { p with prioritizer := look.2 }) rfl

theorem shutDown_pool : Except.mapError recast.error (.error .streamRestarting) =
    (.error .streamRestarting : Except Error Bool) :=
  congrArg Except.error (recast.plain _ fun _ same => by cases same)

/-- Turns of callers that look for a stream. -/
theorem looking_pool {action : Action} (looking : action = .look caller ∨ action = .lookAgain caller ∨
      action = .release caller ∨ action = .dismiss caller) :
    (recast.pool p).perform action = (p.perform action).map recast.pool := by
  obtain rfl | rfl | rfl | rfl := looking <;> unfold perform
  · simp only [recast.pool_caller]
    cases isCaller : p.callers[caller]? with
    | none => rfl
    | some c =>
      simp only [Option.map_some, Option.bind_eq_bind, Option.bind_some, Caller.mapError_phase]
      rw [recast.pool_canceled]
      cases phase : c.phase with
      | choosing metadata =>
        simp only [CallPhase.mapError]
        split
        · exact congrArg some (recast.finish_pool recast.shutDown_pool)
        · exact congrArg some recast.found_pool
      | done result => cases result <;> rfl
      | _ => rfl
  · simp only [recast.seeker?_pool]
    cases p.seeker? caller with
    | none => rfl
    | some found =>
      simp only [Option.map_some, Option.bind_eq_bind, Option.bind_some]
      rw [recast.pool_prioritizer]
      split
      · exact congrArg some recast.found_pool
      · rfl
  · simp only [recast.pool_caller]
    cases isCaller : p.callers[caller]? with
    | none => rfl
    | some c =>
      simp only [Option.map_some, Option.bind_eq_bind, Option.bind_some, Caller.mapError_phase]
      rw [recast.pool_canceled]
      cases phase : c.phase with
      | seeking metadata =>
        simp only [CallPhase.mapError]
        split
        · exact congrArg some (recast.leaves_pool recast.shutDown_pool)
        · rfl
      | done result => cases result <;> rfl
      | _ => rfl
  · simp only [recast.seeker?_pool]
    cases p.seeker? caller with
    | none => rfl
    | some found =>
      simp only [Option.map_some, Option.bind_eq_bind, Option.bind_some]
      rw [recast.pool_prioritizer]
      split
      · exact congrArg some (recast.leaves_pool rfl)
      · rfl

/-! ### Controllers and shutdowns -/

theorem startStream_pool {controller : Nat} :
    (recast.pool p).startStream controller = recast.pool (p.startStream controller) := by
  have started : { (recast.pool p).newStream with run := .starting } =
      recast.stream { p.newStream with run := .starting } := by
    have made : (recast.pool p).newStream = recast.stream p.newStream := recast.fresh p
    rw [made, recast.starts]
  have count : (recast.pool p).streams.length = p.streams.length := List.length_map _
  unfold startStream setController
  rw [started, count]
  simp only [pool, List.map_append, List.map_singleton]

theorem proceed_pool {controller : Nat} :
    (recast.pool p).proceed controller = (p.proceed controller).map recast.pool := by
  unfold proceed
  rw [recast.pool_controllers,
    recast.pool_canceled]
  cases p.controllers[controller]? with
  | none => rfl
  | some phase =>
    simp only [Option.bind_eq_bind, Option.bind_some]
    cases phase with
    | starting =>
      simp only
      split
      · rfl
      · exact congrArg some recast.startStream_pool
    | running stream =>
      simp only [recast.pool_stream]
      cases p.streams[stream]? with
      | none => rfl
      | some s =>
        simp only [Option.map_some, Option.bind_some, recast.run, recast.established]
        have givesUp : (recast.pool p).giveUp controller = recast.pool (p.giveUp controller) := by
          unfold giveUp setController
          rw [apply_ite recast.pool]
          rfl
        cases s.run with
        | done =>
          simp only [givesUp]
          split
          · rfl
          · split <;> rfl
        | _ => rfl
    | _ => rfl

theorem beginShutdown_pool {shutdown : Nat} :
    (recast.pool p).beginShutdown shutdown = (p.beginShutdown shutdown).map recast.pool := by
  unfold beginShutdown
  rw [recast.pool_shutdowns]
  cases p.shutdowns[shutdown]? with
  | none => rfl
  | some phase =>
    simp only [Option.bind_eq_bind, Option.bind_some]
    cases phase with
    | asked =>
      simp only [recast.cancel_pool]
      rfl
    | _ => rfl

theorem endShutdown_pool {shutdown : Nat} :
    (recast.pool p).endShutdown shutdown = (p.endShutdown shutdown).map recast.pool := by
  unfold endShutdown
  rw [recast.pool_shutdowns]
  cases p.shutdowns[shutdown]? with
  | none => rfl
  | some phase =>
    simp only [Option.bind_eq_bind, Option.bind_some]
    cases phase with
    | joining taken =>
      simp only
      rw [recast.pool_controllers]
      split <;> rfl
    | _ => rfl

theorem dropShutdown_pool {shutdown : Nat} :
    (recast.pool p).dropShutdown shutdown = (p.dropShutdown shutdown).map recast.pool := by
  unfold dropShutdown
  rw [recast.pool_shutdowns]
  cases p.shutdowns[shutdown]? with
  | none => rfl
  | some phase =>
    have dropped (begun : Bool) :=
      recast.endIfAbandoned_pool (p := { p with shutdowns := p.shutdowns.set shutdown (.dropped begun) })
    simp only [Option.bind_eq_bind, Option.bind_some]
    cases phase with
    | asked => exact congrArg some (dropped false)
    | joining => exact congrArg some (dropped true)
    | _ => rfl

/-! ### All steps -/

/-- An action that does not depend on what is told in another way. -/
def UnseenIn (p : Pool) : Action → Prop
  | .stream stream move => ∀ s, p.streams[stream]? = some s →
      (recast.stream s).makeMove { p.surroundings with now := recast.now p.now } move =
        (s.makeMove p.surroundings move).map recast.outcome
  | .arrive spec _ _ => spec.timeout.map (recast.now p.now + ·) = spec.timeout.map (p.now + ·)
  | .advance time => recast.now (p.now + time) = recast.now p.now + time
  | action => ∀ caller c, action.caller? = some caller → p.callers[caller]? = some c →
      recast.UnseenBy p c

theorem moveStream_pool {move : Move}
    (step : ∀ s, p.streams[stream]? = some s →
      (recast.stream s).makeMove { p.surroundings with now := recast.now p.now } move =
        (s.makeMove p.surroundings move).map recast.outcome) :
    (recast.pool p).moveStream stream move = (p.moveStream stream move).map recast.pool := by
  have moved : (recast.pool p).onStream stream (.move move (recast.pool p).surroundings) =
      (p.onStream stream (.move move p.surroundings)).map recast.pool := recast.onStream_pool step
  unfold moveStream
  rw [recast.pool_stream]
  cases isStream : p.streams[stream]? with
  | none => rfl
  | some s =>
    simp only [Option.map_some, Option.bind_eq_bind, Option.bind_some, moved, recast.isCanceled]
    cases p.onStream stream (.move move p.surroundings) with
    | none => rfl
    | some q =>
      refine congrArg some ?_
      rw [apply_ite recast.pool]
      rfl

theorem permits_pool {action : Action} : (recast.pool p).permits action = p.permits action := by
  cases action with
  | run stream =>
    unfold permits
    simp only [recast.pool_stream, Option.all_map]
    refine congrArg (fun test => (p.streams[stream]?).all test) (funext fun s => ?_)
    simp only [recast.rerun, Option.isNone_map]
  | _ => rfl

/-- Whatever can happen in a pool can happen in the recast pool, with the recast effect. -/
theorem perform_eq {action : Action} (unseen : recast.UnseenIn p action) :
    (recast.pool p).perform action = (p.perform action).map recast.pool := by
  have own {caller : Nat} (own : action.caller? = some caller)
      (all : ∀ caller c, action.caller? = some caller → p.callers[caller]? = some c →
        recast.UnseenBy p c) (c : Caller) (isCaller : p.callers[caller]? = some c) :
      recast.UnseenBy p c := all caller c own isCaller
  cases action with
  | stream => exact recast.moveStream_pool unseen
  | enter => exact recast.beginCaller_pool (own rfl unseen)
  | fetched => exact recast.fetched_pool (own rfl unseen)
  | submit => exact recast.submit_pool (own rfl unseen)
  | recheck => exact recast.recheck_pool (own rfl unseen)
  | collect => exact recast.collect_pool (own rfl unseen)
  | giveUp => exact recast.giveUp_pool (own rfl unseen)
  | dropShare => exact recast.dropShare_pool
  | look => exact recast.looking_pool (.inl rfl)
  | lookAgain => exact recast.looking_pool (.inr (.inl rfl))
  | release => exact recast.looking_pool (.inr (.inr (.inl rfl)))
  | dismiss => exact recast.looking_pool (.inr (.inr (.inr rfl)))
  | run stream =>
    unfold perform
    simp only [recast.pool_stream]
    cases isStream : p.streams[stream]? with
    | none => rfl
    | some s =>
      simp only [Option.map_some, Option.bind_eq_bind, Option.bind_some, recast.rerun]
      cases s.rerun with
      | none => exact recast.outer_pool stream .start rfl
      | some again =>
        simp only [pool, Option.map_some, Option.pure_def, List.map_set]
  | arrive spec records target =>
    refine congrArg some ?_
    simp only [pool, List.map_append, List.map_singleton, Caller.mapError, CallPhase.mapError,
      Option.map_none]
    rw [show spec.timeout.map (recast.now p.now + ·) = spec.timeout.map (p.now + ·) from unseen]
  | cancelCaller caller =>
    unfold perform
    simp only [recast.pool_caller]
    cases p.callers[caller]? with
    | none => rfl
    | some c => exact congrArg some (recast.updateCaller_pool fun _ => rfl)
  | advance time =>
    refine congrArg some ?_
    simp only [pool]
    rw [show recast.now (p.now + time) = recast.now p.now + time from unseen]
  | deliver => exact recast.onCall_pool rfl
  | setMode => exact recast.onCall_pool rfl
  | cancel => exact congrArg some recast.cancel_pool
  | glance =>
    have count : (recast.pool p).callers.length = p.callers.length := List.length_map _
    unfold perform
    rw [count]
    rfl
  | proceed => exact recast.proceed_pool
  | askShutdown => rfl
  | beginShutdown => exact recast.beginShutdown_pool
  | endShutdown => exact recast.endShutdown_pool
  | dropShutdown => exact recast.dropShutdown_pool
  | letGo => exact congrArg some (recast.endIfAbandoned_pool (p := { p with held := false }))

def UnseenAlong : Pool → List Action → Prop
  | _, [] => True
  | p, action :: actions =>
    recast.UnseenIn p action ∧
      ∀ q, p.permits action = true → p.perform action = some q → UnseenAlong q actions

theorem follow_eq {actions : List Action} (unseen : recast.UnseenAlong p actions) :
    (recast.pool p).follow actions = (p.follow actions).map recast.pool := by
  induction actions generalizing p with
  | nil => rfl
  | cons action actions ih =>
    obtain ⟨first, rest⟩ := unseen
    unfold follow
    rw [recast.permits_pool, recast.perform_eq first]
    split
    case isTrue permitted =>
      cases made : p.perform action with
      | none => rfl
      | some q => exact ih (rest q permitted made)
    case isFalse => rfl

end Recast

end TelemetryStreams
