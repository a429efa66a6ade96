import TelemetryStreams.Proofs.Pool.Callers

/-!
# What a caller has to itself

The context of a caller, how far it has come and its share of the pool are its own (`Guise`): nobody else
looks at them, but for the question whether anybody holds the pool. So as long as somebody else holds it,
whatever others can do they can do just as well when the caller has another guise, and with the same
effect (`perform_disguise`).
-/
namespace TelemetryStreams

/-- The context of a caller, how far it has come, and whether it holds a share of the pool. -/
structure Guise where
  canceled : Bool
  deadline : Option Nat
  phase : CallPhase
  holds : Bool

def Caller.guise (c : Caller) : Guise := ⟨c.canceled, c.deadline, c.phase, c.holds⟩

def Caller.disguised (c : Caller) (guise : Guise) : Caller :=
  { c with
    canceled := guise.canceled, deadline := guise.deadline, phase := guise.phase
    holds := guise.holds }

namespace Pool

/-- The pool with another guise for one caller. -/
def disguise (p : Pool) (caller : Nat) (guise : Guise) : Pool :=
  p.updateCaller caller fun c => c.disguised guise

/-- Whether somebody else than a caller holds the pool. -/
def IsHeldBesides (p : Pool) (caller : Nat) : Prop :=
  p.held = true ∨ (∃ other c, other ≠ caller ∧ p.callers[other]? = some c ∧ c.holds = true) ∨
    ∃ shutdown ∈ p.shutdowns, shutdown.isOver = false

variable {p q : Pool} {caller other stream : Nat} {c : Caller} {guise : Guise}

@[simp] theorem disguise_setup : (p.disguise caller guise).setup = p.setup := rfl

@[simp] theorem disguise_now : (p.disguise caller guise).now = p.now := rfl

@[simp] theorem disguise_endpoint : (p.disguise caller guise).endpoint = p.endpoint := rfl

@[simp] theorem disguise_prioritizer :
    (p.disguise caller guise).prioritizer = p.prioritizer := rfl

@[simp] theorem disguise_streams : (p.disguise caller guise).streams = p.streams := rfl

@[simp] theorem disguise_controllers :
    (p.disguise caller guise).controllers = p.controllers := rfl

@[simp] theorem disguise_canceled : (p.disguise caller guise).canceled = p.canceled := rfl

@[simp] theorem disguise_shutdowns : (p.disguise caller guise).shutdowns = p.shutdowns := rfl

theorem disguise_callers (differ : other ≠ caller) :
    (p.disguise caller guise).callers[other]? = p.callers[other]? :=
  List.getElem?_modify_ne _ _ differ.symm

theorem disguise_caller (isCaller : p.callers[caller]? = some c) :
    (p.disguise caller guise).callers[caller]? = some (c.disguised guise) := by
  rw [disguise, updateCaller_callers, if_pos rfl, isCaller]
  rfl

@[simp] theorem disguise_disguise (p : Pool) (caller : Nat) (first second : Guise) :
    (p.disguise caller first).disguise caller second = p.disguise caller second := by
  unfold disguise updateCaller
  simp only [List.modify_modify_eq]
  rfl

theorem disguise_self (isCaller : p.callers[caller]? = some c) :
    p.disguise caller c.guise = p := by
  have same : p.callers.modify caller (fun c' => c'.disguised c.guise) = p.callers := by
    refine List.ext_getElem? fun place => ?_
    rw [List.getElem?_modify]
    split
    case isTrue here =>
      subst here
      rw [isCaller]
      rfl
    case isFalse => simp
  unfold disguise updateCaller
  rw [same]

theorem updateCaller_disguise (differ : other ≠ caller) (change : Caller → Caller) :
    (p.disguise caller guise).updateCaller other change =
      (p.updateCaller other change).disguise caller guise := by
  unfold disguise updateCaller
  simp only [List.modify_modify_ne _ _ _ differ.symm]

theorem setPhase_disguise (differ : other ≠ caller) (phase : CallPhase) :
    (p.disguise caller guise).setPhase other phase =
      (p.setPhase other phase).disguise caller guise := updateCaller_disguise differ _

theorem finish_disguise {result : Except Error Bool} (differ : other ≠ caller) :
    (p.disguise caller guise).finish other result =
      (p.finish other result).disguise caller guise := setPhase_disguise differ _

/-! ### Holding the pool -/

theorem IsHeldBesides.disguise (held : p.IsHeldBesides caller) (guise : Guise) :
    (p.disguise caller guise).IsHeldBesides caller := by
  obtain owned | ⟨other, c, differ, isCaller, holds⟩ | asked := held
  · exact .inl owned
  · exact .inr (.inl ⟨other, c, differ, (disguise_callers differ).trans isCaller, holds⟩)
  · exact .inr (.inr asked)

theorem IsHeldBesides.not_abandoned (held : p.IsHeldBesides caller) : p.isAbandoned = false := by
  unfold isAbandoned
  obtain owned | ⟨other, c, -, isCaller, holds⟩ | ⟨shutdown, isRequest, waits⟩ := held
  · simp [owned]
  · have shared : p.callers.all (fun c => !c.holds) = false :=
      List.all_eq_false.mpr ⟨c, List.mem_of_getElem? isCaller, by simp [holds]⟩
    simp [shared]
  · have undone : p.shutdowns.all Shutdown.isOver = false :=
      List.all_eq_false.mpr ⟨shutdown, isRequest, by simp [waits]⟩
    simp [undone]

theorem isHeldBesides_endIfAbandoned :
    p.endIfAbandoned.IsHeldBesides caller ↔ p.IsHeldBesides caller := by
  have same := view_endIfAbandoned (fun p => p.IsHeldBesides caller) (fun _ => rfl) p
  exact iff_of_eq same

/-- A pool that somebody holds is not asked to end. -/
theorem IsHeldBesides.endIfAbandoned_eq (held : p.endIfAbandoned.IsHeldBesides caller) :
    p.endIfAbandoned = p := by
  rw [isHeldBesides_endIfAbandoned] at held
  rw [endIfAbandoned, held.not_abandoned]
  rfl

theorem endIfAbandoned_disguise (held : p.endIfAbandoned.IsHeldBesides caller) :
    (p.disguise caller guise).endIfAbandoned = p.endIfAbandoned.disguise caller guise := by
  have held' := (isHeldBesides_endIfAbandoned.mp held).disguise guise
  rw [held.endIfAbandoned_eq, endIfAbandoned, held'.not_abandoned]
  rfl

theorem dropShare_disguise (differ : other ≠ caller) (made : p.dropShare other = some q)
    (held : q.IsHeldBesides caller) :
    (p.disguise caller guise).dropShare other = some (q.disguise caller guise) := by
  obtain ⟨c, isCaller, made⟩ := Option.bind_eq_some_iff.mp made
  unfold dropShare
  rw [disguise_callers differ, isCaller]
  simp only [Option.bind_eq_bind, Option.bind_some]
  split at made
  case isFalse => cases made
  case isTrue departs =>
    cases made
    refine (if_pos departs).trans (congrArg some ?_)
    rw [updateCaller_disguise differ, endIfAbandoned_disguise held]

/-! ### Streams -/

theorem notice_disguise (stream : Nat) (event : Event) :
    (p.disguise caller guise).notice stream event =
      (p.notice stream event).disguise caller guise := by
  unfold notice
  split
  case h_3 ticket result =>
    by_cases differ : ticket = caller
    · subst differ
      unfold disguise updateCaller
      simp only [List.modify_modify_eq]
      rfl
    · exact updateCaller_disguise differ _
  all_goals rfl

theorem onStream_disguise {action : Stream.Action} (made : p.onStream stream action = some q) :
    (p.disguise caller guise).onStream stream action = some (q.disguise caller guise) := by
  obtain ⟨s, isStream, made⟩ := Option.bind_eq_some_iff.mp made
  obtain ⟨⟨next, events⟩, step, made⟩ := Option.bind_eq_some_iff.mp made
  have notices (events : List Event) (p : Pool) :
      events.foldl (fun p event => p.notice stream event) (p.disguise caller guise) =
        (events.foldl (fun p event => p.notice stream event) p).disguise caller guise := by
    induction events generalizing p with
    | nil => rfl
    | cons event events ih => rw [List.foldl_cons, notice_disguise, ih, List.foldl_cons]
  cases made
  unfold onStream
  simp only [disguise_streams, isStream, step, Option.bind_eq_bind, Option.bind_some, Option.pure_def]
  exact congrArg some (notices events { p with streams := p.streams.set stream (next.record events) })

theorem moveStream_disguise {move : Move} (made : p.moveStream stream move = some q) :
    (p.disguise caller guise).moveStream stream move = some (q.disguise caller guise) := by
  obtain ⟨s, isStream, made⟩ := Option.bind_eq_some_iff.mp made
  obtain ⟨after, moved, made⟩ := Option.bind_eq_some_iff.mp made
  have moved' : (p.disguise caller guise).onStream stream
      (.move move (p.disguise caller guise).surroundings) = some (after.disguise caller guise) :=
    onStream_disguise moved
  unfold moveStream
  simp only [disguise_streams, isStream, moved', Option.bind_eq_bind, Option.bind_some,
    Option.pure_def]
  have made := Option.some.inj made
  split at made
  case isTrue tried => rw [if_pos tried, ← made]; rfl
  case isFalse tried => rw [if_neg tried, ← made]

theorem onCall_disguise {call : Nat} {action : Stream.Action}
    (made : p.onCall call action = some q) :
    (p.disguise caller guise).onCall call action = some (q.disguise caller guise) := by
  unfold onCall at made ⊢
  rw [disguise_endpoint, show (p.disguise caller guise).streamOf? call = p.streamOf? call from rfl]
  split at made
  case isTrue => cases made
  case isFalse known =>
    rw [if_neg known]
    split at made
    case h_1 stream serves => exact onStream_disguise made
    case h_2 serves => cases made; rfl

/-! ### Other callers -/

section
variable (differ : other ≠ caller)
include differ

theorem afterCredentials_disguise (target : Option Nat) (metadata : Option Metadata) :
    (p.disguise caller guise).afterCredentials other target metadata =
      (p.afterCredentials other target metadata).disguise caller guise :=
  setPhase_disguise differ _

theorem beginCaller_disguise (made : p.beginCaller other = some q) :
    (p.disguise caller guise).beginCaller other = some (q.disguise caller guise) := by
  obtain ⟨c, isCaller, made⟩ := Option.bind_eq_some_iff.mp made
  unfold beginCaller
  rw [disguise_callers differ, isCaller]
  simp only [Option.bind_eq_bind, Option.bind_some, disguise_now, disguise_setup]
  split at made
  case h_2 => cases made
  case h_1 arriving =>
    split at made
    case h_1 reason free ended =>
      cases made
      exact congrArg some (finish_disguise differ)
    case h_2 =>
      split at made
      case h_1 unequipped =>
        cases made
        exact congrArg some (afterCredentials_disguise differ _ _)
      case h_2 equipped =>
        cases made
        exact congrArg some (setPhase_disguise differ _)

theorem fetched_disguise (made : p.fetched other = some q) :
    (p.disguise caller guise).fetched other = some (q.disguise caller guise) := by
  obtain ⟨c, isCaller, made⟩ := Option.bind_eq_some_iff.mp made
  obtain ⟨credentials, equipped, made⟩ := Option.bind_eq_some_iff.mp made
  unfold fetched
  rw [disguise_callers differ, isCaller]
  simp only [Option.bind_eq_bind, Option.bind_some, disguise_now, disguise_setup, equipped]
  split at made
  case h_2 => cases made
  case h_1 ready fetching =>
    split at made
    case isFalse => cases made
    case isTrue due =>
      refine (if_pos due).trans ?_
      split at made
      case h_1 error failed =>
        cases made
        exact congrArg some (finish_disguise differ)
      case h_2 metadata fetched =>
        cases made
        exact congrArg some (afterCredentials_disguise differ _ _)

theorem submit_disguise {late : Bool} (made : p.submit other late = some q) :
    (p.disguise caller guise).submit other late = some (q.disguise caller guise) := by
  obtain ⟨c, isCaller, made⟩ := Option.bind_eq_some_iff.mp made
  unfold submit
  rw [disguise_callers differ, isCaller]
  simp only [Option.bind_eq_bind, Option.bind_some, disguise_now, disguise_streams]
  split at made
  case h_2 => cases made
  case h_1 stream bound metadata submitting =>
    obtain ⟨s, isStream, made⟩ := Option.bind_eq_some_iff.mp made
    rw [isStream]
    simp only [Option.bind_some]
    split at made
    case h_1 | h_2 =>
      cases made
      exact congrArg some (finish_disguise differ)
    case h_3 =>
      obtain ⟨r, entered, made⟩ := Option.bind_eq_some_iff.mp made
      cases made
      have entered' : (p.disguise caller guise).onStream stream
          (.submit ((p.disguise caller guise).itemOf other c metadata)) =
            some (r.disguise caller guise) := onStream_disguise entered
      rw [entered']
      exact congrArg some (setPhase_disguise differ _)

theorem recheck_disguise {late : Bool} (made : p.recheck other late = some q) :
    (p.disguise caller guise).recheck other late = some (q.disguise caller guise) := by
  obtain ⟨c, isCaller, made⟩ := Option.bind_eq_some_iff.mp made
  unfold recheck
  rw [disguise_callers differ, isCaller]
  simp only [Option.bind_eq_bind, Option.bind_some, disguise_now, disguise_streams]
  split at made
  case h_2 => cases made
  case h_1 stream bound queued =>
    obtain ⟨s, isStream, made⟩ := Option.bind_eq_some_iff.mp made
    rw [isStream]
    simp only [Option.bind_some]
    split at made
    case h_1 | h_2 =>
      obtain ⟨r, withdrawn, made⟩ := Option.bind_eq_some_iff.mp made
      cases made
      rw [onStream_disguise withdrawn]
      exact congrArg some (finish_disguise differ)
    case h_3 =>
      split at made
      case isTrue => cases made
      case isFalse moved =>
        cases made
        rw [if_neg moved]
        exact congrArg some (setPhase_disguise differ _)

theorem found_disguise {metadata : Option Metadata} {look : Find × Prioritizer} :
    (p.disguise caller guise).found other metadata look =
      (p.found other metadata look).disguise caller guise := by
  unfold found
  split
  case h_1 => exact setPhase_disguise (p := { p with prioritizer := look.2 }) differ _
  case h_2 => exact finish_disguise (p := { p with prioritizer := look.2 }) differ
  case h_3 => exact setPhase_disguise (p := { p with prioritizer := look.2 }) differ _

theorem leaves_disguise {result : Except Error Bool} :
    (p.disguise caller guise).leaves other result =
      (p.leaves other result).disguise caller guise :=
  finish_disguise (p := { p with prioritizer := p.prioritizer.leave other }) differ

theorem seeker?_disguise : (p.disguise caller guise).seeker? other = p.seeker? other := by
  unfold seeker?
  rw [disguise_callers differ, disguise_canceled]

theorem collect_disguise {late : Bool} (made : p.collect other late = some q) :
    (p.disguise caller guise).collect other late = some (q.disguise caller guise) := by
  obtain ⟨c, isCaller, made⟩ := Option.bind_eq_some_iff.mp made
  unfold collect
  rw [disguise_callers differ, isCaller]
  simp only [Option.bind_eq_bind, Option.bind_some, disguise_now, disguise_streams]
  split at made
  case h_2 => cases made
  case h_1 stream awaiting =>
    obtain ⟨s, isStream, made⟩ := Option.bind_eq_some_iff.mp made
    rw [isStream]
    simp only [Option.bind_some]
    split at made
    case h_5 => cases made
    all_goals
      cases made
      exact congrArg some (finish_disguise differ)

end

/-! ### Controllers and shutdowns -/

theorem giveUp_disguise (controller : Nat) :
    (p.disguise caller guise).giveUp controller =
      (p.giveUp controller).disguise caller guise := by
  unfold giveUp
  change (if p.active - 1 = 0 then _ else _) = disguise (if p.active - 1 = 0 then _ else _) _ _
  split <;> rfl

theorem proceed_disguise {controller : Nat} (made : p.proceed controller = some q) :
    (p.disguise caller guise).proceed controller = some (q.disguise caller guise) := by
  obtain ⟨phase, isController, made⟩ := Option.bind_eq_some_iff.mp made
  unfold proceed
  simp only [disguise_controllers, isController, Option.bind_eq_bind, Option.bind_some]
  split at made
  case h_3 => cases made
  case h_1 =>
    split at made
    case isTrue canceled => cases made; exact if_pos canceled
    case isFalse alive => cases made; exact if_neg alive
  case h_2 stream =>
    obtain ⟨s, isStream, made⟩ := Option.bind_eq_some_iff.mp made
    simp only [disguise_streams, isStream, Option.bind_some]
    split at made
    case h_3 => cases made
    case h_2 => cases made; rfl
    case h_1 =>
      split at made
      case isTrue established => cases made; exact if_pos established
      case isFalse unestablished =>
        refine (if_neg unestablished).trans ?_
        split at made
        case isTrue canceled => cases made; exact if_pos canceled
        case isFalse alive =>
          cases made
          exact (if_neg alive).trans (congrArg some (giveUp_disguise controller))

theorem beginShutdown_disguise {shutdown : Nat} (made : p.beginShutdown shutdown = some q) :
    (p.disguise caller guise).beginShutdown shutdown = some (q.disguise caller guise) := by
  obtain ⟨request, isRequest, made⟩ := Option.bind_eq_some_iff.mp made
  unfold beginShutdown
  simp only [disguise_shutdowns, isRequest, Option.bind_eq_bind, Option.bind_some]
  split at made
  case h_1 => cases made; rfl
  case h_2 => cases made

theorem endShutdown_disguise {shutdown : Nat} (made : p.endShutdown shutdown = some q) :
    (p.disguise caller guise).endShutdown shutdown = some (q.disguise caller guise) := by
  obtain ⟨request, isRequest, made⟩ := Option.bind_eq_some_iff.mp made
  unfold endShutdown
  simp only [disguise_shutdowns, disguise_controllers, isRequest, Option.bind_eq_bind,
    Option.bind_some]
  split at made
  case h_2 => cases made
  case h_1 =>
    dsimp only at made
    split at made
    case isTrue exited => cases made; exact if_pos exited
    case isFalse => cases made

theorem dropShutdown_disguise {shutdown : Nat} (made : p.dropShutdown shutdown = some q)
    (held : q.IsHeldBesides caller) :
    (p.disguise caller guise).dropShutdown shutdown = some (q.disguise caller guise) := by
  obtain ⟨request, isRequest, made⟩ := Option.bind_eq_some_iff.mp made
  unfold dropShutdown
  simp only [disguise_shutdowns, isRequest, Option.bind_eq_bind, Option.bind_some]
  split at made
  case h_3 => cases made
  all_goals
    cases made
    exact congrArg some (endIfAbandoned_disguise held)

/-! ### All actions of others -/

/-- Whether an action is a turn of a caller, the end of its context, or the loss of its share. -/
def Action.isOf (caller : Nat) : Action → Bool
  | .cancelCaller other | .dropShare other => other = caller
  | action => action.caller? = some caller

theorem modify_concat {α : Type} {l : List α} {place : Nat} (inside : place < l.length)
    (change : α → α) (a : α) : (l ++ [a]).modify place change = l.modify place change ++ [a] := by
  refine List.ext_getElem? fun other => ?_
  rw [List.getElem?_modify, List.getElem?_append, List.getElem?_append, List.length_modify,
    List.getElem?_modify]
  split
  case isTrue here =>
    subst here
    rw [if_pos inside, if_pos inside]
  case isFalse => simp

/-- Whatever others can do they can do when a caller has another guise, with the same effect. -/
theorem perform_disguise {action : Action} (apart : action.isOf caller = false)
    (isCaller : p.callers[caller]? = some c) (made : p.perform action = some q)
    (held : q.IsHeldBesides caller) (guise : Guise) :
    (p.disguise caller guise).perform action = some (q.disguise caller guise) := by
  have inside := (List.getElem?_eq_some_iff.mp isCaller).1
  have other {place : Nat} (own : action.caller? = some place) : place ≠ caller := by
    rintro rfl
    cases action with
    | cancelCaller | dropShare => cases own
    | _ => simp_all [Action.isOf]
  cases action with
  | stream => exact moveStream_disguise made
  | run stream =>
    obtain ⟨s, isStream, made⟩ := Option.bind_eq_some_iff.mp made
    simp only [perform, disguise_streams, isStream, Option.bind_eq_bind, Option.bind_some]
    split at made
    case h_1 => cases made; rfl
    case h_2 => exact onStream_disguise made
  | arrive =>
    cases made
    simp only [perform, disguise, updateCaller, modify_concat inside]
  | cancelCaller canceled =>
    have differ : canceled ≠ caller := by simpa [Action.isOf] using apart
    obtain ⟨d, isOther, made⟩ := Option.bind_eq_some_iff.mp made
    cases made
    simp only [perform, disguise_callers differ, isOther, Option.bind_eq_bind, Option.bind_some,
      Option.pure_def]
    exact congrArg some (updateCaller_disguise differ _)
  | advance | cancel | askShutdown => cases made; rfl
  | deliver | setMode => exact onCall_disguise made
  | glance =>
    cases made
    simp only [perform, disguise, updateCaller, List.length_modify]
  | enter => exact beginCaller_disguise (other rfl) made
  | fetched => exact fetched_disguise (other rfl) made
  | submit => exact submit_disguise (other rfl) made
  | recheck => exact recheck_disguise (other rfl) made
  | collect => exact collect_disguise (other rfl) made
  | look place =>
    have differ := other rfl
    obtain ⟨d, isOther, made⟩ := Option.bind_eq_some_iff.mp made
    simp only [perform, disguise_callers differ, isOther, Option.bind_eq_bind, Option.bind_some]
    split at made
    case h_2 => cases made
    case h_1 metadata choosing =>
      split at made
      case isTrue canceled =>
        cases made
        exact (if_pos canceled).trans (congrArg some (finish_disguise differ))
      case isFalse alive =>
        cases made
        exact (if_neg alive).trans (congrArg some (found_disguise differ))
  | lookAgain place =>
    have differ := other rfl
    obtain ⟨⟨d, metadata⟩, seeks, made⟩ := Option.bind_eq_some_iff.mp made
    simp only [perform, seeker?_disguise differ, seeks, Option.bind_eq_bind, Option.bind_some]
    dsimp only at made
    split at made
    case isTrue notified =>
      cases made
      exact (if_pos notified).trans (congrArg some (found_disguise differ))
    case isFalse => cases made
  | release place =>
    have differ := other rfl
    obtain ⟨d, isOther, made⟩ := Option.bind_eq_some_iff.mp made
    simp only [perform, disguise_callers differ, isOther, Option.bind_eq_bind, Option.bind_some]
    split at made
    case h_2 => cases made
    case h_1 =>
      split at made
      case isTrue canceled =>
        cases made
        exact (if_pos canceled).trans (congrArg some (leaves_disguise differ))
      case isFalse => cases made
  | dismiss place =>
    have differ := other rfl
    obtain ⟨seeker, seeks, made⟩ := Option.bind_eq_some_iff.mp made
    simp only [perform, seeker?_disguise differ, seeks, Option.bind_eq_bind, Option.bind_some]
    split at made
    case isTrue downgraded =>
      cases made
      exact (if_pos downgraded).trans (congrArg some (leaves_disguise differ))
    case isFalse => cases made
  | giveUp place =>
    have differ := other rfl
    obtain ⟨⟨d, metadata⟩, seeks, made⟩ := Option.bind_eq_some_iff.mp made
    obtain ⟨reason, ended, made⟩ := Option.bind_eq_some_iff.mp made
    cases made
    simp only [perform, seeker?_disguise differ, seeks, disguise_now, ended, Option.bind_eq_bind,
      Option.bind_some, Option.pure_def]
    exact congrArg some (leaves_disguise differ)
  | dropShare place =>
    have differ : place ≠ caller := by simpa [Action.isOf] using apart
    exact dropShare_disguise differ made held
  | proceed => exact proceed_disguise made
  | beginShutdown => exact beginShutdown_disguise made
  | endShutdown => exact endShutdown_disguise made
  | dropShutdown => exact dropShutdown_disguise made held
  | letGo =>
    cases made
    exact congrArg some (endIfAbandoned_disguise (p := { p with held := false }) held)

end Pool

end TelemetryStreams
