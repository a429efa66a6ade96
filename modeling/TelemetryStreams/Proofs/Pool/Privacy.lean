import TelemetryStreams.Proofs.Pool.Disguise
import TelemetryStreams.Proofs.Pool.Prompts

/-!
# The context of a caller is its own affair

Once a caller has handed over its batch (`HandedOver`), nobody else can tell whether or when its
context ends, as long as somebody else holds the pool: two runs that differ only in that, and in the
turns in which the caller looks at it, end in pools that differ only in the context of the caller and
in how far it has come (`context_is_private`). A pool that nobody else holds ends when the caller has
returned and its share is let go, so that there the end of the context ends all streams
(`last_caller_ends_streams`).
-/
namespace TelemetryStreams

/-- Whether a caller has nothing left to do but to look at its context and its result. -/
def CallPhase.isLate : CallPhase → Bool
  | .queued _ true | .awaiting _ | .done _ => true
  | _ => false

namespace Pool

variable {p q r : Pool} {action : Action} {actions : List Action} {caller other stream : Nat}
  {c d : Caller} {s : Stream} {bound : Bool} {guise : Guise} {phase : CallPhase}
  {result : Except Error Bool}

/-! ### Callers that have handed over their batches -/

/-- Where a caller can stand that has handed over its batch: its item has entered the queue of the
stream or, if the stream was handed to it, it has taken the stream. -/
inductive HandedOver (p : Pool) (caller : Nat) (bound : Bool) : CallPhase → Prop
  | took {stream : Nat} {metadata : Option Metadata} (given : bound = false) :
      HandedOver p caller bound (.submitting stream false metadata)
  | waits {stream : Nat} (given : bound = false) :
      HandedOver p caller bound (.queued stream false)
  /-- It waits for room, and has not seen that its item has moved into the queue. -/
  | moved {stream : Nat} (chosen : bound = true) (gone : ∀ s, p.streams[stream]? = some s →
      ∀ item ∈ s.senders, item.ticket ≠ caller) : HandedOver p caller bound (.queued stream true)
  | awaits {stream : Nat} : HandedOver p caller bound (.awaiting stream)
  | done {result : Except Error Bool} : HandedOver p caller bound (.done result)

/-- Whether in an action a caller that has handed over its batch looks at its context and its result,
or the context ends, or its share of the pool is let go. -/
def Action.isPrivate (caller : Nat) (bound : Bool) : Action → Bool
  | .cancelCaller other | .collect other _ | .dropShare other => other = caller
  | .recheck other _ => bound && other = caller
  | _ => false

/-- What others have to do with a run. -/
def publicPart (caller : Nat) (bound : Bool) (actions : List Action) : List Action :=
  actions.filter fun action => !action.isPrivate caller bound

/-- Somebody else than a caller holds the pool all along a run. -/
def HeldRun (p : Pool) (caller : Nat) : List Action → Prop
  | [] => True
  | action :: actions =>
    ∀ q, p.perform action = some q → q.IsHeldBesides caller ∧ q.HeldRun caller actions

/-! ### What the caller does by itself -/

theorem updateCaller_eq_disguise {change : Caller → Caller} (isCaller : p.callers[caller]? = some c)
    (same : change c = c.disguised guise) : p.updateCaller caller change = p.disguise caller guise := by
  unfold disguise updateCaller
  have callers : p.callers.modify caller change =
      p.callers.modify caller fun c => c.disguised guise := by
    refine List.ext_getElem? fun place => ?_
    rw [List.getElem?_modify, List.getElem?_modify]
    by_cases here : caller = place
    · subst here
      simp [isCaller, same]
    · simp [here]
  rw [callers]

theorem setPhase_eq_disguise (isCaller : p.callers[caller]? = some c) (phase : CallPhase) :
    p.setPhase caller phase = p.disguise caller { c.guise with phase := phase } :=
  updateCaller_eq_disguise isCaller rfl

/-- A share that is let go while somebody else holds the pool is missed by nobody. -/
theorem dropShare_eq_disguise (isCaller : p.callers[caller]? = some c)
    (made : p.dropShare caller = some q) (held : q.IsHeldBesides caller) :
    q = p.disguise caller { c.guise with holds := false } := by
  simp only [dropShare, isCaller, Option.bind_eq_bind, Option.bind_some] at made
  split at made
  case isFalse => cases made
  case isTrue =>
    cases made
    rw [held.endIfAbandoned_eq]
    exact updateCaller_eq_disguise isCaller rfl

/-- A caller whose item has moved into the queue leaves nothing behind as it leaves. -/
theorem onStream_leave (isStream : p.streams[stream]? = some s)
    (gone : ∀ item ∈ s.senders, item.ticket ≠ caller) :
    p.onStream stream (.leave caller) = some p := by
  have senders : s.senders.filter (fun item => item.ticket ≠ caller) = s.senders :=
    List.filter_eq_self.mpr fun item isSender => by simpa using gone item isSender
  have same : (s.leave caller).record [] = s := by
    rw [Stream.record_nil, Stream.leave, senders]
  have streams : p.streams.set stream s = p.streams := by
    refine List.ext_getElem? fun place => ?_
    rw [List.getElem?_set]
    split
    case isTrue here =>
      subst here
      rw [if_pos (List.getElem?_eq_some_iff.mp isStream).1, isStream]
    case isFalse => rfl
  simp only [onStream, isStream, Stream.step, Option.bind_eq_bind, Option.bind_some, Option.pure_def,
    List.foldl_nil, same, streams]

/-- What a caller does by itself is another guise. -/
theorem private_step (isCaller : p.callers[caller]? = some c)
    (handed : HandedOver p caller bound c.phase) (own : action.isPrivate caller bound = true)
    (made : p.perform action = some q) (held : q.IsHeldBesides caller) :
    ∃ guise, q = p.disguise caller guise ∧ HandedOver p caller bound guise.phase ∧
      (guise.phase = c.phase ∨ c.phase.isLate = true ∧ guise.phase.isLate = true) := by
  have returns {result : Except Error Bool} (late : c.phase.isLate = true)
      (done : p.finish caller result = q) : ∃ guise, q = p.disguise caller guise ∧
        HandedOver p caller bound guise.phase ∧
        (guise.phase = c.phase ∨ c.phase.isLate = true ∧ guise.phase.isLate = true) := by
    subst done
    exact ⟨_, setPhase_eq_disguise isCaller _, .done, .inr ⟨late, rfl⟩⟩
  cases action with
  | cancelCaller other =>
    obtain rfl : other = caller := by simpa [Action.isPrivate] using own
    simp only [perform, isCaller, Option.bind_eq_bind, Option.bind_some, Option.pure_def] at made
    cases made
    exact ⟨{ c.guise with canceled := true }, updateCaller_eq_disguise isCaller rfl, handed, .inl rfl⟩
  | dropShare other =>
    obtain rfl : other = caller := by simpa [Action.isPrivate] using own
    exact ⟨_, dropShare_eq_disguise isCaller made held, handed, .inl rfl⟩
  | collect other =>
    obtain rfl : other = caller := by simpa [Action.isPrivate] using own
    simp only [perform, collect, isCaller, Option.bind_eq_bind, Option.bind_some] at made
    split at made
    case h_2 => cases made
    case h_1 stream awaiting =>
      have late : c.phase.isLate = true := by rw [awaiting]; rfl
      obtain ⟨s, isStream, made⟩ := Option.bind_eq_some_iff.mp made
      split at made
      case h_5 => cases made
      all_goals exact returns late (Option.some.inj made)
  | recheck other =>
    obtain ⟨chosen, rfl⟩ : bound = true ∧ other = caller := by simpa [Action.isPrivate] using own
    simp only [perform, recheck, isCaller, Option.bind_eq_bind, Option.bind_some] at made
    split at made
    case h_2 => cases made
    case h_1 stream queues queued =>
      obtain ⟨s, isStream, made⟩ := Option.bind_eq_some_iff.mp made
      rw [queued] at handed
      cases handed with
      | waits given => rw [given] at chosen; cases chosen
      | moved _ gone =>
        have late : c.phase.isLate = true := by rw [queued]; rfl
        simp only [onStream_leave isStream (gone s isStream), Option.bind_some] at made
        split at made
        case h_1 | h_2 => exact returns late (Option.some.inj made)
        case h_3 =>
          split at made
          case isTrue => cases made
          case isFalse =>
            cases made
            exact ⟨_, setPhase_eq_disguise isCaller _, .awaits, .inr ⟨late, rfl⟩⟩
  | _ => cases own

/-! ### What others can tell -/

/-- A caller that has handed over its batch stays so while others act. -/
theorem HandedOver.step (handed : HandedOver p caller bound phase)
    (permitted : p.permits action = true) (made : p.perform action = some q)
    (apart : action.caller? ≠ some caller) : HandedOver q caller bound phase := by
  cases handed with
  | took given => exact .took given
  | waits given => exact .waits given
  | awaits => exact .awaits
  | done => exact .done
  | @moved stream chosen gone =>
    refine .moved chosen fun t isStream item isSender => ?_
    obtain started | ⟨s, before, u, prompted, after⟩ := perform_stream_cases permitted made isStream
    · obtain rfl | rfl := started <;> cases isSender
    · have waits : item ∈ u.senders := by
        obtain rfl | ⟨rfl, -⟩ := after
        · exact isSender
        · exact isSender
      obtain rfl | ⟨prompted, events, next, prompts, step, rfl⟩ := prompted
      · exact gone _ before item waits
      · obtain earlier | rfl := step.mem_senders waits
        · exact gone s before item earlier
        · cases prompts with
          | submitted own mine =>
            rintro rfl
            exact apart (mine ▸ own)

theorem guise_perform (permitted : p.permits action = true) (apart : action.isOf caller = false)
    (isCaller : p.callers[caller]? = some c) (made : p.perform action = some q)
    (held : q.IsHeldBesides caller) : ∃ d, q.callers[caller]? = some d ∧ d.guise = c.guise := by
  have same := perform_disguise apart isCaller made held c.guise
  rw [disguise_self isCaller, made] at same
  have same : q = q.disguise caller c.guise := Option.some.inj same
  have next : Leads p q := .head permitted made (Leads.refl q)
  obtain ⟨d, isCaller', -⟩ := next.kept isCaller
  refine ⟨d, isCaller', ?_⟩
  have own : (q.disguise caller c.guise).callers[caller]? = _ := disguise_caller isCaller'
  rw [← same, isCaller'] at own
  rw [Option.some.inj own]
  rfl

/-- The turns of a caller that has handed over its batch, but for those that it has to itself: it hands
over its item, or sees that there is room for it. -/
theorem HandedOver.turn_cases (handed : HandedOver p caller bound c.phase)
    (isCaller : p.callers[caller]? = some c) (own : action.isOf caller = true)
    (visible : action.isPrivate caller bound = false) (made : p.perform action = some q) :
    (∃ late, action = .submit caller late ∧
        ∃ stream metadata, c.phase = .submitting stream false metadata) ∨
      ∃ late, action = .recheck caller late ∧ ∃ stream, c.phase = .queued stream false := by
  generalize same : c.phase = phase at handed
  cases action with
  | submit other late =>
    obtain rfl : other = caller := by simpa [Action.isOf, Action.caller?] using own
    cases handed with
    | took => exact .inl ⟨late, rfl, _, _, rfl⟩
    | _ => simp [perform, submit, isCaller, same] at made
  | recheck other late =>
    obtain rfl : other = caller := by simpa [Action.isOf, Action.caller?] using own
    cases handed with
    | waits => exact .inr ⟨late, rfl, _, rfl⟩
    | moved chosen => simp [Action.isPrivate, chosen] at visible
    | _ => simp [perform, recheck, isCaller, same] at made
  | cancelCaller | collect | dropShare =>
    simp_all [Action.isOf, Action.caller?, Action.isPrivate]
  | enter other | fetched other | look other | lookAgain other | release other | dismiss other
  | giveUp other =>
    obtain rfl : other = caller := by simpa [Action.isOf, Action.caller?] using own
    cases handed <;>
      simp [perform, beginCaller, fetched, seeker?, isCaller, same] at made
  | _ => cases own

theorem setPhase_disguise_self (phase : CallPhase) :
    (p.disguise caller guise).setPhase caller phase =
      (p.setPhase caller phase).disguise caller { guise with phase := phase } := by
  unfold disguise setPhase updateCaller
  simp only [List.modify_modify_eq]
  rfl

theorem onStream_caller {prompted : Stream.Action} (isCaller : p.callers[caller]? = some c)
    (made : p.onStream stream prompted = some q) : ∃ d, q.callers[caller]? = some d := by
  obtain ⟨s, next, events, -, -, rfl⟩ := onStream_cases made
  exact ⟨_, (afterMove_callers p stream next events).trans (by rw [isCaller]; rfl)⟩

/-- A caller that hands over its item does so in any guise, if only it has come to that point. -/
theorem submit_disguise_self {metadata : Option Metadata} {late : Bool}
    (isCaller : p.callers[caller]? = some c) (submitting : c.phase = .submitting stream false metadata)
    (made : p.submit caller late = some q) (handed : HandedOver p caller bound c.phase) :
    ∃ d, q.callers[caller]? = some d ∧ HandedOver q caller bound d.phase ∧
      ∀ guise : Guise, guise.phase = c.phase → (p.disguise caller guise).submit caller late =
        some (q.disguise caller { guise with phase := d.phase }) := by
  have given : bound = false := by
    rw [submitting] at handed
    cases handed with
    | took given => exact given
  simp only [submit, isCaller, submitting, Option.bind_eq_bind, Option.bind_some,
    Bool.false_eq_true, if_false] at made
  obtain ⟨s, isStream, made⟩ := Option.bind_eq_some_iff.mp made
  have begins {guise : Guise} (same : guise.phase = c.phase) :
      (c.disguised guise).phase = .submitting stream false metadata := same.trans submitting
  cases told : s.cause with
  | some cause =>
    simp only [told] at made
    cases made
    refine ⟨_, setPhase_self rfl isCaller, .done, fun guise same => ?_⟩
    simp only [submit, disguise_caller isCaller, begins same, disguise_streams, isStream, told,
      Option.bind_eq_bind, Option.bind_some, Bool.false_eq_true, if_false]
    exact congrArg some (setPhase_disguise_self _)
  | none =>
    simp only [told] at made
    obtain ⟨r, entered, made⟩ := Option.bind_eq_some_iff.mp made
    cases made
    obtain ⟨d, isCaller'⟩ := onStream_caller isCaller entered
    refine ⟨_, setPhase_self rfl isCaller', ?_, fun guise same => ?_⟩
    · dsimp only
      split
      · exact .awaits
      · exact .waits given
    · have entered' : (p.disguise caller guise).onStream stream
          (.submit ((p.disguise caller guise).itemOf caller (c.disguised guise) metadata)) =
            some (r.disguise caller guise) := onStream_disguise entered
      simp only [submit, disguise_caller isCaller, begins same, disguise_streams, isStream, told,
        Option.bind_eq_bind, Option.bind_some, Bool.false_eq_true, if_false, entered']
      exact congrArg some (setPhase_disguise_self _)

theorem recheck_disguise_self {late : Bool} (isCaller : p.callers[caller]? = some c)
    (queued : c.phase = .queued stream false) (made : p.recheck caller late = some q) :
    ∃ d, q.callers[caller]? = some d ∧ HandedOver q caller bound d.phase ∧
      ∀ guise : Guise, guise.phase = c.phase → (p.disguise caller guise).recheck caller late =
        some (q.disguise caller { guise with phase := d.phase }) := by
  simp only [recheck, isCaller, queued, Option.bind_eq_bind, Option.bind_some,
    Bool.false_eq_true, if_false] at made
  obtain ⟨s, isStream, made⟩ := Option.bind_eq_some_iff.mp made
  have begins {guise : Guise} (same : guise.phase = c.phase) :
      (c.disguised guise).phase = .queued stream false := same.trans queued
  cases told : s.cause with
  | some cause =>
    simp only [told] at made
    obtain ⟨r, withdrawn, made⟩ := Option.bind_eq_some_iff.mp made
    cases made
    obtain ⟨d, isCaller'⟩ := onStream_caller isCaller withdrawn
    refine ⟨_, setPhase_self rfl isCaller', .done, fun guise same => ?_⟩
    simp only [recheck, disguise_caller isCaller, begins same, disguise_streams, isStream, told,
      Option.bind_eq_bind, Option.bind_some, Bool.false_eq_true, if_false,
      onStream_disguise withdrawn]
    exact congrArg some (setPhase_disguise_self _)
  | none =>
    simp only [told] at made
    split at made
    case isTrue => cases made
    case isFalse moved =>
      cases made
      refine ⟨_, setPhase_self rfl isCaller, .awaits, fun guise same => ?_⟩
      simp only [recheck, disguise_caller isCaller, begins same, disguise_streams, isStream, told,
        Option.bind_eq_bind, Option.bind_some, Bool.false_eq_true, if_false, if_neg moved]
      exact congrArg some (setPhase_disguise_self _)

/-! ### Runs -/

/-- Whether a caller in a guise has come to the same point, for all that others can tell. -/
def Resembles (guise : Guise) (phase : CallPhase) : Prop :=
  guise.phase = phase ∨ phase.isLate = true ∧ guise.phase.isLate = true

theorem Resembles.trans {other : Guise} (first : Resembles guise phase)
    (second : Resembles other phase) : Resembles guise other.phase := by
  obtain same | ⟨late, late'⟩ := first
  · obtain same' | ⟨late, late'⟩ := second
    · exact .inl (same.trans same'.symm)
    · exact .inr ⟨late', same ▸ late⟩
  · obtain same' | ⟨-, late''⟩ := second
    · exact .inr ⟨same' ▸ late, late'⟩
    · exact .inr ⟨late'', late'⟩

theorem HandedOver.disguise (handed : HandedOver p caller bound phase) (guise : Guise) :
    HandedOver (p.disguise caller guise) caller bound phase := by
  cases handed with
  | took given => exact .took given
  | waits given => exact .waits given
  | moved chosen gone => exact .moved chosen gone
  | awaits => exact .awaits
  | done => exact .done

theorem permits_disguise (action : Action) :
    (p.disguise caller guise).permits action = p.permits action := by
  cases action <;> rfl

/-- An action that the caller has not to itself has the same effect for others in any guise that
resembles that of the caller. -/
theorem public_step (isCaller : p.callers[caller]? = some c)
    (handed : HandedOver p caller bound c.phase) (visible : action.isPrivate caller bound = false)
    (permitted : p.permits action = true) (made : p.perform action = some q)
    (held : q.IsHeldBesides caller) :
    ∃ d, q.callers[caller]? = some d ∧ HandedOver q caller bound d.phase ∧
      ∀ guise, Resembles guise c.phase → ∃ guise', Resembles guise' d.phase ∧
        (p.disguise caller guise).perform action = some (q.disguise caller guise') := by
  by_cases own : action.isOf caller = true
  · -- The caller is not late, so it has come to the same point in the other guise.
    have early (notLate : c.phase.isLate = false) {guise : Guise}
        (resembles : Resembles guise c.phase) : guise.phase = c.phase := by
      obtain same | ⟨late, -⟩ := resembles
      · exact same
      · rw [notLate] at late
        cases late
    obtain ⟨late, rfl, stream, metadata, submitting⟩ | ⟨late, rfl, stream, queued⟩ :=
      handed.turn_cases isCaller own visible made
    · obtain ⟨d, isCaller', handed', same⟩ := submit_disguise_self isCaller submitting made handed
      refine ⟨d, isCaller', handed', fun guise resembles => ⟨_, .inl rfl, same guise ?_⟩⟩
      exact early (by rw [submitting]; rfl) resembles
    · obtain ⟨d, isCaller', handed', same⟩ := recheck_disguise_self isCaller queued made
      refine ⟨d, isCaller', handed', fun guise resembles => ⟨_, .inl rfl, same guise ?_⟩⟩
      exact early (by rw [queued]; rfl) resembles
  · have apart : action.isOf caller = false := by simpa using own
    obtain ⟨d, isCaller', same⟩ := guise_perform permitted apart isCaller made held
    have phase : d.phase = c.phase := congrArg Guise.phase same
    refine ⟨d, isCaller', phase ▸ handed.step permitted made ?_, fun guise resembles => ?_⟩
    · intro isOwn
      cases action <;> simp_all [Action.isOf, Action.caller?]
    · exact ⟨guise, phase ▸ resembles, perform_disguise apart isCaller made held guise⟩

/-- A run, without what the caller has to itself, is possible in any guise that resembles that of the
caller, and has the same effect for others. -/
theorem follow_disguise (isCaller : p.callers[caller]? = some c)
    (handed : HandedOver p caller bound c.phase) (follows : p.follow actions = some q)
    (held : p.HeldRun caller actions) (resembles : Resembles guise c.phase) :
    ∃ guise', (p.disguise caller guise).follow (publicPart caller bound actions) =
      some (q.disguise caller guise') := by
  -- On the actions, for all pools from which they may start and all guises.
  induction actions generalizing p c guise with
  | nil =>
    cases follows
    exact ⟨guise, rfl⟩
  | cons action actions ih =>
    simp only [follow] at follows
    split at follows
    case isFalse => cases follows
    case isTrue permitted =>
      obtain ⟨middle, made, follows⟩ := Option.bind_eq_some_iff.mp follows
      obtain ⟨held, heldLater⟩ := held middle made
      cases own : action.isPrivate caller bound with
      | true =>
        obtain ⟨guise₁, rfl, handed', resembles'⟩ := private_step isCaller handed own made held
        obtain ⟨guise', same⟩ := ih (disguise_caller isCaller) (handed'.disguise guise₁) follows
          heldLater (resembles.trans resembles')
        rw [disguise_disguise] at same
        refine ⟨guise', ?_⟩
        rw [publicPart, List.filter_cons_of_neg (by simp [own])]
        exact same
      | false =>
        obtain ⟨d, isCaller', handed', same⟩ :=
          public_step isCaller handed own permitted made held
        obtain ⟨guise₁, resembles', made'⟩ := same guise resembles
        obtain ⟨guise', follows'⟩ := ih isCaller' handed' follows heldLater resembles'
        refine ⟨guise', ?_⟩
        rw [publicPart, List.filter_cons_of_pos (by simp [own])]
        simp only [follow, permits_disguise, permitted, if_true, made', Option.bind_some]
        exact follows'

/-- Two runs that differ only in the context of a caller that has handed over its batch, and in the
turns in which the caller looks at it, have the same effect for all others, as long as somebody else
holds the pool. And whatever happens in a run is possible with every other context. -/
theorem context_is_private {p' : Pool} {first : List Action} (isCaller : p.callers[caller]? = some c)
    (handed : HandedOver p caller bound c.phase) (sameTurn : guise.phase = c.phase)
    (follows : p.follow first = some p') (held : p.HeldRun caller first) :
    (∃ q', (p.disguise caller guise).follow (publicPart caller bound first) = some q') ∧
    ∀ second q', (p.disguise caller guise).follow second = some q' →
      (p.disguise caller guise).HeldRun caller second →
      publicPart caller bound second = publicPart caller bound first →
      q'.streams = p'.streams ∧
      (∀ other, other ≠ caller → q'.callers[other]? = p'.callers[other]?) ∧
      ∃ guise', q' = p'.disguise caller guise' := by
  obtain ⟨guise₁, same⟩ := follow_disguise isCaller handed follows held (.inl sameTurn)
  refine ⟨⟨_, same⟩, fun second q' follows' held' agree => ?_⟩
  have isCaller' : (p.disguise caller guise).callers[caller]? = _ := disguise_caller isCaller
  have handed' : HandedOver (p.disguise caller guise) caller bound guise.phase :=
    sameTurn ▸ handed.disguise guise
  have ownGuise : Resembles guise guise.phase := .inl rfl
  obtain ⟨guise₂, same'⟩ := follow_disguise isCaller' handed' follows' held' ownGuise
  rw [disguise_disguise, agree, same] at same'
  have leads : Leads (p.disguise caller guise) q' := ⟨_, follows'⟩
  obtain ⟨d, isCaller'', -⟩ := leads.kept isCaller'
  have whole : q' = p'.disguise caller d.guise := by
    have back := congrArg (fun r : Pool => r.disguise caller d.guise) (Option.some.inj same')
    simp only [disguise_disguise, disguise_self isCaller''] at back
    exact back.symm
  refine ⟨by rw [whole]; rfl, fun other differ => ?_, _, whole⟩
  rw [whole, disguise_callers differ]

/-! ### Who holds the pool -/

theorem Acts.held (acts : Acts p caller c q) : q.held = p.held := by
  cases acts <;> rfl

/-- The owner holds the pool until it lets go of it. -/
theorem perform_held (made : p.perform action = some q) (kept : action ≠ .letGo) :
    q.held = p.held := by
  have moves (stream : Nat) (next : Stream) (events : List Event) :
      (p.afterMove stream next events).held = p.held :=
    view_afterMove Pool.held (view_notice _ fun _ _ _ _ _ => rfl) p stream next events
  cases perform_turn made with
  | moved | started | delivered | modeSet => exact moves _ _ _
  | acts own isCaller acts => exact acts.held
  | proceeds proceeds =>
    cases proceeds with
    | givesUp => unfold giveUp; dsimp only; split <;> rfl
    | stops | starts | resumes | retires | breaks => rfl
  | parted | dropped => exact view_endIfAbandoned Pool.held (fun _ => rfl) _
  | letGo => exact absurd rfl kept
  | restarted | undelivered | modeUnset | arrived | contextEnded | glanced | asked | began
  | returned | advanced | canceled => rfl

theorem heldRun_of_owner (owned : p.held = true) (kept : ∀ action ∈ actions, action ≠ .letGo) :
    p.HeldRun caller actions := by
  induction actions generalizing p with
  | nil => trivial
  | cons action actions ih =>
    intro q made
    have owned' : q.held = true :=
      (perform_held made (kept action List.mem_cons_self)).trans owned
    exact ⟨.inl owned', ih owned' fun action later => kept action (List.mem_cons_of_mem _ later)⟩

/-- A caller has handed over its batch, and another one stands behind it. -/
def handedRun : List Action :=
  [.run 0, .stream 0 .establish, .stream 0 .offer,
    .arrive {} (.traces []) (some 0), .enter 0, .submit 0 false,
    .arrive {} (.logs []) (some 0), .enter 1, .submit 1 false]

def acknowledgingRun : List Action :=
  [.stream 0 .take, .stream 0 .encode, .stream 0 .send, .stream 0 .offer, .recheck 1 false,
    .stream 0 .take, .stream 0 .encode, .stream 0 .send, .stream 0 .offer,
    .deliver 0 (.acknowledged { id := 1 }), .deliver 0 (.acknowledged { id := 2 }),
    .stream 0 .receive, .stream 0 .receive, .collect 1 false]

theorem context_is_private_giving_up :
    ∃ p p' q' c d, (single {} []).follow handedRun = some p ∧
      p.follow (acknowledgingRun ++ [.collect 0 false]) = some p' ∧
      p.follow ([.cancelCaller 0, .collect 0 false] ++ acknowledgingRun) = some q' ∧
      p'.callers[0]? = some c ∧ c.phase = .done (.ok true) ∧
      q'.callers[0]? = some d ∧ d.phase = .done (.error .canceled) ∧
      q'.streams = p'.streams ∧ q'.callers[1]? = p'.callers[1]? := by
  have facts : ((single {} []).follow handedRun).bind (fun p => p.callers[0]?.map fun c =>
      (c.phase, p.held)) = some (.awaiting 0, true) := by decide +kernel
  have waits : ((single {} []).follow handedRun).bind (fun p =>
      (p.follow (acknowledgingRun ++ [.collect 0 false])).bind fun q => q.callers[0]?.map Caller.phase) =
      some (.done (.ok true)) := by decide +kernel
  have gaveUp : ((single {} []).follow handedRun).bind (fun p =>
      (p.follow ([.cancelCaller 0, .collect 0 false] ++ acknowledgingRun)).bind fun q =>
        q.callers[0]?.map Caller.phase) = some (.done (.error .canceled)) := by decide +kernel
  obtain ⟨p, p', handed, follows, facts, waits⟩ := follow_cases facts waits
  rw [handed, Option.bind_some] at gaveUp
  obtain ⟨q', follows', gaveUp⟩ := Option.bind_eq_some_iff.mp gaveUp
  obtain ⟨b, isCaller, facts⟩ := Option.map_eq_some_iff.mp facts
  obtain ⟨c, isCaller₁, waits⟩ := Option.map_eq_some_iff.mp waits
  obtain ⟨d, isCaller₂, gaveUp⟩ := Option.map_eq_some_iff.mp gaveUp
  obtain ⟨awaiting, owned⟩ := Prod.mk.inj facts
  have same := disguise_self isCaller
  have waiting : HandedOver p 0 true b.guise.phase := by
    rw [show b.guise.phase = .awaiting 0 from awaiting]
    exact .awaits
  obtain ⟨-, agree⟩ := context_is_private isCaller waiting (Eq.refl b.guise.phase) follows
    (heldRun_of_owner owned (by simp [acknowledgingRun]))
  rw [same] at agree
  obtain ⟨streams, others, -⟩ := agree _ q' follows'
    (heldRun_of_owner owned (by simp [acknowledgingRun])) rfl
  exact ⟨p, p', q', c, d, handed, follows, follows', isCaller₁, waits, isCaller₂, gaveUp, streams,
    others 1 (by decide)⟩

/-- The only caller of a pool whose owner has let go of it has its batch in flight. -/
def lastCallerRun : List Action :=
  [.proceed 0, .stream 0 .establish, .stream 0 .offer, .arrive {} (.traces []) none, .enter 0,
    .look 0, .submit 0 false, .stream 0 .take, .stream 0 .encode, .stream 0 .send, .stream 0 .offer, .letGo]

/-- The end of the context of a caller that is the last one to hold the pool ends all streams as its share
is let go: the two runs differ in nothing else, and after one of them the reader goes on waiting. -/
theorem last_caller_ends_streams :
    ∃ p q c s t, (ofControllers {} [] 1).follow lastCallerRun = some p ∧
      p.follow [.cancelCaller 0, .collect 0 false, .dropShare 0] = some q ∧
      publicPart 0 false [.cancelCaller 0, .collect 0 false, .dropShare 0] = publicPart 0 false [] ∧
      p.callers[0]? = some c ∧ HandedOver p 0 false c.phase ∧
      p.streams[0]? = some s ∧ s.isCanceled = false ∧ p.perform (.stream 0 .receive) = none ∧
      q.streams[0]? = some t ∧ t.isCanceled = true ∧ q.perform (.stream 0 .receive) ≠ none := by
  have facts : ((ofControllers {} [] 1).follow lastCallerRun).bind (fun p =>
      p.callers[0]?.bind fun c => p.streams[0]?.map fun s =>
        (c.phase, s.isCanceled, (p.perform (.stream 0 .receive)).isNone)) =
      some (.awaiting 0, false, true) := by decide +kernel
  have ends : ((ofControllers {} [] 1).follow lastCallerRun).bind (fun p =>
      (p.follow [.cancelCaller 0, .collect 0 false, .dropShare 0]).bind fun q =>
        q.streams[0]?.map fun t => (t.isCanceled, (q.perform (.stream 0 .receive)).isNone)) =
      some (true, false) := by
    decide +kernel
  obtain ⟨p, q, follows, more, facts, ends⟩ := follow_cases facts ends
  obtain ⟨c, isCaller, facts⟩ := Option.bind_eq_some_iff.mp facts
  obtain ⟨s, isStream, facts⟩ := Option.map_eq_some_iff.mp facts
  obtain ⟨t, isStream', ends⟩ := Option.map_eq_some_iff.mp ends
  simp only [Prod.mk.injEq, Option.isNone_iff_eq_none] at facts
  obtain ⟨awaiting, alive, waits⟩ := facts
  obtain ⟨canceled, goes⟩ := Prod.mk.inj ends
  refine ⟨p, q, c, s, t, follows, more, rfl, isCaller, ?_, isStream, alive, waits, isStream',
    canceled, fun stuck => ?_⟩
  · rw [awaiting]
    exact .awaits
  · rw [stuck] at goes
    cases goes

end Pool

end TelemetryStreams
