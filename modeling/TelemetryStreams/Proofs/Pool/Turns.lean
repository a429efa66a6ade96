import TelemetryStreams.Pool.Step
import TelemetryStreams.Proofs.Prioritizer
import TelemetryStreams.Proofs.Stream.Steps

/-!
# What a step of a pool can be

`Turn` lists the steps of a pool, each with its action and the pool after it. A caller takes its
turn in one of five ways (`Acts`): it moves on or returns, it takes a ready stream, hands over its
item or withdraws it. A controller takes its turn in one of six ways (`Proceeds`). Every step that
is possible is in the list (`perform_turn`), so a law of all steps has a case for each entry and
never looks into the functions that compute them.
-/
namespace TelemetryStreams

/-- The metadata that a caller brings along with its item: what its credentials gave, if there are
any. -/
def CallPhase.metadata? : CallPhase → Option (Option Metadata)
  | .submitting _ _ metadata | .choosing metadata | .seeking metadata => some metadata
  | _ => none

/-- What the credentials give for the caller at a place. Without credentials there is nothing. -/
def Setup.grants (setup : Setup) (caller : Nat) (given : Metadata) :
    Except Error (Option Metadata) :=
  match setup.credentials with
  | some credentials => (credentials.metadata caller given).map some
  | none => .ok none

namespace Caller

/-- A caller that waits may find that its context has ended for a reason. -/
def Ends (c : Caller) (now : Nat) (reason : Error) : Prop := Wakes now c.canceled c.deadline reason

/-- A caller that waits finds no reason to stop. -/
def IsLive (c : Caller) (now : Nat) : Prop := ∀ reason, ¬ c.Ends now reason

/-- A caller may find that its context has ended, if it asks or if it waits. -/
def HasEnded (c : Caller) (now : Nat) : Prop := c.ended? now ≠ none ∨ ∃ reason, c.Ends now reason

variable {c : Caller} {now : Nat} {late : Bool}

theorem ends_of_sees {reason : Error} (found : c.sees now late = some reason) : c.Ends now reason :=
  wakes_of_wakeReason found

theorem sees_eq_none_iff : c.sees now late = none ↔ c.IsLive now := wakeReason_eq_none_iff

/-- A caller that is bound for a stream of its own choice looks at its context on the way, and no other
one does. -/
theorem ends_of_bound {bound : Bool} {reason : Error}
    (found : (if bound then c.sees now late else none) = some reason) :
    bound = true ∧ c.Ends now reason := by
  cases bound with
  | false => cases found
  | true => exact ⟨rfl, ends_of_sees found⟩

theorem sees_bound_eq_none_iff {bound : Bool} :
    (if bound then c.sees now late else none) = none ↔ (bound = true → c.IsLive now) := by
  cases bound <;> simp [sees_eq_none_iff]

theorem hasEnded_of_ended? {reason : Error} (ended : c.ended? now = some reason) : c.HasEnded now :=
  .inl (by rw [ended]; nofun)

theorem Ends.hasEnded {reason : Error} (ends : c.Ends now reason) : c.HasEnded now := .inr ⟨reason, ends⟩

theorem isLive_of_not_hasEnded (live : ¬ c.HasEnded now) : c.IsLive now := fun _ ends => live ends.hasEnded

theorem not_hasEnded (alive : c.canceled = false) (unbounded : c.deadline = none) : ¬ c.HasEnded now := by
  rintro (ended | ⟨reason, ends⟩)
  · simp [ended?, endReason, alive, unbounded] at ended
  · cases reason <;> simp [Ends, Wakes, alive, unbounded] at ends

end Caller

namespace Pool

/-- A caller is about to go to a stream or to look for one. -/
def Departing (p : Pool) (c : Caller) : Prop :=
  c.phase = .arriving ∧ (c.target = none → c.ended? p.now = none) ∨
    ∃ ready, c.phase = .fetching ready

/-- A caller looks for a stream. -/
def Looking (c : Caller) : Prop :=
  ∃ metadata, c.phase = .choosing metadata ∨ c.phase = .seeking metadata

/-- With what a caller returns, and when, unless it withdraws its item. -/
inductive Returns (p : Pool) (caller : Nat) (c : Caller) : Except Error Bool → Prop
  | overdue {reason} (arriving : c.phase = .arriving) (free : c.target = none)
      (ended : c.ended? p.now = some reason) : Returns p caller c (.error reason)
  | uncredentialed {ready credentials text} (fetching : c.phase = .fetching ready)
      (equipped : p.setup.credentials = some credentials)
      (fails : (credentials.fetch caller).failure = some text) :
      Returns p caller c (.error (.credentials text))
  | ended {stream metadata reason} (submitting : c.phase = .submitting stream true metadata)
      (ended : c.Ends p.now reason) : Returns p caller c (.error reason)
  | refused {stream bound metadata s cause}
      (submitting : c.phase = .submitting stream bound metadata)
      (isStream : p.streams[stream]? = some s) (told : s.cause = some cause) :
      Returns p caller c (.error cause)
  | shutDown (looking : Looking c) (canceled : p.canceled = true) :
      Returns p caller c (.error .streamRestarting)
  | downgraded (looking : Looking c) (alive : p.canceled = false)
      (downgraded : p.prioritizer.downgraded = true) : Returns p caller c (.ok false)
  | gaveUp {metadata reason} (seeking : c.phase = .seeking metadata) (alive : p.canceled = false)
      (ended : c.Ends p.now reason) : Returns p caller c (.error reason)
  | replied {stream reply} (awaiting : c.phase = .awaiting stream) (told : c.reply = some reply) :
      Returns p caller c (reply.map fun _ => true)
  | left {stream reason} (awaiting : c.phase = .awaiting stream) (untold : c.reply = none)
      (ended : c.Ends p.now reason) : Returns p caller c (.error reason)
  | abandoned {stream s cause} (awaiting : c.phase = .awaiting stream) (untold : c.reply = none)
      (alive : c.IsLive p.now) (isStream : p.streams[stream]? = some s)
      (told : s.cause = some cause) : Returns p caller c (.error cause)

/-- How a caller moves on by itself. -/
inductive Moves (p : Pool) (caller : Nat) (c : Caller) : CallPhase → Prop
  | fetches {credentials} (arriving : c.phase = .arriving)
      (alive : c.target = none → c.ended? p.now = none)
      (equipped : p.setup.credentials = some credentials) :
      Moves p caller c (.fetching (p.now + (credentials.fetch caller).delay))
  | heads {stream metadata} (departing : Departing p c) (target : c.target = some stream)
      (granted : p.setup.grants caller c.metadata = .ok metadata) :
      Moves p caller c (.submitting stream true metadata)
  | looks {metadata} (departing : Departing p c) (free : c.target = none)
      (granted : p.setup.grants caller c.metadata = .ok metadata) :
      Moves p caller c (.choosing metadata)
  | waits {metadata} (looking : Looking c) (alive : p.canceled = false)
      (none : p.prioritizer.ready = []) (brought : c.phase.metadata? = some metadata) :
      Moves p caller c (.seeking metadata)
  | accepted {stream bound s} (queued : c.phase = .queued stream bound)
      (isStream : p.streams[stream]? = some s) (alive : bound = true → c.IsLive p.now)
      (untold : s.cause = none) (moved : ∀ item ∈ s.senders, item.ticket ≠ caller) :
      Moves p caller c (.awaiting stream)
  | returns {result} (returns : Returns p caller c result) : Moves p caller c (.done result)

/-- The turns of a caller. -/
inductive Acts (p : Pool) (caller : Nat) (c : Caller) : Pool → Prop
  | moves {phase prioritizer} (moves : Moves p caller c phase)
      (undone : ∀ result, phase ≠ .done result) (same : prioritizer.Agrees p.prioritizer) :
      Acts p caller c (setPhase { p with prioritizer := prioritizer } caller phase)
  | returns {result prioritizer} (returns : Returns p caller c result)
      (same : prioritizer.Agrees p.prioritizer) :
      Acts p caller c (finish { p with prioritizer := prioritizer } caller result)
  | takes {stream metadata prioritizer} (looking : Looking c) (alive : p.canceled = false)
      (first : p.prioritizer.ready = stream :: prioritizer.ready)
      (downgraded : prioritizer.downgraded = p.prioritizer.downgraded)
      (brought : c.phase.metadata? = some metadata) :
      Acts p caller c (setPhase { p with prioritizer := prioritizer } caller
        (.submitting stream false metadata))
  | hands {stream s bound metadata} (submitting : c.phase = .submitting stream bound metadata)
      (isStream : p.streams[stream]? = some s) (alive : bound = true → c.IsLive p.now)
      (untold : s.cause = none) :
      Acts p caller c (setPhase { p with
        streams := p.streams.set stream ((s.submit (p.itemOf caller c metadata)).1.record
          (s.submit (p.itemOf caller c metadata)).2) } caller
        (if s.queue = [] then .awaiting stream else .queued stream bound))
  | withdraws {stream s bound error} (queued : c.phase = .queued stream bound)
      (isStream : p.streams[stream]? = some s)
      (reason : bound = true ∧ c.Ends p.now error ∨
        (bound = true → c.IsLive p.now) ∧ s.cause = some error) :
      Acts p caller c (finish { p with
        streams := p.streams.set stream ((s.leave caller).record []) } caller (.error error))

/-- The turns of a controller. -/
inductive Proceeds (p : Pool) (controller : Nat) : Pool → Prop
  | stops (starting : p.controllers[controller]? = some .starting) (canceled : p.canceled = true) :
      Proceeds p controller (p.setController controller .stopped)
  | starts (starting : p.controllers[controller]? = some .starting) (alive : p.canceled = false) :
      Proceeds p controller (p.startStream controller)
  | resumes {stream s} (running : p.controllers[controller]? = some (.running stream))
      (isStream : p.streams[stream]? = some s) (done : s.run = .done)
      (established : s.established = true) :
      Proceeds p controller (p.setController controller .starting)
  | retires {stream s} (running : p.controllers[controller]? = some (.running stream))
      (isStream : p.streams[stream]? = some s) (done : s.run = .done)
      (unestablished : s.established = false) (canceled : p.canceled = true) :
      Proceeds p controller (p.setController controller .stopped)
  | givesUp {stream s} (running : p.controllers[controller]? = some (.running stream))
      (isStream : p.streams[stream]? = some s) (done : s.run = .done)
      (unestablished : s.established = false) (alive : p.canceled = false) :
      Proceeds p controller (p.giveUp controller)
  | breaks {stream s} (running : p.controllers[controller]? = some (.running stream))
      (isStream : p.streams[stream]? = some s) (broken : s.run = .brokeDown) :
      Proceeds p controller (p.setController controller .brokeDown)

/-- The pool after a move of a stream. -/
def afterMove (p : Pool) (stream : Nat) (next : Stream) (events : List Event) : Pool :=
  events.foldl (fun p event => p.notice stream event)
    { p with streams := p.streams.set stream (next.record events) }

def Action.caller? : Action → Option Nat
  | .enter caller | .fetched caller | .submit caller _ | .recheck caller _ | .look caller
  | .lookAgain caller | .release caller | .dismiss caller | .giveUp caller _ | .collect caller _ =>
    some caller
  | _ => none

/-- The steps of a pool. -/
inductive Turn (p : Pool) : Action → Pool → Prop
  -- streams
  | moved {stream s move next events attempts} (isStream : p.streams[stream]? = some s)
      (step : Stream.Step s (.move move p.surroundings) events next)
      (still : move ≠ .establish → attempts = (p.afterMove stream next events).endpoint.attempts) :
      Turn p (.stream stream move) { p.afterMove stream next events with
        endpoint := { (p.afterMove stream next events).endpoint with attempts := attempts } }
  | started {stream s next events} (isStream : p.streams[stream]? = some s)
      (step : Stream.Step s .start events next) :
      Turn p (.run stream) (p.afterMove stream next events)
  | restarted {stream s t} (isStream : p.streams[stream]? = some s) (again : s.rerun = some t) :
      Turn p (.run stream) { p with streams := p.streams.set stream t }
  | delivered {call message stream s next events} (isStream : p.streams[stream]? = some s)
      (step : Stream.Step s (.deliver message) events next) :
      Turn p (.deliver call message) (p.afterMove stream next events)
  | modeSet {call mode stream s next events} (isStream : p.streams[stream]? = some s)
      (step : Stream.Step s (.setMode mode) events next) :
      Turn p (.setMode call mode) (p.afterMove stream next events)
  | undelivered {call message} : Turn p (.deliver call message) p
  | modeUnset {call mode} : Turn p (.setMode call mode) p
  -- callers
  | arrived {spec records target c} (arriving : c.phase = .arriving) (untold : c.reply = none)
      (chosen : c.target = target) :
      Turn p (.arrive spec records target) { p with callers := p.callers ++ [c] }
  | contextEnded {caller c} (isCaller : p.callers[caller]? = some c) :
      Turn p (.cancelCaller caller) (p.updateCaller caller fun c => { c with canceled := true })
  | acts {action caller c q} (own : action.caller? = some caller)
      (isCaller : p.callers[caller]? = some c) (acts : Acts p caller c q) : Turn p action q
  | parted {caller c} (isCaller : p.callers[caller]? = some c) (done : c.isDone = true)
      (holds : c.holds = true) :
      Turn p (.dropShare caller)
        (p.updateCaller caller fun c => { c with holds := false }).endIfAbandoned
  | glanced :
      Turn p .glance { p with prioritizer := (p.prioritizer.glance p.callers.length).2 }
  -- controllers and shutdowns
  | proceeds {controller q} (proceeds : Proceeds p controller q) : Turn p (.proceed controller) q
  | asked : Turn p .askShutdown { p with shutdowns := p.shutdowns ++ [.asked] }
  | began {shutdown} (asked : p.shutdowns[shutdown]? = some .asked) :
      Turn p (.beginShutdown shutdown) { p.cancel with
        shutdowns := p.shutdowns.set shutdown (.joining p.untaken) }
  | returned {shutdown taken logs} (joining : p.shutdowns[shutdown]? = some (.joining taken))
      (exited : ∀ controller ∈ taken, ∀ phase, p.controllers[controller]? = some phase →
        phase.hasExited = true) :
      Turn p (.endShutdown shutdown) { p with
        shutdowns := p.shutdowns.set shutdown .done, logs := logs }
  | dropped {shutdown request begun} (isRequest : p.shutdowns[shutdown]? = some request)
      (sort : request = .asked ∧ begun = false ∨ ∃ taken, request = .joining taken ∧ begun = true) :
      Turn p (.dropShutdown shutdown)
        { p with shutdowns := p.shutdowns.set shutdown (.dropped begun) }.endIfAbandoned
  -- time and the end
  | advanced {time} : Turn p (.advance time) { p with now := p.now + time }
  | canceled : Turn p .cancel p.cancel
  | letGo : Turn p .letGo { p with held := false }.endIfAbandoned

variable {p q : Pool}

/-! ### Streams -/

theorem onStream_cases {stream : Nat} {action : Stream.Action}
    (made : p.onStream stream action = some q) :
    ∃ s next events, p.streams[stream]? = some s ∧ Stream.Step s action events next ∧
      q = p.afterMove stream next events := by
  obtain ⟨s, isStream, made⟩ := Option.bind_eq_some_iff.mp made
  obtain ⟨⟨next, events⟩, step, made⟩ := Option.bind_eq_some_iff.mp made
  exact ⟨s, next, events, isStream, Stream.step_cases step, (Option.some.inj made).symm⟩

theorem moveStream_cases {stream : Nat} {move : Move} (made : p.moveStream stream move = some q) :
    Turn p (.stream stream move) q := by
  obtain ⟨s, isStream, made⟩ := Option.bind_eq_some_iff.mp made
  obtain ⟨after, moved, made⟩ := Option.bind_eq_some_iff.mp made
  obtain ⟨s, next, events, isStream, step, rfl⟩ := onStream_cases moved
  have made := Option.some.inj made
  split at made
  case isTrue tried =>
    subst made
    have established : move = .establish := by simp_all
    exact .moved isStream step fun other => absurd established other
  case isFalse =>
    subst made
    exact .moved isStream step fun _ => rfl

theorem onCall_cases {call : Nat} {action : Stream.Action} (made : p.onCall call action = some q) :
    q = p ∨ ∃ stream s next events, p.streams[stream]? = some s ∧ Stream.Step s action events next ∧
      q = p.afterMove stream next events := by
  unfold onCall at made
  split at made
  · cases made
  · split at made
    · exact .inr ⟨_, onStream_cases made⟩
    · exact .inl (Option.some.inj made).symm

/-! ### Callers -/

section
variable {caller stream : Nat} {c : Caller} {s : Stream}

theorem acts_setPhase {phase : CallPhase} (moves : Moves p caller c phase)
    (undone : ∀ result, phase ≠ .done result) : Acts p caller c (p.setPhase caller phase) :=
  .moves moves undone ⟨rfl, rfl⟩

theorem acts_finish {result : Except Error Bool} (returns : Returns p caller c result) :
    Acts p caller c (p.finish caller result) :=
  .returns returns ⟨rfl, rfl⟩

theorem acts_afterCredentials {metadata : Option Metadata} (departing : Departing p c)
    (granted : p.setup.grants caller c.metadata = .ok metadata) :
    Acts p caller c (p.afterCredentials caller c.target metadata) := by
  unfold afterCredentials
  split
  case h_1 stream target => exact acts_setPhase (.heads departing target granted) nofun
  case h_2 free => exact acts_setPhase (.looks departing free granted) nofun

theorem beginCaller_cases (made : p.beginCaller caller = some q) :
    ∃ c, p.callers[caller]? = some c ∧ Acts p caller c q := by
  obtain ⟨c, isCaller, made⟩ := Option.bind_eq_some_iff.mp made
  refine ⟨c, isCaller, ?_⟩
  split at made
  case h_2 => cases made
  case h_1 arriving =>
    split at made
    case h_1 reason free ended =>
      cases made
      exact acts_finish (.overdue arriving free ended)
    case h_2 target ended other =>
      have alive : c.target = none → c.ended? p.now = none := by
        intro free
        cases ended : c.ended? p.now with
        | none => rfl
        | some reason => exact absurd ended (fun ended => other reason free ended)
      split at made
      case h_1 unequipped =>
        cases made
        exact acts_afterCredentials (.inl ⟨arriving, alive⟩) (by simp [Setup.grants, unequipped])
      case h_2 equipped =>
        cases made
        exact acts_setPhase (.fetches arriving alive equipped) nofun

theorem fetched_cases (made : p.fetched caller = some q) :
    ∃ c, p.callers[caller]? = some c ∧ Acts p caller c q := by
  obtain ⟨c, isCaller, made⟩ := Option.bind_eq_some_iff.mp made
  obtain ⟨credentials, equipped, made⟩ := Option.bind_eq_some_iff.mp made
  refine ⟨c, isCaller, ?_⟩
  split at made
  case h_2 => cases made
  case h_1 ready fetching =>
    split at made
    case isFalse => cases made
    case isTrue =>
      split at made
      case h_1 error failed =>
        cases made
        unfold Credentials.metadata at failed
        split at failed
        case h_1 text fails =>
          cases failed
          exact acts_finish (.uncredentialed fetching equipped fails)
        case h_2 => cases failed
      case h_2 metadata given =>
        cases made
        refine acts_afterCredentials (.inr ⟨ready, fetching⟩) ?_
        simp [Setup.grants, equipped, given, Except.map]

theorem submit_cases {late : Bool} (made : p.submit caller late = some q) :
    ∃ c, p.callers[caller]? = some c ∧ Acts p caller c q := by
  obtain ⟨c, isCaller, made⟩ := Option.bind_eq_some_iff.mp made
  refine ⟨c, isCaller, ?_⟩
  split at made
  case h_2 => cases made
  case h_1 stream bound metadata submitting =>
    obtain ⟨s, isStream, made⟩ := Option.bind_eq_some_iff.mp made
    split at made
    case h_1 reason ended =>
      cases made
      obtain ⟨rfl, ends⟩ := Caller.ends_of_bound ended
      exact acts_finish (.ended submitting ends)
    case h_2 cause ended told =>
      cases made
      exact acts_finish (.refused submitting isStream told)
    case h_3 live untold =>
      simp only [onStream, isStream, Stream.step, Option.pure_def, Option.bind_eq_bind,
        Option.bind_some] at made
      have still : ∀ r : Pool, (s.submit (p.itemOf caller c metadata)).2.foldl
          (fun r event => r.notice stream event) r = r := by
        intro r
        unfold Stream.submit
        split <;> rfl
      rw [still] at made
      obtain rfl := (Option.some.inj made).symm
      exact .hands submitting isStream (Caller.sees_bound_eq_none_iff.mp live) untold

theorem recheck_cases {late : Bool} (made : p.recheck caller late = some q) :
    ∃ c, p.callers[caller]? = some c ∧ Acts p caller c q := by
  obtain ⟨c, isCaller, made⟩ := Option.bind_eq_some_iff.mp made
  refine ⟨c, isCaller, ?_⟩
  split at made
  case h_2 => cases made
  case h_1 stream bound queued =>
    obtain ⟨s, isStream, made⟩ := Option.bind_eq_some_iff.mp made
    simp only [onStream, isStream, Stream.step, Option.pure_def, Option.bind_eq_bind,
      Option.bind_some, List.foldl_nil] at made
    split at made
    case h_1 reason ended =>
      cases made
      exact .withdraws queued isStream (.inl (Caller.ends_of_bound ended))
    case h_2 cause live told =>
      cases made
      exact .withdraws queued isStream (.inr ⟨Caller.sees_bound_eq_none_iff.mp live, told⟩)
    case h_3 live untold =>
      split at made
      case isTrue => cases made
      case isFalse moved =>
        cases made
        have moved : ∀ item ∈ s.senders, item.ticket ≠ caller := by simpa using moved
        have alive := Caller.sees_bound_eq_none_iff.mp live
        exact acts_setPhase (.accepted queued isStream alive untold moved) fun _ same => by cases same

theorem collect_cases {late : Bool} (made : p.collect caller late = some q) :
    ∃ c, p.callers[caller]? = some c ∧ Acts p caller c q := by
  obtain ⟨c, isCaller, made⟩ := Option.bind_eq_some_iff.mp made
  refine ⟨c, isCaller, ?_⟩
  split at made
  case h_2 => cases made
  case h_1 stream awaiting =>
    obtain ⟨s, isStream, made⟩ := Option.bind_eq_some_iff.mp made
    split at made
    case h_1 told => cases made; exact acts_finish (.replied awaiting told)
    case h_2 error told => cases made; exact acts_finish (.replied awaiting told)
    case h_3 reason untold ended =>
      cases made
      exact acts_finish (.left awaiting untold (Caller.ends_of_sees ended))
    case h_4 cause untold live told =>
      cases made
      exact acts_finish (.abandoned awaiting untold (Caller.sees_eq_none_iff.mp live) isStream told)
    case h_5 => cases made

/-! ### Looking for a stream -/

theorem acts_found {metadata : Option Metadata} {prioritizer : Prioritizer} (looking : Looking c)
    (brought : c.phase.metadata? = some metadata) (alive : p.canceled = false)
    (same : prioritizer.Agrees p.prioritizer) :
    Acts p caller c (p.found caller metadata (prioritizer.look caller)) := by
  have switch := (Prioritizer.downgraded_look prioritizer caller).trans same.downgraded
  unfold found
  obtain ⟨stream, found, first⟩ | ⟨found | found, none, left⟩ := Prioritizer.look_cases prioritizer caller
  · simp only [found]
    rw [same.ready] at first
    exact .takes looking alive first switch brought
  · have down := Prioritizer.downgraded_of_look found
    simp only [found]
    rw [same.downgraded] at down
    exact .returns (.downgraded looking alive down) ⟨by rw [left, ← same.ready, none], switch⟩
  · simp only [found]
    have empty : p.prioritizer.ready = [] := same.ready ▸ none
    exact .moves (.waits looking alive empty brought) nofun ⟨by rw [left, empty], switch⟩

theorem acts_leaves {result : Except Error Bool} (returns : Returns p caller c result) :
    Acts p caller c (p.leaves caller result) :=
  .returns returns (Prioritizer.agrees_leave _ _)

theorem seeker?_cases {metadata : Option Metadata} (seeks : p.seeker? caller = some (c, metadata)) :
    p.callers[caller]? = some c ∧ c.phase = .seeking metadata ∧ p.canceled = false := by
  obtain ⟨other, isCaller, seeks⟩ := Option.bind_eq_some_iff.mp seeks
  split at seeks
  case h_2 => cases seeks
  case h_1 seeking =>
    split at seeks
    case isTrue => cases seeks
    case isFalse alive =>
      cases seeks
      exact ⟨isCaller, seeking, by simpa using alive⟩

end

/-- A turn of a caller is one of five. -/
theorem perform_acts {action : Action} {caller : Nat} (own : action.caller? = some caller)
    (made : p.perform action = some q) : ∃ c, p.callers[caller]? = some c ∧ Acts p caller c q := by
  cases action with
  | enter => cases own; exact beginCaller_cases made
  | fetched => cases own; exact fetched_cases made
  | submit => cases own; exact submit_cases made
  | recheck => cases own; exact recheck_cases made
  | collect => cases own; exact collect_cases made
  | look =>
    cases own
    obtain ⟨c, isCaller, made⟩ := Option.bind_eq_some_iff.mp made
    refine ⟨c, isCaller, ?_⟩
    split at made
    case h_2 => cases made
    case h_1 metadata choosing =>
      split at made
      case isTrue canceled =>
        cases made
        exact acts_finish (.shutDown ⟨metadata, .inl choosing⟩ canceled)
      case isFalse alive =>
        cases made
        have alive : p.canceled = false := by simpa using alive
        exact acts_found ⟨metadata, .inl choosing⟩ (by rw [choosing]; rfl) alive ⟨rfl, rfl⟩
  | lookAgain =>
    cases own
    obtain ⟨⟨c, metadata⟩, seeks, made⟩ := Option.bind_eq_some_iff.mp made
    obtain ⟨isCaller, seeking, alive⟩ := seeker?_cases seeks
    refine ⟨c, isCaller, ?_⟩
    simp only at made
    split at made
    case isTrue =>
      cases made
      exact acts_found ⟨metadata, .inr seeking⟩ (by rw [seeking]; rfl) alive ⟨rfl, rfl⟩
    case isFalse => cases made
  | release =>
    cases own
    obtain ⟨c, isCaller, made⟩ := Option.bind_eq_some_iff.mp made
    refine ⟨c, isCaller, ?_⟩
    split at made
    case h_2 => cases made
    case h_1 metadata seeking =>
      split at made
      case isTrue canceled =>
        cases made
        exact acts_leaves (.shutDown ⟨metadata, .inr seeking⟩ canceled)
      case isFalse => cases made
  | dismiss =>
    cases own
    obtain ⟨⟨c, metadata⟩, seeks, made⟩ := Option.bind_eq_some_iff.mp made
    obtain ⟨isCaller, seeking, alive⟩ := seeker?_cases seeks
    refine ⟨c, isCaller, ?_⟩
    split at made
    case isTrue down =>
      cases made
      exact acts_leaves (.downgraded ⟨metadata, .inr seeking⟩ alive down)
    case isFalse => cases made
  | giveUp =>
    cases own
    obtain ⟨⟨c, metadata⟩, seeks, made⟩ := Option.bind_eq_some_iff.mp made
    obtain ⟨isCaller, seeking, alive⟩ := seeker?_cases seeks
    obtain ⟨reason, ended, made⟩ := Option.bind_eq_some_iff.mp made
    cases made
    exact ⟨c, isCaller, acts_leaves (.gaveUp seeking alive (Caller.ends_of_sees ended))⟩
  | _ => cases own

theorem dropShare_cases {caller : Nat} (made : p.dropShare caller = some q) :
    Turn p (.dropShare caller) q := by
  obtain ⟨c, isCaller, made⟩ := Option.bind_eq_some_iff.mp made
  split at made
  case isTrue both =>
    cases made
    have both := Bool.and_eq_true_iff.mp both
    exact .parted isCaller both.1 both.2
  case isFalse => cases made

/-! ### Controllers and shutdowns -/

theorem proceed_cases {controller : Nat} (made : p.proceed controller = some q) :
    Proceeds p controller q := by
  obtain ⟨phase, isPhase, made⟩ := Option.bind_eq_some_iff.mp made
  split at made
  case h_1 =>
    split at made
    case isTrue canceled => cases made; exact .stops isPhase canceled
    case isFalse alive => cases made; exact .starts isPhase (by simpa using alive)
  case h_2 stream =>
    obtain ⟨s, isStream, made⟩ := Option.bind_eq_some_iff.mp made
    split at made
    case h_1 done =>
      split at made
      case isTrue established =>
        cases made
        exact .resumes isPhase isStream done established
      case isFalse unestablished =>
        have unestablished : s.established = false := by simpa using unestablished
        split at made
        case isTrue canceled =>
          cases made
          exact .retires isPhase isStream done unestablished canceled
        case isFalse alive =>
          cases made
          exact .givesUp isPhase isStream done unestablished (by simpa using alive)
    case h_2 broken => cases made; exact .breaks isPhase isStream broken
    case h_3 => cases made
  case h_3 => cases made

theorem beginShutdown_cases {shutdown : Nat} (made : p.beginShutdown shutdown = some q) :
    Turn p (.beginShutdown shutdown) q := by
  obtain ⟨phase, isPhase, made⟩ := Option.bind_eq_some_iff.mp made
  split at made
  case h_1 => cases made; exact .began isPhase
  case h_2 => cases made

theorem endShutdown_cases {shutdown : Nat} (made : p.endShutdown shutdown = some q) :
    Turn p (.endShutdown shutdown) q := by
  obtain ⟨phase, isPhase, made⟩ := Option.bind_eq_some_iff.mp made
  split at made
  case h_1 taken =>
    simp only at made
    split at made
    case isTrue exited =>
      cases made
      refine .returned isPhase fun controller isTaken phase isController => ?_
      exact List.all_eq_true.mp exited phase (List.mem_filterMap.mpr ⟨_, isTaken, isController⟩)
    case isFalse => cases made
  case h_2 => cases made

theorem dropShutdown_cases {shutdown : Nat} (made : p.dropShutdown shutdown = some q) :
    Turn p (.dropShutdown shutdown) q := by
  obtain ⟨request, isRequest, made⟩ := Option.bind_eq_some_iff.mp made
  split at made
  case h_1 => cases made; exact .dropped isRequest (.inl ⟨rfl, rfl⟩)
  case h_2 taken => cases made; exact .dropped isRequest (.inr ⟨taken, rfl, rfl⟩)
  case h_3 => cases made

/-! ### All steps -/

/-- Every step of a pool is in the list. -/
theorem perform_turn {action : Action} (made : p.perform action = some q) : Turn p action q := by
  have own {caller : Nat} (own : action.caller? = some caller) : Turn p action q := by
    obtain ⟨c, isCaller, acts⟩ := perform_acts own made
    exact .acts own isCaller acts
  cases action with
  | stream stream move => exact moveStream_cases made
  | run stream =>
    obtain ⟨s, isStream, made⟩ := Option.bind_eq_some_iff.mp made
    split at made
    case h_1 t again => cases made; exact .restarted isStream again
    case h_2 =>
      obtain ⟨s, next, events, isStream, step, rfl⟩ := onStream_cases made
      exact .started isStream step
  | arrive spec records target => cases made; exact .arrived rfl rfl rfl
  | cancelCaller caller =>
    obtain ⟨c, isCaller, made⟩ := Option.bind_eq_some_iff.mp made
    cases made
    exact .contextEnded isCaller
  | advance time => cases made; exact .advanced
  | deliver call message =>
    obtain rfl | ⟨stream, s, next, events, isStream, step, rfl⟩ := onCall_cases made
    · exact .undelivered
    · exact .delivered isStream step
  | setMode call mode =>
    obtain rfl | ⟨stream, s, next, events, isStream, step, rfl⟩ := onCall_cases made
    · exact .modeUnset
    · exact .modeSet isStream step
  | cancel => cases made; exact .canceled
  | glance => cases made; exact .glanced
  | proceed controller => exact .proceeds (proceed_cases made)
  | dropShare caller => exact dropShare_cases made
  | askShutdown => cases made; exact .asked
  | beginShutdown shutdown => exact beginShutdown_cases made
  | endShutdown shutdown => exact endShutdown_cases made
  | dropShutdown shutdown => exact dropShutdown_cases made
  | letGo => cases made; exact .letGo
  | _ => exact own rfl

end Pool

end TelemetryStreams
