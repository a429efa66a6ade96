import TelemetryStreams.Proofs.Pool.Run

/-!
# The callers of a pool

In a step a caller stays where it is or goes one way that is open to it (`Goes`); what it asked for
stays, and so does the first result that a stream has told it (`Kept`). What a caller hears in a
step is what the stream that moves has answered to its ticket (`afterMove_callers`).
-/
namespace TelemetryStreams

def Event.answerTo (caller : Nat) (events : List Event) : Option (Except Error Unit) :=
  ((answers events).find? (·.1 = caller)).map (·.2)

def Caller.hearing (c : Caller) (caller : Nat) (events : List Event) : Caller :=
  { c with reply := c.reply.or (Event.answerTo caller events) }

/-- Whether a caller has come to a stream, or is done. -/
def CallPhase.IsWith (stream : Nat) : CallPhase → Prop
  | .queued other _ | .awaiting other => other = stream
  | .done _ => True
  | _ => False

namespace Pool

variable {p q : Pool} {caller stream : Nat} {c d : Caller}

/-- Where a caller goes in a step, if anywhere. -/
inductive Goes (p q : Pool) (caller : Nat) (c : Caller) : CallPhase → Prop
  | stays : Goes p q caller c c.phase
  | moves {phase} (moves : Moves p caller c phase) : Goes p q caller c phase
  | takes {stream metadata} (looking : Looking c) (alive : p.canceled = false)
      (ready : stream ∈ p.prioritizer.ready) (brought : c.phase.metadata? = some metadata) :
      Goes p q caller c (.submitting stream false metadata)
  | hands {stream s bound metadata} (submitting : c.phase = .submitting stream bound metadata)
      (isStream : p.streams[stream]? = some s) (alive : bound = true → c.IsLive p.now)
      (untold : s.cause = none) (joined : caller ∈ q.ticketsOf stream) :
      Goes p q caller c (if s.queue = [] then .awaiting stream else .queued stream bound)
  | withdraws {stream s bound error} (queued : c.phase = .queued stream bound)
      (isStream : p.streams[stream]? = some s)
      (reason : bound = true ∧ c.Ends p.now error ∨
        (bound = true → c.IsLive p.now) ∧ s.cause = some error) :
      Goes p q caller c (.done (.error error))

/-- What a caller keeps. -/
structure Kept (c d : Caller) : Prop where
  records : d.records = c.records
  metadata : d.metadata = c.metadata
  parent : d.parent = c.parent
  target : d.target = c.target
  deadline : d.deadline = c.deadline
  canceled : c.canceled = true → d.canceled = true
  reply : ∀ result, c.reply = some result → d.reply = some result

theorem Kept.refl (c : Caller) : Kept c c := ⟨rfl, rfl, rfl, rfl, rfl, id, fun _ => id⟩

theorem Kept.trans {e : Caller} (first : Kept c d) (second : Kept d e) : Kept c e :=
  ⟨second.records.trans first.records, second.metadata.trans first.metadata,
    second.parent.trans first.parent, second.target.trans first.target,
    second.deadline.trans first.deadline,
    second.canceled ∘ first.canceled,
    fun result told => second.reply result (first.reply result told)⟩

theorem ended?_cases {now : Nat} {reason : Error} (ended : c.ended? now = some reason) :
    reason = .canceled ∨ reason = .deadlineExceeded := by
  unfold Caller.ended? endReason at ended
  split at ended
  · exact .inl (Option.some.inj ended).symm
  · split at ended
    · split at ended
      · exact .inr (Option.some.inj ended).symm
      · cases ended
    · cases ended

theorem ends_cases {now : Nat} {reason : Error} (ends : c.Ends now reason) :
    reason = .canceled ∨ reason = .deadlineExceeded := by
  cases reason with
  | canceled => exact .inl rfl
  | deadlineExceeded => exact .inr rfl
  | _ => exact ends.elim

theorem endReason_ne_none {now : Nat} {canceled : Bool} {deadline : Option Nat} :
    endReason now canceled deadline ≠ none ↔ canceled = true ∨ ∃ d, deadline = some d ∧ d ≤ now := by
  unfold endReason
  cases canceled <;> cases deadline <;> simp

/-- A context that has ended does not begin again, whether its caller asks or waits. -/
theorem Kept.ended (kept : Kept c d) {earlier later : Nat} (order : earlier ≤ later)
    (ended : c.ended? earlier ≠ none) : d.ended? later ≠ none := by
  unfold Caller.ended? at ended ⊢
  rw [endReason_ne_none] at ended ⊢
  rw [kept.deadline]
  obtain canceled | ⟨time, isDeadline, reached⟩ := ended
  · exact .inl (kept.canceled canceled)
  · exact .inr ⟨time, isDeadline, Nat.le_trans reached order⟩

theorem Kept.ends (kept : Kept c d) {earlier later : Nat} (order : earlier ≤ later) {reason : Error}
    (ends : c.Ends earlier reason) : d.Ends later reason := by
  unfold Caller.Ends
  rw [kept.deadline]
  exact ends.later order kept.canceled

theorem Kept.isLive (kept : Kept c d) {earlier later : Nat} (order : earlier ≤ later)
    (live : d.IsLive later) : c.IsLive earlier :=
  fun reason ends => live reason (kept.ends order ends)

theorem Kept.hasEnded (kept : Kept c d) {earlier later : Nat} (order : earlier ≤ later)
    (ended : c.HasEnded earlier) : d.HasEnded later :=
  ended.imp (kept.ended order) fun ⟨reason, ends⟩ => ⟨reason, kept.ends order ends⟩

/-! ### What callers hear -/

theorem updateCaller_callers (p : Pool) (other : Nat) (change : Caller → Caller) :
    (p.updateCaller other change).callers[caller]? =
      if other = caller then p.callers[caller]?.map change else p.callers[caller]? := by
  unfold updateCaller
  rw [List.getElem?_modify]
  split <;> simp

theorem setPhase_callers (p : Pool) (other : Nat) (phase : CallPhase) :
    (p.setPhase other phase).callers[caller]? =
      if other = caller then p.callers[caller]?.map fun c => { c with phase := phase }
      else p.callers[caller]? :=
  updateCaller_callers p other _

theorem notice_callers (p : Pool) (stream : Nat) (event : Event) :
    (p.notice stream event).callers[caller]? =
      p.callers[caller]?.map fun c => c.hearing caller [event] := by
  have deaf : ∀ events, Event.answers events = [] →
      p.callers[caller]? = p.callers[caller]?.map fun c => c.hearing caller events := by
    intro events none
    simp [Caller.hearing, Event.answerTo, none]
  unfold notice
  split
  case h_3 ticket result =>
    rw [updateCaller_callers]
    split
    case isTrue same =>
      subst same
      congr 1
      funext c
      cases told : c.reply <;> simp [Caller.hearing, Event.answerTo, Event.answers, told]
    case isFalse differ =>
      have other : Event.answerTo caller [.answered ticket result] = none := by
        simp [Event.answerTo, Event.answers, differ]
      simp [Caller.hearing, other]
  case h_6 unanswered _ _ =>
    refine deaf _ ?_
    unfold Event.answers
    cases event <;> simp_all
  all_goals exact deaf _ rfl

theorem hearing_append (c : Caller) (first second : List Event) :
    (c.hearing caller first).hearing caller second =
      c.hearing caller (first ++ second) := by
  have same : Event.answerTo caller (first ++ second) =
      (Event.answerTo caller first).or (Event.answerTo caller second) := by
    unfold Event.answerTo
    rw [Event.answers_append, List.find?_append]
    cases (Event.answers first).find? _ <;> rfl
  simp only [Caller.hearing, same, Option.or_assoc]

theorem afterMove_callers (p : Pool) (stream : Nat) (next : Stream) (events : List Event) :
    (p.afterMove stream next events).callers[caller]? =
      p.callers[caller]?.map fun c => c.hearing caller events := by
  have heard (events : List Event) (q : Pool) :
      (events.foldl (fun p event => p.notice stream event) q).callers[caller]? =
        q.callers[caller]?.map fun c => c.hearing caller events := by
    induction events generalizing q with
    | nil => simp [Caller.hearing, Event.answerTo, Event.answers]
    | cons event events ih =>
      rw [List.foldl_cons, ih, notice_callers, Option.map_map]
      congr 1
      funext c
      exact hearing_append c [event] events
  exact heard events _

theorem kept_hearing (c : Caller) (events : List Event) :
    Kept c (c.hearing caller events) := by
  refine ⟨rfl, rfl, rfl, rfl, rfl, id, fun result told => ?_⟩
  simp [Caller.hearing, told]

/-! ### How callers go on -/

theorem kept_setPhase (c : Caller) (phase : CallPhase) : Kept c { c with phase := phase } :=
  ⟨rfl, rfl, rfl, rfl, rfl, id, fun _ => id⟩

theorem setPhase_self {r : Pool} {phase : CallPhase} (callers : r.callers = p.callers)
    (isCaller : p.callers[caller]? = some c) :
    (r.setPhase caller phase).callers[caller]? = some { c with phase := phase } := by
  rw [setPhase_callers, if_pos rfl, callers, isCaller]
  rfl

theorem goes_setPhase {r : Pool} {other : Nat} {phase : CallPhase}
    (callers : r.callers = p.callers) (isCaller : p.callers[caller]? = some c)
    (goes : other = caller → Goes p q caller c phase) :
    ∃ d, (r.setPhase other phase).callers[caller]? = some d ∧ Kept c d ∧ Goes p q caller c d.phase := by
  rw [setPhase_callers, callers, isCaller]
  split
  case isTrue same => exact ⟨_, rfl, kept_setPhase c phase, goes same⟩
  case isFalse => exact ⟨c, rfl, Kept.refl c, .stays⟩

/-- What becomes of a caller in a change. -/
theorem Change.goes (change : Change p q) (isCaller : p.callers[caller]? = some c) :
    ∃ d, q.callers[caller]? = some d ∧ Kept c d ∧ Goes p q caller c d.phase := by
  cases change with
  | @moved stream s action events next isStream =>
    refine ⟨c.hearing caller events, ?_, kept_hearing c events, .stays⟩
    rw [afterMove_callers, isCaller]
    rfl
  | grown => exact ⟨c, isCaller, Kept.refl c, .stays⟩
  | arrived =>
    have inside := (List.getElem?_eq_some_iff.mp isCaller).1
    exact ⟨c, (List.getElem?_append_left inside).trans isCaller, Kept.refl c, .stays⟩
  | callerCanceled =>
    rw [updateCaller_callers, isCaller]
    split
    · exact ⟨_, rfl, ⟨rfl, rfl, rfl, rfl, rfl, fun _ => rfl, fun _ => id⟩, .stays⟩
    · exact ⟨c, rfl, Kept.refl c, .stays⟩
  | parted =>
    rw [updateCaller_callers, isCaller]
    split
    · exact ⟨_, rfl, ⟨rfl, rfl, rfl, rfl, rfl, id, fun _ => id⟩, .stays⟩
    · exact ⟨c, rfl, Kept.refl c, .stays⟩
  | advanced => exact ⟨c, isCaller, Kept.refl c, .stays⟩
  | phased isOther moves =>
    refine goes_setPhase rfl isCaller fun same => ?_
    subst same
    obtain rfl := Option.some.inj (isOther.symm.trans isCaller)
    exact .moves moves
  | took isOther looking alive first brought =>
    refine goes_setPhase rfl isCaller fun same => ?_
    subst same
    obtain rfl := Option.some.inj (isOther.symm.trans isCaller)
    exact .takes looking alive (by rw [first]; exact List.mem_cons_self) brought
  | @handed other c stream s bound metadata isOther submitting isStream alive untold =>
    refine goes_setPhase rfl isCaller fun same => ?_
    subst same
    obtain rfl := Option.some.inj (isOther.symm.trans isCaller)
    refine .hands submitting isStream alive untold ?_
    have joined := s.mem_items_submit (p.itemOf other c metadata)
    rw [ticketsOf, itemsOf_set (p := p) rfl rfl isStream, if_pos rfl]
    exact List.mem_map.mpr ⟨_, joined, rfl⟩
  | withdrew isOther queued isStream reason =>
    refine goes_setPhase rfl isCaller fun same => ?_
    subst same
    obtain rfl := Option.some.inj (isOther.symm.trans isCaller)
    exact .withdraws queued isStream reason
  | glanced => exact ⟨c, isCaller, Kept.refl c, .stays⟩
  | downgraded => exact ⟨c, isCaller, Kept.refl c, .stays⟩

/-- A caller that was not there before has just come. -/
theorem Change.came (change : Change p q) (isCaller : q.callers[caller]? = some d)
    (new : p.callers[caller]? = none) : d.phase = .arriving ∧ d.reply = none := by
  cases change with
  | moved =>
    rw [afterMove_callers, new] at isCaller
    cases isCaller
  | grown => exact absurd (new.symm.trans isCaller) nofun
  | arrived arriving untold =>
    have outside := List.getElem?_eq_none_iff.mp new
    have inside := (List.getElem?_eq_some_iff.mp isCaller).1
    simp only [List.length_append, List.length_singleton] at inside
    obtain rfl : caller = p.callers.length := by omega
    simp only [List.getElem?_concat_length, Option.some.injEq] at isCaller
    exact isCaller ▸ ⟨arriving, untold⟩
  | callerCanceled | parted =>
    rw [updateCaller_callers, new] at isCaller
    split at isCaller <;> cases isCaller
  | advanced => exact absurd (new.symm.trans isCaller) nofun
  | phased | took | handed | withdrew =>
    rw [setPhase_callers] at isCaller
    change (if _ then p.callers[caller]?.map _ else p.callers[caller]?) = some d at isCaller
    rw [new] at isCaller
    split at isCaller <;> cases isCaller
  | glanced => exact absurd (new.symm.trans isCaller) nofun
  | downgraded => exact absurd (new.symm.trans isCaller) nofun

theorem Change.caller_cases (change : Change p q) (isCaller : q.callers[caller]? = some d) :
    (p.callers[caller]? = none ∧ d.phase = .arriving ∧ d.reply = none) ∨
      ∃ c, p.callers[caller]? = some c ∧ Kept c d ∧ Goes p q caller c d.phase := by
  cases before : p.callers[caller]? with
  | none => exact .inl ⟨rfl, change.came isCaller before⟩
  | some c =>
    obtain ⟨d', isCaller', kept, goes⟩ := change.goes before
    obtain rfl := Option.some.inj (isCaller.symm.trans isCaller')
    exact .inr ⟨c, rfl, kept, goes⟩

/-- A caller gets its result when it returns or withdraws its item. -/
theorem Goes.done_cases {result : Except Error Bool} (goes : Goes p q caller c (.done result)) :
    c.phase = .done result ∨ Returns p caller c result ∨ ∃ stream bound s error,
      c.phase = .queued stream bound ∧ p.streams[stream]? = some s ∧
      (bound = true ∧ c.Ends p.now error ∨ s.cause = some error) ∧
      result = .error error := by
  generalize same : CallPhase.done result = phase at goes
  cases goes with
  | stays => exact .inl rfl
  | moves moves =>
    cases moves with
    | returns returns =>
      cases same
      exact .inr (.inl returns)
    | _ => cases same
  | takes => cases same
  | hands => split at same <;> cases same
  | withdraws queued isStream reason =>
    cases same
    exact .inr (.inr ⟨_, _, _, _, queued, isStream, reason.imp_right And.right, rfl⟩)

/-- Along a run callers stay at their places and keep what they keep in every step, while time goes on. -/
theorem Leads.kept (leads : Leads p q) (isCaller : p.callers[caller]? = some c) :
    ∃ d, q.callers[caller]? = some d ∧ Kept c d ∧ p.now ≤ q.now := by
  refine leads.keeps (P := fun q => ∃ d, q.callers[caller]? = some d ∧ Kept c d ∧ p.now ≤ q.now)
    ?_ ?_ ⟨c, isCaller, Kept.refl c, Nat.le_refl _⟩
  · intro q r ⟨d, isCaller, kept, order⟩ change
    obtain ⟨e, isCaller, kept', -⟩ := change.goes isCaller
    exact ⟨e, isCaller, kept.trans kept', Nat.le_trans order change.now_le⟩
  · intro q r ⟨d, isCaller, kept, order⟩ trails
    exact ⟨d, by rw [trails.callers, isCaller], kept, by rw [trails.now]; exact order⟩

theorem Departing.apart (departing : Departing p c) : ¬ c.phase.IsWith stream := by
  obtain ⟨arriving, -⟩ | ⟨ready, fetching⟩ := departing
  · rw [arriving]
    exact id
  · rw [fetching]
    exact id

theorem Looking.apart (looking : Looking c) : ¬ c.phase.IsWith stream := by
  obtain ⟨metadata, phase | phase⟩ := looking
  · rw [phase]
    exact id
  · rw [phase]
    exact id

theorem Goes.isWith {phase : CallPhase} (goes : Goes p q caller c phase)
    (isWith : c.phase.IsWith stream) : phase.IsWith stream := by
  cases goes with
  | stays => exact isWith
  | moves moves =>
    cases moves with
    | fetches arriving => simp [arriving, CallPhase.IsWith] at isWith
    | heads departing | looks departing => exact absurd isWith departing.apart
    | waits looking => exact absurd isWith looking.apart
    | accepted queued => simpa [queued, CallPhase.IsWith] using isWith
    | returns => trivial
  | takes looking => exact absurd isWith looking.apart
  | hands submitting => simp [submitting, CallPhase.IsWith] at isWith
  | withdraws => trivial

end Pool

end TelemetryStreams
