import TelemetryStreams.Proofs.Pool.Conservation
import TelemetryStreams.Proofs.Pool.Release

/-!
# Callers that find no stream

Once a pool is shut down or downgraded, a caller that has come to no stream comes to none any more.
It is told so (`refusal?`) when it looks for one, unless its context ends or its credentials fail
before that. Every step keeps this (`Stranded.step`), and a caller whose context is live and whose
credentials have come gets that answer when it is polled (`finishesWith_refusal`).
-/
namespace TelemetryStreams

/-- Whether a caller has neither come to a stream nor taken one, nor has its result. -/
def CallPhase.IsOutside : CallPhase → Prop
  | .arriving | .fetching _ | .choosing _ | .seeking _ => True
  | .submitting .. | .queued .. | .awaiting _ | .done _ => False

namespace Pool

variable {p q : Pool} {action : Action} {caller count : Nat} {c d : Caller}
  {answer : Except Error Bool}

/-- What a caller is told that looks for a stream, if there is none for anybody. -/
def refusal? (p : Pool) : Option (Except Error Bool) :=
  if p.canceled then some (.error .streamRestarting)
  else if p.prioritizer.downgraded then some (.ok false)
  else none

theorem refusal?_canceled (canceled : p.canceled = true) :
    p.refusal? = some (.error .streamRestarting) :=
  if_pos canceled

theorem refusal?_downgraded (alive : p.canceled = false)
    (downgraded : p.prioritizer.downgraded = true) : p.refusal? = some (.ok false) := by
  simp [refusal?, alive, downgraded]

/-- Whether the credentials of a caller fail. -/
def FailsCredentials (p : Pool) (caller : Nat) : Prop :=
  ∃ credentials text, p.setup.credentials = some credentials ∧
    (credentials.fetch caller).failure = some text

/-! ### The end of a pool -/

theorem afterMove_canceled (p : Pool) (stream : Nat) (next : Stream) (events : List Event) :
    (p.afterMove stream next events).canceled = p.canceled :=
  view_afterMove Pool.canceled (view_notice _ fun _ _ _ _ _ => rfl) p stream next events

theorem Change.canceled (change : Change p q) : q.canceled = p.canceled := by
  cases change with
  | moved => exact afterMove_canceled _ _ _ _
  | _ => rfl

theorem Leads.canceled (leads : Leads p q) (canceled : p.canceled = true) : q.canceled = true := by
  refine leads.keeps (P := fun q => q.canceled = true) ?_ ?_ canceled
  · exact fun q r canceled change => change.canceled.trans canceled
  · exact fun q r canceled trails => trails.canceled canceled

theorem Proceeds.downgraded {controller : Nat} (proceeds : Proceeds p controller q)
    (downgraded : p.prioritizer.downgraded = true) : q.prioritizer.downgraded = true := by
  cases proceeds with
  | givesUp => exact (giveUp_downgraded p controller).mpr (.inl downgraded)
  | _ => exact downgraded

theorem Serves.downgraded (serves : Serves p q) (downgraded : p.prioritizer.downgraded = true) :
    q.prioritizer.downgraded = true := by
  refine serves.induction (P := fun q => q.prioritizer.downgraded = true) ?_ downgraded
  intro q r action downgraded isManaged made
  obtain ⟨controller, -, proceeds⟩ | ⟨-, rests⟩ := proceeds_or_rests isManaged made
  · exact proceeds.downgraded downgraded
  · exact rests.downgraded.trans downgraded

theorem Managed.ready_of_downgraded (managed : Managed count p)
    (downgraded : p.prioritizer.downgraded = true) : p.prioritizer.ready = [] :=
  managed.conserved.ready_of_downgraded managed.sound.healthy
    (managed.over_of_downgraded downgraded).2

/-! ### What becomes of a caller -/

/-- A caller has come to no stream. If it has its result, that is the answer, or else its context
has ended or its credentials fail. -/
def Stranded (answer : Except Error Bool) (p : Pool) (caller : Nat) (c : Caller) : Prop :=
  c.phase.IsOutside ∨ ∃ result, c.phase = .done result ∧
    (result = answer ∨ c.HasEnded p.now ∨ p.FailsCredentials caller)

theorem Goes.outside {phase : CallPhase} (goes : Goes p q caller c phase)
    (outside : c.phase.IsOutside) (target : c.target = none) (refuses : p.refusal? = some answer)
    (empty : p.canceled = false → p.prioritizer.ready = []) :
    phase.IsOutside ∨ ∃ result, phase = .done result ∧
      (result = answer ∨ c.HasEnded p.now ∨ p.FailsCredentials caller) := by
  cases goes with
  | stays => exact .inl outside
  | moves moves =>
    cases moves with
    | fetches | looks | waits => exact .inl trivial
    | heads _ chosen => rw [target] at chosen; cases chosen
    | accepted queued => rw [queued] at outside; cases outside
    | returns returns =>
      cases returns with
      | overdue _ _ ended => exact .inr ⟨_, rfl, .inr (.inl (Caller.hasEnded_of_ended? ended))⟩
      | gaveUp _ _ ended => exact .inr ⟨_, rfl, .inr (.inl ended.hasEnded)⟩
      | uncredentialed _ equipped fails => exact .inr ⟨_, rfl, .inr (.inr ⟨_, _, equipped, fails⟩)⟩
      | shutDown _ canceled =>
        rw [refusal?_canceled canceled] at refuses
        exact .inr ⟨_, rfl, .inl (Option.some.inj refuses)⟩
      | downgraded _ alive downgraded =>
        rw [refusal?_downgraded alive downgraded] at refuses
        exact .inr ⟨_, rfl, .inl (Option.some.inj refuses)⟩
      | ended phase | refused phase | replied phase | left phase | abandoned phase =>
        rw [phase] at outside
        cases outside
  | takes _ alive ready =>
    rw [empty alive] at ready
    cases ready
  | hands submitting => rw [submitting] at outside; cases outside
  | withdraws queued => rw [queued] at outside; cases outside

theorem Goes.of_done {phase : CallPhase} {result : Except Error Bool}
    (goes : Goes p q caller c phase) (done : c.phase = .done result) : phase = .done result := by
  have departed : ¬ Departing p c := by simp [Departing, done]
  have found : ¬ Looking c := by simp [Looking, done]
  cases goes with
  | stays => exact done
  | moves moves =>
    cases moves with
    | fetches phase | accepted phase => rw [done] at phase; cases phase
    | heads departing | looks departing => exact absurd departing departed
    | waits looking => exact absurd looking found
    | returns returns =>
      cases returns with
      | shutDown looking | downgraded looking => exact absurd looking found
      | overdue phase | uncredentialed phase | ended phase | refused phase | gaveUp phase
      | replied phase | left phase | abandoned phase => rw [done] at phase; cases phase
  | takes looking => exact absurd looking found
  | hands phase | withdraws phase => rw [done] at phase; cases phase

/-- A caller that is stranded or has yet to come is stranded after a step. -/
theorem Stranded.step (managed : Managed count p) (isManaged : action.isManaged = true)
    (made : p.perform action = some q) (refuses : p.refusal? = some answer)
    (empty : p.canceled = false → p.prioritizer.ready = [])
    (before : ∀ c, p.callers[caller]? = some c → Stranded answer p caller c) :
    ∀ d, q.callers[caller]? = some d → Stranded answer q caller d := by
  intro d isCaller
  obtain ⟨r, changed, trails⟩ := perform_cases (action.permits_of_isManaged isManaged p) made
  rw [trails.callers] at isCaller
  unfold Stranded FailsCredentials
  rw [trails.now, trails.setup]
  obtain rfl | change := changed
  · exact before d isCaller
  obtain ⟨-, arriving, -⟩ | ⟨c, isOld, kept, goes⟩ := change.caller_cases isCaller
  · rw [arriving]
    exact .inl trivial
  · have free := (managed.conserved.free caller c isOld).1
    have went : d.phase.IsOutside ∨ ∃ result, d.phase = .done result ∧
        (result = answer ∨ c.HasEnded p.now ∨ p.FailsCredentials caller) := by
      obtain outside | ⟨result, done, excuse⟩ := before c isOld
      · exact goes.outside outside free refuses empty
      · exact .inr ⟨result, goes.of_done done, excuse⟩
    obtain outside | ⟨result, done, excuse⟩ := went
    · exact .inl outside
    · refine .inr ⟨result, done, excuse.imp_right fun excuse => ?_⟩
      rw [change.setup]
      exact excuse.imp_left fun ended => kept.hasEnded change.now_le ended

/-- In a pool that is shut down, whoever has not come to a stream comes to none. -/
theorem Managed.stranded_of_canceled (managed : Managed count p) (canceled : p.canceled = true)
    (serves : Serves p q)
    (outside : ∀ c, p.callers[caller]? = some c → c.phase.IsOutside) :
    ∀ d, q.callers[caller]? = some d → Stranded (.error .streamRestarting) q caller d := by
  refine (managed.keeps (P := fun q => q.canceled = true ∧ ∀ d, q.callers[caller]? = some d →
    Stranded (.error .streamRestarting) q caller d) ?_ serves
    ⟨canceled, fun c isCaller => .inl (outside c isCaller)⟩).2
  intro q r action managed ⟨canceled, stranded⟩ isManaged made
  refine ⟨(Serves.one isManaged made).leads.canceled canceled, ?_⟩
  have alive : q.canceled = false → q.prioritizer.ready = [] := by simp [canceled]
  exact Stranded.step managed isManaged made (refusal?_canceled canceled) alive stranded

/-- In a pool that is downgraded, whoever has not come to a stream comes to none until it is shut
down. -/
theorem Managed.stranded_of_downgraded (managed : Managed count p)
    (downgraded : p.prioritizer.downgraded = true) (serves : Serves p q)
    (alive : q.canceled = false)
    (outside : ∀ c, p.callers[caller]? = some c → c.phase.IsOutside) :
    ∀ d, q.callers[caller]? = some d → Stranded (.ok false) q caller d := by
  have along := managed.keeps (P := fun q => q.prioritizer.downgraded = true ∧
    (q.canceled = true ∨ ∀ d, q.callers[caller]? = some d → Stranded (.ok false) q caller d))
    ?_ serves ⟨downgraded, .inr fun c isCaller => .inl (outside c isCaller)⟩
  · exact along.2.resolve_left (by simp [alive])
  intro q r action managed ⟨downgraded, stranded⟩ isManaged made
  have one := Serves.one isManaged made
  refine ⟨one.downgraded downgraded, ?_⟩
  cases canceled : q.canceled with
  | true => exact .inl (one.leads.canceled canceled)
  | false =>
    have stranded := stranded.resolve_left (by simp [canceled])
    exact .inr (Stranded.step managed isManaged made (refusal?_downgraded canceled downgraded)
      (fun _ => managed.ready_of_downgraded downgraded) stranded)

theorem Stranded.told {result : Except Error Bool} (stranded : Stranded answer q caller d)
    (works : ¬ q.FailsCredentials caller)
    (done : d.phase = .done result) (live : ¬ d.HasEnded q.now) : result = answer := by
  obtain outside | ⟨other, done', excuse⟩ := stranded
  · rw [done] at outside
    cases outside
  · rw [done] at done'
    obtain rfl := CallPhase.done.inj done'
    obtain same | ended | fails := excuse
    · exact same
    · exact absurd ended live
    · exact absurd fails works

/-! ### What a caller gets -/

def FinishesWith (caller : Nat) (result : Except Error Bool) (p : Pool) : Prop :=
  ∃ q d, Polled caller p q ∧ q.callers[caller]? = some d ∧ d.phase = .done result

theorem finishesWith_finish {r : Pool} (callers : r.callers = p.callers)
    (isCaller : p.callers[caller]? = some c)
    (moves : system.next? p (.caller caller) = some (r.finish caller answer)) :
    FinishesWith caller answer p := by
  have isDone := finish_callers answer callers isCaller
  exact ⟨_, _, .goes moves (.rests (next?_done isDone rfl)), isDone, rfl⟩

theorem FinishesWith.of_next (moves : system.next? p (.caller caller) = some q)
    (finishes : FinishesWith caller answer q) : FinishesWith caller answer p := by
  obtain ⟨r, d, polled, isDone⟩ := finishes
  exact ⟨r, d, .goes moves polled, isDone⟩

theorem downgraded_of_refusal (refuses : p.refusal? = some answer) (alive : p.canceled = false) :
    p.prioritizer.downgraded = true ∧ answer = .ok false := by
  unfold refusal? at refuses
  rw [if_neg (by simp [alive])] at refuses
  split at refuses
  case isTrue downgraded => exact ⟨downgraded, (Option.some.inj refuses).symm⟩
  case isFalse => cases refuses

section
variable {metadata : Option Metadata} (refuses : p.refusal? = some answer)
  (empty : p.canceled = false → p.prioritizer.ready = [])
include refuses empty

theorem look_refusal (alive : p.canceled = false) {prioritizer : Prioritizer}
    (same : prioritizer.Agrees p.prioritizer) : (prioritizer.look caller).1 = .downgraded := by
  have downgraded := (downgraded_of_refusal refuses alive).1
  unfold Prioritizer.look
  rw [same.ready, empty alive, same.downgraded, downgraded]
  rfl

theorem finishesWith_choosing (isCaller : p.callers[caller]? = some c)
    (phase : c.phase = .choosing metadata) : FinishesWith caller answer p := by
  cases canceled : p.canceled with
  | true =>
    rw [refusal?_canceled canceled] at refuses
    obtain rfl := Option.some.inj refuses
    refine finishesWith_finish rfl isCaller ?_
    simp [System.next?, system, movesOf, perform, beginCaller, fetched, submit, recheck, isCaller,
      phase, canceled]
  | false =>
    have found : (p.prioritizer.look caller).1 = .downgraded :=
      look_refusal refuses empty canceled ⟨rfl, rfl⟩
    obtain ⟨-, rfl⟩ := downgraded_of_refusal refuses canceled
    refine finishesWith_finish (r := { p with prioritizer := (p.prioritizer.look caller).2 }) rfl
      isCaller ?_
    simp [System.next?, system, movesOf, perform, beginCaller, fetched, submit, recheck, isCaller,
      phase, canceled, Pool.found, found]

theorem finishesWith_seeking (isCaller : p.callers[caller]? = some c)
    (phase : c.phase = .seeking metadata) : FinishesWith caller answer p := by
  cases canceled : p.canceled with
  | true =>
    rw [refusal?_canceled canceled] at refuses
    obtain rfl := Option.some.inj refuses
    refine finishesWith_finish (r := { p with prioritizer := p.prioritizer.leave caller }) rfl
      isCaller ?_
    simp [System.next?, system, movesOf, perform, beginCaller, fetched, submit, recheck, isCaller,
      phase, canceled, leaves]
  | false =>
    obtain ⟨downgraded, rfl⟩ := downgraded_of_refusal refuses canceled
    by_cases notified : caller ∈ p.prioritizer.notified
    · have found : (Prioritizer.look { p.prioritizer with
          notified := p.prioritizer.notified.erase caller } caller).1 = .downgraded :=
        look_refusal refuses empty canceled ⟨rfl, rfl⟩
      refine finishesWith_finish (r := { p with
        prioritizer := (p.prioritizer.lookAgain caller).2 }) rfl isCaller ?_
      simp [System.next?, system, movesOf, perform, beginCaller, fetched, submit, recheck, isCaller,
        phase, canceled, seeker?, notified, Prioritizer.lookAgain, Pool.found, found]
    · refine finishesWith_finish (r := { p with prioritizer := p.prioritizer.leave caller }) rfl
        isCaller ?_
      simp [System.next?, system, movesOf, perform, beginCaller, fetched, submit, recheck, isCaller,
        phase, canceled, seeker?, notified, downgraded, leaves]

end

section
variable (refuses : p.refusal? = some answer)
  (empty : p.canceled = false → p.prioritizer.ready = [])
include refuses empty

theorem finishesWith_afterCredentials {metadata : Option Metadata}
    (isCaller : p.callers[caller]? = some c) (target : c.target = none) :
    FinishesWith caller answer (p.afterCredentials caller c.target metadata) := by
  have goes : p.afterCredentials caller c.target metadata =
      p.setPhase caller (.choosing metadata) := by
    simp [afterCredentials, target]
  have refuses' : (p.setPhase caller (.choosing metadata)).refusal? = some answer := refuses
  rw [goes]
  exact finishesWith_choosing refuses' empty (setPhase_self rfl isCaller) rfl

theorem finishesWith_fetching {ready : Nat} {credentials : Credentials}
    (isCaller : p.callers[caller]? = some c) (phase : c.phase = .fetching ready)
    (due : ready ≤ p.now) (target : c.target = none)
    (equipped : p.setup.credentials = some credentials) (works : ¬ p.FailsCredentials caller) :
    FinishesWith caller answer p := by
  have given : credentials.metadata caller c.metadata = .ok (if credentials.forwards then
      credentials.fixed.overlay c.metadata else credentials.fixed) := by
    unfold Credentials.metadata
    cases fails : (credentials.fetch caller).failure with
    | none => rfl
    | some text => exact absurd ⟨credentials, text, equipped, fails⟩ works
  have went : p.fetched caller = some (p.afterCredentials caller c.target
      (some (if credentials.forwards then credentials.fixed.overlay c.metadata
        else credentials.fixed))) := by
    simp [Pool.fetched, isCaller, phase, equipped, due, given]
  refine .of_next ((next?_fetching isCaller phase).trans went) ?_
  exact finishesWith_afterCredentials refuses empty isCaller target

/-- A caller that has not come to a stream is told what all are told, if its context is live and its
credentials are there and do not fail. -/
theorem finishesWith_refusal (isCaller : p.callers[caller]? = some c) (target : c.target = none)
    (outside : c.phase.IsOutside) (live : c.ended? p.now = none)
    (works : ¬ p.FailsCredentials caller) (there : ¬ AwaitsCredentials p caller c)
    (equipped : Equipped p) : FinishesWith caller answer p := by
  cases phase : c.phase with
  | arriving =>
    cases fetches : p.setup.credentials with
    | none =>
      have went : p.beginCaller caller = some (p.afterCredentials caller c.target none) := by
        simp [beginCaller, isCaller, phase, target, live, fetches]
      refine .of_next ((next?_arriving isCaller phase).trans went) ?_
      exact finishesWith_afterCredentials refuses empty isCaller target
    | some credentials =>
      have instant : (credentials.fetch caller).delay = 0 := by
        by_contra slow
        exact there (.inr ⟨credentials, fetches, phase, Nat.pos_of_ne_zero slow⟩)
      have went : p.beginCaller caller = some
          (p.setPhase caller (.fetching (p.now + (credentials.fetch caller).delay))) := by
        simp [beginCaller, isCaller, phase, target, live, fetches]
      refine .of_next ((next?_arriving isCaller phase).trans went) ?_
      have refuses' : (p.setPhase caller
          (.fetching (p.now + (credentials.fetch caller).delay))).refusal? = some answer := refuses
      refine finishesWith_fetching refuses' empty (setPhase_self rfl isCaller) rfl ?_ target
        fetches works
      rw [instant]
      exact Nat.le_refl _
  | fetching ready =>
    obtain ⟨credentials, fetches⟩ :=
      Option.isSome_iff_exists.mp (equipped caller c ready isCaller phase)
    have due : ready ≤ p.now := by
      by_contra late
      exact there (.inl ⟨ready, phase, Nat.lt_of_not_le late⟩)
    exact finishesWith_fetching refuses empty isCaller phase due target fetches works
  | choosing metadata => exact finishesWith_choosing refuses empty isCaller phase
  | seeking metadata => exact finishesWith_seeking refuses empty isCaller phase
  | submitting | queued | awaiting | done => rw [phase] at outside; cases outside

end

end Pool

end TelemetryStreams
