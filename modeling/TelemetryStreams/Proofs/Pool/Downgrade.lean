import TelemetryStreams.Proofs.Pool.Stranded
import TelemetryStreams.Proofs.Stream.Verdicts

/-!
# When a pool is downgraded

A controller whose stream is done and is not known to be accepted by the endpoint gives up, unless
the end has been asked for; one whose stream was established replaces it. A pool is downgraded once
all its controllers have given up. Then all streams are done for good, so no call is opened, nothing
is sent or ready, and callers that have come to no stream are told that there is none
(`downgraded_when_all_gave_up`).
-/
namespace TelemetryStreams.Pool

variable {p q r : Pool} {action : Action} {controller stream caller count : Nat} {s : Stream}

theorem Managed.judged (managed : Managed count p) (isStream : p.streams[stream]? = some s) :
    s.Judged := by
  refine managed.each (fun p => ?_) (fun _ _ _ _ _ judged step => judged.step step) isStream
  exact .early (.inr (.inl rfl))

/-! ### What controllers decide -/

/-- A controller gives up: its stream is done and not established, and the end has not been asked
for. -/
def GivesUp (p : Pool) (action : Action) (controller : Nat) : Prop :=
  action = .proceed controller ∧ p.canceled = false ∧
    ∃ stream s, p.controllers[controller]? = some (.running stream) ∧
      p.streams[stream]? = some s ∧ s.run = .done ∧ s.established = false

/-- A controller is about to replace its stream: that is done and was established. -/
def Replaces (p : Pool) (action : Action) (controller : Nat) : Prop :=
  action = .proceed controller ∧
    ∃ stream s, p.controllers[controller]? = some (.running stream) ∧
      p.streams[stream]? = some s ∧ s.run = .done ∧ s.established = true

def Starts (p : Pool) (action : Action) (controller : Nat) (q : Pool) : Prop :=
  action = .proceed controller ∧ p.controllers[controller]? = some .starting ∧
    p.canceled = false ∧ q.streams.length = p.streams.length + 1 ∧
    q.controllers[controller]? = some (.running p.streams.length)

/-- What a step does to the controllers. -/
structure Decided (p : Pool) (action : Action) (q : Pool) : Prop where
  gaveUp : ∀ controller : Nat, q.controllers[controller]? = some .gaveUp ↔
    p.controllers[controller]? = some .gaveUp ∨ GivesUp p action controller
  starting : ∀ controller : Nat, q.controllers[controller]? = some .starting ↔
    p.controllers[controller]? = some .starting ∧ action ≠ .proceed controller ∨
      Replaces p action controller
  counted : ∀ controller, GivesUp p action controller → q.active + 1 = p.active
  uncounted : (∀ controller, ¬ GivesUp p action controller) → q.active = p.active
  streams : q.streams.length = p.streams.length ∨ ∃ controller, Starts p action controller q

theorem Rests.decided (rests : Rests p q) (other : ∀ controller, action ≠ .proceed controller) :
    Decided p action q := by
  refine ⟨fun controller => ?_, fun controller => ?_, fun controller gives => ?_,
    fun _ => rests.active, .inl rests.streams⟩
  · rw [rests.controllers]
    exact ⟨.inl, fun either => either.resolve_right fun gives => other controller gives.1⟩
  · rw [rests.controllers]
    refine ⟨fun starting => .inl ⟨starting, other controller⟩, fun either => ?_⟩
    exact (either.resolve_right fun replaces => other controller replaces.1).1
  · exact absurd gives.1 (other controller)

theorem decided_set {old new : ControllerPhase}
    (isOld : p.controllers[controller]? = some old)
    (controllers : q.controllers = p.controllers.set controller new)
    (gaveUp : new = .gaveUp ↔ GivesUp p (.proceed controller) controller)
    (starting : new = .starting ↔ Replaces p (.proceed controller) controller)
    (kept : old ≠ .gaveUp)
    (counted : GivesUp p (.proceed controller) controller → q.active + 1 = p.active)
    (uncounted : ¬ GivesUp p (.proceed controller) controller → q.active = p.active)
    (streams : q.streams.length = p.streams.length ∨ Starts p (.proceed controller) controller q) :
    Decided p (.proceed controller) q := by
  have inside := (List.getElem?_eq_some_iff.mp isOld).1
  have own : q.controllers[controller]? = some new := by
    rw [controllers, List.getElem?_set_self inside]
  have others {other : Nat} (differ : controller ≠ other) :
      q.controllers[other]? = p.controllers[other]? ∧
        Action.proceed controller ≠ .proceed other := by
    rw [controllers, List.getElem?_set_ne differ]
    exact ⟨rfl, fun same => differ (Action.proceed.inj same)⟩
  refine ⟨fun other => ?_, fun other => ?_, fun other gives => ?_, fun none => ?_,
    streams.imp_right fun starts => ⟨controller, starts⟩⟩
  · by_cases same : controller = other
    · subst same
      rw [own, isOld, Option.some.injEq, Option.some.injEq, gaveUp]
      exact ⟨.inr, fun either => either.resolve_left kept⟩
    · obtain ⟨still, apart⟩ := others same
      rw [still]
      exact ⟨.inl, fun either => either.resolve_right fun gives => apart gives.1⟩
  · by_cases same : controller = other
    · subst same
      rw [own, Option.some.injEq, starting]
      exact ⟨.inr, fun either => either.resolve_left fun stays => stays.2 rfl⟩
    · obtain ⟨still, apart⟩ := others same
      rw [still]
      refine ⟨fun starting => .inl ⟨starting, apart⟩, fun either => ?_⟩
      exact (either.resolve_right fun replaces => apart replaces.1).1
  · obtain rfl := Action.proceed.inj gives.1
    exact counted gives
  · exact uncounted (none controller)

theorem givesUp_iff (running : p.controllers[controller]? = some (.running stream))
    (isStream : p.streams[stream]? = some s) : GivesUp p (.proceed controller) controller ↔
      p.canceled = false ∧ s.run = .done ∧ s.established = false := by
  constructor
  · rintro ⟨-, alive, other, t, running', isStream', done, unestablished⟩
    cases Option.some.inj (running.symm.trans running')
    obtain rfl := Option.some.inj (isStream.symm.trans isStream')
    exact ⟨alive, done, unestablished⟩
  · rintro ⟨alive, done, unestablished⟩
    exact ⟨rfl, alive, stream, s, running, isStream, done, unestablished⟩

theorem replaces_iff (running : p.controllers[controller]? = some (.running stream))
    (isStream : p.streams[stream]? = some s) : Replaces p (.proceed controller) controller ↔
      s.run = .done ∧ s.established = true := by
  constructor
  · rintro ⟨-, other, t, running', isStream', done, established⟩
    cases Option.some.inj (running.symm.trans running')
    obtain rfl := Option.some.inj (isStream.symm.trans isStream')
    exact ⟨done, established⟩
  · rintro ⟨done, established⟩
    exact ⟨rfl, stream, s, running, isStream, done, established⟩

/-- A controller without a stream neither gives up nor replaces one. -/
theorem idle_of_starting (starting : p.controllers[controller]? = some .starting) :
    ¬ GivesUp p (.proceed controller) controller ∧
      ¬ Replaces p (.proceed controller) controller := by
  constructor
  · rintro ⟨-, -, stream, s, running, -⟩
    cases Option.some.inj (starting.symm.trans running)
  · rintro ⟨-, stream, s, running, -⟩
    cases Option.some.inj (starting.symm.trans running)

theorem Proceeds.decided (proceeds : Proceeds p controller q) (governed : Governed count p) :
    Decided p (.proceed controller) q := by
  cases proceeds with
  | stops starting =>
    obtain ⟨gives, replaces⟩ := idle_of_starting starting
    exact decided_set starting rfl (iff_of_false nofun gives) (iff_of_false nofun replaces) nofun
      (fun gave => absurd gave gives) (fun _ => rfl) (.inl rfl)
  | starts starting alive =>
    obtain ⟨gives, replaces⟩ := idle_of_starting starting
    have inside := (List.getElem?_eq_some_iff.mp starting).1
    refine decided_set starting rfl (iff_of_false nofun gives) (iff_of_false nofun replaces) nofun
      (fun gave => absurd gave gives) (fun _ => rfl) (.inr ⟨rfl, starting, alive, ?_, ?_⟩)
    · exact List.length_append
    · exact List.getElem?_set_self inside
  | resumes running isStream done established =>
    have gives : ¬ GivesUp p (.proceed controller) controller := by
      rw [givesUp_iff running isStream, established]
      exact nofun
    have replaces := (replaces_iff running isStream).mpr ⟨done, established⟩
    exact decided_set running rfl (iff_of_false nofun gives) (iff_of_true rfl replaces) nofun
      (fun gave => absurd gave gives) (fun _ => rfl) (.inl rfl)
  | retires running isStream done unestablished canceled =>
    have gives : ¬ GivesUp p (.proceed controller) controller := by
      rw [givesUp_iff running isStream, canceled]
      exact nofun
    have replaces : ¬ Replaces p (.proceed controller) controller := by
      rw [replaces_iff running isStream, unestablished]
      exact nofun
    exact decided_set running rfl (iff_of_false nofun gives) (iff_of_false nofun replaces) nofun
      (fun gave => absurd gave gives) (fun _ => rfl) (.inl rfl)
  | givesUp running isStream done unestablished alive =>
    have gives := (givesUp_iff running isStream).mpr ⟨alive, done, unestablished⟩
    have replaces : ¬ Replaces p (.proceed controller) controller := by
      rw [replaces_iff running isStream, unestablished]
      exact nofun
    obtain ⟨controllers, active, streams⟩ := giveUp_controllers p controller
    have some := (governed.tally_giveUp running nofun).1
    refine decided_set running controllers (iff_of_true rfl gives) (iff_of_false nofun replaces)
      nofun (fun _ => ?_) (fun none => absurd gives none) (.inl (by rw [streams]))
    rw [active]
    omega
  | breaks running isStream broken =>
    have gives : ¬ GivesUp p (.proceed controller) controller := by
      rw [givesUp_iff running isStream, broken]
      exact nofun
    have replaces : ¬ Replaces p (.proceed controller) controller := by
      rw [replaces_iff running isStream, broken]
      exact nofun
    exact decided_set running rfl (iff_of_false nofun gives) (iff_of_false nofun replaces) nofun
      (fun gave => absurd gave gives) (fun _ => rfl) (.inl rfl)

theorem Managed.decided (managed : Managed count p) (isManaged : action.isManaged = true)
    (made : p.perform action = some q) : Decided p action q := by
  obtain ⟨controller, rfl, proceeds⟩ | ⟨other, rests⟩ := proceeds_or_rests isManaged made
  · exact proceeds.decided managed.governed
  · exact rests.decided other

theorem proceed_isSome (goesOn : p.controllers[controller]? = some .starting ∨
    ∃ stream s, p.controllers[controller]? = some (.running stream) ∧
      p.streams[stream]? = some s ∧ s.run = .done) :
    (p.perform (.proceed controller)).isSome = true := by
  obtain starting | ⟨stream, s, running, isStream, done⟩ := goesOn
  · simp only [perform, proceed, starting, Option.bind_eq_bind, Option.bind_some]
    split <;> rfl
  · simp only [perform, proceed, running, isStream, done, Option.bind_eq_bind, Option.bind_some]
    split
    · rfl
    · split <;> rfl

/-! ### A pool that is downgraded -/

/-- What holds from then on in a pool that is downgraded: no call is opened and none attempted, no
stream is started, nothing is sent, and nothing is ready. -/
structure Remains (p q : Pool) : Prop where
  downgraded : q.prioritizer.downgraded = true
  endpoint : q.endpoint = p.endpoint
  streams : q.streams.length = p.streams.length
  unsent : ∀ (stream : Nat) (s t : Stream), p.streams[stream]? = some s →
    q.streams[stream]? = some t → Event.sentBatches t.history = Event.sentBatches s.history
  ready : q.prioritizer.ready = []

theorem endIfAbandoned_endpoint (p : Pool) : p.endIfAbandoned.endpoint = p.endpoint :=
  view_endIfAbandoned Pool.endpoint (fun _ => rfl) p

theorem Acts.endpoint {c : Caller} (acts : Acts p caller c q) : q.endpoint = p.endpoint := by
  cases acts <;> rfl

theorem Managed.endpoint_eq (managed : Managed count p)
    (downgraded : p.prioritizer.downgraded = true) (isManaged : action.isManaged = true)
    (made : p.perform action = some q) :
    q.endpoint = p.endpoint ∧ q.streams.length = p.streams.length := by
  obtain ⟨gaveUp, allDone⟩ := managed.over_of_downgraded downgraded
  have idle : ∀ (controller : Nat) (phase : ControllerPhase),
      p.controllers[controller]? = some phase → phase = .gaveUp :=
    fun controller phase isPhase => gaveUp phase (List.mem_of_getElem? isPhase)
  have streams : q.streams.length = p.streams.length := by
    refine (managed.decided isManaged made).streams.resolve_right ?_
    rintro ⟨controller, -, starting, -⟩
    cases idle controller _ starting
  refine ⟨?_, streams⟩
  cases perform_turn made with
  | moved isStream step =>
    have coherent := (managed.sound.healthy _ _ isStream).coherent
    exact absurd step (coherent.not_move (allDone _ _ isStream))
  | delivered isStream step => cases step; rfl
  | modeSet isStream step => cases step; rfl
  | started | restarted | glanced | canceled => cases isManaged
  | acts own isCaller acts => exact acts.endpoint
  | proceeds proceeds =>
    obtain ⟨phase, -, isPhase, goesOn, -⟩ := proceeds.controllers
    obtain rfl := idle _ phase isPhase
    cases goesOn
  | parted | dropped | letGo => exact endIfAbandoned_endpoint _
  | _ => rfl

theorem Managed.remains (managed : Managed count p) (downgraded : p.prioritizer.downgraded = true)
    (serves : Serves p q) : Remains p q := by
  have along := managed.keeps (P := fun q => q.prioritizer.downgraded = true ∧
    q.endpoint = p.endpoint ∧ q.streams.length = p.streams.length) ?_ serves ⟨downgraded, rfl, rfl⟩
  · obtain ⟨downgraded', endpoint, streams⟩ := along
    have ready := (managed.serves serves).ready_of_downgraded downgraded'
    refine ⟨downgraded', endpoint, streams, fun stream s t isStream isStream' => ?_, ready⟩
    obtain ⟨u, isStream'', becomes⟩ := serves.leads.becomes isStream
    obtain rfl := Option.some.inj (isStream'.symm.trans isStream'')
    exact becomes.sentBatches_done (managed.sound.healthy stream s isStream)
      ((managed.over_of_downgraded downgraded).2 stream s isStream)
  · intro q r action managed ⟨downgraded, endpoint, streams⟩ isManaged made
    have same := managed.endpoint_eq downgraded isManaged made
    exact ⟨(Serves.one isManaged made).downgraded downgraded, same.1.trans endpoint,
      same.2.trans streams⟩

/-- A pool is downgraded exactly if all its controllers have given up. -/
theorem Governed.downgraded_iff (governed : Governed count p) (positive : 0 < count) :
    p.prioritizer.downgraded = true ↔
      ∀ phase ∈ p.controllers, phase = ControllerPhase.gaveUp := by
  have all := List.count_eq_length (a := ControllerPhase.gaveUp) (l := p.controllers)
  have tally := governed.tally
  rw [governed.downgraded, and_iff_right positive]
  constructor
  · intro none phase isPhase
    refine (all.mp ?_ phase isPhase).symm
    rw [governed.number]
    omega
  · intro gaveUp
    have every := all.mpr fun phase isPhase => (gaveUp phase isPhase).symm
    rw [governed.number] at every
    omega

/-- What a caller is told in a pool that is downgraded. -/
structure Dismissed (q : Pool) (caller : Nat) (d : Caller) : Prop where
  stands : d.phase.IsOutside ∨ ∃ result, d.phase = .done result
  told : ∀ result, d.phase = .done result → ¬ d.HasEnded q.now → result = .ok false
  tells : ∀ action r e result, action.isManaged = true → q.perform action = some r →
    r.callers[caller]? = some e → e.phase = .done result → ¬ e.HasEnded r.now →
    result = .ok false
  finishes : d.phase.IsOutside → d.ended? q.now = none → ¬ AwaitsCredentials q caller d →
    FinishesWith caller (.ok false) q

theorem Managed.dismissed {d : Caller} (managed : Managed count p)
    (downgraded : p.prioritizer.downgraded = true) (serves : Serves p q)
    (alive : q.canceled = false) (isCaller : q.callers[caller]? = some d)
    (outside : ∀ c, p.callers[caller]? = some c → c.phase.IsOutside)
    (works : ¬ q.FailsCredentials caller) : Dismissed q caller d := by
  have managed' := managed.serves serves
  have downgraded' := serves.downgraded downgraded
  have refuses := refusal?_downgraded alive downgraded'
  have empty : q.canceled = false → q.prioritizer.ready = [] :=
    fun _ => managed'.ready_of_downgraded downgraded'
  have stranded := managed.stranded_of_downgraded downgraded serves alive outside
  refine ⟨?_, fun result done live => (stranded d isCaller).told works done live, ?_, ?_⟩
  · exact (stranded d isCaller).imp_right fun stands => stands.imp fun _ => And.left
  · intro action r e result isManaged made isCaller' done live
    have after := Stranded.step managed' isManaged made refuses empty stranded e isCaller'
    refine after.told ?_ done live
    obtain ⟨middle, changed, trails⟩ :=
      perform_cases (action.permits_of_isManaged isManaged q) made
    have setup : middle.setup = q.setup := by
      obtain rfl | change := changed
      · rfl
      · exact change.setup
    unfold FailsCredentials
    rw [trails.setup, setup]
    exact works
  · intro outside live there
    exact finishesWith_refusal refuses empty isCaller (managed'.conserved.free caller d isCaller).1
      outside live works there managed'.reachable.equipped

/-- A stream that is done is established exactly if its call was opened and did not end with a
status that says that the protocol is not known. A controller gives up exactly if its stream is done
and not established and the end has not been asked for, and replaces an established one by one
stream. The count of active controllers is that of those that have not given up, and the pool is
downgraded exactly if all have. From then on no call is opened, nothing is sent and nothing is
ready, and whoever has not come to a stream is told that there is none, until the end is asked for.
-/
theorem downgraded_when_all_gave_up (managed : Managed count p) (positive : 0 < count) :
    (∀ (stream : Nat) (s : Stream), p.streams[stream]? = some s → s.run = .done →
      (s.established = true ↔ (∃ call, .opened call ∈ s.history) ∧
        ∀ status, .received (.failed status) ∈ s.history → status.code ≠ .unimplemented)) ∧
    (∀ action q, action.isManaged = true → p.perform action = some q → Decided p action q) ∧
    (∀ controller : Nat, (p.controllers[controller]? = some .starting ∨
      ∃ stream s, p.controllers[controller]? = some (.running stream) ∧
        p.streams[stream]? = some s ∧ s.run = .done) →
      (p.perform (.proceed controller)).isSome = true) ∧
    p.controllers.length = count ∧
    p.active + p.controllers.count .gaveUp = count ∧
    (p.prioritizer.downgraded = true ↔ ∀ phase ∈ p.controllers, phase = ControllerPhase.gaveUp) ∧
    (p.prioritizer.downgraded = true → ∀ q, Serves p q → Remains p q ∧
      ∀ (caller : Nat) (d : Caller), q.canceled = false → q.callers[caller]? = some d →
        (∀ c, p.callers[caller]? = some c → c.phase.IsOutside) →
        ¬ q.FailsCredentials caller → Dismissed q caller d) := by
  have governed := managed.governed
  refine ⟨?_, ?_, ?_, governed.number, governed.tally, governed.downgraded_iff positive, ?_⟩
  · exact fun stream s isStream done => (managed.judged isStream).established_iff done
  · exact fun action q isManaged made => managed.decided isManaged made
  · exact fun controller goesOn => proceed_isSome goesOn
  · intro downgraded q serves
    refine ⟨managed.remains downgraded serves, ?_⟩
    intro caller d alive isCaller outside works
    exact managed.dismissed downgraded serves alive isCaller outside works

/-- One stream is refused while a caller waits, and the call of the other one ends with a status
that says that the protocol is not known. -/
def refusedPoolRun : List Action :=
  [.proceed 0, .proceed 1, .arrive {} (.traces []) none, .enter 0, .look 0,
    .stream 0 .establish, .stream 0 .finish, .proceed 0,
    .stream 1 .establish, .deliver 0 (.failed ⟨.unimplemented, "no such service"⟩),
    .stream 1 .receive, .stream 1 .offer, .stream 1 .quit, .stream 1 .join, .stream 1 .sweep,
    .stream 1 .finish, .proceed 1]

theorem downgraded_when_all_gave_up_refused :
    ∃ p c, (ofControllers {} [.refuse ⟨.unavailable, "gone"⟩, .accept] 2).follow refusedPoolRun =
        some p ∧
      p.prioritizer.downgraded = true ∧ (∀ phase ∈ p.controllers, phase = .gaveUp) ∧
      p.callers[0]? = some c ∧ c.phase = .seeking none ∧ FinishesWith 0 (.ok false) p := by
  have facts : ((ofControllers {} [.refuse ⟨.unavailable, "gone"⟩, .accept] 2).follow
      refusedPoolRun).bind (fun p => p.callers[0]?.map fun c =>
        (p.prioritizer.downgraded, p.canceled, c.phase, c.ended? p.now, p.setup.credentials)) =
      some (true, false, .seeking none, none, none) := by decide +kernel
  obtain ⟨p, follows, facts⟩ := Option.bind_eq_some_iff.mp facts
  obtain ⟨c, isCaller, facts⟩ := Option.map_eq_some_iff.mp facts
  simp only [Prod.mk.injEq] at facts
  obtain ⟨downgraded, alive, seeking, live, unequipped⟩ := facts
  have managed : Managed 2 p := ⟨{}, [.refuse ⟨.unavailable, "gone"⟩, .accept], refusedPoolRun, rfl,
    follows⟩
  obtain ⟨-, -, -, -, -, all, after⟩ := downgraded_when_all_gave_up managed (by decide)
  have outside : c.phase.IsOutside := by rw [seeking]; trivial
  have dismissed := (after downgraded p (Serves.refl p)).2 0 c alive isCaller
    (fun d isOther => by obtain rfl := Option.some.inj (isCaller.symm.trans isOther); exact outside)
    (by simp [FailsCredentials, unequipped])
  exact ⟨p, c, follows, downgraded, all.mp downgraded, isCaller, seeking,
    dismissed.finishes outside live (by simp [AwaitsCredentials, seeking])⟩

end TelemetryStreams.Pool
