import TelemetryStreams.Proofs.Pool.Results
import TelemetryStreams.Proofs.Pool.Settled

/-!
# What callers get from a pool that is shut down

A caller that gets its result after the end was asked for has been told it by a stream, or it gets
it because its own context ended or its credentials failed, or it is released: then no stream has
registered it, and none will (`Managed.released`). So a caller whose batch is registered learns of
an acknowledgment or that the stream restarts, and only for callers whose batches were never made it
may be that the stream was canceled. A caller that comes later is told at once, and nothing is sent
for it. All of them get their results in the settled state, and nothing of this downgrades the pool
(`shutdown_releases_callers`).
-/
namespace TelemetryStreams.Pool

variable {p q r : Pool} {action : Action} {caller stream shutdown count : Nat} {c d : Caller}
  {s : Stream} {result : Except Error Bool}

/-! ### Callers without a batch -/

def Registered (p : Pool) (caller : Nat) : Prop :=
  ∃ (stream : Nat) (s : Stream) (id : Int64), p.streams[stream]? = some s ∧
    (id, caller) ∈ Event.registrations s.history

/-- The stream of a caller, if it has come to one, is done and has not registered it. -/
def Unserved (p : Pool) (caller : Nat) : Prop :=
  ∀ (stream : Nat) (s : Stream), p.streams[stream]? = some s → caller ∈ p.ticketsOf stream →
    s.run = .done ∧ ∀ id, (id, caller) ∉ Event.registrations s.history

theorem Unserved.not_registered (unserved : Unserved p caller) (sound : Sound p) :
    ¬ Registered p caller := by
  rintro ⟨stream, s, id, isStream, registered⟩
  have isTicket := (sound.healthy stream s isStream).mem_tickets_of_registered registered
  rw [← ticketsOf_eq isStream] at isTicket
  exact (unserved stream s isStream isTicket).2 id registered

theorem Sound.sendsFor_of_unregistered (sound : Sound p) (unregistered : ¬ Registered p caller) :
    p.sendsFor caller = [] := by
  refine List.eq_nil_iff_forall_not_mem.mpr fun ⟨stream, batch⟩ isSent => unregistered ?_
  obtain ⟨s, isStream, isRow⟩ := mem_sendsOf (mem_sendsFor.mp isSent)
  exact ⟨stream, s, batch.id, isStream, (sound.carries isStream isRow).1⟩

theorem Sound.not_registered_of_refused (sound : Sound p) {failure : EncodeError}
    (isCaller : p.callers[caller]? = some c) (told : c.reply = some (.error (.encode failure))) :
    ¬ Registered p caller := by
  rintro ⟨stream, s, id, isStream, registered⟩
  obtain ⟨other, isAnswer⟩ := (sound.told caller c _ isCaller).mp told
  have isTicket := (sound.healthy stream s isStream).mem_tickets_of_registered registered
  rw [← ticketsOf_eq isStream] at isTicket
  have isWith := sound.healthy.mem_ticketsOf isAnswer
  obtain rfl := sound.placed.lone other stream caller isWith isTicket
  have once := sound.placed.once other
  rw [ticketsOf_eq isStream] at once
  rw [answersOf_eq isStream] at isAnswer
  exact (sound.healthy other s isStream).not_registered_of_refused once isAnswer registered

theorem Sound.unserved_of_apart (sound : Sound p) (isCaller : p.callers[caller]? = some c)
    (apart : ∀ stream, ¬ c.phase.IsWith stream) : Unserved p caller :=
  fun stream _ _ isTicket => absurd isTicket (sound.placed.absent isCaller (apart stream))

/-- A caller that waits for its result when its stream is done, and was told nothing. -/
theorem Sound.unserved_of_untold (sound : Sound p) (isCaller : p.callers[caller]? = some c)
    (awaiting : c.phase = .awaiting stream) (untold : c.reply = none)
    (isStream : p.streams[stream]? = some s) (done : s.run = .done) : Unserved p caller := by
  intro other t isOther isTicket
  have isWith := sound.placed.present caller c stream isCaller (by rw [awaiting]; rfl)
  obtain rfl := sound.placed.lone other stream caller isTicket isWith
  obtain rfl := Option.some.inj (isStream.symm.trans isOther)
  refine ⟨done, fun id registered => ?_⟩
  have once := sound.placed.once other
  rw [ticketsOf_eq isStream] at once
  -- The sweep has told every caller that was registered.
  obtain ⟨fate, -, -, answers⟩ :=
    (sound.healthy other s isStream).registered_once once done registered
  have isAnswer : (caller, fate.result) ∈ p.answersOf other := by
    rw [answersOf_eq isStream]
    exact List.mem_of_mem_filter (answers ▸ List.mem_singleton_self _)
  have told := (sound.told caller c fate.result isCaller).mpr ⟨other, isAnswer⟩
  rw [untold] at told
  cases told

theorem Unserved.stays (unserved : Unserved p caller) (healthy : Healthy p)
    (old : ∀ (stream : Nat) (t : Stream), q.streams[stream]? = some t →
      caller ∈ q.ticketsOf stream → caller ∈ p.ticketsOf stream ∧
        ∃ s, p.streams[stream]? = some s ∧ Stream.Becomes s t) :
    Unserved q caller := by
  intro stream t isStream isTicket
  obtain ⟨isEarlier, s, before, becomes⟩ := old stream t isStream isTicket
  obtain ⟨done, unregistered⟩ := unserved stream s before isEarlier
  have sound := healthy stream s before
  refine ⟨(becomes.done sound done).1, fun id => ?_⟩
  rw [becomes.registrations_done sound done]
  exact unregistered id

theorem Unserved.change (unserved : Unserved p caller) (healthy : Healthy p) (change : Change p q)
    (isCaller : q.callers[caller]? = some d) (idle : ∀ stream, ¬ d.phase.WaitsWith stream) :
    Unserved q caller := by
  refine unserved.stays healthy fun stream t isStream isTicket => ?_
  have isEarlier := change.mem_of_idle healthy isCaller (idle stream) isTicket
  refine ⟨isEarlier, ?_⟩
  cases before : p.streams[stream]? with
  | none => simp [ticketsOf, itemsOf, before] at isEarlier
  | some s =>
    obtain ⟨u, isStream', stays⟩ := change.stays before
    obtain rfl := Option.some.inj (isStream.symm.trans isStream')
    exact ⟨s, rfl, stays.becomes⟩

theorem Unserved.trails (unserved : Unserved p caller) (healthy : Healthy p) (trails : Trails p q) :
    Unserved q caller := by
  refine unserved.stays healthy fun stream t isStream isTicket => ?_
  rw [ticketsOf, trails.itemsOf_eq] at isTicket
  obtain ⟨s, before⟩ := trails.old isStream
  obtain ⟨u, isStream', stays⟩ := trails.stays before
  obtain rfl := Option.some.inj (isStream.symm.trans isStream')
  exact ⟨isTicket, s, before, stays.becomes⟩

/-! ### Why callers return after the end was asked for -/

/-- Why a caller has the result that it got after the end was asked for. -/
inductive Released (p : Pool) (caller : Nat) (c : Caller) : Except Error Bool → Prop
  | told {reply : Except Error Unit} (told : c.reply = some reply) :
      Released p caller c (reply.map fun _ => true)
  | ended {result : Except Error Bool} (ended : c.HasEnded p.now) : Released p caller c result
  | uncredentialed {text} (fails : p.FailsCredentials caller) (unserved : Unserved p caller) :
      Released p caller c (.error (.credentials text))
  | unserved {cause} (kind : cause = .canceled ∨ cause = .streamRestarting)
      (unserved : Unserved p caller) : Released p caller c (.error cause)

theorem Returns.released (returns : Returns p caller c result) (sound : Sound p)
    (isCaller : p.callers[caller]? = some c) (canceled : p.canceled = true) :
    Released p caller c result := by
  cases returns with
  | overdue _ _ ended => exact .ended (Caller.hasEnded_of_ended? ended)
  | ended _ ended | gaveUp _ _ ended | left _ _ ended => exact .ended ended.hasEnded
  | uncredentialed fetching equipped fails =>
    refine .uncredentialed ⟨_, _, equipped, fails⟩ ?_
    refine sound.unserved_of_apart isCaller fun stream => ?_
    rw [fetching]
    exact id
  | refused submitting isStream told =>
    refine .unserved ((sound.healthy _ _ isStream).caused _ told)
      (sound.unserved_of_apart isCaller fun stream => ?_)
    rw [submitting]
    exact id
  | shutDown looking =>
    exact .unserved (.inr rfl) (sound.unserved_of_apart isCaller fun stream => looking.apart)
  | downgraded _ alive =>
    rw [canceled] at alive
    cases alive
  | replied _ told => exact .told told
  | abandoned awaiting untold alive isStream told =>
    have healthy := sound.healthy _ _ isStream
    have done := healthy.coherent.told.mp (by rw [told]; rfl)
    exact .unserved (healthy.caused _ told)
      (sound.unserved_of_untold isCaller awaiting untold isStream done)

theorem Released.change (released : Released p caller c result) (healthy : Healthy p)
    (change : Change p q) (kept : Kept c d) (isCaller : q.callers[caller]? = some d)
    (done : d.phase = .done result) : Released q caller d result := by
  have idle : ∀ stream, ¬ d.phase.WaitsWith stream := fun stream => by rw [done]; exact id
  cases released with
  | told told => exact .told (kept.reply _ told)
  | ended ended => exact .ended (kept.hasEnded change.now_le ended)
  | uncredentialed fails unserved =>
    refine .uncredentialed ?_ (unserved.change healthy change isCaller idle)
    rwa [FailsCredentials, change.setup]
  | unserved kind unserved => exact .unserved kind (unserved.change healthy change isCaller idle)

theorem Released.trails (released : Released p caller c result) (healthy : Healthy p)
    (trails : Trails p q) : Released q caller c result := by
  cases released with
  | told told => exact .told told
  | ended ended => exact .ended (by rwa [trails.now])
  | uncredentialed fails unserved =>
    refine .uncredentialed ?_ (unserved.trails healthy trails)
    rwa [FailsCredentials, trails.setup]
  | unserved kind unserved => exact .unserved kind (unserved.trails healthy trails)

/-- A step leaves a caller that is done with a reason. -/
theorem Managed.released_step (managed : Managed count p) (canceled : p.canceled = true)
    (isManaged : action.isManaged = true) (made : p.perform action = some q)
    (before : ∀ c, p.callers[caller]? = some c → c.phase = .done result →
      Released p caller c result)
    (isCaller : q.callers[caller]? = some d) (done : d.phase = .done result) :
    Released q caller d result := by
  have sound := managed.sound
  obtain ⟨r, changed, trails⟩ := perform_cases (action.permits_of_isManaged isManaged p) made
  rw [trails.callers] at isCaller
  obtain rfl | change := changed
  · exact (before d isCaller done).trails sound.healthy trails
  refine Released.trails ?_ (change.healthy sound.healthy) trails
  obtain ⟨-, arriving, -⟩ | ⟨c, isOld, kept, goes⟩ := change.caller_cases isCaller
  · rw [done] at arriving
    cases arriving
  · rw [done] at goes
    have released : Released p caller c result := by
      obtain same | returns | ⟨stream, bound, s, error, queued, -⟩ := goes.done_cases
      · exact before c isOld same
      · exact returns.released sound isOld canceled
      · have free := (managed.conserved.free caller c isOld).2
        rw [queued] at free
        cases free
    exact released.change sound.healthy change kept isCaller done

/-- Along a run of a pool that is shut down, every caller that was not done has a reason when it is.
-/
theorem Managed.released (managed : Managed count p) (canceled : p.canceled = true)
    (serves : Serves p q)
    (outstanding : ∀ c, p.callers[caller]? = some c → ∀ result, c.phase ≠ .done result)
    (isCaller : q.callers[caller]? = some d) (done : d.phase = .done result) :
    Released q caller d result := by
  refine (managed.keeps (P := fun q => q.canceled = true ∧ ∀ d, q.callers[caller]? = some d →
    d.phase = .done result → Released q caller d result) ?_ serves
    ⟨canceled, fun c isCaller done => absurd done (outstanding c isCaller result)⟩).2 d
      isCaller done
  intro q r action managed ⟨canceled, released⟩ isManaged made
  refine ⟨(Serves.one isManaged made).leads.canceled canceled, fun e isCaller done => ?_⟩
  exact managed.released_step canceled isManaged made released isCaller done

/-! ### What callers get -/

/-- With what a caller whose context is live returns after the end was asked for. Unless its batch
was acknowledged it learns that the streams restart; only if no batch of it was registered it may be
that its stream was canceled, or that the codec made no batch or its credentials failed. -/
inductive Parts (p : Pool) (caller : Nat) : Except Error Bool → Prop
  | acknowledged {ack : Acknowledgment} (acknowledged : AcknowledgedBy p caller ack) :
      Parts p caller (ack.verdict.1.map fun _ => true)
  | restarting : Parts p caller (.error .streamRestarting)
  | unregistered {error : Error} (unregistered : ¬ Registered p caller)
      (unsent : p.sendsFor caller = [])
      (kind : error = .canceled ∨ (∃ failure, error = .encode failure) ∨
        p.FailsCredentials caller ∧ ∃ text, error = .credentials text) :
      Parts p caller (.error error)

theorem Released.parts (released : Released p caller c result) (sound : Sound p)
    (isCaller : p.callers[caller]? = some c) (live : ¬ c.HasEnded p.now) :
    Parts p caller result := by
  cases released with
  | ended ended => exact absurd ended live
  | uncredentialed fails unserved =>
    have unregistered := unserved.not_registered sound
    exact .unregistered unregistered (sound.sendsFor_of_unregistered unregistered)
      (.inr (.inr ⟨fails, _, rfl⟩))
  | unserved kind unserved =>
    obtain rfl | rfl := kind
    · have unregistered := unserved.not_registered sound
      exact .unregistered unregistered (sound.sendsFor_of_unregistered unregistered) (.inl rfl)
    · exact .restarting
  | @told reply told =>
    by_cases encoded : ∃ failure, reply = .error (.encode failure)
    · obtain ⟨failure, rfl⟩ := encoded
      have unregistered := sound.not_registered_of_refused isCaller told
      exact .unregistered unregistered (sound.sendsFor_of_unregistered unregistered)
        (.inr (.inl ⟨failure, rfl⟩))
    · by_cases kept : reply = .error .streamRestarting
      · subst kept
        exact .restarting
      · obtain ⟨ack, acknowledged, rfl⟩ :=
          sound.acknowledged isCaller told (fun failure same => encoded ⟨failure, same⟩) kept
        exact .acknowledged acknowledged

theorem Managed.absent_of_canceled (managed : Managed count p) (canceled : p.canceled = true)
    (serves : Serves p q)
    (outside : ∀ c, p.callers[caller]? = some c → c.phase.IsOutside) (stream : Nat) :
    caller ∉ q.ticketsOf stream := by
  refine (managed.keeps (P := fun q => Serves p q ∧ ∀ stream, caller ∉ q.ticketsOf stream) ?_ serves
    ⟨Serves.refl p, ?_⟩).2 stream
  · intro q r action managed' ⟨serves, absent⟩ isManaged made
    have serves' := serves.trans (Serves.one isManaged made)
    refine ⟨serves', fun stream isTicket => ?_⟩
    have sound := (managed.serves serves').sound
    obtain ⟨item, isItem, rfl⟩ := List.mem_map.mp isTicket
    obtain ⟨d, isCaller, -⟩ := sound.placed.owned stream item isItem
    have idle : ¬ d.phase.WaitsWith stream := by
      obtain outside | ⟨result, done, -⟩ :=
        managed.stranded_of_canceled canceled serves' outside d isCaller
      · intro waits
        cases phase : d.phase <;> simp_all [CallPhase.IsOutside, CallPhase.WaitsWith]
      · rw [done]
        exact id
    obtain ⟨middle, changed, trails⟩ := perform_cases (action.permits_of_isManaged isManaged q) made
    rw [trails.callers] at isCaller
    rw [ticketsOf, trails.itemsOf_eq] at isTicket
    obtain rfl | change := changed
    · exact absent stream isTicket
    · exact absent stream (change.mem_of_idle managed'.sound.healthy isCaller idle isTicket)
  · intro stream isTicket
    obtain ⟨item, isItem, rfl⟩ := List.mem_map.mp isTicket
    obtain ⟨c, isCaller, -, isWith⟩ := managed.sound.placed.owned stream item isItem
    have outside := outside c isCaller
    cases phase : c.phase <;> simp_all [CallPhase.IsOutside, CallPhase.IsWith]

theorem Managed.downgraded_eq (managed : Managed count p) (canceled : p.canceled = true)
    (serves : Serves p q) : q.prioritizer.downgraded = p.prioritizer.downgraded := by
  refine (managed.keeps (P := fun q => q.canceled = true ∧
    q.prioritizer.downgraded = p.prioritizer.downgraded) ?_ serves ⟨canceled, rfl⟩).2
  intro q r action managed ⟨canceled, same⟩ isManaged made
  refine ⟨(Serves.one isManaged made).leads.canceled canceled, ?_⟩
  obtain ⟨controller, -, proceeds⟩ | ⟨-, rests⟩ := proceeds_or_rests isManaged made
  · cases proceeds with
    | givesUp _ _ _ _ alive =>
      rw [canceled] at alive
      cases alive
    | stops | starts | resumes | retires | breaks => exact same
  · exact rests.downgraded.trans same

/-- What callers get after a shutdown has begun. The pool settles; then nothing is ready, and every
caller has its result, but for one whose credentials have yet to come or the reader of whose stream
broke down. Callers that were there learn of an acknowledgment or that the streams restart, unless
no batch of them was registered; later ones learn that the streams restart, and nothing is sent for
them. The pool is downgraded afterwards exactly if it was before. -/
theorem shutdown_releases_callers (managed : Managed count p)
    (began : p.perform (.beginShutdown shutdown) = some q) (serves : Serves q r) :
    (∀ number t, TakesTurns r number t → number ≤ r.remaining) ∧
    (∃ number t, TakesTurns r number t ∧ system.isSettled t = true) ∧
    (system.isSettled r = true → r.prioritizer.ready = [] ∧
      ∀ (caller : Nat) (c : Caller), r.callers[caller]? = some c →
        (∃ result, c.phase = .done result) ∨ AwaitsCredentials r caller c ∨
        ∃ stream s, c.phase = .awaiting stream ∧ r.streams[stream]? = some s ∧ s.run = .brokeDown) ∧
    (∀ (caller : Nat) (b c : Caller) (result : Except Error Bool), p.callers[caller]? = some b →
      b.isDone = false → r.callers[caller]? = some c → c.phase = .done result →
      ¬ c.HasEnded r.now → Parts r caller result) ∧
    (∀ (caller : Nat) (c : Caller), p.callers[caller]? = none → r.callers[caller]? = some c →
      r.sendsFor caller = [] ∧
      ∀ result, c.phase = .done result → ¬ c.HasEnded r.now → ¬ r.FailsCredentials caller →
        result = .error .streamRestarting) ∧
    r.prioritizer.downgraded = p.prioritizer.downgraded := by
  have managed' : Managed count q := managed.step (by rfl) began
  obtain ⟨-, same⟩ := beginShutdown_eq began
  have canceled : q.canceled = true := by rw [same]; rfl
  have callers : q.callers = p.callers := by rw [same]; rfl
  have downgraded : q.prioritizer.downgraded = p.prioritizer.downgraded := by rw [same]; rfl
  have settles := managed'.serves serves
  have canceled' := serves.leads.canceled canceled
  refine ⟨?_, settles.turns_settle canceled' .none, ?_, ?_, ?_, ?_⟩
  · intro number t turns
    have bound := settles.turns_le canceled' turns
    omega
  · intro settled
    have atRest := settles.atRest canceled' settled
    exact ⟨atRest.ready, atRest.returned⟩
  · intro caller b c result isEarlier undone isCaller done live
    have outstanding : ∀ d, q.callers[caller]? = some d → ∀ result, d.phase ≠ .done result := by
      intro d isOld result done
      rw [callers] at isOld
      obtain rfl := Option.some.inj (isEarlier.symm.trans isOld)
      simp [Caller.isDone, done] at undone
    have released := managed'.released canceled serves outstanding isCaller done
    exact released.parts settles.sound isCaller live
  · intro caller c new isCaller
    have outside : ∀ d, q.callers[caller]? = some d → d.phase.IsOutside := by
      intro d isOld
      rw [callers, new] at isOld
      cases isOld
    refine ⟨settles.sound.sendsFor_eq_nil fun stream => ?_, fun result done live works => ?_⟩
    · exact managed'.absent_of_canceled canceled serves outside stream
    · have stranded := managed'.stranded_of_canceled canceled serves outside c isCaller
      exact stranded.told works done live
  · rw [managed'.downgraded_eq canceled serves, downgraded]

/-- Of two streams one has sent a batch and one has an item in its queue, and a caller waits. -/
def busyRun : List Action :=
  [.proceed 0, .proceed 1, .stream 0 .establish, .stream 1 .establish, .stream 0 .offer,
    .stream 1 .offer, .arrive {} (.traces []) none, .enter 0, .look 0, .submit 0 false,
    .stream 0 .take, .stream 0 .encode, .stream 0 .send,
    .arrive {} (.logs []) none, .enter 1, .look 1, .submit 1 false,
    .arrive {} (.traces []) none, .enter 2, .look 2, .askShutdown]

def endingRun : List Action :=
  [.stream 0 .receive, .stream 0 .offer, .stream 0 .quit, .stream 0 .join, .stream 0 .sweep,
    .stream 0 .finish, .stream 1 .quit, .stream 1 .receive, .stream 1 .join, .stream 1 .sweep,
    .stream 1 .finish, .proceed 0, .proceed 1, .proceed 0, .proceed 1, .endShutdown 0,
    .arrive {} (.traces []) none, .collect 0 false, .collect 1 false, .release 2, .enter 3, .look 3,
    .dropShare 0, .dropShare 1, .dropShare 2, .dropShare 3]

theorem shutdown_releases_callers_busy :
    ∃ p q r, Managed 2 p ∧ p.perform (.beginShutdown 0) = some q ∧ Serves q r ∧
      p.callers.map Caller.isDone = [false, false, false] ∧
      r.callers.map Caller.phase = [.done (.error .streamRestarting), .done (.error .canceled),
        .done (.error .streamRestarting), .done (.error .streamRestarting)] ∧
      r.prioritizer.ready = [] ∧ Parts r 1 (.error .canceled) ∧ r.sendsFor 3 = [] ∧
      r.prioritizer.downgraded = p.prioritizer.downgraded := by
  have facts : ((ofControllers {} [] 2).follow busyRun).bind (fun p =>
      (p.perform (.beginShutdown 0)).bind fun q => (q.follow endingRun).bind fun r =>
        p.callers[1]?.bind fun b => r.callers[1]?.bind fun c => r.callers[3]?.map fun _ =>
          (system.isSettled r, p.callers.map Caller.isDone, r.callers.map Caller.phase,
            b.isDone || c.canceled, c.deadline)) =
      some (true, [false, false, false],
        [.done (.error .streamRestarting), .done (.error .canceled),
          .done (.error .streamRestarting), .done (.error .streamRestarting)],
        false, none) := by decide +kernel
  obtain ⟨p, follows, facts⟩ := Option.bind_eq_some_iff.mp facts
  obtain ⟨q, began, facts⟩ := Option.bind_eq_some_iff.mp facts
  obtain ⟨r, ends, facts⟩ := Option.bind_eq_some_iff.mp facts
  obtain ⟨b, isEarlier, facts⟩ := Option.bind_eq_some_iff.mp facts
  obtain ⟨c, isCaller, facts⟩ := Option.bind_eq_some_iff.mp facts
  obtain ⟨d, isLater, facts⟩ := Option.map_eq_some_iff.mp facts
  simp only [Prod.mk.injEq] at facts
  obtain ⟨settled, before, after, neither, unbounded⟩ := facts
  obtain ⟨undone, alive⟩ := Bool.or_eq_false_iff.mp neither
  have managed : Managed 2 p := ⟨_, _, _, rfl, follows⟩
  have serves : Serves q r := ⟨endingRun, rfl, ends⟩
  have three : p.callers.length = 3 := by simpa using congrArg List.length before
  have new : p.callers[3]? = none := List.getElem?_eq_none (by omega)
  have done : c.phase = .done (.error .canceled) := by
    have second := List.getElem?_map (f := Caller.phase) (l := r.callers) (i := 1)
    rw [after, isCaller] at second
    exact Option.some.inj second.symm
  obtain ⟨-, -, rests, outstanding, later, same⟩ := shutdown_releases_callers managed began serves
  exact ⟨p, q, r, managed, began, serves, before, after, (rests settled).1,
    outstanding 1 b c _ isEarlier undone isCaller done (Caller.not_hasEnded alive unbounded),
    (later 3 d new isLater).1, same⟩

/-- A caller fetches its credentials when the end is asked for, and still does so when all is
settled. -/
theorem fetching_outlasts_shutdown :
    ∃ p q r, Managed 1 p ∧ p.perform (.beginShutdown 0) = some q ∧ Serves q r ∧
      system.isSettled r = true ∧ p.callers.map Caller.phase = [.fetching 10] ∧
      r.callers.map Caller.phase = [.fetching 10] := by
  have facts : ((ofControllers { credentials := some { delay := 10 } } [] 1).follow [.proceed 0,
      .stream 0 .establish, .stream 0 .offer, .arrive {} (.traces []) none, .enter 0,
      .askShutdown]).bind (fun p => (p.perform (.beginShutdown 0)).bind fun q =>
        (q.follow [.stream 0 .receive, .stream 0 .quit, .stream 0 .join, .stream 0 .sweep,
          .stream 0 .finish, .proceed 0, .proceed 0, .endShutdown 0]).map fun r =>
          (system.isSettled r, p.callers.map Caller.phase, r.callers.map Caller.phase)) =
      some (true, [.fetching 10], [.fetching 10]) := by decide +kernel
  obtain ⟨p, follows, facts⟩ := Option.bind_eq_some_iff.mp facts
  obtain ⟨q, began, facts⟩ := Option.bind_eq_some_iff.mp facts
  obtain ⟨r, ends, facts⟩ := Option.map_eq_some_iff.mp facts
  simp only [Prod.mk.injEq] at facts
  exact ⟨p, q, r, ⟨_, _, _, rfl, follows⟩, began, ⟨_, rfl, ends⟩, facts⟩

end TelemetryStreams.Pool
