import TelemetryStreams.Proofs.Pool.Delivery
import TelemetryStreams.Proofs.Pool.Shutdown
import TelemetryStreams.Proofs.Stream.Rest

/-!
# What callers learn of the end of a stream

What a caller learns of the end of a stream depends on how far its item has come. If its batch was
registered and not acknowledged it learns that the stream restarts, whoever asked for the end. If its item
was never taken it gets the error with which the stream has finished, like every caller that comes later
(`Stream.lateAnswer`), and no codec is called and nothing is registered or sent for it. The only one for
whom this may look otherwise is a caller that still waits for room when its stream is done, although its
item was taken meanwhile (`end_tells_progress`).
-/
namespace TelemetryStreams

/-- What a stream tells callers that come too late, if it finishes now. -/
def Stream.lateAnswer (s : Stream) : Error :=
  if s.parentCanceled then .canceled else .streamRestarting

namespace Pool

/-- The writer of a stream has taken the item of a caller. -/
def TakenUp (p : Pool) (caller : Nat) : Prop :=
  ∃ (stream : Nat) (s : Stream), p.streams[stream]? = some s ∧
    caller ∈ (Event.takenItems s.history).map Item.ticket

/-- A caller had not looked since it waited for room when its stream had finished. -/
def Overlooked (p : Pool) (caller stream : Nat) : Prop :=
  ∃ q d s bound, Leads q p ∧ q.callers[caller]? = some d ∧ d.phase = .queued stream bound ∧
    q.streams[stream]? = some s ∧ s.cause.isSome = true

/-- A stream is done, tells callers this error, and has not taken the item of a caller. -/
def Misses (p : Pool) (stream caller : Nat) (cause : Error) : Prop :=
  ∃ s, p.streams[stream]? = some s ∧ s.run = .done ∧ s.cause = some cause ∧
    caller ∉ (Event.takenItems s.history).map Item.ticket

/-- A caller is bound for a stream, or has returned: with this error, unless its context has ended or its
credentials fail. -/
def TurnsBack (p : Pool) (stream caller : Nat) (cause : Error) (c : Caller) : Prop :=
  BoundFor stream c ∨ ∃ result, c.phase = .done result ∧
    (result = .error cause ∨ (∃ reason, c.Ends p.now reason) ∨ p.FailsCredentials caller)

variable {p q r : Pool} {caller stream other : Nat} {c d : Caller} {s t : Stream} {cause : Error}

/-! ### Polling -/

/-- A caller changes nothing about itself but how far it has come. -/
theorem Acts.own (acts : Acts p caller c q) (isCaller : p.callers[caller]? = some c) :
    q.now = p.now ∧ ∃ phase, q.callers[caller]? = some { c with phase := phase } := by
  cases acts with
  | moves | returns | takes | hands | withdraws => exact ⟨rfl, _, setPhase_self rfl isCaller⟩

theorem next?_caller (moves : system.next? p (.caller caller) = some q) :
    ∃ action : Action, action.caller? = some caller ∧ p.perform action = some q := by
  obtain ⟨action, isMove, made⟩ := List.exists_of_findSome?_eq_some moves
  refine ⟨action, ?_, made⟩
  have isMove : action ∈ p.movesOf (.caller caller) := isMove
  simp only [movesOf, List.mem_cons, List.not_mem_nil, or_false] at isMove
  obtain rfl | rfl | rfl | rfl | rfl | rfl | rfl | rfl | rfl | rfl := isMove <;> rfl

theorem Action.permits_of_caller {action : Action} (own : action.caller? = some caller) (p : Pool) :
    p.permits action = true := by
  cases action <;> first | rfl | cases own

/-- To poll a caller is to run the pool; nothing changes about the caller but how far it has come. -/
theorem Polled.own (polled : Polled caller p q) (isCaller : p.callers[caller]? = some c) :
    Leads p q ∧ q.now = p.now ∧ ∃ phase, q.callers[caller]? = some { c with phase := phase } := by
  induction polled generalizing c with
  | rests => exact ⟨Leads.refl _, rfl, c.phase, isCaller⟩
  | goes moves more ih =>
    obtain ⟨action, own, made⟩ := next?_caller moves
    obtain ⟨c', isCaller', acts⟩ := perform_acts own made
    obtain rfl := Option.some.inj (isCaller.symm.trans isCaller')
    obtain ⟨now, phase, isNext⟩ := acts.own isCaller
    obtain ⟨leads, now', later⟩ := ih isNext
    exact ⟨.head (Action.permits_of_caller own _) made leads, now'.trans now, later⟩

/-! ### The step by which a stream is done -/

theorem finish_cases (sound : Sound p) (isStream : p.streams[stream]? = some s)
    (finishes : p.perform (.stream stream .finish) = some q) :
    ∃ t, q.streams[stream]? = some t ∧ t.run = .done ∧ t.cause = some s.lateAnswer ∧
      Stream.Idles s t := by
  have coherent := (sound.healthy stream s isStream).coherent
  cases perform_turn finishes with
  | acts own => cases own
  | @moved _ _ _ next events _ isStream' step =>
    obtain rfl := Option.some.inj (isStream.symm.trans isStream')
    have after := afterMove_streams p stream next events
    have isDone : (p.afterMove stream next events).streams[stream]? = some (next.record events) :=
      (congrArg (·[stream]?) after).trans (getElem?_set_self isStream)
    cases step with
    | openingCanceled early => simp at early
    | finished finishing =>
      have made : Stream.Step s (.move .finish p.surroundings) _ _ := .finished finishing
      have untold : s.cause = none := by
        have undone : s.cause.isSome ≠ true := by simp [coherent.told, finishing]
        simpa using undone
      refine ⟨_, isDone, rfl, ?_, made.idles (coherent.late (.inr (.inl finishing)))⟩
      change some s.finalCause = _
      rw [Stream.finalCause, untold]
      rfl

/-! ### Callers whose items were taken -/

theorem Sound.takenUp_of_registered (sound : Sound p) (registered : Registered p caller) :
    TakenUp p caller := by
  obtain ⟨stream, s, id, isStream, registered⟩ := registered
  exact ⟨stream, s, isStream, (sound.healthy stream s isStream).mem_taken_of_registered registered⟩

theorem mem_ticketsOf_of_taken (isStream : p.streams[stream]? = some s)
    (taken : caller ∈ (Event.takenItems s.history).map Item.ticket) :
    caller ∈ p.ticketsOf stream := by
  rw [ticketsOf_eq isStream, Stream.tickets_eq]
  exact List.mem_append_left _ taken

theorem Sound.untold_of_missed (sound : Sound p) (isCaller : p.callers[caller]? = some c)
    (waits : c.phase.WaitsWith stream) (misses : Misses p stream caller cause) : c.reply = none := by
  obtain ⟨s, isStream, -, -, untaken⟩ := misses
  by_contra told
  obtain ⟨reply, told⟩ := Option.ne_none_iff_exists'.mp told
  obtain ⟨other, isAnswer⟩ := (sound.told caller c reply isCaller).mp told
  have isTicket := sound.healthy.mem_ticketsOf isAnswer
  have isWith := sound.placed.present caller c stream isCaller waits
  obtain rfl := sound.placed.lone other stream caller isTicket isWith
  rw [answersOf_eq isStream] at isAnswer
  exact untaken ((sound.healthy other s isStream).mem_taken_of_answer isAnswer)

/-! ### Callers that come too late -/

theorem BoundFor.eq (bound : BoundFor stream c)
    (there : (∃ eager metadata, c.phase = .submitting other eager metadata) ∨
      c.phase.WaitsWith other) : other = stream := by
  obtain ⟨-, phase | ⟨ready, phase⟩⟩ | ⟨eager, metadata, phase⟩ | waits := bound
  · simp [phase, CallPhase.WaitsWith] at there
  · simp [phase, CallPhase.WaitsWith] at there
  · simpa [phase, CallPhase.WaitsWith, eq_comm] using there
  · cases phase : c.phase <;> simp_all [CallPhase.WaitsWith]

theorem BoundFor.target_of_coming (bound : BoundFor stream c)
    (coming : c.phase = .arriving ∨ ∃ ready, c.phase = .fetching ready) : c.target = some stream := by
  obtain ⟨target, -⟩ | ⟨eager, metadata, phase⟩ | waits := bound
  · exact target
  · simp [phase] at coming
  · obtain phase | ⟨ready, phase⟩ := coming
    · rw [phase] at waits
      cases waits
    · rw [phase] at waits
      cases waits

theorem Departing.coming (departing : Departing p c) :
    c.phase = .arriving ∨ ∃ ready, c.phase = .fetching ready :=
  departing.imp_left And.left

theorem Looking.not_bound (looking : Looking c) : ¬ BoundFor stream c := by
  obtain ⟨metadata, phase | phase⟩ := looking
  · simp [BoundFor, phase, CallPhase.WaitsWith]
  · simp [BoundFor, phase, CallPhase.WaitsWith]

theorem BoundFor.congr (bound : BoundFor stream c) (target : d.target = c.target)
    (phase : d.phase = c.phase) : BoundFor stream d := by
  unfold BoundFor
  rw [target, phase]
  exact bound

/-- Where a caller goes that is bound for a stream which is done and has not taken its item. -/
theorem Goes.turnsBack {phase : CallPhase} (goes : Goes p q caller c phase)
    (bound : BoundFor stream c) (isStream : p.streams[stream]? = some s)
    (told : s.cause = some cause) (untold : c.phase.WaitsWith stream → c.reply = none) :
    TurnsBack p stream caller cause { c with phase := phase } := by
  have ended {reason : Error} (ends : c.Ends p.now reason) :
      TurnsBack p stream caller cause { c with phase := .done (.error reason) } :=
    .inr ⟨_, rfl, .inr (.inl ⟨reason, ends⟩)⟩
  have answered {other : Nat} {u : Stream} {error : Error} (same : other = stream)
      (isOther : p.streams[other]? = some u) (known : u.cause = some error) : error = cause := by
    subst same
    obtain rfl := Option.some.inj (isStream.symm.trans isOther)
    exact Option.some.inj (known.symm.trans told)
  have refused {other : Nat} {u : Stream} {error : Error} (same : other = stream)
      (isOther : p.streams[other]? = some u) (known : u.cause = some error) :
      TurnsBack p stream caller cause { c with phase := .done (.error error) } :=
    .inr ⟨_, rfl, .inl (by rw [answered same isOther known])⟩
  have open' {other : Nat} {u : Stream} (same : other = stream) (isOther : p.streams[other]? = some u)
      (unknown : u.cause = none) : False := by
    subst same
    obtain rfl := Option.some.inj (isStream.symm.trans isOther)
    rw [told] at unknown
    cases unknown
  cases goes with
  | stays => exact .inl bound
  | moves moves =>
    cases moves with
    | fetches arriving =>
      exact .inl (.inl ⟨bound.target_of_coming (.inl arriving), .inr ⟨_, rfl⟩⟩)
    | @heads other metadata departing target =>
      obtain rfl : other = stream :=
        Option.some.inj (target.symm.trans (bound.target_of_coming departing.coming))
      exact .inl (.inr (.inl ⟨true, metadata, rfl⟩))
    | looks departing free =>
      rw [bound.target_of_coming departing.coming] at free
      cases free
    | waits looking => exact absurd bound looking.not_bound
    | accepted queued isOther _ unknown =>
      exact (open' (bound.eq (.inr (by rw [queued]; rfl))) isOther unknown).elim
    | returns returns =>
      cases returns with
      | overdue arriving free =>
        rw [bound.target_of_coming (.inl arriving)] at free
        cases free
      | uncredentialed _ equipped fails => exact .inr ⟨_, rfl, .inr (.inr ⟨_, _, equipped, fails⟩)⟩
      | ended _ past | left _ _ past => exact ended past
      | gaveUp seeking => exact absurd bound (Looking.not_bound ⟨_, .inr seeking⟩)
      | refused submitting isOther known =>
        exact refused (bound.eq (.inl ⟨_, _, submitting⟩)) isOther known
      | abandoned awaiting _ _ isOther known =>
        exact refused (bound.eq (.inr (by rw [awaiting]; rfl))) isOther known
      | replied awaiting told =>
        obtain rfl := bound.eq (.inr (by rw [awaiting]; rfl))
        rw [untold (by rw [awaiting]; rfl)] at told
        cases told
      | shutDown looking | downgraded looking => exact absurd bound looking.not_bound
  | takes looking => exact absurd bound looking.not_bound
  | hands submitting isOther _ unknown =>
    exact (open' (bound.eq (.inl ⟨_, _, submitting⟩)) isOther unknown).elim
  | withdraws queued isOther reason =>
    obtain ⟨-, past⟩ | ⟨-, known⟩ := reason
    · exact ended past
    · exact refused (bound.eq (.inr (by rw [queued]; rfl))) isOther known

theorem TurnsBack.lasts (back : TurnsBack p stream caller cause c) (phase : d.phase = c.phase)
    (target : d.target = c.target)
    (ended : (∃ reason, c.Ends p.now reason) → ∃ reason, d.Ends q.now reason)
    (setup : q.setup = p.setup) : TurnsBack q stream caller cause d := by
  obtain bound | ⟨result, done, excuse⟩ := back
  · exact .inl (bound.congr target phase)
  · refine .inr ⟨result, phase.trans done, excuse.imp_right fun excuse => ?_⟩
    unfold FailsCredentials at excuse ⊢
    rw [setup]
    exact excuse.imp_left ended

theorem Change.turnsBack (change : Change p q) (sound : Sound p) (misses : Misses p stream caller cause)
    (isCaller : p.callers[caller]? = some c) (back : TurnsBack p stream caller cause c) :
    ∃ d, q.callers[caller]? = some d ∧ TurnsBack q stream caller cause d := by
  obtain ⟨d, isNext, kept, goes⟩ := change.goes isCaller
  refine ⟨d, isNext, ?_⟩
  have went : TurnsBack p stream caller cause { c with phase := d.phase } := by
    obtain bound | ⟨result, done, excuse⟩ := back
    · have untold (waits : c.phase.WaitsWith stream) := sound.untold_of_missed isCaller waits misses
      obtain ⟨s, isStream, -, told, -⟩ := misses
      exact goes.turnsBack bound isStream told untold
    · exact .inr ⟨result, goes.of_done done, excuse⟩
  exact went.lasts rfl kept.target (Exists.imp fun _ => kept.ends change.now_le) change.setup

theorem Change.alone (change : Change p q) (sound : Sound p) (isCaller : p.callers[caller]? = some c)
    (back : TurnsBack p stream caller cause c)
    (alone : ∀ other, caller ∈ p.ticketsOf other → other = stream) :
    ∀ other, caller ∈ q.ticketsOf other → other = stream := by
  intro other isTicket
  obtain earlier | ⟨c', eager, metadata, isCaller', submitting, -⟩ :=
    change.mem_ticketsOf sound.healthy isTicket
  · exact alone other earlier
  · obtain rfl := Option.some.inj (isCaller.symm.trans isCaller')
    obtain bound | ⟨result, done, -⟩ := back
    · exact bound.eq (.inl ⟨eager, metadata, submitting⟩)
    · rw [done] at submitting
      cases submitting

theorem Misses.stays (misses : Misses p stream caller cause) (sound : Sound p)
    (stays : ∀ s, p.streams[stream]? = some s → ∃ t, q.streams[stream]? = some t ∧ Stream.Stays s t) :
    Misses q stream caller cause := by
  obtain ⟨s, isStream, done, told, untaken⟩ := misses
  obtain ⟨t, isNext, stays⟩ := stays s isStream
  have streamSound := sound.healthy stream s isStream
  obtain ⟨done', -, cause', -⟩ := stays.becomes.rests streamSound done
  refine ⟨t, isNext, done', cause'.trans told, ?_⟩
  rw [(stays.becomes.idles streamSound (.inr done)).taken]
  exact untaken

/-- What holds along a run of a caller that is bound for a stream which is done and has not taken its
item. -/
structure Belated (p : Pool) (stream caller : Nat) (cause : Error) : Prop where
  sound : Sound p
  misses : Misses p stream caller cause
  back : ∃ c, p.callers[caller]? = some c ∧ TurnsBack p stream caller cause c
  alone : ∀ other, caller ∈ p.ticketsOf other → other = stream

theorem Belated.leads (belated : Belated p stream caller cause) (leads : Leads p q) :
    Belated q stream caller cause := by
  refine leads.keeps (P := fun q => Belated q stream caller cause) ?_ ?_ belated
  · intro p q ⟨sound, misses, ⟨c, isCaller, back⟩, alone⟩ change
    exact ⟨change.sound sound, misses.stays sound fun s => change.stays,
      change.turnsBack sound misses isCaller back, change.alone sound isCaller back alone⟩
  · intro p q ⟨sound, misses, ⟨c, isCaller, back⟩, alone⟩ trails
    refine ⟨trails.sound sound, misses.stays sound fun s => trails.stays, ⟨c, ?_, ?_⟩, ?_⟩
    · rw [trails.callers]
      exact isCaller
    · exact back.lasts rfl rfl (by rw [trails.now]; exact id) trails.setup
    · intro other
      rw [ticketsOf, trails.itemsOf_eq]
      exact alone other

theorem BoundFor.belated (bound : BoundFor stream c) (sound : Sound p)
    (isCaller : p.callers[caller]? = some c) (misses : Misses p stream caller cause) :
    Belated p stream caller cause := by
  refine ⟨sound, misses, ⟨c, isCaller, .inl bound⟩, fun other isTicket => ?_⟩
  by_contra differ
  have apart : ¬ c.phase.IsWith other := by
    intro isWith
    obtain ⟨-, phase | ⟨ready, phase⟩⟩ | ⟨eager, metadata, phase⟩ | waits := bound
    · simp [phase, CallPhase.IsWith] at isWith
    · simp [phase, CallPhase.IsWith] at isWith
    · simp [phase, CallPhase.IsWith] at isWith
    · cases phase : c.phase <;> simp_all [CallPhase.WaitsWith, CallPhase.IsWith]
  exact sound.placed.absent isCaller apart isTicket

theorem Belated.not_takenUp (belated : Belated p stream caller cause) : ¬ TakenUp p caller := by
  rintro ⟨other, s, isStream, taken⟩
  obtain rfl := belated.alone other (mem_ticketsOf_of_taken isStream taken)
  obtain ⟨t, isStream', -, -, untaken⟩ := belated.misses
  obtain rfl := Option.some.inj (isStream.symm.trans isStream')
  exact untaken taken

/-- A caller whose context is live and whose credentials work learns the error, if anything. -/
theorem TurnsBack.told (back : TurnsBack p stream caller cause c) (live : c.IsLive p.now)
    (works : ¬ p.FailsCredentials caller) :
    BoundFor stream c ∨ c.phase = .done (.error cause) := by
  refine back.imp_right fun ⟨result, done, excuse⟩ => ?_
  obtain rfl | ⟨reason, ends⟩ | fails := excuse
  · exact done
  · exact absurd ends (live reason)
  · exact absurd fails works

/-- A caller that is bound for a stream which is done and has not taken its item gets the error of the
stream when it is polled. -/
theorem BoundFor.finishesWith (bound : BoundFor stream c) (reachable : Reachable p)
    (isCaller : p.callers[caller]? = some c) (misses : Misses p stream caller cause)
    (live : c.IsLive p.now) (works : ¬ p.FailsCredentials caller)
    (there : ¬ AwaitsCredentials p caller c) : FinishesWith caller (.error cause) p := by
  have belated := bound.belated reachable.sound isCaller misses
  obtain ⟨s, isStream, -, told, -⟩ := misses
  have equipped (ready : Nat) := reachable.equipped caller c ready isCaller
  obtain ⟨q, d, result, polled, isDone, done⟩ :=
    (bound.finishes_iff isStream told isCaller equipped).mpr there
  obtain ⟨leads, now, phase, isOwn⟩ := polled.own isCaller
  obtain rfl := Option.some.inj (isOwn.symm.trans isDone)
  obtain ⟨d, isDone', back⟩ := (belated.leads leads).back
  obtain rfl := Option.some.inj (isOwn.symm.trans isDone')
  have live : Caller.IsLive { c with phase := phase } q.now := by
    rw [now]
    exact live
  have works : ¬ q.FailsCredentials caller := by
    rw [FailsCredentials, leads.setup]
    exact works
  obtain bound | told := back.told live works
  · have waiting : phase = .done result := done
    subst waiting
    simp [BoundFor, CallPhase.WaitsWith] at bound
  · exact ⟨q, _, polled, isDone, told⟩

/-! ### Callers that were told something -/

/-- A stream has told a caller one thing. The caller waits with the stream or has returned; it returns with
what it was told when it is polled, unless it still waited for room when its context ended or the stream
finished, and if it has returned then with that, unless it is exempt. -/
def Learns (p : Pool) (stream caller : Nat) (reply : Except Error Unit) : Prop :=
  ∃ s c, p.streams[stream]? = some s ∧
    (Event.answers s.history).filter (·.1 = caller) = [(caller, reply)] ∧
    p.callers[caller]? = some c ∧ c.phase.IsWith stream ∧ c.reply = some reply ∧
    (c.phase = .awaiting stream → FinishesWith caller (reply.map fun _ => true) p) ∧
    (∀ bound, c.phase = .queued stream bound → (bound = true → c.IsLive p.now) →
      s.cause = none → FinishesWith caller (reply.map fun _ => true) p) ∧
    ∀ result, c.phase = .done result → result = reply.map (fun _ => true) ∨
      ∃ error, result = .error error ∧ Exempt p caller stream error

/-- Whoever was told something learns it. -/
theorem Reachable.learns {reply : Except Error Unit} (reachable : Reachable p)
    (isStream : p.streams[stream]? = some s) (isAnswer : (caller, reply) ∈ Event.answers s.history) :
    Learns p stream caller reply := by
  have sound := reachable.sound
  have streamSound := sound.healthy stream s isStream
  have once := sound.placed.once stream
  rw [ticketsOf_eq isStream] at once
  obtain ⟨item, isItem, same⟩ := List.mem_map.mp (streamSound.mem_tickets_of_answer isAnswer)
  rw [← itemsOf_eq isStream] at isItem
  obtain ⟨c, isCaller, -, isWith⟩ := sound.placed.owned stream item isItem
  rw [same] at isCaller
  have told : c.reply = some reply :=
    (sound.told caller c _ isCaller).mpr ⟨stream, by rwa [answersOf_eq isStream]⟩
  refine ⟨s, c, isStream, Stream.filter_eq_singleton (streamSound.answers_nodup once) isAnswer,
    isCaller, isWith, told, fun awaiting => ?_, fun bound queued live untold => ?_,
    fun result done => reachable.returns_reply isStream isAnswer isCaller told done⟩
  · exact finishesWith_finish rfl isCaller (next?_told isStream isCaller awaiting told)
  · have moves := next?_moved isStream isCaller queued live untold
      (streamSound.ne_of_answer once isAnswer)
    have isMoved : (p.setPhase caller (.awaiting stream)).callers[caller]? =
        some { c with phase := .awaiting stream } := setPhase_self rfl isCaller
    exact .of_next moves (finishesWith_finish rfl isMoved (next?_told isStream isMoved rfl told))

/-- An acknowledgment that waits for a batch in flight when the writer has ended reaches its
caller. -/
theorem Reachable.learns_at_rest {ack : Acknowledgment} {ticket : Nat} (reachable : Reachable p)
    (isStream : p.streams[stream]? = some s) (ended : s.writer.HasEnded) (awaits : s.Awaits ack ticket)
    (leads : Leads p q) (isStream' : q.streams[stream]? = some t) (read : t.run ≠ .reading)
    (harmless : Ledger.all (Ledger.isHarmless (ack.id, ticket)) {} t.history) :
    Learns q stream ticket ack.verdict.1 := by
  obtain ⟨t', isStream'', becomes⟩ := leads.becomes isStream
  obtain rfl := Option.some.inj (isStream'.symm.trans isStream'')
  have sound := reachable.sound.healthy stream s isStream
  exact (reachable.leads leads).learns isStream'
    (becomes.answered_at_rest sound ended awaits read harmless)

/-! ### Callers whose batches were registered -/

theorem cause_lasts (becomes : Stream.Becomes s t) (told : s.cause = some cause) :
    t.cause = some cause := by
  induction becomes with
  | refl => exact told
  | step _ step ih =>
    cases step with
    | finished =>
      change some (Stream.finalCause _) = some cause
      rw [Stream.finalCause, ih]
      rfl
    | _ => exact ih

/-- A caller that has returned with something else than what it was told, though its context is live, was
overlooked. -/
theorem Exempt.overlooked {error : Error} (exempt : Exempt p caller stream error)
    (isStream : p.streams[stream]? = some s) (told : s.cause = some cause)
    (isCaller : p.callers[caller]? = some c) (live : c.IsLive p.now) :
    error = cause ∧ Overlooked p caller stream := by
  have alive {q : Pool} {d : Caller} {reason : Error} (leads : Leads q p)
      (isEarlier : q.callers[caller]? = some d) (ends : d.Ends q.now reason) : False := by
    obtain ⟨c', isCaller', kept, order⟩ := leads.kept isEarlier
    obtain rfl := Option.some.inj (isCaller.symm.trans isCaller')
    exact kept.isLive order live reason ends
  cases exempt with
  | left leads isEarlier _ ended => exact (alive leads isEarlier ended).elim
  | @queued q d u bound _ leads isEarlier queued isStream' reason =>
    obtain ⟨-, ended⟩ | known := reason
    · exact (alive leads isEarlier ended).elim
    · obtain ⟨t, isStream'', becomes⟩ := leads.becomes isStream'
      obtain rfl := Option.some.inj (isStream.symm.trans isStream'')
      have same := (cause_lasts becomes known).symm.trans told
      exact ⟨Option.some.inj same, q, d, u, bound, leads, isEarlier, queued, isStream', by simp [known]⟩

/-- A stream that is done has told each registered caller its acknowledgment, or else that it restarts. -/
theorem Reachable.registered_learns (reachable : Reachable p) (isStream : p.streams[stream]? = some s)
    (done : s.run = .done) {id : Int64} (registered : (id, caller) ∈ Event.registrations s.history) :
    (∃ ack, (caller, .settled ack) ∈ s.ledger.fates ∧ Learns p stream caller ack.verdict.1) ∨
      Learns p stream caller (.error .streamRestarting) := by
  have sound := reachable.sound
  have streamSound := sound.healthy stream s isStream
  have once := sound.placed.once stream
  rw [ticketsOf_eq isStream] at once
  obtain ⟨fate, departs, fates, answers⟩ := streamSound.registered_once once done registered
  have isFate : (caller, fate) ∈ s.ledger.fates :=
    List.mem_of_mem_filter (fates ▸ List.mem_singleton_self _)
  have learns : Learns p stream caller fate.result :=
    reachable.learns isStream (List.mem_of_mem_filter (answers ▸ List.mem_singleton_self _))
  cases fate with
  | refused => cases departs
  | settled ack => exact .inl ⟨ack, isFate, learns⟩
  | displaced | released => exact .inr learns

/-- When a stream is done, a caller whose batch was registered and not acknowledged has been told that the
stream restarts, and returns with that unless it was overlooked. -/
theorem Reachable.restarted (reachable : Reachable p) (isStream : p.streams[stream]? = some s)
    (done : s.run = .done) (told : s.cause = some cause) (isCaller : p.callers[caller]? = some c)
    {id : Int64} (registered : (id, caller) ∈ Event.registrations s.history)
    (unacknowledged : ∀ ack, (caller, .settled ack) ∉ s.ledger.fates)
    (live : c.IsLive p.now) :
    c.phase.IsWith stream ∧ c.reply = some (.error .streamRestarting) ∧
      (c.phase = .awaiting stream → FinishesWith caller (.error .streamRestarting) p) ∧
      ∀ result, c.phase = .done result → result = .error .streamRestarting ∨
        result = .error cause ∧ Overlooked p caller stream := by
  obtain ⟨ack, settled, -⟩ | learns := reachable.registered_learns isStream done registered
  · exact absurd settled (unacknowledged ack)
  obtain ⟨-, c', -, -, isCaller', isWith, reply, waits, -, returns⟩ := learns
  obtain rfl := Option.some.inj (isCaller.symm.trans isCaller')
  refine ⟨isWith, reply, waits, fun result returned => ?_⟩
  obtain same | ⟨error, rfl, exempt⟩ := returns result returned
  · exact .inl same
  · obtain ⟨rfl, overlooked⟩ := exempt.overlooked isStream told isCaller live
    exact .inr ⟨rfl, overlooked⟩

/-! ### What callers learn -/

/-- When a stream has finished, a caller whose context is live learns what its progress deserves. If its
batch was registered and not acknowledged, it is told that the stream restarts, whoever asked for the end,
and returns with that unless it was overlooked. If its item was not taken, or it comes later, then it
returns, as soon as its credentials have come, with the one error that all such callers get, whenever they
come: that the stream was canceled, exactly if the end was asked for when the stream finished, or else
that it restarts. The codec is not called for it, and nothing is registered or sent. -/
theorem end_tells_progress (reachable : Reachable p) (isStream : p.streams[stream]? = some s)
    (finishes : p.perform (.stream stream .finish) = some q) (leads : Leads q r)
    (isCaller : r.callers[caller]? = some c) (works : ¬ r.FailsCredentials caller) :
    ∃ t, r.streams[stream]? = some t ∧ t.run = .done ∧ Stream.Idles s t ∧
    (∀ id, (id, caller) ∈ Event.registrations t.history →
      (∀ ack, (caller, .settled ack) ∉ t.ledger.fates) → c.IsLive r.now →
      c.phase.IsWith stream ∧ c.reply = some (.error .streamRestarting) ∧
      (c.phase = .awaiting stream → FinishesWith caller (.error .streamRestarting) r) ∧
      ∀ result, c.phase = .done result → result = .error .streamRestarting ∨
        result = .error s.lateAnswer ∧ Overlooked r caller stream) ∧
    (BoundFor stream c → caller ∉ (Event.takenItems t.history).map Item.ticket →
      (c.IsLive r.now → ¬ AwaitsCredentials r caller c →
        FinishesWith caller (.error s.lateAnswer) r) ∧
      ∀ u, Leads r u → ¬ TakenUp u caller ∧ ¬ Registered u caller ∧ u.sendsFor caller = [] ∧
        ∃ d, u.callers[caller]? = some d ∧ (d.IsLive u.now →
          BoundFor stream d ∨ d.phase = .done (.error s.lateAnswer))) := by
  obtain ⟨u, isDone, done, told, idles⟩ := finish_cases reachable.sound isStream finishes
  have reached : Reachable q := reachable.leads (.head (by rfl) finishes (Leads.refl q))
  have sound := reached.sound.healthy stream u isDone
  obtain ⟨t, isStream', becomes⟩ := leads.becomes isDone
  obtain ⟨done', -, cause, -⟩ := becomes.rests sound done
  have told' := cause.trans told
  have reached' := reached.leads leads
  refine ⟨t, isStream', done', idles.trans (becomes.idles sound (.inr done)), ?_, ?_⟩
  · intro id registered unacknowledged live
    exact reached'.restarted isStream' done' told' isCaller registered unacknowledged live
  · intro bound untaken
    have misses : Misses r stream caller s.lateAnswer := ⟨t, isStream', done', told', untaken⟩
    refine ⟨fun live there => bound.finishesWith reached' isCaller misses live works there, ?_⟩
    intro v later
    have belated := (bound.belated reached'.sound isCaller misses).leads later
    have untaken := belated.not_takenUp
    have unregistered : ¬ Registered v caller := fun registered =>
      untaken (belated.sound.takenUp_of_registered registered)
    obtain ⟨d, isCaller', back⟩ := belated.back
    refine ⟨untaken, unregistered, belated.sound.sendsFor_of_unregistered unregistered, d,
      isCaller', fun live => back.told live ?_⟩
    rw [FailsCredentials, later.setup]
    exact works

/-- A stream reaches its lifetime with one batch in flight and one item in its queue, and then the end is
asked for. -/
def expiringRun : List Action :=
  [.run 0, .stream 0 .establish, .stream 0 .offer,
    .arrive {} (.traces []) (some 0), .enter 0, .submit 0 false,
    .stream 0 .take, .stream 0 .encode, .stream 0 .send, .stream 0 .offer,
    .arrive {} (.logs []) (some 0), .enter 1, .submit 1 false, .advance 1000000000, .stream 0 .expire,
    .cancel, .stream 0 .receive, .stream 0 .join, .stream 0 .sweep]

/-- A pool of one stream that works for a second. -/
def shortLived : Pool := single { lifetime := .ofParts 1 0 } []

/-- Of three callers one has a batch in flight when a stream finishes, one has its item in the queue, and
one comes later. -/
theorem end_tells_progress_expiring :
    ∃ p q r, shortLived.follow expiringRun = some p ∧ p.perform (.stream 0 .finish) = some q ∧
      q.follow [.arrive {} (.metrics []) (some 0)] = some r ∧
      FinishesWith 0 (.error .streamRestarting) r ∧ FinishesWith 1 (.error .canceled) r ∧
      FinishesWith 2 (.error .canceled) r ∧ r.sendsFor 1 = [] := by
  have facts : ((shortLived.follow expiringRun).bind fun p => p.streams[0]?.bind fun s =>
      (p.perform (.stream 0 .finish)).bind fun q =>
      (q.follow [.arrive {} (.metrics []) (some 0)]).bind fun r => r.streams[0]?.map fun t =>
        (s.parentCanceled, decide (Event.registrations t.history = [(1, 0)]),
          decide (t.ledger.fates.map (fun row => (row.1, row.2.result)) =
            [(0, .error .streamRestarting)]),
          (Event.takenItems t.history).map Item.ticket, r.setup.credentials)) =
      some (true, true, true, [0], none) := by decide +kernel
  have callers : ((shortLived.follow expiringRun).bind fun p =>
      (p.perform (.stream 0 .finish)).bind fun q =>
      (q.follow [.arrive {} (.metrics []) (some 0)]).bind fun r => r.callers[0]?.bind fun a =>
      r.callers[1]?.bind fun b => r.callers[2]?.map fun c =>
        ([a.phase, b.phase, c.phase], [a, b, c].map Caller.canceled, [a, b, c].map Caller.deadline,
          c.target)) =
      some ([.awaiting 0, .awaiting 0, .arriving], [false, false, false], [none, none, none],
        some 0) := by decide +kernel
  obtain ⟨p, follows, facts⟩ := Option.bind_eq_some_iff.mp facts
  obtain ⟨s, isStream, facts⟩ := Option.bind_eq_some_iff.mp facts
  obtain ⟨q, finishes, facts⟩ := Option.bind_eq_some_iff.mp facts
  obtain ⟨r, later, facts⟩ := Option.bind_eq_some_iff.mp facts
  obtain ⟨t, isDone, facts⟩ := Option.map_eq_some_iff.mp facts
  rw [follows, Option.bind_some, finishes, Option.bind_some, later, Option.bind_some] at callers
  obtain ⟨a, isFirst, callers⟩ := Option.bind_eq_some_iff.mp callers
  obtain ⟨b, isSecond, callers⟩ := Option.bind_eq_some_iff.mp callers
  obtain ⟨c, isThird, callers⟩ := Option.map_eq_some_iff.mp callers
  simp only [Prod.mk.injEq, decide_eq_true_eq, List.cons.injEq, and_true, List.map_cons,
    List.map_nil] at facts callers
  obtain ⟨asked, registered, fates, taken, unequipped⟩ := facts
  obtain ⟨⟨flying, queued, arriving⟩, ⟨free, free', free''⟩, ⟨endless, endless', endless''⟩,
    target⟩ := callers
  have reachable : Reachable p := ⟨_, .single _ _, _, follows⟩
  have leads : Leads q r := ⟨_, later⟩
  have works (caller : Nat) : ¬ r.FailsCredentials caller := by simp [FailsCredentials, unequipped]
  have isLive {c : Caller} (alive : c.canceled = false) (unbounded : c.deadline = none) :
      c.IsLive r.now := Caller.isLive_of_not_hasEnded (Caller.not_hasEnded alive unbounded)
  have answer : s.lateAnswer = .canceled := by simp [Stream.lateAnswer, asked]
  have unacknowledged (ack : Acknowledgment) : (0, .settled ack) ∉ t.ledger.fates := by
    intro isFate
    have isRow := List.mem_map_of_mem (f := fun row => (row.1, row.2.result)) isFate
    rw [fates] at isRow
    obtain ⟨-, result⟩ := Prod.mk.inj (List.mem_singleton.mp isRow)
    obtain ⟨status, wrong⟩ := Acknowledgment.exists_status_of_verdict result
    cases wrong
  obtain ⟨t₀, isDone₀, -, -, flies, -⟩ :=
    end_tells_progress reachable isStream finishes leads isFirst (works 0)
  obtain ⟨t₁, isDone₁, -, -, -, waits⟩ :=
    end_tells_progress reachable isStream finishes leads isSecond (works 1)
  obtain ⟨t₂, isDone₂, -, -, -, comes⟩ :=
    end_tells_progress reachable isStream finishes leads isThird (works 2)
  obtain rfl := Option.some.inj (isDone.symm.trans isDone₀)
  obtain rfl := Option.some.inj (isDone.symm.trans isDone₁)
  obtain rfl := Option.some.inj (isDone.symm.trans isDone₂)
  rw [answer] at waits comes
  have restarts := (flies 1 (by rw [registered]; exact List.mem_cons_self) unacknowledged
    (isLive free endless)).2.2.1
  have turned := waits (.inr (.inr (by rw [queued]; rfl))) (by rw [taken]; decide)
  have late := comes (.inl ⟨target, .inl arriving⟩) (by rw [taken]; decide)
  refine ⟨p, q, r, follows, finishes, later, restarts flying, turned.1 (isLive free' endless') ?_,
    late.1 (isLive free'' endless'') ?_, (turned.2 r (Leads.refl r)).2.2.1⟩
  · simp [AwaitsCredentials, queued]
  · simp [AwaitsCredentials, arriving, unequipped]

/-- Of two batches the first one is acknowledged, and then the pool is canceled. The caller of the second
one does not look before its stream has finished. -/
def overlookedRun : List Action :=
  sentUnseen ++ [.deliver 0 (.acknowledged { id := 1 }), .stream 0 .receive, .cancel, .stream 0 .quit,
    .stream 0 .receive, .stream 0 .join, .stream 0 .sweep, .stream 0 .finish]

/-- A caller with a batch that was registered and not acknowledged returns as if its stream had been
canceled, if it looks too late. -/
theorem end_hides_progress :
    ∃ p q t c, (single {} []).follow overlookedRun = some p ∧
      p.perform (.recheck 1 false) = some q ∧ q.streams[0]? = some t ∧
      Event.registrations t.history = [(1, 0), (2, 1)] ∧
      t.ledger.fates.map (fun row => (row.1, row.2.result)) =
        [(0, .ok ()), (1, .error .streamRestarting)] ∧
      q.callers[1]? = some c ∧ c.canceled = false ∧ c.deadline = none ∧
      c.phase = .done (.error .canceled) := by
  have facts : ((single {} []).follow overlookedRun).bind (fun p => (p.perform (.recheck 1 false)).bind
      fun q => q.streams[0]?.bind fun t => q.callers[1]?.map fun c =>
        (decide (Event.registrations t.history = [(1, 0), (2, 1)]),
          decide (t.ledger.fates.map (fun row => (row.1, row.2.result)) =
            [(0, .ok ()), (1, .error .streamRestarting)]),
          c.canceled, c.deadline, c.phase)) =
      some (true, true, false, none, .done (.error .canceled)) := by decide +kernel
  obtain ⟨p, follows, facts⟩ := Option.bind_eq_some_iff.mp facts
  obtain ⟨q, looks, facts⟩ := Option.bind_eq_some_iff.mp facts
  obtain ⟨t, isStream, facts⟩ := Option.bind_eq_some_iff.mp facts
  obtain ⟨c, isCaller, facts⟩ := Option.map_eq_some_iff.mp facts
  simp only [Prod.mk.injEq, decide_eq_true_eq] at facts
  obtain ⟨registered, fates, alive, unbounded, returned⟩ := facts
  exact ⟨p, q, t, c, follows, looks, isStream, registered, fates, isCaller, alive, unbounded, returned⟩

end Pool

end TelemetryStreams
