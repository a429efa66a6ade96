import TelemetryStreams.Pool.Settle
import TelemetryStreams.Proofs.Pool.Tickets

/-!
# Nobody is left behind

To poll a caller is to let it move until it cannot (`Polled`). A caller that is bound for a stream
which is done, however far it has come, has its result after it has been polled, unless it still
waits for its credentials. This and the count of its registered callers is what the end of a stream
comes to (`end_releases_callers`).
-/
namespace TelemetryStreams.Pool

variable {p q r : Pool} {caller stream : Nat} {c d : Caller} {s : Stream}

/-- A caller moves until it cannot. -/
inductive Polled (caller : Nat) : Pool → Pool → Prop
  | rests {p : Pool} (stuck : system.next? p (.caller caller) = none) : Polled caller p p
  | goes {p q r : Pool} (moves : system.next? p (.caller caller) = some q) (more : Polled caller q r) :
      Polled caller p r

/-- There is one outcome of polling a caller. -/
theorem Polled.unique (first : Polled caller p q) (second : Polled caller p r) : q = r := by
  induction first with
  | rests stuck =>
    cases second with
    | rests => rfl
    | goes moves => exact absurd (stuck.symm.trans moves) nofun
  | goes moves more ih =>
    cases second with
    | rests stuck => exact absurd (stuck.symm.trans moves) nofun
    | goes moves' more' =>
      obtain rfl := Option.some.inj (moves.symm.trans moves')
      exact ih more'

/-! ### What a caller tries -/

theorem next?_arriving (isCaller : p.callers[caller]? = some c) (phase : c.phase = .arriving) :
    system.next? p (.caller caller) = p.beginCaller caller := by
  cases begun : p.beginCaller caller <;>
    simp [System.next?, system, movesOf, perform, begun, fetched, submit, recheck, seeker?, collect,
      isCaller, phase]

theorem next?_fetching {ready : Nat} (isCaller : p.callers[caller]? = some c)
    (phase : c.phase = .fetching ready) :
    system.next? p (.caller caller) = p.fetched caller := by
  cases went : p.fetched caller <;>
    simp [System.next?, system, movesOf, perform, went, beginCaller, submit, recheck, seeker?,
      collect, isCaller, phase]

theorem next?_submitting {bound : Bool} {metadata : Option Metadata}
    (isCaller : p.callers[caller]? = some c) (phase : c.phase = .submitting stream bound metadata) :
    system.next? p (.caller caller) = p.submit caller false := by
  cases went : p.submit caller false <;>
    simp [System.next?, system, movesOf, perform, went, beginCaller, fetched, recheck, seeker?,
      collect, isCaller, phase]

theorem next?_queued {bound : Bool} (isCaller : p.callers[caller]? = some c)
    (phase : c.phase = .queued stream bound) :
    system.next? p (.caller caller) = p.recheck caller false := by
  cases went : p.recheck caller false <;>
    simp [System.next?, system, movesOf, perform, went, beginCaller, fetched, submit, seeker?,
      collect, isCaller, phase]

theorem next?_awaiting (isCaller : p.callers[caller]? = some c)
    (phase : c.phase = .awaiting stream) :
    system.next? p (.caller caller) = p.collect caller false := by
  cases went : p.collect caller false <;>
    simp [System.next?, system, movesOf, perform, went, beginCaller, fetched, submit, recheck,
      seeker?, isCaller, phase]

theorem next?_done {result : Except Error Bool} (isCaller : p.callers[caller]? = some c)
    (phase : c.phase = .done result) : system.next? p (.caller caller) = none := by
  simp [System.next?, system, movesOf, perform, beginCaller, fetched, submit, recheck, seeker?,
    collect, isCaller, phase]

/-! ### Callers that fetch credentials -/

/-- The credentials of a caller have yet to come. -/
def AwaitsCredentials (p : Pool) (caller : Nat) (c : Caller) : Prop :=
  (∃ ready, c.phase = .fetching ready ∧ p.now < ready) ∨
    ∃ credentials, p.setup.credentials = some credentials ∧ c.phase = .arriving ∧
      0 < (credentials.fetch caller).delay

theorem next?_early {ready : Nat} (isCaller : p.callers[caller]? = some c)
    (phase : c.phase = .fetching ready) (early : p.now < ready) :
    system.next? p (.caller caller) = none := by
  have notYet : ¬ ready ≤ p.now := Nat.not_le.mpr early
  rw [next?_fetching isCaller phase]
  cases equipped : p.setup.credentials <;> simp [fetched, isCaller, phase, equipped, notYet]

theorem next?_equipped {credentials : Credentials} (isCaller : p.callers[caller]? = some c)
    (phase : c.phase = .arriving) (target : c.target = some stream)
    (equipped : p.setup.credentials = some credentials) :
    system.next? p (.caller caller) =
      some (p.setPhase caller (.fetching (p.now + (credentials.fetch caller).delay))) := by
  rw [next?_arriving isCaller phase]
  simp [beginCaller, isCaller, phase, target, equipped]

/-! ### Callers of a stream that is done -/

theorem finish_callers {r : Pool} (result : Except Error Bool) (callers : r.callers = p.callers)
    (isCaller : p.callers[caller]? = some c) :
    (r.finish caller result).callers[caller]? = some { c with phase := .done result } :=
  setPhase_self callers isCaller

/-- A caller has its result after it has been polled. -/
def Finishes (caller : Nat) (p : Pool) : Prop :=
  ∃ q d result, Polled caller p q ∧ q.callers[caller]? = some d ∧ d.phase = .done result

theorem AwaitsCredentials.not_finishes (awaits : AwaitsCredentials p caller c)
    (isCaller : p.callers[caller]? = some c) (target : c.target = some stream) :
    ¬ Finishes caller p := by
  rintro ⟨q, d, result, polled, isDone, done⟩
  obtain ⟨r, e, ready, polled', isEarly, fetching⟩ : ∃ r e ready, Polled caller p r ∧
      r.callers[caller]? = some e ∧ e.phase = .fetching ready := by
    obtain ⟨ready, phase, early⟩ | ⟨credentials, equipped, phase, slow⟩ := awaits
    · exact ⟨p, c, ready, .rests (next?_early isCaller phase early), isCaller, phase⟩
    · have went := next?_equipped isCaller phase target equipped
      have isFetching : (p.setPhase caller (.fetching (p.now +
          (credentials.fetch caller).delay))).callers[caller]? = some { c with
            phase := .fetching (p.now + (credentials.fetch caller).delay) } :=
        setPhase_self rfl isCaller
      have stuck := next?_early isFetching rfl (Nat.lt_add_of_pos_right slow)
      exact ⟨_, _, _, .goes went (.rests stuck), isFetching, rfl⟩
  -- Polling comes to rest in one state only, and there the caller still fetches.
  obtain rfl := polled.unique polled'
  obtain rfl := Option.some.inj (isDone.symm.trans isEarly)
  rw [done] at fetching
  cases fetching

theorem finishes_finish {r : Pool} {result : Except Error Bool} (callers : r.callers = p.callers)
    (isCaller : p.callers[caller]? = some c)
    (moves : system.next? p (.caller caller) = some (r.finish caller result)) :
    Finishes caller p := by
  have isDone := finish_callers result callers isCaller
  exact ⟨_, _, result, .goes moves (.rests (next?_done isDone rfl)), isDone, rfl⟩

theorem Finishes.of_next (moves : system.next? p (.caller caller) = some q)
    (finishes : Finishes caller q) : Finishes caller p := by
  obtain ⟨r, d, result, polled, isDone⟩ := finishes
  exact ⟨r, d, result, .goes moves polled, isDone⟩

section
variable {cause : Error} (isStream : p.streams[stream]? = some s) (told : s.cause = some cause)
include isStream told

theorem finishes_awaiting (isCaller : p.callers[caller]? = some c)
    (phase : c.phase = .awaiting stream) : Finishes caller p := by
  have moves := next?_awaiting isCaller phase
  have collected : ∃ result, p.collect caller false = some (p.finish caller result) := by
    simp only [collect, isCaller, phase, isStream, told, Option.bind_eq_bind, Option.bind_some]
    split
    · exact ⟨_, rfl⟩
    · exact ⟨_, rfl⟩
    · exact ⟨_, rfl⟩
    · exact ⟨_, rfl⟩
    · simp_all
  obtain ⟨result, collected⟩ := collected
  exact finishes_finish rfl isCaller (moves.trans collected)

theorem finishes_queued {bound : Bool} (isCaller : p.callers[caller]? = some c)
    (phase : c.phase = .queued stream bound) : Finishes caller p := by
  have moves := next?_queued isCaller phase
  have left : ∃ error, p.recheck caller false = some (finish { p with
      streams := p.streams.set stream ((s.leave caller).record []) } caller (.error error)) := by
    simp only [recheck, isCaller, phase, isStream, told, onStream, Stream.step, Option.pure_def,
      Option.bind_eq_bind, Option.bind_some, List.foldl_nil]
    split
    · exact ⟨_, rfl⟩
    · exact ⟨_, rfl⟩
    · simp_all
  obtain ⟨error, left⟩ := left
  have callers : { p with
      streams := p.streams.set stream ((s.leave caller).record []) }.callers = p.callers := rfl
  exact finishes_finish callers isCaller (moves.trans left)

theorem finishes_submitting {bound : Bool} {metadata : Option Metadata}
    (isCaller : p.callers[caller]? = some c) (phase : c.phase = .submitting stream bound metadata) :
    Finishes caller p := by
  have moves := next?_submitting isCaller phase
  have refused : ∃ error, p.submit caller false = some (p.finish caller (.error error)) := by
    simp only [submit, isCaller, phase, isStream, told, Option.bind_eq_bind, Option.bind_some]
    split
    · exact ⟨_, rfl⟩
    · exact ⟨_, rfl⟩
    · simp_all
  obtain ⟨error, refused⟩ := refused
  exact finishes_finish rfl isCaller (moves.trans refused)

theorem finishes_afterCredentials {r : Pool} {metadata : Option Metadata}
    (streams : r.streams = p.streams) (callers : r.callers = p.callers)
    (isCaller : p.callers[caller]? = some c) (target : c.target = some stream) :
    Finishes caller (r.afterCredentials caller c.target metadata) := by
  have goes : r.afterCredentials caller c.target metadata =
      r.setPhase caller (.submitting stream true metadata) := by
    simp [afterCredentials, target]
  rw [goes]
  have isStream' : (r.setPhase caller (.submitting stream true metadata)).streams[stream]? =
      some s := (congrArg (·[stream]?) streams).trans isStream
  exact finishes_submitting isStream' told (setPhase_self callers isCaller) rfl

theorem finishes_fetching {ready : Nat} {credentials : Credentials}
    (isCaller : p.callers[caller]? = some c) (phase : c.phase = .fetching ready)
    (target : c.target = some stream) (equipped : p.setup.credentials = some credentials)
    (due : ready ≤ p.now) : Finishes caller p := by
  have moves := next?_fetching isCaller phase
  cases fetched : credentials.metadata caller c.metadata with
  | error error =>
    have failed : p.fetched caller = some (p.finish caller (.error error)) := by
      simp [Pool.fetched, isCaller, phase, equipped, due, fetched]
    exact finishes_finish rfl isCaller (moves.trans failed)
  | ok metadata =>
    have went : p.fetched caller = some (p.afterCredentials caller c.target metadata) := by
      simp [Pool.fetched, isCaller, phase, equipped, due, fetched]
    exact .of_next (moves.trans went)
      (finishes_afterCredentials isStream told rfl rfl isCaller target)

theorem finishes_coming (isCaller : p.callers[caller]? = some c) (target : c.target = some stream)
    (coming : c.phase = .arriving ∨ ∃ ready, c.phase = .fetching ready)
    (equipped : ∀ ready, c.phase = .fetching ready → p.setup.credentials.isSome)
    (there : ¬ AwaitsCredentials p caller c) : Finishes caller p := by
  obtain phase | ⟨ready, phase⟩ := coming
  · cases credentials : p.setup.credentials with
    | none =>
      have went : p.beginCaller caller = some (p.afterCredentials caller c.target none) := by
        simp [beginCaller, isCaller, phase, target, credentials]
      exact .of_next ((next?_arriving isCaller phase).trans went)
        (finishes_afterCredentials isStream told rfl rfl isCaller target)
    | some credentials' =>
      have instant : (credentials'.fetch caller).delay = 0 := by
        by_contra slow
        exact there (.inr ⟨credentials', credentials, phase, Nat.pos_of_ne_zero slow⟩)
      have isFetching : (p.setPhase caller (.fetching (p.now +
          (credentials'.fetch caller).delay))).callers[caller]? = some { c with
            phase := .fetching (p.now + (credentials'.fetch caller).delay) } :=
        setPhase_self rfl isCaller
      refine .of_next (next?_equipped isCaller phase target credentials) ?_
      refine finishes_fetching isStream told isFetching rfl target credentials ?_
      rw [instant]
      exact Nat.le_refl _
  · obtain ⟨credentials, equipped⟩ := Option.isSome_iff_exists.mp (equipped ready phase)
    have due : ready ≤ p.now := by
      by_contra late
      exact there (.inl ⟨ready, phase, Nat.lt_of_not_le late⟩)
    exact finishes_fetching isStream told isCaller phase target equipped due

end

/-! ### Who fetches credentials -/

def Equipped (p : Pool) : Prop :=
  ∀ (caller : Nat) (c : Caller) (ready : Nat), p.callers[caller]? = some c →
    c.phase = .fetching ready → p.setup.credentials.isSome

theorem Change.equipped (change : Change p q) (equipped : Equipped p) : Equipped q := by
  intro caller d ready isCaller phase
  rw [change.setup]
  obtain ⟨-, arriving, -⟩ | ⟨c, before, -, goes⟩ := change.caller_cases isCaller
  · rw [phase] at arriving
    cases arriving
  · rw [phase] at goes
    generalize same : CallPhase.fetching ready = phase at goes
    cases goes with
    | stays => exact equipped caller c ready before same.symm
    | moves moves =>
      cases moves with
      | fetches arriving alive some => exact Option.isSome_iff_exists.mpr ⟨_, some⟩
      | _ => cases same
    | takes => cases same
    | hands => split at same <;> cases same
    | withdraws => cases same

theorem Reachable.equipped (reachable : Reachable p) : Equipped p := by
  refine reachable.invariant ?_ (fun _ _ equipped change => change.equipped equipped) ?_
  · intro p origin caller c ready isCaller
    cases origin with
    | single => cases isCaller
    | ofControllers => cases isCaller
  · intro p q equipped trails caller c ready isCaller
    rw [trails.setup]
    rw [trails.callers] at isCaller
    exact equipped caller c ready isCaller

/-! ### The end of a stream -/

/-- A caller is bound for a stream: it is on its way there, or waits with it. -/
def BoundFor (stream : Nat) (c : Caller) : Prop :=
  (c.target = some stream ∧ (c.phase = .arriving ∨ ∃ ready, c.phase = .fetching ready)) ∨
    (∃ bound metadata, c.phase = .submitting stream bound metadata) ∨ c.phase.WaitsWith stream

/-- A caller that is bound for a stream which is done finishes exactly if its credentials have
come. -/
theorem BoundFor.finishes_iff {cause : Error} (bound : BoundFor stream c)
    (isStream : p.streams[stream]? = some s) (told : s.cause = some cause)
    (isCaller : p.callers[caller]? = some c)
    (equipped : ∀ ready, c.phase = .fetching ready → p.setup.credentials.isSome) :
    Finishes caller p ↔ ¬ AwaitsCredentials p caller c := by
  obtain ⟨target, coming⟩ | ⟨bound, metadata, submitting⟩ | waits := bound
  · exact ⟨fun finishes awaits => awaits.not_finishes isCaller target finishes,
      finishes_coming isStream told isCaller target coming equipped⟩
  · have there : ¬ AwaitsCredentials p caller c := by simp [AwaitsCredentials, submitting]
    exact iff_of_true (finishes_submitting isStream told isCaller submitting) there
  · cases phase : c.phase with
    | queued other bound =>
      rw [phase] at waits
      obtain rfl : other = stream := waits
      have there : ¬ AwaitsCredentials p caller c := by simp [AwaitsCredentials, phase]
      exact iff_of_true (finishes_queued isStream told isCaller phase) there
    | awaiting other =>
      rw [phase] at waits
      obtain rfl : other = stream := waits
      have there : ¬ AwaitsCredentials p caller c := by simp [AwaitsCredentials, phase]
      exact iff_of_true (finishes_awaiting isStream told isCaller phase) there
    | _ => rw [phase] at waits; cases waits

/-- When a stream is done, each registered caller has left the table once and heard one result, that
of its leaving; from then on the table stays empty, and every caller that is bound for the stream
has its result after it has been polled, exactly if its credentials have come. -/
theorem end_releases_callers (reachable : Reachable p) (isStream : p.streams[stream]? = some s)
    (done : s.run = .done) :
    s.ledger.table = s.inFlight ∧
    (∀ id ticket, (id, ticket) ∈ Event.registrations s.history →
      ((Event.registrations s.history).map (·.2)).count ticket = 1 ∧
      ∃ fate : Fate, fate.isDeparture ∧
        s.ledger.fates.filter (·.1 = ticket) = [(ticket, fate)] ∧
        (Event.answers s.history).filter (·.1 = ticket) = [(ticket, fate.result)] ∧
        ∃ c, p.callers[ticket]? = some c ∧ c.reply = some fate.result) ∧
    ∀ q, Leads p q →
      (∃ t, q.streams[stream]? = some t ∧ t.run = .done ∧ t.load = 0) ∧
      ∀ caller c, q.callers[caller]? = some c → BoundFor stream c →
        (Finishes caller q ↔ ¬ AwaitsCredentials q caller c) := by
  have sound := reachable.sound
  have streamSound := sound.healthy stream s isStream
  have once := sound.placed.once stream
  rw [ticketsOf_eq isStream] at once
  refine ⟨streamSound.accounted.table, ?_, ?_⟩
  · intro id ticket registered
    have nodup := streamSound.registrations_nodup once
    refine ⟨List.count_eq_one_of_mem nodup (List.mem_map.mpr ⟨_, registered, rfl⟩), ?_⟩
    obtain ⟨fate, departs, fates, answers⟩ :=
      streamSound.registered_once once done registered
    refine ⟨fate, departs, fates, answers, ?_⟩
    have isAnswer : (ticket, fate.result) ∈ Event.answers s.history := by
      have first : (ticket, fate.result) ∈ [(ticket, fate.result)] := List.mem_cons_self
      rw [← answers] at first
      exact (List.mem_filter.mp first).1
    obtain ⟨item, isItem, same⟩ := List.mem_map.mp (streamSound.mem_tickets_of_answer isAnswer)
    obtain ⟨c, isCaller, -⟩ := sound.placed.owned stream item (itemsOf_eq isStream ▸ isItem)
    rw [same] at isCaller
    refine ⟨c, isCaller, (sound.told ticket c fate.result isCaller).mpr ⟨stream, ?_⟩⟩
    rwa [answersOf_eq isStream]
  · intro q leads
    obtain ⟨t, isStream', becomes⟩ := leads.becomes isStream
    obtain ⟨run, inFlight, -⟩ := becomes.done streamSound done
    refine ⟨⟨t, isStream', run, by rw [Stream.load, inFlight]; rfl⟩, ?_⟩
    have coherent := (becomes.sound streamSound).coherent
    obtain ⟨cause, told⟩ := Option.isSome_iff_exists.mp (coherent.told.mpr run)
    intro caller c isCaller bound
    have equipped := (reachable.leads leads).equipped caller c
    exact bound.finishes_iff isStream' told isCaller fun ready => equipped ready isCaller

/-- Two batches get the same id, and the pool is canceled while the second one is in flight and a
third caller stands in the queue. -/
def displacingRun : List Action :=
  [.run 0, .stream 0 .establish, .stream 0 .offer,
    .arrive {} (.traces []) (some 0), .enter 0, .submit 0 false,
    .stream 0 .take, .stream 0 .encode, .stream 0 .send, .stream 0 .offer,
    .arrive {} (.logs []) (some 0), .enter 1, .submit 1 false,
    .stream 0 .take, .stream 0 .encode, .stream 0 .send, .stream 0 .offer,
    .arrive {} (.metrics []) (some 0), .enter 2, .submit 2 false,
    .cancel, .stream 0 .quit, .stream 0 .receive, .stream 0 .join, .stream 0 .sweep,
    .stream 0 .finish]

theorem end_releases_callers_displaced :
    ∃ p s c, (single { codec := .ofScript [7, 7] [] } []).follow displacingRun = some p ∧
      p.streams[0]? = some s ∧ s.run = .done ∧ p.callers[2]? = some c ∧ c.phase = .awaiting 0 ∧
      (∃ fate : Fate, fate.isDeparture ∧
        s.ledger.fates.filter (·.1 = 0) = [(0, fate)] ∧
        (Event.answers s.history).filter (·.1 = 0) = [(0, fate.result)]) ∧
      Finishes 2 p := by
  have facts : (((single { codec := .ofScript [7, 7] [] } []).follow displacingRun).bind fun p =>
      p.streams[0]?.bind fun s => p.callers[2]?.map fun c =>
        (s.run, Event.registrations s.history, c.phase)) =
      some (.done, [(7, 0), (7, 1)], .awaiting 0) := by decide +kernel
  obtain ⟨p, follows, facts⟩ := Option.bind_eq_some_iff.mp facts
  obtain ⟨s, isStream, facts⟩ := Option.bind_eq_some_iff.mp facts
  obtain ⟨c, isCaller, facts⟩ := Option.map_eq_some_iff.mp facts
  simp only [Prod.mk.injEq] at facts
  obtain ⟨done, registered, phase⟩ := facts
  have reachable : Reachable p := ⟨_, .single _ _, displacingRun, follows⟩
  obtain ⟨-, left, released⟩ := end_releases_callers reachable isStream done
  obtain ⟨-, fate, departs, fates, answers, -⟩ := left 7 0 (by simp [registered])
  refine ⟨p, s, c, follows, isStream, done, isCaller, phase, ⟨fate, departs, fates, answers⟩, ?_⟩
  have bound : BoundFor 0 c := .inr (.inr (by rw [phase]; rfl))
  exact ((released p (Leads.refl p)).2 2 c isCaller bound).mpr (by simp [AwaitsCredentials, phase])

def lateRun : List Action :=
  [.run 0, .stream 0 .establish, .stream 0 .finish, .arrive {} (.traces []) (some 0)]

/-- A caller that comes to a stream which is done may have no result when it has been polled. -/
theorem late_caller_fetches :
    ∃ p s c, (single { credentials := some { delay := 10 } } [.refuse .canceled]).follow lateRun =
        some p ∧
      p.streams[0]? = some s ∧ s.run = .done ∧ p.callers[0]? = some c ∧ BoundFor 0 c ∧
      ¬ Finishes 0 p := by
  have facts : ((single { credentials := some { delay := 10 } } [.refuse .canceled]).follow
      lateRun).bind (fun p => p.streams[0]?.bind fun s => p.callers[0]?.map fun c =>
        (s.run, c.target, c.phase, p.setup.credentials)) =
      some (.done, some 0, .arriving, some { delay := 10 }) := by decide +kernel
  obtain ⟨p, follows, facts⟩ := Option.bind_eq_some_iff.mp facts
  obtain ⟨s, isStream, facts⟩ := Option.bind_eq_some_iff.mp facts
  obtain ⟨c, isCaller, facts⟩ := Option.map_eq_some_iff.mp facts
  simp only [Prod.mk.injEq] at facts
  obtain ⟨done, target, arriving, equipped⟩ := facts
  have awaits : AwaitsCredentials p 0 c := .inr ⟨_, equipped, arriving, by decide⟩
  exact ⟨p, s, c, follows, isStream, done, isCaller, .inl ⟨target, .inl arriving⟩,
    awaits.not_finishes isCaller target⟩

end TelemetryStreams.Pool
