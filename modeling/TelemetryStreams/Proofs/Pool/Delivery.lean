import TelemetryStreams.Proofs.Pool.Release
import TelemetryStreams.Proofs.Stream.Inbox

/-!
# No acknowledgment is lost

A caller that stands in the line of a stream returns with what the stream has told it, or, if that is
nothing or the caller still waits for room, with the end of its own context or of the stream
(`Concludes`). So the first acknowledgment of a batch in flight that came while the reader was at work
is what the caller of the batch returns with, whatever happens before it is taken, unless the caller
has returned before or has not looked since it waited for room (`acknowledgments_are_delivered`).
-/
namespace TelemetryStreams.Pool

variable {p q r : Pool} {caller stream : Nat} {c d : Caller} {s t : Stream}

/-! ### Why callers return that stand in a line -/

/-- With what a caller returns that stands in the line of a stream, and when. -/
inductive Concludes (p : Pool) (stream : Nat) (c : Caller) : Except Error Bool → Prop
  | told {reply} (told : c.reply = some reply) : Concludes p stream c (reply.map fun _ => true)
  | ended {reason} (untold : c.reply = none) (ended : c.Ends p.now reason) :
      Concludes p stream c (.error reason)
  | abandoned {s cause} (untold : c.reply = none) (isStream : p.streams[stream]? = some s)
      (told : s.cause = some cause) : Concludes p stream c (.error cause)
  /-- It has not looked since its item was taken, if it was. -/
  | queued {s bound error} (queued : c.phase = .queued stream bound)
      (isStream : p.streams[stream]? = some s)
      (reason : bound = true ∧ c.Ends p.now error ∨ s.cause = some error) :
      Concludes p stream c (.error error)

/-- Every caller that is done and stands in a line has returned for a reason. -/
def Concluded (p : Pool) : Prop :=
  ∀ (caller stream : Nat) (c : Caller) (result : Except Error Bool), p.callers[caller]? = some c →
    c.phase = .done result → caller ∈ p.ticketsOf stream →
    ∃ q d, Reachable q ∧ Leads q p ∧ q.callers[caller]? = some d ∧ Concludes q stream d result

/-- A caller in the line of a stream returns for one of these reasons. -/
theorem Returns.concludes {result : Except Error Bool} (returns : Returns p caller c result)
    (isWith : c.phase.IsWith stream) : Concludes p stream c result := by
  cases returns with
  | overdue phase | uncredentialed phase | ended phase | refused phase | gaveUp phase =>
    rw [phase] at isWith
    cases isWith
  | shutDown looking | downgraded looking => exact absurd isWith looking.apart
  | replied awaiting told => exact .told told
  | left awaiting untold ended => exact .ended untold ended
  | abandoned awaiting untold alive isStream told =>
    rw [awaiting] at isWith
    obtain rfl : _ = stream := isWith
    exact .abandoned untold isStream told

/-- A change leaves every caller that is done afterwards with a reason. -/
theorem Change.concluded (change : Change p q) (reachable : Reachable p) (concluded : Concluded p)
    {result : Except Error Bool} (isCaller : q.callers[caller]? = some d)
    (done : d.phase = .done result) (isTicket : caller ∈ q.ticketsOf stream) :
    ∃ r c, Reachable r ∧ Leads r p ∧ r.callers[caller]? = some c ∧ Concludes r stream c result := by
  have sound := reachable.sound
  have idle : ¬ d.phase.WaitsWith stream := by rw [done]; exact id
  have isEarlier := change.mem_of_idle sound.healthy isCaller idle isTicket
  obtain ⟨-, arriving, -⟩ | ⟨c, before, -, goes⟩ := change.caller_cases isCaller
  · rw [done] at arriving
    cases arriving
  · have isWith : c.phase.IsWith stream := by
      by_contra apart
      exact sound.placed.absent before apart isEarlier
    rw [done] at goes
    obtain same | returns | ⟨other, bound, s, error, queued, isStream, reason, rfl⟩ :=
      goes.done_cases
    · exact concluded caller stream c result before same isEarlier
    · exact ⟨p, c, reachable, Leads.refl p, before, returns.concludes isWith⟩
    · have here := isWith
      rw [queued] at here
      obtain rfl : other = stream := here
      exact ⟨p, c, reachable, Leads.refl p, before, .queued queued isStream reason⟩

theorem Reachable.concluded (reachable : Reachable p) : Concluded p := by
  obtain ⟨origin, isOrigin, leads⟩ := reachable
  -- The reasons lie in earlier states of the same run, so the induction keeps the run along.
  refine (leads.induction (P := fun p => Reachable p ∧ Concluded p) ?_ ⟨isOrigin.reachable, ?_⟩).2
  · intro p q action ⟨reachable, concluded⟩ permitted made
    have next : Leads p q := .head permitted made (Leads.refl q)
    refine ⟨reachable.leads next, fun caller stream d result isCaller done isTicket => ?_⟩
    obtain ⟨middle, changed, trails⟩ := perform_cases permitted made
    rw [trails.callers] at isCaller
    rw [ticketsOf, trails.itemsOf_eq] at isTicket
    obtain ⟨r, c, reachable', leads, isEarlier, concludes⟩ : ∃ r c, Reachable r ∧ Leads r p ∧
        r.callers[caller]? = some c ∧ Concludes r stream c result := by
      obtain rfl | change := changed
      · exact concluded caller stream d result isCaller done isTicket
      · exact change.concluded reachable concluded isCaller done isTicket
    exact ⟨r, c, reachable', leads.trans next, isEarlier, concludes⟩
  · intro caller stream c result isCaller
    cases isOrigin with
    | single => cases isCaller
    | ofControllers => cases isCaller

/-! ### What has arrived is delivered -/

/-- Why a caller may return with something else than what it was told: its context had ended before
it was told anything, or it still waited for room when its context or its stream had ended. -/
inductive Exempt (p : Pool) (caller stream : Nat) : Error → Prop
  | left {q d reason} (leads : Leads q p) (isCaller : q.callers[caller]? = some d)
      (untold : d.reply = none) (ended : d.Ends q.now reason) : Exempt p caller stream reason
  | queued {q d s bound error} (leads : Leads q p) (isCaller : q.callers[caller]? = some d)
      (queued : d.phase = .queued stream bound) (isStream : q.streams[stream]? = some s)
      (reason : bound = true ∧ d.Ends q.now error ∨ s.cause = some error) :
      Exempt p caller stream error

theorem next?_told {reply : Except Error Unit} (isStream : p.streams[stream]? = some s)
    (isCaller : p.callers[caller]? = some c) (phase : c.phase = .awaiting stream)
    (told : c.reply = some reply) :
    system.next? p (.caller caller) = some (p.finish caller (reply.map fun _ => true)) := by
  rw [next?_awaiting isCaller phase]
  cases reply <;> simp [collect, isCaller, phase, isStream, told, Except.map]

theorem next?_moved {bound : Bool} (isStream : p.streams[stream]? = some s)
    (isCaller : p.callers[caller]? = some c) (phase : c.phase = .queued stream bound)
    (alive : bound = true → c.IsLive p.now) (untold : s.cause = none)
    (moved : ∀ item ∈ s.senders, item.ticket ≠ caller) :
    system.next? p (.caller caller) = some (p.setPhase caller (.awaiting stream)) := by
  have live : (if bound then c.sees p.now false else none) = none :=
    Caller.sees_bound_eq_none_iff.mpr alive
  rw [next?_queued isCaller phase]
  simpa [recheck, isCaller, phase, isStream, untold, live] using moved

/-- What a caller returns with that was told something is that, unless the caller is exempt. -/
theorem Reachable.returns_reply {reply : Except Error Unit} {result : Except Error Bool}
    (reachable : Reachable p) (isStream : p.streams[stream]? = some s)
    (isAnswer : (caller, reply) ∈ Event.answers s.history) (isCaller : p.callers[caller]? = some c)
    (told : c.reply = some reply) (done : c.phase = .done result) :
    result = reply.map (fun _ => true) ∨ ∃ error, result = .error error ∧
      Exempt p caller stream error := by
  rw [← answersOf_eq isStream] at isAnswer
  have line := reachable.sound.healthy.mem_ticketsOf isAnswer
  obtain ⟨q, d, reachable', leads, isEarlier, concludes⟩ :=
    reachable.concluded caller stream c result isCaller done line
  obtain ⟨c', isCaller', kept, -⟩ := leads.kept isEarlier
  obtain rfl := Option.some.inj (isCaller.symm.trans isCaller')
  cases concludes with
  | told first =>
    obtain rfl := Option.some.inj ((kept.reply _ first).symm.trans told)
    exact .inl rfl
  | ended untold ended => exact .inr ⟨_, rfl, .left leads isEarlier untold ended⟩
  | @abandoned u cause untold isStream' finished =>
    -- A stream that has finished answers nobody, so the caller had been told before.
    have sound := reachable'.sound
    have done := (sound.healthy _ _ isStream').coherent.told.mp (by rw [finished]; rfl)
    obtain ⟨t, isStream'', becomes⟩ := leads.becomes isStream'
    obtain rfl := Option.some.inj (isStream.symm.trans isStream'')
    obtain ⟨-, -, -, answers⟩ := becomes.done (sound.healthy _ _ isStream') done
    rw [answersOf_eq isStream, answers, ← answersOf_eq isStream'] at isAnswer
    have first := (sound.told caller d reply isEarlier).mpr ⟨stream, isAnswer⟩
    rw [untold] at first
    cases first
  | queued queued isStream' reason =>
    exact .inr ⟨_, rfl, .queued leads isEarlier queued isStream' reason⟩

/-- When the reader has ended, the first acknowledgment of a batch in flight that came before is the
one thing that the caller of the batch has been told. It returns with that when it is polled, and if
it has returned then with that, unless it is exempt. -/
theorem acknowledgments_are_delivered {ack : Acknowledgment} {ticket : Nat} (reachable : Reachable p)
    (isStream : p.streams[stream]? = some s) (awaits : s.Awaits ack ticket) (leads : Leads p q)
    (isStream' : q.streams[stream]? = some t) (ended : t.run ≠ .reading)
    (distinct : Ledger.all Ledger.isDistinct {} t.history)
    (harmless : Ledger.all (Ledger.isHarmless (ack.id, ticket)) {} t.history) :
    (Event.answers t.history).filter (·.1 = ticket) = [(ticket, ack.verdict.1)] ∧
    ∃ c, q.callers[ticket]? = some c ∧ c.reply = some ack.verdict.1 ∧ c.phase.IsWith stream ∧
      (c.phase = .awaiting stream → system.next? q (.caller ticket) =
        some (q.finish ticket (ack.verdict.1.map fun _ => true))) ∧
      (∀ bound, c.phase = .queued stream bound → (bound = true → c.IsLive q.now) →
        t.cause = none →
        system.next? q (.caller ticket) = some (q.setPhase ticket (.awaiting stream))) ∧
      ∀ result, c.phase = .done result → result = ack.verdict.1.map (fun _ => true) ∨
        ∃ error, result = .error error ∧ Exempt q ticket stream error := by
  have later := reachable.leads leads
  have sound := later.sound
  have streamSound := sound.healthy stream t isStream'
  have once := sound.placed.once stream
  rw [ticketsOf_eq isStream'] at once
  obtain ⟨t', isStream'', becomes⟩ := leads.becomes isStream
  obtain rfl := Option.some.inj (isStream'.symm.trans isStream'')
  have isAnswer : (ticket, ack.verdict.1) ∈ Event.answers t.history :=
    becomes.answered (reachable.sound.healthy stream s isStream) awaits ended distinct harmless
  obtain ⟨item, isItem, same⟩ := List.mem_map.mp (streamSound.mem_tickets_of_answer isAnswer)
  rw [← itemsOf_eq isStream'] at isItem
  obtain ⟨c, isCaller, -, isWith⟩ := sound.placed.owned stream item isItem
  rw [same] at isCaller
  have told : c.reply = some ack.verdict.1 :=
    (sound.told ticket c _ isCaller).mpr ⟨stream, by rwa [answersOf_eq isStream']⟩
  refine ⟨Stream.filter_eq_singleton (streamSound.answers_nodup once) isAnswer, c, isCaller, told,
    isWith, ?_, ?_, ?_⟩
  · exact fun phase => next?_told isStream' isCaller phase told
  · intro bound phase alive untold
    exact next?_moved isStream' isCaller phase alive untold (streamSound.ne_of_answer once isAnswer)
  · exact fun result done => later.returns_reply isStream' isAnswer isCaller told done

def twoSent : List Action :=
  [.run 0, .stream 0 .establish, .stream 0 .offer,
    .arrive {} (.traces []) (some 0), .enter 0, .submit 0 false,
    .stream 0 .take, .stream 0 .encode, .stream 0 .send, .stream 0 .offer,
    .arrive {} (.logs []) (some 0), .enter 1, .submit 1 false,
    .stream 0 .take, .stream 0 .encode, .stream 0 .send, .stream 0 .offer]

/-- The peer settles both, in the other order, and ends the call, and the pool is canceled. -/
def settledLate : List Action :=
  [.deliver 0 (.acknowledged { id := 2, code := 14, message := "busy" }),
    .deliver 0 (.acknowledged { id := 1 }), .deliver 0 .closed, .cancel]

def endsFirst : List Action :=
  [.stream 0 .quit, .stream 0 .receive, .stream 0 .receive, .stream 0 .receive, .stream 0 .join,
    .stream 0 .sweep, .stream 0 .finish]

theorem acknowledgments_are_delivered_late :
    ∃ p q c, (single {} []).follow (twoSent ++ settledLate) = some p ∧
      p.follow endsFirst = some q ∧ q.callers[0]? = some c ∧ c.phase = .awaiting 0 ∧
      system.next? q (.caller 0) = some (q.finish 0 (.ok true)) := by
  have facts : (((single {} []).follow (twoSent ++ settledLate)).bind fun p =>
      p.streams[0]?.bind fun s => s.call.map fun call =>
        (s.run, s.inFlight.ticket? 1, call.inbox)) =
      some (.reading, some 0, [.acknowledged { id := 2, code := 14, message := "busy" },
        .acknowledged { id := 1 }, .closed]) := by decide +kernel
  have outcome : (((single {} []).follow (twoSent ++ settledLate)).bind fun p =>
      (p.follow endsFirst).bind fun q => q.streams[0]?.bind fun t => q.callers[0]?.map fun c =>
        (t.run, c.phase, Ledger.all Ledger.isDistinct {} t.history,
          Ledger.all (Ledger.isHarmless (1, 0)) {} t.history)) =
      some (.done, .awaiting 0, true, true) := by decide +kernel
  obtain ⟨p, q, follows, more, facts, outcome⟩ := follow_cases facts outcome
  obtain ⟨s, isStream, facts⟩ := Option.bind_eq_some_iff.mp facts
  obtain ⟨call, called, facts⟩ := Option.map_eq_some_iff.mp facts
  obtain ⟨t, isStream', outcome⟩ := Option.bind_eq_some_iff.mp outcome
  obtain ⟨c, isCaller, outcome⟩ := Option.map_eq_some_iff.mp outcome
  simp only [Prod.mk.injEq] at facts outcome
  obtain ⟨reading, inFlight, inbox⟩ := facts
  obtain ⟨done, awaiting, distinct, harmless⟩ := outcome
  have reachable : Reachable p := ⟨_, .single _ _, _, follows⟩
  have awaits : s.Awaits { id := 1 } 0 :=
    ⟨reading, inFlight, call, [.acknowledged { id := 2, code := 14, message := "busy" }], [.closed],
      called, inbox, by decide⟩
  obtain ⟨-, d, isCaller', -, -, polled, -⟩ := acknowledgments_are_delivered reachable isStream
    awaits ⟨endsFirst, more⟩ isStream' (by rw [done]; nofun) distinct harmless
  obtain rfl := Option.some.inj (isCaller.symm.trans isCaller')
  exact ⟨p, q, c, follows, more, isCaller, awaiting, polled awaiting⟩

/-- The batches of two callers are sent, and the second one has not looked since it waited for room. -/
def sentUnseen : List Action :=
  [.run 0, .stream 0 .establish, .stream 0 .offer,
    .arrive {} (.traces []) (some 0), .enter 0, .submit 0 false,
    .arrive {} (.logs []) (some 0), .enter 1, .submit 1 false,
    .stream 0 .take, .stream 0 .encode, .stream 0 .send, .stream 0 .offer,
    .stream 0 .take, .stream 0 .encode, .stream 0 .send, .stream 0 .offer]

/-- The second batch is acknowledged. -/
def acknowledgedUnseen : List Action := sentUnseen ++ [.deliver 0 (.acknowledged { id := 2 })]

/-- An acknowledgment whose caller first looks when the stream has finished is lost, although no context
has ended. -/
theorem acknowledgments_not_delivered :
    ∃ p q s t c, (single {} []).follow acknowledgedUnseen = some p ∧
      p.follow [.deliver 0 .closed, .stream 0 .receive, .stream 0 .receive, .stream 0 .quit,
        .stream 0 .join, .stream 0 .sweep, .stream 0 .finish, .recheck 1 false] = some q ∧
      p.streams[0]? = some s ∧ s.inFlight.ticket? 2 = some 1 ∧
      s.call.map Call.inbox = some [.acknowledged { id := 2 }] ∧
      q.streams[0]? = some t ∧ t.run = .done ∧ q.callers[1]? = some c ∧
      c.canceled = false ∧ c.deadline = none ∧
      c.phase = .done (.error .streamRestarting) := by
  have facts : (((single {} []).follow acknowledgedUnseen).bind fun p => p.streams[0]?.map fun s =>
      (s.inFlight.ticket? 2, s.call.map Call.inbox)) =
      some (some 1, some [.acknowledged { id := 2 }]) := by decide +kernel
  have outcome : (((single {} []).follow acknowledgedUnseen).bind fun p =>
      (p.follow [.deliver 0 .closed, .stream 0 .receive, .stream 0 .receive, .stream 0 .quit,
        .stream 0 .join, .stream 0 .sweep, .stream 0 .finish, .recheck 1 false]).bind fun q =>
      q.streams[0]?.bind fun t => q.callers[1]?.map fun c =>
        (t.run, c.canceled, c.deadline, c.phase)) =
      some (.done, false, none, .done (.error .streamRestarting)) := by decide +kernel
  obtain ⟨p, q, follows, more, facts, outcome⟩ := follow_cases facts outcome
  obtain ⟨s, isStream, facts⟩ := Option.map_eq_some_iff.mp facts
  obtain ⟨t, isStream', outcome⟩ := Option.bind_eq_some_iff.mp outcome
  obtain ⟨c, isCaller, outcome⟩ := Option.map_eq_some_iff.mp outcome
  simp only [Prod.mk.injEq] at facts outcome
  obtain ⟨inFlight, inbox⟩ := facts
  obtain ⟨ended, alive, unbounded, done⟩ := outcome
  exact ⟨p, q, s, t, c, follows, more, isStream, inFlight, inbox, isStream', ended, isCaller,
    alive, unbounded, done⟩

end TelemetryStreams.Pool
