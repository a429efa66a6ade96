import TelemetryStreams.Proofs.Pool.Prompts
import TelemetryStreams.Proofs.Pool.Settled
import TelemetryStreams.Proofs.Stream.Endings

/-!
# When the run of a stream ends

In a settled state the run of a stream has ended exactly if the stream has one of six reasons to end,
and it gets a reason only from what is one: no context of a caller, no turn of a caller, no lifetime
and no acknowledgment that answers a batch in flight ever ends it (`run_ends_with_cause`).
-/
namespace TelemetryStreams.Pool

variable {p q : Pool} {action : Action} {stream : Nat} {s t : Stream}

/-- What must not end the stream at a place. -/
inductive Spares (p : Pool) (stream : Nat) (s : Stream) : Action → Prop
  /-- The context of a caller is canceled. -/
  | contextEnds (caller : Nat) : Spares p stream s (.cancelCaller caller)
  /-- Time passes: the contexts of callers and the lifetime of the stream come to their ends. -/
  | passes (ms : Nat) : Spares p stream s (.advance ms)
  /-- A caller takes its turn, and may give up, withdraw its item or return. -/
  | turn {action caller} (own : action.caller? = some caller) : Spares p stream s action
  | expires : Spares p stream s (.stream stream .expire)
  /-- An acknowledgment of a batch in flight is taken, with a code that answers one. -/
  | settles {call ack rest ticket verdict} (called : s.call = some call)
      (inbox : call.inbox = .acknowledged ack :: rest)
      (found : s.inFlight.ticket? ack.id = some ticket) (answers : verdict ∈ Verdict.answers)
      (code : Verdict.ofNumber ack.code = .ok verdict) : Spares p stream s (.stream stream .receive)

def Provokes (p : Pool) (stream : Nat) (s : Stream) (action : Action) : Prop :=
  action.isEnd = true ∨ ∃ prompted, Prompts p stream action prompted ∧ s.Provokes prompted

theorem Spares.not_provokes (spares : Spares p stream s action) : ¬ Provokes p stream s action := by
  rintro (isEnd | ⟨prompted, prompts, provokes⟩)
  · cases spares with
    | turn own =>
      cases action with
      | cancel | beginShutdown => cases own
      | _ => cases isEnd
    | _ => cases isEnd
  · cases prompts with
    | moved =>
      cases spares with
      | turn own => cases own
      | expires => cases provokes
      | settles called inbox found answers code =>
        cases provokes with
        | violated called' inbox' wrong =>
          obtain rfl := Option.some.inj (called.symm.trans called')
          rw [inbox] at inbox'
          cases inbox'
          have isAnswer := (Acknowledgment.verdict_isAnswer_iff _).mpr ⟨_, answers, code⟩
          simp [found, isAnswer] at wrong
    | delivered | modeSet | started => cases spares with | turn own => cases own
    | submitted | left => cases provokes

theorem Spares.run_eq (spares : Spares p stream s action) (reaches : Reaches p q stream action s t) :
    t.run = s.run := by
  obtain ⟨r, prompted, after⟩ := reaches
  have same : r.run = s.run := by
    obtain rfl | ⟨prompted, events, next, prompts, step, rfl⟩ := prompted
    · rfl
    · cases prompts with
      | moved =>
        cases spares with
        | turn own => cases own
        | expires =>
          cases step with
          | expired => rfl
          | openingCanceled early => simp at early
        | settles called inbox found answers code =>
          have isAnswer := (Acknowledgment.verdict_isAnswer_iff _).mpr ⟨_, answers, code⟩
          exact step.run_of_answer called inbox found isAnswer
      | started | delivered | modeSet => cases spares with | turn own => cases own
      | submitted => cases step <;> rfl
      | left => cases step; rfl
  obtain rfl | ⟨rfl, -⟩ := after
  · exact same
  · exact same

/-! ### Streams of a pool -/

theorem Reachable.driven (reachable : Reachable p) (isStream : p.streams[stream]? = some s) :
    s.Driven :=
  reachable.each (fun p => p.newStream_fresh.driven rfl)
    (fun _ _ _ _ sound driven step => driven.step sound step) isStream

theorem Reaches.hasCause (sound : s.Sound) (driven : s.Driven) (cause : s.HasCause)
    (reaches : Reaches p q stream action s t) : t.HasCause := by
  obtain ⟨r, prompted, after⟩ := reaches
  have lasts : r.HasCause := by
    obtain rfl | ⟨prompted, events, next, -, step, rfl⟩ := prompted
    · exact cause
    · exact cause.step sound.coherent driven step
  obtain rfl | ⟨rfl, -⟩ := after
  · exact lasts
  · exact .asked rfl

/-- A stream gets a reason to end only from what is one, while somebody holds the pool. -/
theorem Reaches.cause_cases (sound : s.Sound) (driven : s.Driven) (held : q.held = true)
    (reaches : Reaches p q stream action s t) (cause : t.HasCause) :
    s.HasCause ∨ Provokes p stream s action := by
  obtain ⟨r, prompted, after⟩ := reaches
  obtain rfl | ⟨rfl, isEnd | unheld⟩ := after
  · obtain rfl | ⟨prompted, events, next, prompts, step, rfl⟩ := prompted
    · exact .inl cause
    · refine (driven.cause_cases sound.coherent sound.accounted step cause).imp_right fun provokes => ?_
      exact .inr ⟨prompted, prompts, provokes⟩
  · exact .inr (.inl isEnd)
  · rw [held] at unheld
    cases unheld

/-- A stream that runs by itself, or by a controller, cannot move in a settled state. -/
theorem not_move_of_settled (settled : system.isSettled p = true)
    (isRun : p.controllers = [] ∨ ∃ count, Managed count p) (isStream : p.streams[stream]? = some s)
    (undone : s.run ≠ .done) (unbroken : s.run ≠ .brokeDown) (move : Move) :
    s.makeMove p.surroundings move = none := by
  have stuck := isSettled_iff.mp settled
  have inside := (List.getElem?_eq_some_iff.mp isStream).1
  obtain alone | ⟨count, managed⟩ := isRun
  · obtain isMove | isMove := mem_moves move
    · refine makeMove_eq_none isStream (stuck (.runner stream) (by simp [parties, alone, inside]) _ ?_)
      exact List.mem_map.mpr ⟨move, isMove, rfl⟩
    · exact stuck.not_write isStream isMove
  · obtain ⟨controller, running | ⟨broke, -⟩⟩ := managed.governed.led stream s isStream undone
    · exact stuck.not_run isStream running move
    · exact absurd broke unbroken

/-- The run of a stream ends for a reason and for no other cause. In a settled state it has returned
exactly if there is one, unless the source of the call has broken down. A reason comes only with an
action that is one, and what must not end the stream leaves its run and its reasons as they are. And
every move of the stream leaves fewer to come. -/
theorem run_ends_with_cause (reachable : Reachable p) (isStream : p.streams[stream]? = some s)
    (begun : s.run ≠ .idle) :
    ((p.controllers = [] ∨ ∃ count, Managed count p) → system.isSettled p = true →
      (s.run = .done ↔ s.HasCause ∧ .received .brokeDown ∉ s.history)) ∧
    (∀ action q, p.permits action = true → p.perform action = some q → q.held = true →
      ∃ t, q.streams[stream]? = some t ∧ (s.HasCause → t.HasCause) ∧
        (t.HasCause → s.HasCause ∨ Provokes p stream s action) ∧
        (Spares p stream s action → t.run = s.run ∧ (t.HasCause ↔ s.HasCause))) ∧
    (∀ move q, p.perform (.stream stream move) = some q →
      ∃ t, q.streams[stream]? = some t ∧ t.effort < s.effort) := by
  have sound := reachable.sound.healthy stream s isStream
  have driven := reachable.driven isStream
  refine ⟨fun isRun settled => ?_, fun action q permitted made held => ?_, fun move q made => ?_⟩
  · rw [← driven.broke]
    constructor
    · intro done
      have cause := driven.caused (.inr (by rw [done]; trivial))
      exact ⟨cause, by rw [done]; exact nofun⟩
    · rintro ⟨cause, unbroken⟩
      by_contra undone
      obtain ⟨move, moves⟩ :=
        driven.exists_move sound.coherent begun cause undone unbroken p.surroundings
      rw [not_move_of_settled settled isRun isStream undone unbroken move] at moves
      cases moves
  · obtain ⟨t, isAfter, reaches⟩ := perform_reaches permitted made isStream
    have lasts (cause : s.HasCause) := reaches.hasCause sound driven cause
    have comes (cause : t.HasCause) := reaches.cause_cases sound driven held cause
    refine ⟨t, isAfter, lasts, comes, fun spares => ⟨spares.run_eq reaches, ?_, lasts⟩⟩
    exact fun cause => (comes cause).resolve_right spares.not_provokes
  · cases perform_turn made with
    | acts own => cases own
    | @moved _ _ _ next events _ isStream' step =>
      obtain rfl := Option.some.inj (isStream.symm.trans isStream')
      refine ⟨next.record events, ?_, step.effort_lt sound.coherent⟩
      have streams := afterMove_streams p stream next events
      exact (congrArg (·[stream]?) streams).trans (getElem?_set_self isStream)

/-- The context of a caller ends while its batch is in flight, and then the peer closes the call. -/
def hangingUpRun : List Action :=
  [.run 0, .stream 0 .establish, .stream 0 .offer, .arrive {} (.traces []) (some 0), .enter 0,
    .submit 0 false, .stream 0 .take, .stream 0 .encode, .stream 0 .send, .stream 0 .offer,
    .cancelCaller 0, .collect 0 false, .deliver 0 .closed, .stream 0 .receive, .stream 0 .quit,
    .stream 0 .join, .stream 0 .sweep, .stream 0 .finish, .dropShare 0]

theorem run_ends_with_cause_hanging_up :
    ∃ p s, Reachable p ∧ p.streams[0]? = some s ∧ system.isSettled p = true ∧ s.run = .done ∧
      s.HasCause ∧ .received .brokeDown ∉ s.history := by
  have facts : ((single {} []).follow hangingUpRun).bind (fun p => p.streams[0]?.map fun s =>
      (system.isSettled p, p.controllers, s.run)) = some (true, [], .done) := by decide +kernel
  obtain ⟨p, follows, facts⟩ := Option.bind_eq_some_iff.mp facts
  obtain ⟨s, isStream, facts⟩ := Option.map_eq_some_iff.mp facts
  simp only [Prod.mk.injEq] at facts
  obtain ⟨settled, alone, done⟩ := facts
  have reachable : Reachable p := ⟨_, .single {} [], _, follows⟩
  have ends := (run_ends_with_cause reachable isStream (by rw [done]; exact nofun)).1
  exact ⟨p, s, reachable, isStream, settled, done, (ends (.inl alone) settled).mp done⟩

end TelemetryStreams.Pool
