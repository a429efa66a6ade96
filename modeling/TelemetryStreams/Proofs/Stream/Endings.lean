import TelemetryStreams.Proofs.Stream.Inbox
import TelemetryStreams.Proofs.Stream.Offers
import TelemetryStreams.Proofs.Stream.Remaining

/-!
# Why a stream ends

A stream has to end for six reasons and no other (`Stream.HasCause`): its call could not be opened,
the end was asked for from outside, the peer has ended the call or broken the protocol, or the writer
ended because an item could not be encoded or a batch could not be sent. A reason lasts
(`HasCause.step`), it comes only with a step that is one (`Driven.cause_cases`), and a stream that
has one can move until it has ended (`Driven.exists_move`): the half that met it cancels the call,
and the other half sees that. A stream to which nothing is handed comes to a state in which it cannot
move, whether or not it has to end, since every move leaves less to do (`Step.effort_lt`).
-/
namespace TelemetryStreams

/-- Whether an acknowledgment is of a batch in flight, with a code that answers one. -/
def Ledger.isAnswer (ledger : Ledger) : Event → Bool
  | .received (.acknowledged ack) => (ledger.table.ticket? ack.id).isSome && ack.verdict.2
  | _ => true

/-- Whether the run is past reading: its reader has ended, or there never was one. -/
def RunPhase.HasPassed : RunPhase → Prop
  | .idle | .starting | .opening | .reading => False
  | _ => True

theorem Ledger.all_isAnswer {ledger : Ledger} {events : List Event}
    (unread : ∀ message, .received message ∉ events) : ledger.all isAnswer events = true := by
  induction events generalizing ledger with
  | nil => rfl
  | cons event events ih =>
    have others : (ledger.note event).all isAnswer events = true :=
      ih fun message isEvent => unread message (List.mem_cons_of_mem _ isEvent)
    rw [all, others, Bool.and_true]
    unfold isAnswer
    split
    · exact absurd List.mem_cons_self (unread _)
    · rfl

namespace Stream

/-- The peer has ended the call. -/
def HungUp (s : Stream) : Prop := ∃ call, s.call = some call ∧ call.isOver = true

/-- Why a stream has to end. -/
inductive HasCause (s : Stream) : Prop
  /-- The call could not be opened. -/
  | unopened {status} (uncalled : s.call = none) (refused : .logged (refusal status) ∈ s.history)
  /-- The end was asked for from outside. -/
  | asked (asked : s.parentCanceled = true)
  /-- The peer has failed or closed the call. -/
  | hungUp (hungUp : s.HungUp)
  /-- The reader met an acknowledgment of no batch in flight, or with a code that answers none. -/
  | violated (violation : Ledger.all Ledger.isAnswer {} s.history = false)
  /-- The codec refused an item, or broke down on it. -/
  | unencoded {failure} (ended : s.writer = .ended (.error (.encode failure)))
  /-- A batch could not be sent. -/
  | unsent {status} (ended : s.writer = .ended (.error (.status status)))

/-- A step that gives a stream a reason to end. -/
inductive Provokes (s : Stream) : Action → Prop
  | refused {env status} (starting : s.run = .starting) (opening : env.opening = .refuse status) :
      Provokes s (.move .establish env)
  | asked : Provokes s .cancelParent
  | hungUp {message} (last : message.isLast = true) : Provokes s (.deliver message)
  | violated {env call ack rest} (called : s.call = some call)
      (inbox : call.inbox = .acknowledged ack :: rest)
      (wrong : s.inFlight.ticket? ack.id = none ∨ ack.verdict.2 = false) :
      Provokes s (.move .receive env)
  | unencoded {env item span failure} (encoding : s.writer = .encoding item span)
      (fails : Codec.guarded (s.codec.encode item.records).1 = .error failure) :
      Provokes s (.move .encode env)
  | unsent {env batch span call status} (sending : s.writer = .sending batch span)
      (called : s.call = some call) (refuses : call.mode = .refuse status) :
      Provokes s (.move .send env)

/-- Where a stream stands, with and without a reason to end. -/
structure Driven (s : Stream) : Prop where
  connected : s.run ≠ .idle → s.Connected
  /-- Before the call is opened nothing is logged, and there is nothing to cancel. -/
  early : s.run.IsEarly → s.canceled = false ∧ ∀ log, .logged log ∉ s.history
  /-- The last message of the peer waits in the inbox until the reader takes it. -/
  heard : ∀ call, s.call = some call →
    ∀ message ∈ call.inbox, message.isLast = true → call.isOver = true
  unheard : s.run = .reading → ∀ call, s.call = some call → call.isOver = true →
    ∃ message ∈ call.inbox, message.isLast = true
  /-- Neither half cancels the call, and the reader does not end, without a reason. -/
  caused : s.canceled = true ∨ s.run.HasPassed → s.HasCause
  /-- A reason that only one half has met cancels the call. -/
  refused : s.call = none → ∀ status, .logged (refusal status) ∈ s.history →
    s.run = .finishing ∨ s.run = .done
  violated : Ledger.all Ledger.isAnswer {} s.history = false → s.canceled = true
  joins : ∀ read, s.run = .joining read → s.canceled = true
  failed : ∀ error, s.writer = .ended (.error error) → s.canceled = true
  broke : s.run = .brokeDown ↔ .received .brokeDown ∈ s.history

variable {s t next : Stream} {action : Action} {events : List Event} {env : Surroundings}
  {move : Move}

/-! ### Reasons last -/

theorem Coherent.ended_step {result : Except Error Unit} (coherent : s.Coherent)
    (ended : s.writer = .ended result) (step : Step s action events next) :
    next.writer = .ended result := by
  cases step with
  | opened starting =>
    rw [(coherent.early (.inr (.inl starting))).1] at ended
    cases ended
  | offered busy | taken busy | expired busy | quit busy | notEncoded busy | encoded busy
  | notSent busy | sent busy | sinkBroke busy => rw [busy] at ended; cases ended
  | _ => exact ended

theorem Becomes.writer_ended {result : Except Error Unit} (becomes : Becomes s t) (sound : s.Sound)
    (ended : s.writer = .ended result) : t.writer = .ended result := by
  induction becomes with
  | refl => exact ended
  | step earlier step ih =>
    have ended := (earlier.sound sound).coherent.ended_step ih step
    exact ended

theorem HungUp.step (coherent : s.Coherent) (hungUp : s.HungUp) (step : Step s action events next) :
    (next.record events).HungUp := by
  obtain ⟨call, isCall, isOver⟩ := hungUp
  cases step with
  | opened starting =>
    rw [(coherent.early (.inr (.inl starting))).2.2] at isCall
    cases isCall
  | unrecognized _ called | unexpected _ called | settled _ called | readEnded _ called
  | sourceBroke _ called | modeSet called =>
    obtain rfl := Option.some.inj (isCall.symm.trans called)
    exact ⟨_, rfl, isOver⟩
  | delivered called =>
    obtain rfl := Option.some.inj (isCall.symm.trans called)
    refine ⟨_, rfl, ?_⟩
    simp [Call.post, isOver]
  | _ => exact ⟨call, isCall, isOver⟩

theorem Step.mem_record_history (step : Step s action events next) {event : Event}
    (isEvent : event ∈ s.history) : event ∈ (next.record events).history := by
  rw [step.record_history]
  exact List.mem_append_left _ isEvent

theorem HasCause.step (coherent : s.Coherent) (driven : s.Driven) (cause : s.HasCause)
    (step : Step s action events next) : (next.record events).HasCause := by
  cases cause with
  | unopened uncalled refused =>
    have uncalled : next.call = none := by
      cases step with
      | opened starting => exact absurd refused ((driven.early (.inr (.inl starting))).2 _)
      | unrecognized _ called | unexpected _ called | settled _ called | readEnded _ called
      | sourceBroke _ called | delivered called | modeSet called =>
        rw [uncalled] at called
        cases called
      | _ => exact uncalled
    exact .unopened uncalled (step.mem_record_history refused)
  | asked asked => exact .asked (step.stays_asked asked)
  | hungUp hungUp => exact .hungUp (hungUp.step coherent step)
  | violated violation =>
    refine .violated ?_
    rw [step.record_history, Ledger.all_append, violation]
    rfl
  | unencoded ended =>
    have ended := coherent.ended_step ended step
    exact .unencoded ended
  | unsent ended =>
    have ended := coherent.ended_step ended step
    exact .unsent ended

/-- The reader ends and the call is canceled for a reason only. -/
theorem Driven.cause_of_isCanceled (driven : s.Driven) (canceled : s.isCanceled = true) :
    s.HasCause := by
  obtain canceled | asked := Bool.or_eq_true_iff.mp canceled
  · exact driven.caused (.inl canceled)
  · exact .asked asked

theorem Driven.called (driven : s.Driven) (coherent : s.Coherent) (present : s.writer ≠ .absent) :
    ∃ call, s.call = some call := by
  by_cases idle : s.run = .idle
  · exact absurd (coherent.early (.inl idle)).1 present
  · exact (driven.connected idle).called present

/-! ### Reasons come only with what is one -/

theorem Step.run_of_answer {call : Call} {ack : Acknowledgment} {rest : List Incoming} {ticket : Nat}
    (step : Step s (.move .receive env) events next) (called : s.call = some call)
    (inbox : call.inbox = .acknowledged ack :: rest) (found : s.inFlight.ticket? ack.id = some ticket)
    (answers : ack.verdict.2 = true) : next.run = s.run := by
  have front {other : Call} {message : Incoming} {more : List Incoming} (called' : s.call = some other)
      (inbox' : other.inbox = message :: more) : message = .acknowledged ack := by
    obtain rfl := Option.some.inj (called.symm.trans called')
    rw [inbox] at inbox'
    exact (List.cons.inj inbox').1.symm
  cases step with
  | settled => rfl
  | readCanceled _ called' empty =>
    obtain rfl := Option.some.inj (called.symm.trans called')
    rw [inbox] at empty
    cases empty
  | unrecognized _ called' inbox' absent =>
    obtain rfl := Incoming.acknowledged.inj (front called' inbox')
    rw [found] at absent
    cases absent
  | unexpected _ called' inbox' _ wrong =>
    obtain rfl := Incoming.acknowledged.inj (front called' inbox')
    rw [answers] at wrong
    cases wrong
  | readEnded _ called' inbox' last =>
    obtain rfl := front called' inbox'
    cases last
  | sourceBroke _ called' inbox' => cases front called' inbox'
  | openingCanceled early => simp at early

theorem Step.not_received (step : Step s action events next)
    (other : ∀ env, action ≠ .move .receive env) (message : Incoming) :
    .received message ∉ events := by
  have unread {aside : List Event} (reports : Event.Aside aside) : .received message ∉ aside :=
    fun isEvent => nomatch reports _ isEvent
  cases step with
  | readCanceled | unrecognized | unexpected | settled | readEnded | sourceBroke =>
    exact absurd rfl (other _)
  | @taken env item => simp [unread (Event.aside_takeEvents s env.nextSpan item)]
  | @notEncoded env item span failure =>
    simp [unread (Event.reports_encodeLog failure).aside,
      unread (Event.reports_spanEnds s span _).aside]
  | @encoded env item span batch =>
    simp [unread (Event.reports_displacement s.inFlight batch.id).aside,
      unread (Event.reports_measurement s item).aside]
  | @notSent env batch span => simp [unread (Event.reports_spanEnds s span _).aside]
  | @sent env batch span => simp [unread (Event.reports_spanEnds s span _).aside]
  | @joined env read written => exact unread (Event.reports_endLogs read written).aside
  | swept => exact unread (Event.reports_release s.inFlight.byId).aside
  | _ => simp

theorem Step.call_none (step : Step s action events next) (uncalled : next.call = none) :
    s.call = none := by
  cases step with
  | opened | unrecognized | unexpected | settled | readEnded | sourceBroke | delivered | modeSet =>
    cases uncalled
  | _ => exact uncalled

/-- A stream without a call that logs a refusal could not open one, and is about to finish. -/
theorem Step.refused_cases (driven : s.Driven) (coherent : s.Coherent)
    (step : Step s action events next) (uncalled : next.call = none) {status : Status}
    (refused : .logged (refusal status) ∈ events) :
    next.run = .finishing ∧ (s.isCanceled = true ∨ Provokes s action) := by
  have written (present : s.writer ≠ .absent) (same : next.call = s.call) : False := by
    obtain ⟨call, called⟩ := driven.called coherent present
    rw [same, called] at uncalled
    cases uncalled
  cases step with
  | openingCanceled _ canceled => exact ⟨rfl, .inl canceled⟩
  | refused starting _ opening => exact ⟨rfl, .inr (.refused starting opening)⟩
  | offered busy | taken busy | expired busy | quit busy | notEncoded busy | encoded busy
  | notSent busy | sent busy | sinkBroke busy =>
    exact (written (by rw [busy]; exact nofun) rfl).elim
  | opened | unrecognized | unexpected | settled | readEnded | sourceBroke | delivered | modeSet =>
    cases uncalled
  | joined joining =>
    have connected := driven.connected (by rw [joining]; exact nofun)
    exact (written (connected.written (by rw [joining]; trivial)) rfl).elim
  | swept =>
    obtain ⟨row, -, isEvent⟩ := List.mem_flatMap.mp refused
    unfold refusal at isEvent
    split at isEvent <;> simp [release] at isEvent
  | _ => simp at refused

/-- Only the reader meets a violation: an acknowledgment in front of the inbox of no batch in flight, or
with a code that answers none. -/
theorem Step.violated_cases (accounted : s.Accounted) (step : Step s action events next)
    (violation : s.ledger.all Ledger.isAnswer events = false) :
    next.canceled = true ∧ ∃ env call ack rest, action = .move .receive env ∧ s.run = .reading ∧
      s.call = some call ∧ call.inbox = .acknowledged ack :: rest ∧
      (s.inFlight.ticket? ack.id = none ∨ ack.verdict.2 = false) := by
  by_cases reads : ∃ env, action = .move .receive env
  · obtain ⟨env, rfl⟩ := reads
    cases step with
    | unrecognized reading called inbox absent =>
      exact ⟨rfl, env, _, _, _, rfl, reading, called, inbox, .inl absent⟩
    | unexpected reading called inbox _ wrong =>
      exact ⟨rfl, env, _, _, _, rfl, reading, called, inbox, .inr wrong⟩
    | settled _ _ _ found answers =>
      simp [Ledger.all, Ledger.isAnswer, accounted.table, found, answers] at violation
    | @readEnded _ _ message _ _ _ _ _ last =>
      cases message with
      | acknowledged | brokeDown => cases last
      | failed | closed => cases violation
    | openingCanceled early => simp at early
    | readCanceled | sourceBroke => cases violation
  · have unread := step.not_received fun env same => reads ⟨env, same⟩
    rw [Ledger.all_isAnswer unread] at violation
    cases violation

/-- A stream has a reason to end only if it had one before, or the step is one. -/
theorem Driven.cause_cases (driven : s.Driven) (coherent : s.Coherent) (accounted : s.Accounted)
    (step : Step s action events next) (cause : (next.record events).HasCause) :
    s.HasCause ∨ Provokes s action := by
  cases cause with
  | unopened uncalled refused =>
    rw [step.record_history] at refused
    obtain earlier | now := List.mem_append.mp refused
    · exact .inl (.unopened (step.call_none uncalled) earlier)
    · obtain ⟨-, canceled | provokes⟩ := step.refused_cases driven coherent uncalled now
      · exact .inl (driven.cause_of_isCanceled canceled)
      · exact .inr provokes
  | asked asked =>
    cases step with
    | parentCanceled => exact .inr .asked
    | _ => exact .inl (.asked asked)
  | hungUp hungUp =>
    obtain ⟨call, called, isOver⟩ := hungUp
    cases step with
    | opened => cases called; cases isOver
    | unrecognized _ isCall | unexpected _ isCall | settled _ isCall | readEnded _ isCall
    | sourceBroke _ isCall | modeSet isCall => cases called; exact .inl (.hungUp ⟨_, isCall, isOver⟩)
    | delivered isCall =>
      cases called
      unfold Call.post at isOver
      split at isOver
      case isTrue was => exact .inl (.hungUp ⟨_, isCall, was⟩)
      case isFalse => exact .inr (.hungUp isOver)
    | _ => exact .inl (.hungUp ⟨call, called, isOver⟩)
  | violated violation =>
    rw [step.record_history, Ledger.all_append, Bool.and_eq_false_iff] at violation
    obtain earlier | now := violation
    · exact .inl (.violated earlier)
    obtain ⟨-, env, call, ack, rest, rfl, -, called, inbox, wrong⟩ :=
      step.violated_cases accounted now
    exact .inr (.violated called inbox wrong)
  | unencoded ended =>
    cases step with
    | notEncoded encoding fails => exact .inr (.unencoded encoding fails)
    | opened | offered | taken | expired | quit | encoded | notSent | sent | sinkBroke => cases ended
    | _ => exact .inl (.unencoded ended)
  | unsent ended =>
    cases step with
    | notSent sending called fails =>
      obtain ⟨canceled, -⟩ | ⟨-, refuses⟩ := fails
      · exact .inl (driven.cause_of_isCanceled canceled)
      · exact .inr (.unsent sending called refuses)
    | opened | offered | taken | expired | quit | encoded | notEncoded | sent | sinkBroke => cases ended
    | _ => exact .inl (.unsent ended)

/-! ### Every step -/

theorem Fresh.driven (fresh : s.Fresh) (alive : s.canceled = false) : s.Driven := by
  obtain ⟨run, writer, call, -, -, -, -, history⟩ := fresh
  refine ⟨fun begun => absurd run begun, fun _ => ⟨alive, by simp [history]⟩, ?_, ?_, ?_, ?_, ?_, ?_,
    ?_, ?_⟩
  · simp [call]
  · simp [call]
  · simp [alive, run, RunPhase.HasPassed]
  · simp [history]
  · simp [history, Ledger.all]
  · simp [run]
  · simp [writer]
  · simp [run, history]

theorem Step.stays_canceled (step : Step s action events next) (canceled : s.canceled = true) :
    next.canceled = true := by
  cases step <;> first | rfl | exact canceled

/-- A step before the call is opened that does not leave the opening behind logs nothing. -/
theorem Step.early_cases (coherent : s.Coherent) (step : Step s action events next)
    (early : next.run.IsEarly) :
    s.run.IsEarly ∧ next.canceled = s.canceled ∧ ∀ log, .logged log ∉ events := by
  cases step with
  | started idle => exact ⟨.inl idle, rfl, fun _ => by simp⟩
  | stalled starting => exact ⟨.inr (.inl starting), rfl, fun _ => by simp⟩
  | entered | linedUp | left | delivered | modeSet | parentCanceled =>
    exact ⟨early, rfl, fun _ => by simp⟩
  | offered busy | taken busy | expired busy | quit busy | notEncoded busy | encoded busy
  | notSent busy | sent busy | sinkBroke busy =>
    exact absurd early (coherent.between (by simp [busy, WriterPhase.IsOver])).1
  | settled reading => simp [reading, RunPhase.IsEarly] at early
  | openingCanceled | refused | opened | readCanceled | unrecognized | unexpected | readEnded
  | sourceBroke | joined | swept | finished => simp [RunPhase.IsEarly] at early

/-- Nothing but the reader takes the last message of the peer out of the inbox. -/
theorem Driven.heard_step (driven : s.Driven) (step : Step s action events next) :
    ∀ call, next.call = some call →
      ∀ message ∈ call.inbox, message.isLast = true → call.isOver = true := by
  intro call called message waits last
  have taken {old : Call} {first : Incoming} {rest : List Incoming} (isCall : s.call = some old)
      (inbox : old.inbox = first :: rest) (waits : message ∈ rest) : old.isOver = true :=
    driven.heard old isCall message (inbox ▸ List.mem_cons_of_mem _ waits) last
  cases step with
  | opened => cases called; cases waits
  | unrecognized _ isCall inbox | unexpected _ isCall inbox | settled _ isCall inbox
  | readEnded _ isCall inbox | sourceBroke _ isCall inbox =>
    cases called
    have isOver := taken isCall inbox waits
    exact isOver
  | modeSet isCall =>
    cases called
    have isOver := driven.heard _ isCall message waits last
    exact isOver
  | @delivered posted old isCall =>
    cases called
    unfold Call.post at waits ⊢
    split
    case isTrue isOver => exact isOver
    case isFalse open' =>
      rw [if_neg open'] at waits
      obtain before | now := List.mem_append.mp waits
      · exact absurd (driven.heard _ isCall message before last) open'
      · exact List.mem_singleton.mp now ▸ last
  | _ => exact driven.heard call called message waits last

/-- While the reader is at work the last message of the peer waits for it. -/
theorem Driven.unheard_step (driven : s.Driven)
    (step : Step s action events next) (reading : next.run = .reading) :
    ∀ call, next.call = some call → call.isOver = true →
      ∃ message ∈ call.inbox, message.isLast = true := by
  intro call called isOver
  cases step with
  | opened => cases called; cases isOver
  | settled was isCall inbox =>
    cases called
    obtain ⟨message, waits, last⟩ := driven.unheard was _ isCall isOver
    rw [inbox] at waits
    obtain rfl | behind := List.mem_cons.mp waits
    · cases last
    · exact ⟨message, behind, last⟩
  | modeSet isCall =>
    cases called
    have waits := driven.unheard reading _ isCall isOver
    exact waits
  | @delivered posted old isCall =>
    cases called
    unfold Call.post at isOver ⊢
    split
    case isTrue was => exact driven.unheard reading _ isCall was
    case isFalse open' =>
      rw [if_neg open'] at isOver
      exact ⟨posted, List.mem_append_right _ (List.mem_singleton.mpr rfl), isOver⟩
  | started | openingCanceled | refused | stalled | readCanceled | unrecognized | unexpected
  | readEnded | sourceBroke | joined | swept | finished => cases reading
  | _ => exact driven.unheard reading call called isOver

theorem Driven.caused_step (driven : s.Driven) (coherent : s.Coherent) (accounted : s.Accounted)
    (step : Step s action events next) (ends : next.canceled = true ∨ next.run.HasPassed) :
    (next.record events).HasCause := by
  have lasts (cause : s.HasCause) : (next.record events).HasCause :=
    cause.step coherent driven step
  have asked (canceled : s.isCanceled = true) := lasts (driven.cause_of_isCanceled canceled)
  -- The reader meets an acknowledgment that the ledger does not bear out.
  have violated (violation : s.ledger.all Ledger.isAnswer events = false) :
      (next.record events).HasCause := by
    refine .violated ?_
    rw [step.record_history, Ledger.all_append, Bool.and_eq_false_iff]
    exact .inr violation
  cases step with
  | openingCanceled _ canceled | quit _ canceled | readCanceled _ _ _ canceled =>
    exact asked canceled
  | @refused env status starting =>
    have told : Event.logged (refusal status) ∈ s.history ++ [.logged (refusal status)] :=
      List.mem_append_right _ (List.mem_singleton.mpr rfl)
    exact .unopened (coherent.early (.inr (.inl starting))).2.2 told
  | notEncoded => exact .unencoded rfl
  | notSent => exact .unsent rfl
  | unrecognized _ _ _ absent =>
    exact violated (by simp [Ledger.all, Ledger.isAnswer, accounted.table, absent])
  | unexpected _ _ _ _ wrong => exact violated (by simp [Ledger.all, Ledger.isAnswer, wrong])
  | @readEnded env call message rest result _ called inbox last =>
    have isLast : message.isLast = true := by cases message <;> first | rfl | cases last
    have isOver := driven.heard call called message (inbox ▸ List.mem_cons_self) isLast
    exact .hungUp ⟨_, rfl, isOver⟩
  | @sourceBroke env call rest _ called inbox =>
    have isOver := driven.heard call called .brokeDown (inbox ▸ List.mem_cons_self) rfl
    exact .hungUp ⟨_, rfl, isOver⟩
  | joined phase | swept phase | finished phase =>
    exact lasts (driven.caused (.inr (by rw [phase]; trivial)))
  | started phase | stalled phase | opened phase =>
    obtain canceled | passed := ends
    · exact lasts (driven.caused (.inl canceled))
    · cases passed
  | _ => exact lasts (driven.caused ends)

theorem Driven.refused_step (driven : s.Driven) (coherent : s.Coherent)
    (step : Step s action events next) (uncalled : next.call = none) {status : Status}
    (refused : .logged (refusal status) ∈ s.history ++ events) :
    next.run = .finishing ∨ next.run = .done := by
  obtain earlier | now := List.mem_append.mp refused
  · have late := driven.refused (step.call_none uncalled) status earlier
    cases step with
    | started phase | refused phase | stalled phase | opened phase | readCanceled phase
    | unrecognized phase | unexpected phase | settled phase | readEnded phase | sourceBroke phase
    | joined phase | swept phase => simp [phase] at late
    | openingCanceled => exact .inl rfl
    | finished => exact .inr rfl
    | _ => exact late
  · exact .inl (step.refused_cases driven coherent uncalled now).1

theorem Driven.connected_step (driven : s.Driven) (coherent : s.Coherent)
    (step : Step s action events next) (begun : next.run ≠ .idle) :
    (next.record events).Connected := by
  by_cases idle : s.run = .idle
  · cases step with
    | started =>
      have absent := (coherent.early (.inl idle)).1
      exact ⟨nofun, fun present => absurd absent present, nofun⟩
    | openingCanceled early => simp [idle] at early
    | refused phase | stalled phase | opened phase | readCanceled phase | unrecognized phase
    | unexpected phase | settled phase | readEnded phase | sourceBroke phase | joined phase
    | swept phase | finished phase => rw [idle] at phase; cases phase
    | _ => exact absurd idle begun
  · exact (driven.connected idle).step step

theorem Driven.broke_step (driven : s.Driven) (step : Step s action events next) :
    next.run = .brokeDown ↔ .received .brokeDown ∈ (next.record events).history := by
  rw [step.record_history, List.mem_append, ← driven.broke]
  by_cases reads : ∃ env, action = .move .receive env
  · obtain ⟨env, rfl⟩ := reads
    cases step with
    | sourceBroke => simp
    | readCanceled reading | unrecognized reading | unexpected reading | settled reading =>
      simp [reading]
    | readEnded reading _ _ last =>
      rw [reading]
      refine ⟨nofun, fun broke => ?_⟩
      obtain wrong | now := broke
      · cases wrong
      · obtain rfl := Event.received.inj (List.mem_singleton.mp now)
        cases last
    | openingCanceled early => simp at early
  · have unread := step.not_received (fun env same => reads ⟨env, same⟩) .brokeDown
    rw [or_iff_left unread]
    cases step with
    | readCanceled | unrecognized | unexpected | settled | readEnded | sourceBroke =>
      exact absurd ⟨_, rfl⟩ reads
    | started phase | refused phase | stalled phase | opened phase | joined phase | swept phase
    | finished phase => simp [phase]
    | openingCanceled early =>
      obtain ⟨phase, -⟩ | ⟨phase, -⟩ := early
      · simp [phase]
      · simp [phase]
    | _ => exact Iff.rfl

/-- Every step keeps what is known about the reasons. -/
theorem Driven.step (driven : s.Driven) (sound : s.Sound) (step : Step s action events next) :
    (next.record events).Driven := by
  have coherent := sound.coherent
  refine ⟨fun begun => driven.connected_step coherent step begun, fun early => ?_,
    ?_, fun reading => ?_,
    fun ends => driven.caused_step coherent sound.accounted step ends,
    fun uncalled status refused => ?_, ?_, ?_, ?_, ?_⟩
  · obtain ⟨wasEarly, same, silent⟩ := step.early_cases coherent early
    obtain ⟨alive, unlogged⟩ := driven.early wasEarly
    refine ⟨same.trans alive, fun log isLogged => ?_⟩
    rw [step.record_history] at isLogged
    obtain earlier | now := List.mem_append.mp isLogged
    · exact unlogged log earlier
    · exact silent log now
  · have heard := driven.heard_step step
    exact heard
  · have waits := driven.unheard_step step reading
    exact waits
  · rw [step.record_history] at refused
    have late := driven.refused_step coherent step uncalled refused
    exact late
  · intro violation
    rw [step.record_history, Ledger.all_append, Bool.and_eq_false_iff] at violation
    obtain earlier | now := violation
    · exact step.stays_canceled (driven.violated earlier)
    · exact (step.violated_cases sound.accounted now).1
  · intro read joining
    cases step with
    | readCanceled | unrecognized | unexpected | readEnded | quit | notEncoded | notSent => rfl
    | started | openingCanceled | refused | stalled | opened | sourceBroke | joined | swept
    | finished => cases joining
    | _ => exact driven.joins read joining
  · intro error ended
    cases step with
    | quit | notEncoded | notSent => rfl
    | readCanceled | unrecognized | unexpected | readEnded | sourceBroke => rfl
    | opened | offered | taken | expired | encoded | sent | sinkBroke => cases ended
    | _ => exact driven.failed error ended
  · have broke := driven.broke_step step
    exact broke

/-! ### Nothing waits for a stream that has to end -/

/-- A stream that has to end can move until it has ended. -/
theorem Driven.exists_move (driven : s.Driven) (coherent : s.Coherent) (begun : s.run ≠ .idle)
    (cause : s.HasCause) (undone : s.run ≠ .done) (unbroken : s.run ≠ .brokeDown) (env : Surroundings) :
    ∃ move, (s.makeMove env move).isSome = true := by
  have connected := driven.connected begun
  have canceled (canceled : s.canceled = true) : ∃ move, (s.makeMove env move).isSome = true :=
    connected.exists_move (by rw [isCanceled, canceled, Bool.true_or]) undone unbroken env
  cases cause with
  | unopened uncalled refused =>
    have finishing := (driven.refused uncalled _ refused).resolve_right undone
    exact ⟨.finish, by simp [makeMove, finish, finishing]⟩
  | asked asked => exact connected.exists_move (by simp [isCanceled, asked]) undone unbroken env
  | violated violation => exact canceled (driven.violated violation)
  | unencoded ended | unsent ended => exact canceled (driven.failed _ ended)
  | hungUp hungUp =>
    obtain ⟨call, called, isOver⟩ := hungUp
    cases phase : s.run with
    | reading =>
      -- The reader has yet to hear that the peer has ended the call.
      obtain ⟨message, waits, -⟩ := driven.unheard phase call called isOver
      cases inbox : call.inbox with
      | nil => rw [inbox] at waits; cases waits
      | cons => exact ⟨.receive, by simp [makeMove, receive, phase, called, inbox]⟩
    | idle => exact absurd phase begun
    | done => exact absurd phase undone
    | brokeDown => exact absurd phase unbroken
    | starting => simp [(coherent.early (.inr (.inl phase))).2.2] at called
    | opening => simp [(coherent.early (.inr (.inr phase))).2.2] at called
    | sweeping => exact ⟨.sweep, by simp [makeMove, sweep, phase]⟩
    | finishing => exact ⟨.finish, by simp [makeMove, finish, phase]⟩
    | joining read => exact canceled (driven.joins read phase)

/-! ### A stream comes to rest -/

end Stream

/-- How many moves a writer has left until it waits. -/
def WriterPhase.effort : WriterPhase → Nat
  | .encoding .. => 4
  | .sending .. => 3
  | .offering => 2
  | .waiting => 1
  | .absent | .ended _ | .brokeDown => 0

def RunPhase.effort (arrived : Nat) : RunPhase → Nat
  | .starting => 8
  | .opening => 7
  | .reading => arrived + 4
  | .joining _ => 3
  | .sweeping => 2
  | .finishing => 1
  | .idle | .done | .brokeDown => 0

namespace Stream

/-- How many moves a stream has left at most, if nobody hands anything to it. -/
def effort (s : Stream) : Nat :=
  s.run.effort s.arrived + s.writer.effort + 4 * (s.queue.length + s.senders.length)

/-- Every move of a stream leaves fewer. -/
theorem Step.effort_lt (coherent : s.Coherent) (step : Step s (.move move env) events next) :
    (next.record events).effort < s.effort := by
  change next.effort < s.effort
  unfold effort
  cases step with
  -- the run
  | openingCanceled early =>
    obtain ⟨phase, -⟩ | ⟨phase, -⟩ := early
    · simp only [phase, RunPhase.effort]
      omega
    · simp only [phase, RunPhase.effort]
      omega
  | refused phase | stalled phase | joined phase | swept phase | finished phase
  | readCanceled phase | unrecognized phase | unexpected phase | readEnded phase
  | sourceBroke phase =>
    simp only [phase, RunPhase.effort]
    omega
  | opened starting =>
    have absent := (coherent.early (.inr (.inl starting))).1
    simp only [starting, absent, RunPhase.effort, WriterPhase.effort, arrived, Option.map_some,
      Option.getD_some, List.length_nil]
    omega
  | @settled env call ack rest ticket reading called inbox =>
    have fewer : s.arrived = rest.length + 1 := by simp [arrived, called, inbox]
    change s.run.effort rest.length + _ + _ < _
    rw [fewer, reading]
    simp only [RunPhase.effort]
    omega
  -- the writer
  | offered phase | expired phase | quit phase | notEncoded phase | encoded phase
  | notSent phase | sent phase | sinkBroke phase =>
    refine Nat.add_lt_add_right (Nat.add_lt_add_left ?_ _) _
    simp only [phase, WriterPhase.effort]
    omega
  | taken waiting queued =>
    rw [Nat.add_assoc, Nat.add_assoc]
    refine Nat.add_lt_add_left ?_ _
    simp only [waiting, queued, WriterPhase.effort, List.length_append, List.length_take,
      List.length_drop, List.length_cons]
    omega

end Stream

end TelemetryStreams
