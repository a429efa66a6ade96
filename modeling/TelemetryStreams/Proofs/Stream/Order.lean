import TelemetryStreams.Proofs.Stream.Outbox
import TelemetryStreams.Proofs.Stream.Runs
import Mathlib.Data.List.Perm.Basic

/-!
# The order of the batches

Items enter the queue in the order in which they were submitted, but for those that waited for room until
their callers gave up. They are taken in that order, the codec is called once for each, and what is sent
are the batches that it has made, in the same order. An item that could not be encoded or sent is the last
one. A writer that ends closes the send direction, once, and nothing is sent after that; one that breaks
down in a send closes nothing (`batches_are_in_order`).
-/
namespace TelemetryStreams

/-! ### What the codec makes -/

def Batch.bare (batch : Batch) : Batch := { batch with headers := [] }

/-- What a codec makes of items, one after the other. -/
def Codec.outcomes (codec : Codec) (items : List Item) : List (Except EncodeError Batch) :=
  (codec.encodeAll (items.map Item.records)).map fun turn => Codec.guarded turn.2

theorem Codec.bare_of_encode {codec : Codec} {records : Records} {batch : Batch}
    (works : Codec.guarded (codec.encode records).1 = .ok batch) : batch.bare = batch := by
  unfold Codec.encode Codec.guarded at works
  cases turn : codec.script.head?.getD .batch with
  | batch => simp only [turn] at works; cases works; rfl
  | refuse message => simp only [turn] at works; cases works
  | breakDown lastWords => simp only [turn] at works; cases works

theorem Codec.take_outcomes (codec : Codec) (items : List Item) (count : Nat) :
    (codec.outcomes items).take count = codec.outcomes (items.take count) := by
  induction items generalizing codec count with
  | nil => simp [outcomes, encodeAll]
  | cons item items ih =>
    cases count with
    | zero => rfl
    | succ count => exact congrArg (_ :: ·) (ih _ count)

theorem Codec.length_outcomes (codec : Codec) (items : List Item) :
    (codec.outcomes items).length = items.length := by
  induction items generalizing codec with
  | nil => rfl
  | cons item items ih => exact congrArg Nat.succ (ih _)

theorem Codec.outcomes_cons (codec : Codec) (item : Item) (items : List Item) :
    codec.outcomes (item :: items) = Codec.guarded (codec.encode item.records).1 ::
      (codec.encode item.records).2.outcomes items := rfl

theorem Bench.bare_batches (bench : Bench) (rows : List (Item × SendSpan)) :
    (bench.batches rows).map (Except.map Batch.bare) =
      bench.codec.outcomes (rows.map Prod.fst) := by
  induction rows generalizing bench with
  | nil => rfl
  | cons row rows ih =>
    rw [List.map_cons, Codec.outcomes_cons, batches, List.map_cons, ih]
    cases made : Codec.guarded (bench.codec.encode row.1.records).1 with
    | error failure =>
      rw [bench.write_of_error row made]
      rfl
    | ok batch =>
      rw [bench.write_of_ok row made]
      exact congrArg (Except.ok · :: _) (Codec.bare_of_encode made)

def Codec.after (codec : Codec) (items : List Item) : Codec :=
  items.foldl (fun codec item => (codec.encode item.records).2) codec

theorem Bench.codec_after (bench : Bench) (rows : List (Item × SendSpan)) :
    (bench.after rows).codec = bench.codec.after (rows.map Prod.fst) := by
  induction rows generalizing bench with
  | nil => rfl
  | cons row rows ih =>
    have codec : (bench.write row).2.codec = (bench.codec.encode row.1.records).2 := by
      unfold write
      simp only
      split <;> rfl
    rw [List.map_cons, Codec.after, List.foldl_cons, ← codec]
    exact ih _

/-! ### What the writer does -/

namespace Event

def enteredItems (events : List Event) : List Item :=
  events.filterMap fun
    | .entered item => some item
    | _ => none

/-- The calls of which the send direction was closed. -/
def closes (events : List Event) : List Nat :=
  events.filterMap fun
    | .closed call => some call
    | _ => none

variable {events more : List Event}

@[simp] theorem enteredItems_append (a b : List Event) :
    enteredItems (a ++ b) = enteredItems a ++ enteredItems b := List.filterMap_append

@[simp] theorem closes_append (a b : List Event) : closes (a ++ b) = closes a ++ closes b :=
  List.filterMap_append

theorem Reports.enteredItems (reports : Reports events) : enteredItems events = [] := by
  refine List.filterMap_eq_nil_iff.mpr fun event isEvent => ?_
  have report := reports event isEvent
  cases event <;> first | rfl | cases report

theorem closes_of_aside (aside : Aside events) : closes events = [] := by
  refine List.filterMap_eq_nil_iff.mpr fun event isEvent => ?_
  have report := aside event isEvent
  cases event <;> first | rfl | cases report

theorem enteredItems_takeEvents (s : Stream) (number : Nat) (item : Item) :
    enteredItems (s.takeEvents number item) = s.senders.take 1 := by
  have moved (items : List Item) : enteredItems (items.map .entered) = items := by
    simp [enteredItems, List.filterMap_map]
  unfold Stream.takeEvents
  rw [enteredItems_append, moved]
  split <;> rfl

end Event

/-- Whether the writer has come to its end without breaking down. -/
def WriterPhase.HasReturned : WriterPhase → Prop
  | .ended _ => True
  | _ => False

instance : DecidablePred WriterPhase.HasReturned
  | .ended _ => .isTrue trivial
  | .absent | .offering | .waiting | .encoding .. | .sending .. | .brokeDown => .isFalse id

/-- How many items were taken beyond those whose batches were sent. -/
def WriterPhase.surplus : WriterPhase → Nat
  | .absent | .offering | .waiting | .ended (.ok _) | .ended (.error .canceled) => 0
  | .encoding .. | .sending .. | .ended (.error _) | .brokeDown => 1

/-- What was written is what was sent, and at most one batch or failure more: a batch that is being sent
or with which the writer has ended, or the failure with which it has. -/
theorem WriterPhase.Leaves.outcome {writer : WriterPhase} {sent : List Batch}
    {results : List (Except EncodeError Batch)} (leaves : writer.Leaves sent results) :
    (results = sent.map .ok ∧ writer.surplus = writer.row?.toList.length) ∨
    (∃ batch, results = sent.map .ok ++ [.ok batch] ∧ writer.surplus = 1 ∧ writer.row? = none ∧
      ((∃ span, writer = .sending batch span) ∨ writer.HasEnded)) ∨
    ∃ failure, results = sent.map .ok ++ [.error failure] ∧ writer.surplus = 1 ∧
      writer.row? = none := by
  have one {batch : Batch} (same : results = (sent ++ [batch]).map .ok) :
      results = sent.map .ok ++ [.ok batch] := same.trans List.map_append
  cases writer with
  | absent | offering | waiting | encoding => exact .inl ⟨leaves, rfl⟩
  | sending batch span => exact .inr (.inl ⟨batch, one leaves, rfl, rfl, .inl ⟨span, rfl⟩⟩)
  | brokeDown =>
    obtain ⟨batch, same⟩ := leaves
    exact .inr (.inl ⟨batch, one same, rfl, rfl, .inr trivial⟩)
  | ended result =>
    cases result with
    | ok => exact .inl ⟨leaves, rfl⟩
    | error error =>
      cases error with
      | canceled => exact .inl ⟨leaves, rfl⟩
      | encode failure => exact .inr (.inr ⟨failure, leaves, rfl, rfl⟩)
      | _ =>
        obtain ⟨batch, same⟩ := leaves
        exact .inr (.inl ⟨batch, one same, rfl, rfl, .inr trivial⟩)

theorem WriterPhase.Leaves.exists_more {writer : WriterPhase} {sent : List Batch}
    {results : List (Except EncodeError Batch)} (leaves : writer.Leaves sent results) :
    ∃ more, results = sent.map .ok ++ more ∧
      more.length + writer.row?.toList.length = writer.surplus := by
  obtain ⟨all, count⟩ | ⟨batch, last, count, none, -⟩ | ⟨failure, last, count, none⟩ := leaves.outcome
  · exact ⟨[], all.trans (List.append_nil _).symm, by rw [count, List.length_nil, Nat.zero_add]⟩
  · exact ⟨[.ok batch], last, by rw [count, none]; rfl⟩
  · exact ⟨[.error failure], last, by rw [count, none]; rfl⟩

namespace Stream

variable {s t next : Stream} {action : Action} {events : List Event}

/-- What has entered the queue was taken, or is still there. -/
def Queued (s : Stream) : Prop :=
  Event.enteredItems s.history = Event.takenItems s.history ++ s.queue

theorem Step.entered_cases (step : Step s action events next) :
    (∃ env item queue, action = .move .take env ∧ s.queue = item :: queue ∧
      Event.takenItems events = [item] ∧ Event.enteredItems events = s.senders.take 1 ∧
      next.queue = queue ++ s.senders.take 1) ∨
    (∃ item, action = .submit item ∧ s.queue = [] ∧ Event.takenItems events = [] ∧
      Event.enteredItems events = [item] ∧ next.queue = [item]) ∨
    Event.takenItems events = [] ∧ Event.enteredItems events = [] ∧ next.queue = s.queue := by
  by_cases takes : ∃ env, action = .move .take env
  · obtain ⟨env, rfl⟩ := takes
    cases step with
    | @taken env item queue waiting queued =>
      have taken : Event.takenItems (.taken item :: s.takeEvents env.nextSpan item) = [item] :=
        congrArg (item :: ·) (Event.takenItems_takeEvents s env.nextSpan item)
      have entered := Event.enteredItems_takeEvents s env.nextSpan item
      exact .inl ⟨env, item, queue, rfl, queued, taken, entered, rfl⟩
    | openingCanceled early => simp at early
  · have untaken := step.takenItems_eq_nil fun env same => takes ⟨env, same⟩
    cases step with
    | taken => exact absurd ⟨_, rfl⟩ takes
    | entered empty => exact .inr (.inl ⟨_, rfl, empty, rfl, rfl, rfl⟩)
    | @notEncoded env item span failure =>
      have logged := (Event.reports_encodeLog failure).enteredItems
      have ended := (Event.reports_spanEnds s span (some (Error.encode failure).message)).enteredItems
      refine .inr (.inr ⟨untaken, ?_, rfl⟩)
      rw [Event.enteredItems_append, Event.enteredItems_append, Event.enteredItems_append, logged,
        ended]
      rfl
    | @encoded env item span batch =>
      have displaced := (Event.reports_displacement s.inFlight batch.id).enteredItems
      refine .inr (.inr ⟨untaken, ?_, rfl⟩)
      rw [Event.enteredItems_append, (Event.reports_measurement s item).enteredItems,
        List.append_nil]
      exact displaced
    | @notSent env batch span call status =>
      refine .inr (.inr ⟨untaken, ?_, rfl⟩)
      rw [Event.enteredItems_append, (Event.reports_spanEnds s span _).enteredItems]
      rfl
    | @sent env batch span =>
      have ended := (Event.reports_spanEnds s span none).enteredItems
      exact .inr (.inr ⟨untaken, ended, rfl⟩)
    | joined => exact .inr (.inr ⟨untaken, (Event.reports_endLogs _ _).enteredItems, rfl⟩)
    | swept => exact .inr (.inr ⟨untaken, (Event.reports_release _).enteredItems, rfl⟩)
    | _ => exact .inr (.inr ⟨untaken, rfl, rfl⟩)

theorem Queued.step (queued : s.Queued) (step : Step s action events next) :
    (next.record events).Queued := by
  unfold Queued at queued ⊢
  rw [step.record_history, Event.enteredItems_append, Event.takenItems_append, queued]
  change _ = _ ++ next.queue
  obtain ⟨env, item, queue, -, full, taken, entered, queue'⟩ |
    ⟨item, -, empty, taken, entered, queue'⟩ | ⟨taken, entered, queue'⟩ := step.entered_cases
  · rw [taken, entered, queue', full]
    simp
  · rw [taken, entered, queue', empty]
  · rw [taken, entered, queue']
    simp

/-! ### The end of the writer -/

/-- The send direction was closed if the writer has come to its end, and once then. -/
def ClosedOnce (s : Stream) : Prop :=
  Event.closes s.history = if s.writer.HasReturned then [s.callNumber] else []

theorem ClosedOnce.open (closed : s.ClosedOnce) (step : Step s action events next)
    (silent : Event.closes events = []) (same : next.writer.HasReturned ↔ s.writer.HasReturned)
    (call : s.writer.HasReturned → next.callNumber = s.callNumber) :
    (next.record events).ClosedOnce := by
  unfold ClosedOnce at closed ⊢
  rw [step.record_history, Event.closes_append, closed, silent, List.append_nil]
  change _ = if next.writer.HasReturned then [next.callNumber] else []
  by_cases returned : s.writer.HasReturned
  · rw [if_pos returned, if_pos (same.mpr returned), call returned]
  · rw [if_neg returned, if_neg fun later => returned (same.mp later)]

/-- A step by which the writer comes to its end. -/
theorem ClosedOnce.close (before : List Event) (closed : s.ClosedOnce)
    (step : Step s action (before ++ [.closed s.callNumber]) next)
    (silent : Event.closes before = []) (works : ¬ s.writer.HasReturned)
    (returned : next.writer.HasReturned) (call : next.callNumber = s.callNumber) :
    (next.record (before ++ [.closed s.callNumber])).ClosedOnce := by
  unfold ClosedOnce at closed ⊢
  rw [step.record_history, Event.closes_append, closed, if_neg works, Event.closes_append, silent]
  change _ = if next.writer.HasReturned then [next.callNumber] else []
  rw [if_pos returned, call]
  rfl

theorem ClosedOnce.step (closed : s.ClosedOnce) (coherent : s.Coherent)
    (step : Step s action events next) : (next.record events).ClosedOnce := by
  have made := step
  have call {number : Nat} {call : Call} (called : s.call = some call) (same : call.number = number) :
      number = s.callNumber := by
    simp [callNumber, called, same]
  cases step with
  | opened starting =>
    have absent := (coherent.early (.inr (.inl starting))).1
    exact closed.open made rfl (by simp [absent, WriterPhase.HasReturned])
      fun returned => by rw [absent] at returned; cases returned
  | offered busy | sinkBroke busy =>
    exact closed.open made rfl (by simp [busy, WriterPhase.HasReturned]) fun _ => rfl
  | @taken env item queue busy =>
    have silent := Event.closes_of_aside (Event.aside_takeEvents s env.nextSpan item)
    exact closed.open made silent (by simp [busy, WriterPhase.HasReturned]) fun _ => rfl
  | @encoded env item span batch busy =>
    have silent := Event.closes_of_aside (Event.reports_displacement s.inFlight batch.id).aside
    refine closed.open made ?_ (by simp [busy, WriterPhase.HasReturned]) fun _ => rfl
    rw [Event.closes_append, Event.closes_of_aside (Event.reports_measurement s item).aside,
      List.append_nil]
    exact silent
  | @sent env batch span _ busy =>
    have silent := Event.closes_of_aside (Event.reports_spanEnds s span none).aside
    exact closed.open made silent (by simp [busy, WriterPhase.HasReturned]) fun _ => rfl
  | expired busy =>
    exact closed.close [_, _] made rfl (by simp [busy, WriterPhase.HasReturned]) trivial rfl
  | quit busy =>
    exact closed.close [_] made rfl (by simp [busy, WriterPhase.HasReturned]) trivial rfl
  | @notEncoded env item span failure busy =>
    refine closed.close _ made ?_ (by simp [busy, WriterPhase.HasReturned]) trivial rfl
    simp only [Event.closes_append, Event.closes_of_aside (Event.reports_encodeLog failure).aside,
      Event.closes_of_aside (Event.reports_spanEnds s span _).aside]
    rfl
  | @notSent env batch span _ status busy =>
    have silent := Event.closes_of_aside (Event.reports_spanEnds s span (some status.text)).aside
    exact closed.close _ made silent (by simp [busy, WriterPhase.HasReturned]) trivial rfl
  | unrecognized _ called | unexpected _ called | settled _ called | sourceBroke _ called
  | modeSet called =>
    exact closed.open made rfl Iff.rfl fun _ => call called rfl
  | readEnded _ called => exact closed.open made rfl Iff.rfl fun _ => call called rfl
  | @delivered message other called =>
    refine closed.open made rfl Iff.rfl fun _ => call called ?_
    unfold Call.post
    split <;> rfl
  | joined =>
    exact closed.open made (Event.closes_of_aside (Event.reports_endLogs _ _).aside) Iff.rfl
      fun _ => rfl
  | swept =>
    exact closed.open made (Event.closes_of_aside (Event.reports_release _).aside) Iff.rfl
      fun _ => rfl
  | _ => exact closed.open made rfl Iff.rfl fun _ => rfl

def Manned (s : Stream) : Prop := s.writer = .absent → s.call = none

theorem Manned.step (manned : s.Manned) (step : Step s action events next) :
    (next.record events).Manned := by
  have none {call : Call} (called : s.call = some call) : s.writer ≠ .absent := fun absent => by
    rw [manned absent] at called
    cases called
  intro absent
  cases step with
  | opened | offered | taken | expired | quit | notEncoded | encoded | notSent | sent | sinkBroke =>
    cases absent
  | unrecognized _ called | unexpected _ called | settled _ called | readEnded _ called
  | sourceBroke _ called | delivered called | modeSet called => exact absurd absent (none called)
  | _ => exact manned absent

/-- Once the writer has come to its end no item moves on, and nothing is closed. -/
theorem Step.still_of_hasEnded (step : Step s action events next) (ended : s.writer.HasEnded) :
    Event.Still events ∧ Event.closes events = [] := by
  cases step with
  | offered busy | taken busy | expired busy | quit busy | notEncoded busy | encoded busy
  | notSent busy | sent busy | sinkBroke busy => rw [busy] at ended; cases ended
  | joined =>
    have reports := Event.reports_endLogs
    exact ⟨(reports _ _).still, Event.closes_of_aside (reports _ _).aside⟩
  | swept =>
    have reports := Event.reports_release
    exact ⟨(reports _).still, Event.closes_of_aside (reports _).aside⟩
  | _ => simp [Event.Still, Event.isTransit, Event.closes]

/-! ### Runs -/

def follow (s : Stream) : List Action → Option Stream
  | [] => some s
  | action :: actions => (s.perform action).bind fun t => t.follow actions

theorem follow_cons {actions : List Action} (follows : s.follow (action :: actions) = some t) :
    ∃ events next, Step s action events next ∧ (next.record events).follow actions = some t := by
  obtain ⟨middle, made, follows⟩ := Option.bind_eq_some_iff.mp follows
  obtain ⟨outcome, steps, rfl⟩ := Option.map_eq_some_iff.mp made
  exact ⟨_, _, step_cases steps, follows⟩

theorem follow_induction {P : Stream → Prop}
    (step : ∀ s action events next, P s → Step s action events next → P (next.record events))
    {actions : List Action} (follows : s.follow actions = some t) (holds : P s) : P t := by
  induction actions generalizing s with
  | nil =>
    cases follows
    exact holds
  | cons action actions ih =>
    obtain ⟨events, next, made, follows⟩ := follow_cons follows
    exact ih follows (step s action events next holds made)

def Action.submission? : Action → Option Item
  | .submit item => some item
  | _ => none

def submissions (actions : List Action) : List Item := actions.filterMap Action.submission?

/-- The items that a caller takes away when it leaves: those that wait for room. -/
def withdrawals (s : Stream) : Action → List Item
  | .leave ticket => s.senders.filter (·.ticket = ticket)
  | _ => []

/-- The items that are taken away along a run. -/
def givenUp (s : Stream) : List Action → List Item
  | [] => []
  | action :: actions =>
    s.withdrawals action ++ ((s.perform action).map fun t => t.givenUp actions).getD []

/-- What a step does to the line of the items. -/
theorem Step.items_cases (step : Step s action events next) (lined : s.Lined) :
    (next.record events).items.Sublist (s.items ++ action.submission?.toList) ∧
      (s.items ++ action.submission?.toList).Perm
        ((next.record events).items ++ s.withdrawals action) := by
  cases action with
  | submit item =>
    rw [step.items_submit lined]
    exact ⟨List.Sublist.refl _, by simp [Action.submission?, withdrawals]⟩
  | leave ticket =>
    rw [step.items_leave]
    have parts := List.filter_append_perm (fun item : Item => item.ticket ≠ ticket) s.senders
    simp only [Action.submission?, withdrawals, Option.toList_none, List.append_nil, items]
    refine ⟨List.Sublist.append_left List.filter_sublist _, ?_⟩
    rw [List.append_assoc _ (s.senders.filter _)]
    refine List.Perm.append_left _ ?_
    simpa using parts.symm
  | _ =>
    rw [step.items_eq (by simp) (by simp)]
    simp [Action.submission?, withdrawals]

/-- Along a run the line grows by the submissions, and loses what is taken away. -/
theorem items_follow {actions : List Action} (sound : s.Sound) (follows : s.follow actions = some t) :
    t.items.Sublist (s.items ++ submissions actions) ∧
      (s.items ++ submissions actions).Perm (t.items ++ s.givenUp actions) := by
  induction actions generalizing s with
  | nil =>
    cases follows
    simp [submissions, givenUp]
  | cons action actions ih =>
    obtain ⟨events, next, step, follows⟩ := follow_cons follows
    obtain ⟨kept, lost⟩ := step.items_cases sound.lined
    obtain ⟨sublist, perm⟩ := ih (sound.step step) follows
    have performed : s.perform action = some (next.record events) :=
      congrArg (Option.map _) step.isStep
    have first : submissions (action :: actions) =
        action.submission?.toList ++ submissions actions := by
      unfold submissions
      rw [List.filterMap_cons]
      cases action.submission? <;> rfl
    rw [first, givenUp, performed, Option.map_some, Option.getD_some, ← List.append_assoc]
    refine ⟨sublist.trans (kept.append_right _), (lost.append_right _).trans ?_⟩
    rw [List.append_assoc]
    refine (List.Perm.append_left _ List.perm_append_comm).trans ?_
    rw [← List.append_assoc]
    refine (perm.append_right _).trans ?_
    rw [List.append_assoc]
    exact List.Perm.append_left _ List.perm_append_comm

def Action.isEncode : Action → Bool
  | .move .encode _ => true
  | _ => false

theorem Step.calls (step : Step s action events next) (coherent : s.Coherent) :
    (Event.takenItems events).length + s.writer.row?.toList.length =
      [action].countP Action.isEncode + next.writer.row?.toList.length := by
  by_cases takes : ∃ env, action = .move .take env
  · obtain ⟨env, rfl⟩ := takes
    cases step with
    | @taken env item queue waiting queued =>
      have taken := Event.takenItems_takeEvents s env.nextSpan item
      have one : Event.takenItems (.taken item :: s.takeEvents env.nextSpan item) = [item] :=
        congrArg (item :: ·) taken
      rw [one, waiting]
      rfl
    | openingCanceled early => simp at early
  · rw [step.takenItems_eq_nil fun env same => takes ⟨env, same⟩]
    cases step with
    | taken => exact absurd ⟨_, rfl⟩ takes
    | opened starting =>
      rw [(coherent.early (.inr (.inl starting))).1]
      rfl
    | offered busy | expired busy | quit busy | notEncoded busy | encoded busy | notSent busy
    | sent busy | sinkBroke busy => rw [busy]; rfl
    | openingCanceled early =>
      obtain ⟨-, rfl⟩ | ⟨-, rfl⟩ := early
      · simp [Action.isEncode]
      · simp [Action.isEncode]
    | left => simp [Action.isEncode, leave]
    | _ => simp [Action.isEncode]

/-- The codec is called once for each item that was taken, but for one with which the writer is about
to. -/
theorem calls_follow {actions : List Action} (coherent : s.Coherent)
    (follows : s.follow actions = some t) :
    (Event.takenItems t.history).length + s.writer.row?.toList.length =
      (Event.takenItems s.history).length + actions.countP Action.isEncode +
        t.writer.row?.toList.length := by
  induction actions generalizing s with
  | nil =>
    cases follows
    rfl
  | cons action actions ih =>
    obtain ⟨events, next, step, follows⟩ := follow_cons follows
    have later := ih ((coherent.step step).record events) follows
    have now := step.calls coherent
    rw [step.record_history, Event.takenItems_append, List.length_append] at later
    change _ + next.writer.row?.toList.length = _ at later
    rw [← List.singleton_append, List.countP_append]
    omega

/-! ### What a run puts on the wire -/

/-- What a run has put on the wire. -/
structure Carries (o : Stream) (actions : List Action) (s : Stream) : Prop where
  /-- Items have entered the queue, and wait for room, in the order in which they were submitted. -/
  ordered : (Event.enteredItems s.history ++ s.senders).Sublist (submissions actions)
  /-- An item that has not entered waits for room, or its caller gave up while it did. -/
  complete : (submissions actions).Perm
    (Event.enteredItems s.history ++ s.senders ++ o.givenUp actions)
  /-- The items that were taken are the first ones that entered: as many as were sent, and one more if
  the writer has an item at hand, or has failed with it. -/
  taken : (Event.sentBatches s.history).length + s.writer.surplus ≤
      (Event.enteredItems s.history).length ∧
    Event.takenItems s.history = (Event.enteredItems s.history).take
      ((Event.sentBatches s.history).length + s.writer.surplus)
  /-- The batches that were sent are what the codec made of the first items, with header blocks. -/
  sent : (Event.sentBatches s.history).map (fun batch => .ok batch.bare) =
    o.codec.outcomes ((Event.enteredItems s.history).take (Event.sentBatches s.history).length)
  /-- A writer that has ended because the codec failed has failed with the last item. -/
  refused : ∀ failure, s.writer = .ended (.error (.encode failure)) →
    o.codec.outcomes (Event.takenItems s.history) =
      (Event.sentBatches s.history).map (fun batch => .ok batch.bare) ++ [.error failure]
  /-- The codec was called once for each item that was taken, unless the writer is about to. -/
  calls : actions.countP Action.isEncode + s.writer.row?.toList.length =
    (Event.takenItems s.history).length
  /-- It was called for these items in order, and for nothing else. -/
  codec : s.codec =
    o.codec.after ((Event.takenItems s.history).take (actions.countP Action.isEncode))
  /-- The send direction was closed if the writer has come to its end, and once then. -/
  closed : Event.closes s.history = if s.writer.HasReturned then [s.callNumber] else []
  /-- A stream with a call is not done before its writer has ended or broken down. -/
  ending : s.run = .done → s.call ≠ none → s.writer.HasEnded
  /-- A writer that has ended or broken down takes, sends and closes nothing more. -/
  final : s.writer.HasEnded → ∀ more t, s.follow more = some t →
    Event.takenItems t.history = Event.takenItems s.history ∧
    Event.sentBatches t.history = Event.sentBatches s.history ∧
    Event.closes t.history = Event.closes s.history

/-- All that is kept about the wire. -/
structure Wired (first : Bench) (s : Stream) : Prop where
  sound : s.Sound
  queued : s.Queued
  faithful : s.Faithful first
  closed : s.ClosedOnce
  manned : s.Manned

theorem Fresh.wired (fresh : s.Fresh) : s.Wired s.bench := by
  refine ⟨fresh.sound, ?_, fresh.faithful, ?_, fun _ => fresh.call⟩
  · simp [Queued, fresh.history, fresh.queue, Event.enteredItems, Event.takenItems]
  · simp [ClosedOnce, fresh.history, fresh.writer, Event.closes, WriterPhase.HasReturned]

theorem Wired.step {first : Bench} (wired : s.Wired first) (step : Step s action events next) :
    (next.record events).Wired first where
  sound := wired.sound.step step
  queued := wired.queued.step step
  faithful := wired.faithful.step wired.sound.coherent step
  closed := wired.closed.step wired.sound.coherent step
  manned := wired.manned.step step

theorem becomes_follow {actions : List Action} (follows : s.follow actions = some t) :
    Becomes s t :=
  follow_induction (P := Becomes s) (fun _ _ _ _ becomes step => .step becomes step) follows .refl

/-- Once the writer has come to its end, what is on the wire stays as it is, and so do the items that were
taken. -/
theorem Becomes.silent (becomes : Becomes s t) (sound : s.Sound) (ended : s.writer.HasEnded) :
    t.writer.HasEnded ∧ Event.handled t.history = Event.handled s.history ∧
      Event.sentBatches t.history = Event.sentBatches s.history ∧
      Event.closes t.history = Event.closes s.history := by
  induction becomes with
  | refl => exact ⟨ended, rfl, rfl, rfl⟩
  | step earlier step ih =>
    obtain ⟨ended, handled, sent, closed⟩ := ih
    obtain ⟨still, unclosed⟩ := step.still_of_hasEnded ended
    have ended := (earlier.sound sound).coherent.hasEnded_step ended step
    refine ⟨ended, ?_, ?_, ?_⟩
    · rw [step.record_history, Event.handled_append, still.foldl_pickUp, handled]
    · rw [step.record_history, Event.sentBatches_append, still.sentBatches, List.append_nil, sent]
    · rw [step.record_history, Event.closes_append, unclosed, List.append_nil, closed]

/-- Of the items that were taken all were sent, but for one that the writer has at hand or has ended
with. -/
theorem Faithful.length_handled {first : Bench} (faithful : s.Faithful first) :
    (Event.handled s.history).length =
      (Event.sentBatches s.history).length + s.writer.surplus := by
  obtain ⟨done, handled, -, -, leaves⟩ := faithful
  obtain ⟨more, results, size⟩ := leaves.exists_more
  have count := congrArg List.length results
  rw [Bench.length_batches, List.length_append, List.length_map] at count
  rw [handled, List.length_append]
  omega

theorem Faithful.exists_written {first : Bench} (faithful : s.Faithful first) :
    ∃ items more, Event.takenItems s.history = items ++ s.writer.row?.toList.map Prod.fst ∧
      s.codec = first.codec.after items ∧
      first.codec.outcomes items =
        (Event.sentBatches s.history).map (fun batch => .ok batch.bare) ++
          more.map (Except.map Batch.bare) ∧
      s.writer.Leaves (Event.sentBatches s.history)
        ((Event.sentBatches s.history).map .ok ++ more) := by
  obtain ⟨done, handled, after, -, leaves⟩ := faithful
  obtain ⟨more, results, -⟩ := leaves.exists_more
  have taken : Event.takenItems s.history =
      done.map Prod.fst ++ s.writer.row?.toList.map Prod.fst := by
    rw [← Event.map_fst_handled, handled, List.map_append]
  have codec : s.codec = first.codec.after (done.map Prod.fst) := by
    rw [← Bench.codec_after, after]
    rfl
  refine ⟨done.map Prod.fst, more, taken, codec, ?_, results ▸ leaves⟩
  rw [← Bench.bare_batches, results, List.map_append, List.map_map]
  rfl

/-- What a stream sends are the batches of the items that were submitted, in order and each at most
once, and nothing after the end of its writer. -/
theorem batches_are_in_order {o : Stream} {actions : List Action} (fresh : o.Fresh)
    (follows : o.follow actions = some s) : o.Carries actions s := by
  have wired : s.Wired o.bench :=
    follow_induction (P := Wired o.bench) (fun _ _ _ _ wired step => wired.step step) follows
      fresh.wired
  obtain ⟨items, more, taken, codec, outcomes, leaves⟩ := wired.faithful.exists_written
  have count : (Event.takenItems s.history).length =
      (Event.sentBatches s.history).length + s.writer.surplus := by
    rw [← Event.map_fst_handled, List.length_map, wired.faithful.length_handled]
  have size := congrArg List.length outcomes
  rw [Codec.length_outcomes, List.length_append, List.length_map, List.length_map] at size
  have entered := wired.queued
  unfold Queued at entered
  have line : s.items = Event.enteredItems s.history ++ s.senders := by
    rw [entered]
    rfl
  obtain ⟨sublist, perm⟩ := items_follow fresh.sound follows
  rw [fresh.items, List.nil_append, line] at sublist perm
  have calls : actions.countP Action.isEncode + s.writer.row?.toList.length =
      (Event.takenItems s.history).length := by
    have calls := calls_follow fresh.coherent follows
    rw [fresh.history, fresh.writer] at calls
    simpa [Event.takenItems, WriterPhase.row?] using calls.symm
  refine ⟨sublist, perm, ⟨?_, ?_⟩, ?_, ?_, calls, ?_, wired.closed, ?_, ?_⟩
  · rw [entered, List.length_append]
    omega
  · rw [← count, entered, List.take_left]
  · have first : (Event.enteredItems s.history).take (Event.sentBatches s.history).length =
        items.take (Event.sentBatches s.history).length := by
      rw [entered, taken, List.append_assoc, List.take_append_of_le_length (by omega)]
    rw [first, ← Codec.take_outcomes]
    change _ = (o.bench.codec.outcomes items).take _
    rw [outcomes, List.take_left' (List.length_map _)]
  · intro failure ended
    rw [ended] at leaves taken
    obtain rfl : more = [.error failure] := List.append_cancel_left leaves
    rw [taken]
    exact (congrArg o.codec.outcomes (List.append_nil items)).trans outcomes
  · have encoded : actions.countP Action.isEncode = items.length := by
      rw [taken, List.length_append, List.length_map] at calls
      omega
    rw [encoded, taken, List.take_left]
    exact codec
  · intro done called
    have isOver := wired.sound.coherent.late (.inr (.inr done))
    cases writer : s.writer with
    | absent => exact absurd (wired.manned writer) called
    | ended | brokeDown => trivial
    | offering | waiting | encoding | sending =>
      rw [writer] at isOver
      exact isOver.elim
  · intro ended more t continues
    obtain ⟨-, handled, sent, closed⟩ := (becomes_follow continues).silent wired.sound ended
    rw [← Event.map_fst_handled, handled, Event.map_fst_handled]
    exact ⟨rfl, sent, closed⟩

/-- Four callers hand over items, of which the third gives up while it waits for room, and the codec
refuses the item of the fourth. -/
def fourSubmissions : List Action :=
  let item (ticket : Nat) : Item := ⟨ticket, .traces [], none, 0, none⟩
  let turn : List Action := [.move .offer {}, .move .take {}, .move .encode {}]
  [.start, .move .establish {}, .submit (item 0), .submit (item 1), .submit (item 2),
    .submit (item 3), .leave 2] ++ turn ++ [.move .send {}] ++ turn ++ [.move .send {}] ++ turn

def choosy : Stream := { codec := .ofScript [5, 3] [.batch, .batch, .refuse "bad column"] }

theorem batches_are_in_order_refused :
    ∃ s, choosy.follow fourSubmissions = some s ∧ choosy.Carries fourSubmissions s ∧
      (Event.sentBatches s.history).map Batch.id = [5, 3] ∧
      (Event.takenItems s.history).map Item.ticket = [0, 1, 3] ∧
      (choosy.givenUp fourSubmissions).map Item.ticket = [2] ∧ Event.closes s.history = [0] := by
  have facts : (choosy.follow fourSubmissions).map (fun s =>
      ((Event.sentBatches s.history).map Batch.id, (Event.takenItems s.history).map Item.ticket,
        (choosy.givenUp fourSubmissions).map Item.ticket, Event.closes s.history)) =
      some ([5, 3], [0, 1, 3], [2], [0]) := by decide +kernel
  obtain ⟨s, follows, facts⟩ := Option.map_eq_some_iff.mp facts
  simp only [Prod.mk.injEq] at facts
  have fresh : choosy.Fresh := ⟨rfl, rfl, rfl, rfl, rfl, rfl, rfl, rfl⟩
  exact ⟨s, follows, batches_are_in_order fresh follows, facts⟩

def brokenRun : List Action :=
  [.start, .move .establish {}, .move .offer {}, .submit ⟨0, .traces [], none, 0, none⟩,
    .move .take {}, .move .encode {}, .setMode .breakDown, .move .send {}, .cancelParent,
    .move .receive {}, .move .join {}, .move .sweep {}, .move .finish {}]

/-- A stream whose send has broken down never closes the send direction. -/
theorem broken_send_closes_nothing :
    ∃ s, ({} : Stream).follow brokenRun = some s ∧ s.run = .done ∧ s.established = true ∧
      s.call.isSome = true ∧ s.writer.HasEnded ∧ Event.closes s.history = [] := by
  have facts : (({} : Stream).follow brokenRun).map (fun s => (s.run, s.established, s.call.isSome,
      decide s.writer.HasEnded, Event.closes s.history)) = some (.done, true, true, true, []) := by
    decide +kernel
  obtain ⟨s, follows, facts⟩ := Option.map_eq_some_iff.mp facts
  simp only [Prod.mk.injEq, decide_eq_true_eq] at facts
  exact ⟨s, follows, facts⟩

end Stream

end TelemetryStreams
