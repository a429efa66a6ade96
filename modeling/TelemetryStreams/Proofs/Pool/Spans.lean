import TelemetryStreams.Proofs.Pool.Prompts
import TelemetryStreams.Proofs.Pool.Sizes
import TelemetryStreams.Proofs.Stream.Spans

/-!
# Spans match what is taken

Each item that a stream takes gets one span, which belongs to the span that the caller of this item has
named, and which ends before the next item is taken (`spans_match_items`). The pool numbers the spans of
all its streams, so those of one stream have ascending numbers (`Ascends`).
-/
namespace TelemetryStreams

namespace Pool

variable {p q : Pool} {stream : Nat} {s t : Stream} {sent : List Passage} {last : Option Passage}

theorem Reachable.recorded (reachable : Reachable p) (traced : p.setup.telemetry.traced = true)
    (isStream : p.streams[stream]? = some s) : s.telemetry.traced = true := by
  have same : s.telemetry = p.setup.telemetry :=
    reachable.eachAt (P := fun setup _ s => s.telemetry = setup.telemetry) (fun _ => rfl)
      (fun setup place s action events next _ same step => step.telemetry.trans same) isStream
  rw [same, traced]

/-! ### Numbers -/

theorem spans_afterMove (p : Pool) (stream : Nat) (next : Stream) (events : List Event) :
    (p.afterMove stream next events).spans = p.spans + (Event.spanNumbers events).length := by
  have counts (events : List Event) (q : Pool) :
      (events.foldl (fun p event => p.notice stream event) q).spans =
        q.spans + (Event.spanNumbers events).length := by
    induction events generalizing q with
    | nil => rfl
    | cons event events ih =>
      rw [List.foldl_cons, ih]
      cases event with
      | spanStarted span => exact (Nat.add_assoc ..).trans (congrArg (q.spans + ·) (Nat.add_comm ..))
      | _ => rfl
  exact counts events _

theorem spans_endIfAbandoned (p : Pool) : p.endIfAbandoned.spans = p.spans :=
  view_endIfAbandoned Pool.spans (fun _ => rfl) p

theorem Acts.spans {caller : Nat} {c : Caller} (acts : Acts p caller c q) : q.spans = p.spans := by
  cases acts <;> rfl

theorem Proceeds.spans {controller : Nat} (proceeds : Proceeds p controller q) :
    q.spans = p.spans := by
  cases proceeds with
  | givesUp =>
    unfold giveUp
    dsimp only
    split <;> rfl
  | stops | starts | resumes | retires | breaks => rfl

/-- The count of spans grows when a stream moves, by those that it starts then. -/
theorem spans_moved {move : Move} (made : p.perform (.stream stream move) = some q)
    (isStream : p.streams[stream]? = some s) :
    ∃ events, q.streams[stream]?.map Stream.history = some (s.history ++ events) ∧
      q.spans = p.spans + (Event.spanNumbers events).length := by
  cases perform_turn made with
  | @moved stream _ move next events attempts isMover step =>
    obtain rfl := Option.some.inj (isMover.symm.trans isStream)
    refine ⟨events, ?_, spans_afterMove ..⟩
    change (p.afterMove stream next events).streams[stream]?.map Stream.history = _
    rw [afterMove_streams, getElem?_set_self isStream, Option.map_some, step.record_history]
  | acts own => cases own

theorem spans_le {action : Action} (made : p.perform action = some q) : p.spans ≤ q.spans := by
  have grows (stream : Nat) (next : Stream) (events : List Event) :
      p.spans ≤ (p.afterMove stream next events).spans := by
    rw [spans_afterMove]
    exact Nat.le_add_right _ _
  cases perform_turn made with
  | moved | started | delivered | modeSet => exact grows _ _ _
  | acts _ _ acts => exact Nat.le_of_eq acts.spans.symm
  | proceeds proceeds => exact Nat.le_of_eq proceeds.spans.symm
  | parted | dropped | letGo =>
    refine Nat.le_of_eq (Eq.symm ?_)
    exact (spans_endIfAbandoned _).trans rfl
  | restarted | undelivered | modeUnset | arrived | contextEnded | glanced | asked | began | returned
  | advanced | canceled => exact Nat.le_refl _

/-- The spans of a stream have ascending numbers, all of which have been given out. -/
def Ascends (bound : Nat) (s : Stream) : Prop :=
  (Event.spanNumbers s.history).Pairwise (· < ·) ∧ ∀ n ∈ Event.spanNumbers s.history, n ≤ bound

theorem Ascends.mono {bound more : Nat} (ascends : Ascends bound s) (order : bound ≤ more) :
    Ascends more s :=
  ⟨ascends.1, fun n isNumber => Nat.le_trans (ascends.2 n isNumber) order⟩

theorem Ascends.next {bound : Nat} {next : Stream} {events : List Event} {action : Stream.Action}
    (ascends : Ascends bound s) (step : Stream.Step s action events next)
    (number : Event.spanNumbers events = [bound + 1]) : Ascends (bound + 1) (next.record events) := by
  unfold Ascends
  rw [step.record_history, Event.spanNumbers_append, number]
  constructor
  · rw [List.pairwise_append]
    refine ⟨ascends.1, List.pairwise_singleton _ _, fun n isNumber later isLater => ?_⟩
    rw [List.mem_singleton.mp isLater]
    exact Nat.lt_succ_of_le (ascends.2 n isNumber)
  · intro n isNumber
    obtain earlier | now := List.mem_append.mp isNumber
    · exact Nat.le_succ_of_le (ascends.2 n earlier)
    · exact Nat.le_of_eq (List.mem_singleton.mp now)

theorem Ascends.stays {bound : Nat} {next : Stream} {events : List Event} {action : Stream.Action}
    (ascends : Ascends bound s) (step : Stream.Step s action events next)
    (silent : Event.spanNumbers events = []) : Ascends bound (next.record events) := by
  unfold Ascends
  rw [step.record_history, Event.spanNumbers_append, silent, List.append_nil]
  exact ascends

theorem Ascends.reaches {action : Action} (ascends : Ascends p.spans s) (coherent : s.Coherent)
    (traced : s.telemetry.traced = true) (made : p.perform action = some q)
    (isStream : p.streams[stream]? = some s) (isStream' : q.streams[stream]? = some t)
    (reaches : Reaches p q stream action s t) : Ascends q.spans t := by
  obtain ⟨r, prompted, after⟩ := reaches
  have same : t.history = r.history := by
    obtain rfl | ⟨rfl, -⟩ := after <;> rfl
  suffices ascends : Ascends q.spans r by
    unfold Ascends
    rw [same]
    exact ascends
  obtain rfl | ⟨prompted, events, next, prompts, step, rfl⟩ := prompted
  · exact ascends.mono (spans_le made)
  · obtain silent | ⟨env, rfl, number⟩ := step.spanNumbers_cases coherent traced
    · exact (ascends.stays step silent).mono (spans_le made)
    · cases prompts with
      | moved move =>
        obtain ⟨more, history, spans⟩ := spans_moved made isStream
        rw [isStream', Option.map_some, same, step.record_history, Option.some.injEq,
          List.append_cancel_left_eq] at history
        rw [← history, number] at spans
        rw [spans]
        exact ascends.next step number

/-- The spans of every stream have ascending numbers, if spans are recorded. -/
theorem Reachable.ascends (reachable : Reachable p) (traced : p.setup.telemetry.traced = true)
    (isStream : p.streams[stream]? = some s) : Ascends p.spans s := by
  have isNew {bound : Nat} {t : Stream} (untouched : t.history = []) : Ascends bound t := by
    unfold Ascends
    rw [untouched]
    exact ⟨List.Pairwise.nil, fun n isNumber => by cases isNumber⟩
  obtain ⟨start, origin, leads⟩ := reachable
  refine (leads.induction (P := fun p => Reachable p ∧ (p.setup.telemetry.traced = true →
    ∀ stream s, p.streams[stream]? = some s → Ascends p.spans s)) ?_ ?_).2 traced stream s isStream
  · intro p q action ⟨reachable, ascends⟩ permitted made
    have leads := Leads.head permitted made (Leads.refl q)
    refine ⟨reachable.leads leads, fun traced stream t isStream' => ?_⟩
    rw [leads.setup] at traced
    obtain started | ⟨s, isStream, reaches⟩ := perform_stream_cases permitted made isStream'
    · apply isNew
      obtain rfl | rfl := started <;> rfl
    · have coherent := (reachable.sound.healthy stream s isStream).coherent
      have recorded := reachable.recorded traced isStream
      exact (ascends traced stream s isStream).reaches coherent recorded made isStream isStream'
        reaches
  · refine ⟨origin.reachable, fun _ stream s isStream => ?_⟩
    cases origin with
    | single =>
      apply isNew
      rw [List.mem_singleton.mp (List.mem_of_getElem? isStream)]
      rfl
    | ofControllers => cases isStream

/-! ### Passages -/

theorem Reachable.handles (reachable : Reachable p) (traced : p.setup.telemetry.traced = true)
    (isStream : p.streams[stream]? = some s) :
    ∃ sent last, s.Handles (p.setup.codecAt stream) sent last := by
  refine (reachable.eachAt (P := fun setup place s => s.Sized (setup.codecAt place) ∧
    s.telemetry = setup.telemetry ∧ (setup.telemetry.traced = true →
      ∃ sent last, s.Handles (setup.codecAt place) sent last)) (fun p => ?_) ?_ isStream).2.2 traced
  · exact ⟨p.newStream_fresh.sized rfl, rfl, fun _ => ⟨[], none, p.newStream_fresh.handles⟩⟩
  · intro setup place s action events next sound ⟨sized, same, handles⟩ step
    refine ⟨sized.step sound.coherent step, step.telemetry.trans same, fun traced => ?_⟩
    obtain ⟨sent, last, handles⟩ := handles traced
    exact handles.step sound.coherent sized (same ▸ traced) step

/-- How the spans of a stream match the items that it takes. -/
structure Spans (p : Pool) (stream : Nat) (s : Stream) (sent : List Passage)
    (last : Option Passage) : Prop extends s.Handles (p.setup.codecAt stream) sent last where
  /-- There is one span for each item that was taken, in the order in which they were taken. -/
  taken : Event.takenItems s.history = (sent ++ last.toList).map Passage.item
  /-- No two spans have the same number. -/
  numbers : (sent ++ last.toList).Pairwise fun earlier later => earlier.number < later.number
  /-- An item names the parent of its caller, and carries its records. -/
  own : ∀ passage ∈ sent ++ last.toList, ∃ c, p.callers[passage.item.ticket]? = some c ∧
    passage.item.parent = c.parent ∧ passage.item.records = c.records
  /-- What the tracer has handed on. -/
  records : Event.spanRecords s.history =
    (sent ++ last.toList).filterMap (Passage.record? (s.method.getD ""))
  /-- When the writer has come to its end all spans have ended, unless a send has broken down. -/
  ended : s.writer.IsOver → s.writer ≠ .brokeDown →
    ∀ passage ∈ sent ++ last.toList, passage.isOver = true
  isOver : s.run = .done → s.writer.IsOver
  /-- A writer that has come to its end, or whose send has broken down, takes nothing more and ends no
  span any more. -/
  final : s.writer.HasEnded → ∀ q t, Leads p q → q.streams[stream]? = some t →
    Event.trace t.history = Event.trace s.history

/-- The writer of a stream starts one span for each item that it takes, under the parent of the caller of
this item. Before it takes another item it ends the span, with an error if the item could not be encoded
or sent. -/
theorem spans_match_items (reachable : Reachable p) (isStream : p.streams[stream]? = some s)
    (traced : p.setup.telemetry.traced = true) : ∃ sent last, Spans p stream s sent last := by
  obtain ⟨sent, last, handles⟩ := reachable.handles traced isStream
  have taken := handles.takenItems
  have sound := reachable.sound.healthy stream s isStream
  refine ⟨sent, last, handles, taken, ?_, fun passage isPassage => ?_, ?_, handles.isOver, ?_, ?_⟩
  · have ascends := (reachable.ascends traced isStream).1
    rw [← Event.spanNumbers_trace, handles.trace, Passage.spanNumbers_events] at ascends
    exact List.pairwise_map.mp ascends
  · have isTaken : passage.item ∈ Event.takenItems s.history := by
      rw [taken]
      exact List.mem_map_of_mem isPassage
    obtain ⟨c, metadata, isCaller, same⟩ := reachable.authored_taken isStream isTaken
    exact ⟨c, isCaller, congrArg Item.parent same, congrArg Item.records same⟩
  · rw [← Event.spanRecords_trace, handles.trace, Passage.spanRecords_events]
  · exact fun done => sound.coherent.late (.inr (.inr done))
  · intro ended q t leads isStream'
    obtain ⟨u, isLater, becomes⟩ := leads.becomes isStream
    obtain rfl := Option.some.inj (isLater.symm.trans isStream')
    have recorded := reachable.recorded traced isStream
    exact (becomes.trace_of_hasEnded sound recorded ended).2.2

/-- A pool that records spans and measures sizes, whose codec refuses the third request. -/
def tracing : Pool :=
  single {
    telemetry := { detailed := true, traced := true }
    codec := .ofScript [] [.batch, .batch, .refuse "bad column"] } []

/-- The parent of the second caller is invalid and its request is empty. The item of the fourth caller is
never taken. -/
def fourCallers : List Action :=
  let submission (caller : Nat) (records : Records) (parent : Option SpanContext) : List Action :=
    [.arrive { parent := parent } records (some 0), .enter caller, .submit caller false]
  let turn : List Action := [.stream 0 .offer, .stream 0 .take, .stream 0 .encode]
  [.run 0, .stream 0 .establish] ++ submission 0 (.logs (Records.single [{}])) (some ⟨7, 9⟩) ++
    submission 1 (.traces []) (some ⟨0, 5⟩) ++ submission 2 (.traces []) none ++
    submission 3 (.traces []) none ++ turn ++ [.stream 0 .send] ++ turn ++ [.stream 0 .send] ++ turn

theorem spans_match_items_refused :
    ∃ p s sent last, tracing.follow fourCallers = some p ∧ p.streams[0]? = some s ∧
      Spans p 0 s sent last ∧
      (sent ++ last.toList).map (fun passage => passage.item.ticket) = [0, 1, 2] ∧
      Event.spanRecords s.history = [
        ⟨"otel_arrow_stream_send", ⟨7, 1⟩, some 9,
          [("stream_client_uncompressed_request_size", 6)], none⟩,
        ⟨"otel_arrow_stream_send", ⟨2, 2⟩, none, [], none⟩,
        ⟨"otel_arrow_stream_send", ⟨3, 3⟩, none, [], some "encode: bad column"⟩] := by
  have facts : (tracing.follow fourCallers).bind (fun p => p.streams[0]?.map fun s =>
      (p.setup.telemetry.traced, (Event.takenItems s.history).map Item.ticket,
        Event.spanRecords s.history)) = some (true, [0, 1, 2], [
        ⟨"otel_arrow_stream_send", ⟨7, 1⟩, some 9,
          [("stream_client_uncompressed_request_size", 6)], none⟩,
        ⟨"otel_arrow_stream_send", ⟨2, 2⟩, none, [], none⟩,
        ⟨"otel_arrow_stream_send", ⟨3, 3⟩, none, [], some "encode: bad column"⟩]) := by
    decide +kernel
  obtain ⟨p, follows, facts⟩ := Option.bind_eq_some_iff.mp facts
  obtain ⟨s, isStream, facts⟩ := Option.map_eq_some_iff.mp facts
  simp only [Prod.mk.injEq] at facts
  obtain ⟨traced, tickets, records⟩ := facts
  have reachable : Reachable p := ⟨_, .single _ _, _, follows⟩
  obtain ⟨sent, last, spans⟩ := spans_match_items reachable isStream traced
  rw [spans.taken, List.map_map] at tickets
  exact ⟨p, s, sent, last, follows, isStream, spans, tickets, records⟩

def brokenSend : List Action :=
  [.run 0, .stream 0 .establish, .stream 0 .offer, .arrive {} (.traces []) (some 0), .enter 0,
    .submit 0 false, .stream 0 .take, .stream 0 .encode, .setMode 0 .breakDown, .stream 0 .send, .cancel,
    .stream 0 .receive, .stream 0 .join, .stream 0 .sweep, .stream 0 .finish]

/-- The span around a send that breaks down never ends. -/
theorem broken_send_ends_no_span :
    ∃ p s, (single { telemetry := { traced := true } } []).follow brokenSend = some p ∧
      p.streams[0]? = some s ∧ s.run = .done ∧ s.writer.HasEnded ∧
      Event.spanNumbers s.history = [1] ∧ Event.spanRecords s.history = [] := by
  have facts : ((single { telemetry := { traced := true } } []).follow brokenSend).bind
      (fun p => p.streams[0]?.map fun s => (s.run, decide s.writer.HasEnded,
        Event.spanNumbers s.history, Event.spanRecords s.history)) =
      some (.done, true, [1], []) := by decide +kernel
  obtain ⟨p, follows, facts⟩ := Option.bind_eq_some_iff.mp facts
  obtain ⟨s, isStream, facts⟩ := Option.map_eq_some_iff.mp facts
  simp only [Prod.mk.injEq, decide_eq_true_eq] at facts
  exact ⟨p, s, follows, isStream, facts⟩

end Pool

end TelemetryStreams
