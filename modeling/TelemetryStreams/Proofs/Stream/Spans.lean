import TelemetryStreams.Proofs.Stream.Sizes

/-!
# The spans around items

The writer starts a span when it takes an item and ends that span before it takes another one, so what it
does to items and spans falls into passages, one after the other: the item is taken, its span starts, its
size is reported, its batch is sent, and its span ends (`Passage.events`). Only the last passage can be
unfinished, and only while the writer has its item at hand, or if the send has broken down
(`Stream.Handles`).
-/
namespace TelemetryStreams

/-! ### Passages -/

/-- How far an item has come that the writer has taken. -/
inductive Progress where
  | taken
  /-- The codec made no batch of it. -/
  | refused (failure : EncodeError)
  /-- There is a batch of it that has not been sent, and the send has not failed either. -/
  | made (batch : Batch)
  | sent (call : Nat) (batch : Batch)
  /-- The send has failed. -/
  | unsent (batch : Batch) (status : Status)

/-- An item that the writer has taken. -/
structure Passage where
  item : Item
  /-- The number of its span. -/
  number : Nat
  progress : Progress := .taken

namespace Passage

def made? (passage : Passage) : Option (Except EncodeError Batch) :=
  match passage.progress with
  | .taken => none
  | .refused failure => some (.error failure)
  | .made batch | .sent _ batch | .unsent batch _ => some (.ok batch.bare)

def report? (method : String) (passage : Passage) : Option Measured :=
  passage.made?.bind (passage.item.report? method)

def failure? (passage : Passage) : Option Error :=
  match passage.progress with
  | .refused failure => some (.encode failure)
  | .unsent _ status => some (.status status)
  | _ => none

def isOver (passage : Passage) : Bool :=
  match passage.progress with
  | .taken | .made _ => false
  | .refused _ | .sent .. | .unsent .. => true

def begun (passage : Passage) : SendSpan := .start passage.number passage.item.parent

def span (method : String) (passage : Passage) : SendSpan :=
  { passage.begun with size := (passage.report? method).map fun _ => passage.item.reported }

def sending (passage : Passage) : List Event :=
  match passage.progress with
  | .sent call batch => [.sent call batch]
  | _ => []

/-- The end of the span, with the text of what has failed. -/
def ending (method : String) (passage : Passage) : List Event :=
  if passage.isOver then
    [.spanEnded (passage.span method) (passage.failure?.map Error.message)]
  else []

/-- What the writer does to the item and its span. -/
def events (method : String) (passage : Passage) : List Event :=
  [.taken passage.item, .spanStarted passage.begun] ++
    (passage.report? method).toList.map .measured ++ passage.sending ++ passage.ending method

variable {passage : Passage}

theorem size_begun (passage : Passage) : passage.begun.size = none := by
  unfold begun SendSpan.start
  split <;> rfl

theorem span_of_unreported {method : String} (unreported : passage.report? method = none) :
    passage.span method = passage.begun := by
  unfold span
  rw [unreported, Option.map_none, ← passage.size_begun]

theorem events_of_taken (method : String) (isTaken : passage.progress = .taken) :
    passage.events method = [.taken passage.item, .spanStarted passage.begun] := by
  simp [events, report?, made?, sending, ending, isOver, isTaken]

theorem events_refused (method : String) (isTaken : passage.progress = .taken)
    (failure : EncodeError) :
    ({ passage with progress := .refused failure } : Passage).events method =
      passage.events method ++
        [.spanEnded passage.begun (some (Error.encode failure).message)] := by
  have unreported : ({ passage with progress := .refused failure } : Passage).report? method = none :=
    rfl
  rw [events_of_taken method isTaken]
  unfold events ending
  rw [unreported, span_of_unreported unreported]
  rfl

theorem events_made (method : String) (isTaken : passage.progress = .taken) (batch : Batch) :
    ({ passage with progress := .made batch } : Passage).events method =
      passage.events method ++
        (passage.item.report? method (.ok batch.bare)).toList.map .measured := by
  rw [events_of_taken method isTaken]
  exact (List.append_nil _).trans (List.append_nil _)

theorem span_made (passage : Passage) (method : String) (batch : Batch) :
    ({ passage with progress := .made batch } : Passage).span method =
      if passage.item.size = 0 then passage.begun
      else { passage.begun with size := some passage.item.reported } := by
  unfold span
  by_cases unsized : passage.item.size = 0
  · have unreported :
        ({ passage with progress := .made batch } : Passage).report? method = none := if_pos unsized
    rw [unreported, Option.map_none, if_pos unsized, ← passage.size_begun]
    rfl
  · have reported : ({ passage with progress := .made batch } : Passage).report? method =
        some ⟨method, Int64.ofNat passage.item.reported⟩ := if_neg unsized
    rw [reported, if_neg unsized]
    rfl

theorem events_sent (method : String) {batch : Batch} (isMade : passage.progress = .made batch)
    (call : Nat) :
    ({ passage with progress := .sent call batch } : Passage).events method =
      passage.events method ++ [.sent call batch, .spanEnded (passage.span method) none] := by
  simp [events, span, report?, made?, failure?, begun, sending, ending, isOver, isMade]

theorem events_unsent (method : String) {batch : Batch} (isMade : passage.progress = .made batch)
    (status : Status) :
    ({ passage with progress := .unsent batch status } : Passage).events method =
      passage.events method ++
        [.spanEnded (passage.span method) (some (Error.status status).message)] := by
  simp [events, span, report?, made?, failure?, begun, sending, ending, isOver, isMade]

end Passage

/-- A span as the tracer hands it on when it has ended. -/
structure SpanRecord where
  name : String
  context : SpanContext
  /-- The span that it belongs to; a root span belongs to none. -/
  parent : Option Nat
  attributes : List (String × Int)
  /-- The text of its status, if that is an error. -/
  error : Option String
  deriving DecidableEq, Repr

def SendSpan.record (span : SendSpan) (failure : Option String) : SpanRecord where
  name := name
  context := span.context
  parent := span.parent
  attributes := span.size.toList.map fun size => (sizeAttribute, (size : Int))
  error := failure

/-- The span that the tracer is to hand on for an item that was sent, or could not be encoded or sent. -/
def Passage.record? (method : String) (passage : Passage) : Option SpanRecord :=
  let parent := passage.item.parent.filter SpanContext.isValid
  if passage.isOver then some {
    name := "otel_arrow_stream_send"
    context := ⟨(parent.map SpanContext.trace).getD passage.number, passage.number⟩
    parent := parent.map SpanContext.span
    attributes := (passage.report? method).toList.map fun measured =>
      ("stream_client_uncompressed_request_size", measured.length.toInt)
    error := passage.failure?.map Error.message }
  else none

/-- The turns of the codec in some passages: the items, and what it made of them. -/
def turns (passages : List Passage) : List (Item × Except EncodeError Batch) :=
  passages.filterMap fun passage => passage.made?.map fun made => (passage.item, made)

theorem turns_append (passages more : List Passage) :
    turns (passages ++ more) = turns passages ++ turns more := List.filterMap_append

/-- The passage of the item that the writer has at hand, or with which it has come to its end. -/
def WriterPhase.Holds (method : String) (last : Option Passage) : WriterPhase → Prop
  | .absent | .offering | .waiting | .ended (.ok _) | .ended (.error .canceled) => last = none
  | .encoding item span => ∃ passage, last = some passage ∧ passage.progress = .taken ∧
    passage.item = item ∧ passage.begun = span
  | .sending batch span => ∃ passage, last = some passage ∧ passage.progress = .made batch ∧
    passage.span method = span
  | .brokeDown => ∃ passage batch, last = some passage ∧ passage.progress = .made batch
  | .ended (.error (.encode failure)) =>
    ∃ passage, last = some passage ∧ passage.progress = .refused failure
  | .ended (.error (.status status)) =>
    ∃ passage batch, last = some passage ∧ passage.progress = .unsent batch status
  | .ended (.error _) => False

namespace Event

def spanRecords (events : List Event) : List SpanRecord :=
  events.filterMap fun
    | .spanEnded span failure => some (span.record failure)
    | _ => none

def spanNumbers (events : List Event) : List Nat :=
  events.filterMap fun
    | .spanStarted span => some span.context.span
    | _ => none

@[simp] theorem spanNumbers_append (a b : List Event) :
    spanNumbers (a ++ b) = spanNumbers a ++ spanNumbers b := List.filterMap_append

def isTraced : Event → Bool
  | .taken _ | .spanStarted _ | .measured _ | .sent .. | .spanEnded .. => true
  | _ => false

def trace (events : List Event) : List Event := events.filter isTraced

@[simp] theorem trace_append (a b : List Event) : trace (a ++ b) = trace a ++ trace b :=
  List.filter_append ..

theorem filterMap_trace {α : Type} {read : Event → Option α}
    (skips : ∀ event, event.isTraced = false → read event = none) (events : List Event) :
    (trace events).filterMap read = events.filterMap read := by
  unfold trace
  rw [List.filterMap_filter]
  refine List.filterMap_congr fun event _ => ?_
  cases isTraced : event.isTraced with
  | true => rfl
  | false => exact (skips event isTraced).symm

theorem takenItems_trace (events : List Event) : takenItems (trace events) = takenItems events := by
  apply filterMap_trace
  intro event untraced
  cases event <;> first | rfl | cases untraced

theorem spanRecords_trace (events : List Event) :
    spanRecords (trace events) = spanRecords events := by
  apply filterMap_trace
  intro event untraced
  cases event <;> first | rfl | cases untraced

theorem spanNumbers_trace (events : List Event) :
    spanNumbers (trace events) = spanNumbers events := by
  apply filterMap_trace
  intro event untraced
  cases event <;> first | rfl | cases untraced

theorem trace_encodeLog (failure : EncodeError) : trace (Stream.encodeLog failure) = [] := by
  cases failure <;> rfl

theorem trace_displacement (table : InFlight) (id : Int64) :
    trace (Stream.displacement table id) = [] := by
  unfold Stream.displacement
  split <;> rfl

theorem trace_measurement (s : Stream) (item : Item) :
    trace (s.measurement item) = s.measurement item := by
  unfold Stream.measurement
  split <;> rfl

theorem trace_endLogs (read written : Except Error Unit) : trace (Stream.endLogs read written) = [] := by
  cases written <;> rfl

theorem trace_release (rows : InFlight) : trace (rows.flatMap Stream.release) = [] := by
  induction rows with
  | nil => rfl
  | cons row rows ih =>
    rw [List.flatMap_cons, trace_append, ih]
    rfl

theorem trace_entered (items : List Item) : trace (items.map .entered) = [] := by
  induction items with
  | nil => rfl
  | cons item items ih => exact ih

end Event

namespace Passage

variable (method : String)

/-- What is read off passages one after the other is what is read off each. -/
theorem filterMap_events {α : Type} {read : Event → Option α} {view : Passage → Option α}
    (one : ∀ passage : Passage, (passage.events method).filterMap read = (view passage).toList)
    (passages : List Passage) :
    (passages.flatMap (events method)).filterMap read = passages.filterMap view := by
  rw [List.filterMap_flatMap, List.filterMap_eq_flatMap_toList]
  exact congrArg (passages.flatMap ·) (funext one)

theorem takenItems_events (passages : List Passage) :
    Event.takenItems (passages.flatMap (events method)) = passages.map item := by
  rw [← List.filterMap_eq_map]
  refine filterMap_events method (fun passage => ?_) passages
  unfold events sending ending isOver
  cases passage.report? method <;> cases passage.progress <;> rfl

theorem span_context_begun (passage : Passage) : passage.begun.context.span = passage.number := by
  unfold begun SendSpan.start
  split <;> rfl

theorem spanNumbers_events (passages : List Passage) :
    Event.spanNumbers (passages.flatMap (events method)) = passages.map number := by
  rw [← List.filterMap_eq_map]
  refine filterMap_events method (fun passage => ?_) passages
  rw [Function.comp_apply, ← passage.span_context_begun]
  unfold events sending ending isOver
  cases passage.report? method <;> cases passage.progress <;> rfl

theorem attributes_span (passage : Passage) :
    (passage.span method).size.toList.map (fun size => (SendSpan.sizeAttribute, (size : Int))) =
      (passage.report? method).toList.map
        fun measured => (SendSpan.sizeAttribute, measured.length.toInt) := by
  unfold span
  cases reported : passage.report? method with
  | none => rfl
  | some measured =>
    obtain ⟨made, -, reports⟩ := Option.bind_eq_some_iff.mp reported
    have length := passage.item.length_of_report? reports
    exact congrArg (fun length => [(SendSpan.sizeAttribute, length)]) length.symm

theorem record_span (passage : Passage) (isOver : passage.isOver = true) :
    passage.record? method =
      some ((passage.span method).record (passage.failure?.map Error.message)) := by
  unfold record? SendSpan.record
  rw [attributes_span, if_pos isOver]
  unfold span begun SendSpan.start
  cases passage.item.parent.filter SpanContext.isValid <;> rfl

theorem spanRecords_events (passages : List Passage) :
    Event.spanRecords (passages.flatMap (events method)) =
      passages.filterMap (record? method) := by
  refine filterMap_events method (fun passage => ?_) passages
  have last : Event.spanRecords (passage.events method) =
      Event.spanRecords (passage.ending method) := by
    unfold events sending
    cases passage.report? method <;> cases passage.progress <;> rfl
  refine last.trans ?_
  unfold ending
  cases isOver : passage.isOver with
  | true =>
    rw [passage.record_span method isOver]
    rfl
  | false =>
    have undue : passage.record? method = none := if_neg (by rw [isOver]; exact Bool.false_ne_true)
    rw [undue]
    rfl

end Passage

namespace Stream

variable {s next : Stream} {action : Action} {events : List Event} {first : Codec}

/-- The event about the size of an item is the report that is due for it. -/
theorem measurement_eq (s : Stream) (item : Item) (batch : Batch) :
    s.measurement item =
      (item.report? (s.method.getD "") (.ok batch)).toList.map .measured := by
  unfold measurement Item.report?
  split <;> rfl

theorem trace_spanEnds (traced : s.telemetry.traced = true) (span : SendSpan)
    (failure : Option String) :
    Event.trace (s.spanEnds span failure) = [.spanEnded span failure] := by
  unfold spanEnds
  rw [if_pos traced]
  rfl

theorem trace_takeEvents (traced : s.telemetry.traced = true) (number : Nat) (item : Item) :
    Event.trace (s.takeEvents number item) = [.spanStarted (.start number item.parent)] := by
  unfold takeEvents spanFor
  rw [if_pos traced, if_pos traced, Event.trace_append, Event.trace_entered]
  rfl

/-! ### Steps -/

/-- What a step is for the item that the writer has at hand, and for its span. -/
inductive Handling (s : Stream) (action : Action) (events : List Event) (next : Stream) : Prop
  | takes {env item} (takes : action = .move .take env) (waiting : s.writer = .waiting)
      (named : next.method = s.method) (codec : next.codec = s.codec)
      (trace : Event.trace events = [.taken item, .spanStarted (.start env.nextSpan item.parent)])
      (encoding : next.writer = .encoding item (.start env.nextSpan item.parent))
  | refuses {item span failure} (encoding : s.writer = .encoding item span)
      (fails : Codec.guarded (s.codec.encode item.records).1 = .error failure)
      (named : next.method = s.method) (codec : next.codec = (s.codec.encode item.records).2)
      (trace : Event.trace events = [.spanEnded span (some (Error.encode failure).message)])
      (ended : next.writer = .ended (.error (.encode failure)))
  | encodes {item span batch block} (encoding : s.writer = .encoding item span)
      (works : Codec.guarded (s.codec.encode item.records).1 = .ok batch)
      (named : next.method = s.method) (codec : next.codec = (s.codec.encode item.records).2)
      (trace : Event.trace events = s.measurement item)
      (sending : next.writer = .sending { batch with headers := block }
        (if item.size = 0 then span else { span with size := some item.reported }))
  | sends {batch span call} (sending : s.writer = .sending batch span)
      (named : next.method = s.method) (codec : next.codec = s.codec)
      (trace : Event.trace events = [.sent call batch, .spanEnded span none])
      (offering : next.writer = .offering)
  | fails {batch span status} (sending : s.writer = .sending batch span)
      (named : next.method = s.method) (codec : next.codec = s.codec)
      (trace : Event.trace events = [.spanEnded span (some (Error.status status).message)])
      (ended : next.writer = .ended (.error (.status status)))
  | breaksDown {batch span} (sending : s.writer = .sending batch span)
      (named : next.method = s.method) (codec : next.codec = s.codec)
      (trace : Event.trace events = []) (brokeDown : next.writer = .brokeDown)
  /-- Nothing happens to any item or span. -/
  | rests (codec : next.codec = s.codec) (trace : Event.trace events = [])
      (writer : ∀ method last, s.writer.Holds method last → next.writer.Holds method last)

theorem Step.handling (step : Step s action events next) (coherent : s.Coherent)
    (traced : s.telemetry.traced = true) : Handling s action events next := by
  have rests (trace : Event.trace events = []) (codec : next.codec = s.codec)
      (writer : next.writer = s.writer) : Handling s action events next := by
    apply Handling.rests codec trace
    intro method last holds
    rw [writer]
    exact holds
  cases step with
  | @taken env item queue waiting =>
    have started := trace_takeEvents traced env.nextSpan item
    refine .takes rfl waiting rfl rfl (congrArg (Event.taken item :: ·) started) ?_
    simp only [spanFor, if_pos traced]
  | notEncoded encoding fails =>
    refine .refuses encoding fails rfl rfl ?_ rfl
    rw [Event.trace_append, Event.trace_append, Event.trace_append, Event.trace_encodeLog,
      trace_spanEnds traced]
    rfl
  | @encoded env item span batch encoding works =>
    refine .encodes encoding works rfl rfl ?_ rfl
    rw [Event.trace_append, Event.trace_measurement]
    exact congrArg (· ++ _) (Event.trace_displacement s.inFlight batch.id)
  | notSent sending =>
    refine .fails sending rfl rfl ?_ rfl
    rw [Event.trace_append, trace_spanEnds traced]
    rfl
  | @sent env batch span call sending =>
    have ended := trace_spanEnds traced span none
    exact .sends sending rfl rfl (congrArg (Event.sent call.number batch :: ·) ended) rfl
  | sinkBroke sending => exact .breaksDown sending rfl rfl rfl rfl
  | opened starting =>
    refine .rests rfl rfl fun method last holds => ?_
    rw [(coherent.early (.inr (.inl starting))).1] at holds
    exact holds
  | offered busy | expired busy | quit busy =>
    refine .rests rfl rfl fun method last holds => ?_
    rw [busy] at holds
    exact holds
  | joined => exact rests (Event.trace_endLogs _ _) rfl rfl
  | swept => exact rests (Event.trace_release _) rfl rfl
  | _ => exact rests rfl rfl rfl

/-! ### What the writer has done -/

/-- What the writer of a stream has done are some passages, one after the other, and the codec that the
stream began with has had a turn in each but, it may be, the last. -/
structure Traced (first : Codec) (s : Stream) (passages : List Passage) : Prop where
  trace : Event.trace s.history = passages.flatMap (Passage.events (s.method.getD ""))
  codec : s.codec = first.after ((turns passages).map Prod.fst)
  made : (turns passages).map Prod.snd = first.outcomes ((turns passages).map Prod.fst)

/-- All passages but the last have ended with a batch that was sent; how far the last one has come, the
writer shows. -/
structure Handles (first : Codec) (s : Stream) (sent : List Passage) (last : Option Passage) : Prop
    extends Traced first s (sent ++ last.toList) where
  complete : ∀ passage ∈ sent, ∃ call batch, passage.progress = .sent call batch
  current : s.writer.Holds (s.method.getD "") last

variable {passages sent : List Passage} {passage : Passage} {progress : Progress}
  {last : Option Passage}

/-- What was done goes on with the events of a step. -/
theorem Traced.trace_record (traced : Traced first s passages) (step : Step s action events next)
    (named : next.method = s.method) {more : List Passage}
    (grows : more.flatMap (Passage.events (s.method.getD "")) =
      passages.flatMap (Passage.events (s.method.getD "")) ++ Event.trace events) :
    Event.trace (next.record events).history =
      more.flatMap (Passage.events ((next.record events).method.getD "")) := by
  have same : (next.record events).method = s.method := named
  rw [same, grows, step.record_history, Event.trace_append, traced.trace]

theorem Traced.stays (traced : Traced first s passages) (step : Step s action events next)
    (named : next.method = s.method) (codec : next.codec = s.codec)
    (silent : Event.trace events = []) : Traced first (next.record events) passages := by
  constructor
  · apply traced.trace_record step named
    rw [silent, List.append_nil]
  · exact codec.trans traced.codec
  · exact traced.made

/-- A passage begins. -/
theorem Traced.begins (traced : Traced first s passages) (step : Step s action events next)
    (named : next.method = s.method) (codec : next.codec = s.codec) (item : Item) (number : Nat)
    (begins : Event.trace events = [.taken item, .spanStarted (.start number item.parent)]) :
    Traced first (next.record events) (passages ++ [{ item := item, number := number }]) := by
  have unturned : turns (passages ++ [{ item := item, number := number }]) = turns passages := by
    rw [turns_append]
    exact List.append_nil _
  constructor
  · apply traced.trace_record step named
    rw [begins, List.flatMap_append]
    rfl
  · rw [unturned]
    exact codec.trans traced.codec
  · rw [unturned]
    exact traced.made

/-- The last passage goes on, without a turn of the codec. -/
theorem Traced.goesOn (traced : Traced first s (passages ++ [passage]))
    (step : Step s action events next) (named : next.method = s.method)
    (codec : next.codec = s.codec)
    (made : ({ passage with progress := progress } : Passage).made? = passage.made?)
    (grows : ({ passage with progress := progress } : Passage).events (s.method.getD "") =
      passage.events (s.method.getD "") ++ Event.trace events) :
    Traced first (next.record events) (passages ++ [{ passage with progress := progress }]) := by
  have turned : turns (passages ++ [{ passage with progress := progress }]) =
      turns (passages ++ [passage]) := by
    rw [turns_append, turns_append]
    unfold turns
    rw [List.filterMap_cons, List.filterMap_cons, made]
  constructor
  · apply traced.trace_record step named
    rw [List.flatMap_append, List.flatMap_append, List.append_assoc]
    simp only [List.flatMap_cons, List.flatMap_nil, List.append_nil, grows]
  · rw [turned]
    exact codec.trans traced.codec
  · rw [turned]
    exact traced.made

/-- The codec has its turn in the last passage. -/
theorem Traced.takesTurn (traced : Traced first s (passages ++ [passage]))
    (step : Step s action events next) (named : next.method = s.method)
    (codec : next.codec = (s.codec.encode passage.item.records).2)
    (unmade : passage.made? = none)
    (made : ({ passage with progress := progress } : Passage).made? =
      some (Codec.guarded (s.codec.encode passage.item.records).1))
    (grows : ({ passage with progress := progress } : Passage).events (s.method.getD "") =
      passage.events (s.method.getD "") ++ Event.trace events) :
    Traced first (next.record events) (passages ++ [{ passage with progress := progress }]) := by
  have before : turns (passages ++ [passage]) = turns passages := by
    rw [turns_append]
    unfold turns
    rw [List.filterMap_cons, unmade, Option.map_none, List.filterMap_nil, List.append_nil]
  have turned : turns (passages ++ [{ passage with progress := progress }]) = turns passages ++
      [(passage.item, Codec.guarded (s.codec.encode passage.item.records).1)] := by
    rw [turns_append]
    unfold turns
    rw [List.filterMap_cons, made]
    rfl
  have kept := traced.codec
  have outcomes := traced.made
  rw [before] at kept outcomes
  constructor
  · apply traced.trace_record step named
    rw [List.flatMap_append, List.flatMap_append, List.append_assoc]
    simp only [List.flatMap_cons, List.flatMap_nil, List.append_nil, grows]
  · rw [turned, List.map_append, List.map_singleton, Codec.after_concat, ← kept]
    exact codec
  · rw [turned, List.map_append, List.map_append, List.map_singleton, List.map_singleton,
      Codec.outcomes_concat, outcomes, ← kept]

theorem Fresh.handles (fresh : s.Fresh) : Handles s.codec s [] none := by
  constructor
  · constructor
    · rw [fresh.history]
      rfl
    · rfl
    · rfl
  · intro passage isPassage
    cases isPassage
  · rw [fresh.writer]
    rfl

theorem Traced.takenItems (traced : Traced first s passages) :
    Event.takenItems s.history = passages.map Passage.item := by
  rw [← Event.takenItems_trace, traced.trace]
  exact Passage.takenItems_events _ passages

/-- The name of the call is new only before there is any passage. -/
theorem Handles.opens (handles : Handles first s sent last) (sized : s.Sized first)
    (uncalled : s.call = none) : sent = [] ∧ last = none := by
  have untaken := handles.takenItems
  rw [(sized.unopened uncalled).2] at untaken
  have empty := List.map_eq_nil_iff.mp untaken.symm
  rw [List.append_eq_nil_iff] at empty
  exact ⟨empty.1, Option.toList_eq_nil_iff.mp empty.2⟩

theorem Handles.takes (handles : Handles first s sent last) (step : Step s action events next)
    {item : Item} {number : Nat} (waiting : s.writer = .waiting)
    (named : next.method = s.method) (codec : next.codec = s.codec)
    (trace : Event.trace events = [.taken item, .spanStarted (.start number item.parent)])
    (encoding : next.writer = .encoding item (.start number item.parent)) :
    Handles first (next.record events) sent (some { item := item, number := number }) := by
  have free := handles.current
  rw [waiting] at free
  obtain rfl : last = none := free
  have traced := handles.toTraced
  rw [Option.toList_none, List.append_nil] at traced
  constructor
  · exact traced.begins step named codec item number trace
  · exact handles.complete
  · change next.writer.Holds _ _
    rw [encoding]
    exact ⟨_, rfl, rfl, rfl, rfl⟩

theorem Handles.refuses (handles : Handles first s sent last) (step : Step s action events next)
    {item : Item} {span : SendSpan} {failure : EncodeError}
    (encoding : s.writer = .encoding item span)
    (fails : Codec.guarded (s.codec.encode item.records).1 = .error failure)
    (named : next.method = s.method) (codec : next.codec = (s.codec.encode item.records).2)
    (trace : Event.trace events = [.spanEnded span (some (Error.encode failure).message)])
    (ended : next.writer = .ended (.error (.encode failure))) :
    ∃ last, Handles first (next.record events) sent last := by
  have holds := handles.current
  rw [encoding] at holds
  obtain ⟨passage, rfl, isTaken, rfl, rfl⟩ := holds
  refine ⟨some { passage with progress := .refused failure }, ?_, handles.complete, ?_⟩
  · apply handles.toTraced.takesTurn step named codec
    · simp only [Passage.made?, isTaken]
    · exact congrArg some fails.symm
    · rw [Passage.events_refused _ isTaken, trace]
  · change next.writer.Holds _ _
    rw [ended]
    exact ⟨_, rfl, rfl⟩

theorem Handles.encodes (handles : Handles first s sent last) (step : Step s action events next)
    {item : Item} {span : SendSpan} {batch : Batch} {block : List UInt8}
    (encoding : s.writer = .encoding item span)
    (works : Codec.guarded (s.codec.encode item.records).1 = .ok batch)
    (named : next.method = s.method) (codec : next.codec = (s.codec.encode item.records).2)
    (trace : Event.trace events = s.measurement item)
    (sending : next.writer = .sending { batch with headers := block }
      (if item.size = 0 then span else { span with size := some item.reported })) :
    ∃ last, Handles first (next.record events) sent last := by
  have holds := handles.current
  rw [encoding] at holds
  obtain ⟨passage, rfl, isTaken, rfl, rfl⟩ := holds
  have bare : ({ batch with headers := block } : Batch).bare = batch := Codec.bare_of_encode works
  refine ⟨some { passage with progress := .made { batch with headers := block } }, ?_,
    handles.complete, ?_⟩
  · apply handles.toTraced.takesTurn step named codec
    · simp only [Passage.made?, isTaken]
    · simp only [Passage.made?, bare, works]
    · rw [Passage.events_made _ isTaken, trace, measurement_eq]
  · change next.writer.Holds _ _
    rw [sending]
    exact ⟨_, rfl, rfl, passage.span_made _ _⟩

section
variable {batch : Batch} {span : SendSpan}

theorem Handles.exists_made (handles : Handles first s sent last)
    (sending : s.writer = .sending batch span) : ∃ passage, last = some passage ∧
      passage.progress = .made batch ∧ passage.span (s.method.getD "") = span := by
  have holds := handles.current
  rw [sending] at holds
  exact holds

theorem Handles.sends (handles : Handles first s sent last) (step : Step s action events next)
    {call : Nat} (sending : s.writer = .sending batch span)
    (named : next.method = s.method) (codec : next.codec = s.codec)
    (trace : Event.trace events = [.sent call batch, .spanEnded span none])
    (offering : next.writer = .offering) :
    ∃ sent, Handles first (next.record events) sent none := by
  obtain ⟨passage, rfl, isMade, rfl⟩ := handles.exists_made sending
  refine ⟨sent ++ [{ passage with progress := .sent call batch }], ?_, ?_, ?_⟩
  · rw [Option.toList_none, List.append_nil]
    apply handles.toTraced.goesOn step named codec
    · simp only [Passage.made?, isMade]
    · rw [Passage.events_sent _ isMade, trace]
  · intro other isOther
    obtain earlier | now := List.mem_append.mp isOther
    · exact handles.complete other earlier
    · rw [List.mem_singleton.mp now]
      exact ⟨call, batch, rfl⟩
  · change next.writer.Holds _ _
    rw [offering]
    rfl

theorem Handles.fails (handles : Handles first s sent last) (step : Step s action events next)
    {status : Status} (sending : s.writer = .sending batch span)
    (named : next.method = s.method) (codec : next.codec = s.codec)
    (trace : Event.trace events = [.spanEnded span (some (Error.status status).message)])
    (ended : next.writer = .ended (.error (.status status))) :
    ∃ last, Handles first (next.record events) sent last := by
  obtain ⟨passage, rfl, isMade, rfl⟩ := handles.exists_made sending
  refine ⟨some { passage with progress := .unsent batch status }, ?_, handles.complete, ?_⟩
  · apply handles.toTraced.goesOn step named codec
    · simp only [Passage.made?, isMade]
    · rw [Passage.events_unsent _ isMade, trace]
  · change next.writer.Holds _ _
    rw [ended]
    exact ⟨_, batch, rfl, rfl⟩

/-- A send that breaks down leaves the passage as it is. -/
theorem Handles.breaksDown (handles : Handles first s sent last) (step : Step s action events next)
    (sending : s.writer = .sending batch span)
    (named : next.method = s.method) (codec : next.codec = s.codec) (trace : Event.trace events = [])
    (brokeDown : next.writer = .brokeDown) : Handles first (next.record events) sent last := by
  obtain ⟨passage, rfl, isMade, -⟩ := handles.exists_made sending
  constructor
  · exact handles.toTraced.stays step named codec trace
  · exact handles.complete
  · change next.writer.Holds _ _
    rw [brokeDown]
    exact ⟨passage, batch, rfl, isMade⟩

end

theorem Handles.rests (handles : Handles first s sent last) (step : Step s action events next)
    (coherent : s.Coherent) (sized : s.Sized first) (codec : next.codec = s.codec)
    (trace : Event.trace events = [])
    (writer : ∀ method last, s.writer.Holds method last → next.writer.Holds method last) :
    Handles first (next.record events) sent last := by
  obtain ⟨starting, -⟩ | ⟨-, named⟩ := step.method_cases
  · -- The call gets its name, but nothing has been taken yet.
    obtain ⟨absent, -, uncalled⟩ := coherent.early (.inr (.inl starting))
    obtain ⟨rfl, rfl⟩ := handles.opens sized uncalled
    constructor
    · constructor
      · rw [step.record_history, Event.trace_append, trace, handles.trace]
        rfl
      · exact codec.trans handles.codec
      · exact handles.made
    · exact handles.complete
    · apply writer
      rw [absent]
      rfl
  · constructor
    · exact handles.toTraced.stays step named codec trace
    · exact handles.complete
    · change next.writer.Holds (next.method.getD "") last
      rw [named]
      exact writer _ _ handles.current

/-- What every step keeps of the passages of a stream whose spans are recorded. -/
theorem Handles.step (handles : Handles first s sent last) (coherent : s.Coherent)
    (sized : s.Sized first) (traced : s.telemetry.traced = true)
    (step : Step s action events next) :
    ∃ sent last, Handles first (next.record events) sent last := by
  cases step.handling coherent traced with
  | takes _ waiting named codec trace encoding =>
    exact ⟨sent, _, handles.takes step waiting named codec trace encoding⟩
  | refuses encoding fails named codec trace ended =>
    exact ⟨sent, handles.refuses step encoding fails named codec trace ended⟩
  | encodes encoding works named codec trace sending =>
    exact ⟨sent, handles.encodes step encoding works named codec trace sending⟩
  | sends sending named codec trace offering =>
    obtain ⟨sent, handles⟩ := handles.sends step sending named codec trace offering
    exact ⟨sent, none, handles⟩
  | fails sending named codec trace ended =>
    exact ⟨sent, handles.fails step sending named codec trace ended⟩
  | breaksDown sending named codec trace brokeDown =>
    exact ⟨sent, last, handles.breaksDown step sending named codec trace brokeDown⟩
  | rests codec trace writer =>
    exact ⟨sent, last, handles.rests step coherent sized codec trace writer⟩

theorem Step.telemetry (step : Step s action events next) : next.telemetry = s.telemetry := by
  cases step <;> rfl

theorem Step.spanNumbers_cases (step : Step s action events next) (coherent : s.Coherent)
    (traced : s.telemetry.traced = true) :
    Event.spanNumbers events = [] ∨
      ∃ env, action = .move .take env ∧ Event.spanNumbers events = [env.nextSpan] := by
  rw [← Event.spanNumbers_trace]
  cases step.handling coherent traced with
  | @takes env item takes _ _ _ trace =>
    rw [trace]
    exact .inr ⟨env, takes, Passage.spanNumbers_events "" [{ item := item, number := env.nextSpan }]⟩
  | @encodes item _ batch _ _ _ _ _ trace =>
    rw [trace, s.measurement_eq item batch]
    left
    cases item.report? (s.method.getD "") (.ok batch) <;> rfl
  | refuses _ _ _ _ trace | sends _ _ _ trace | fails _ _ _ trace | breaksDown _ _ _ trace
  | rests _ trace =>
    rw [trace]
    exact .inl rfl

theorem Step.trace_of_hasEnded (step : Step s action events next) (coherent : s.Coherent)
    (traced : s.telemetry.traced = true) (ended : s.writer.HasEnded) : Event.trace events = [] := by
  cases step.handling coherent traced with
  | takes _ busy | refuses busy | encodes busy | sends busy | fails busy | breaksDown busy =>
    rw [busy] at ended
    exact ended.elim
  | rests _ trace => exact trace

theorem Becomes.trace_of_hasEnded {t : Stream} (becomes : Becomes s t) (sound : s.Sound)
    (traced : s.telemetry.traced = true) (ended : s.writer.HasEnded) :
    t.telemetry.traced = true ∧ t.writer.HasEnded ∧
      Event.trace t.history = Event.trace s.history := by
  induction becomes with
  | refl => exact ⟨traced, ended, rfl⟩
  | @step _ _ _ next earlier step ih =>
    obtain ⟨traced, ended, same⟩ := ih
    have coherent := (earlier.sound sound).coherent
    have still : next.writer.HasEnded := coherent.hasEnded_step ended step
    have recorded : next.telemetry.traced = true := by rw [step.telemetry, traced]
    refine ⟨recorded, still, ?_⟩
    rw [step.record_history, Event.trace_append, step.trace_of_hasEnded coherent traced ended,
      List.append_nil, same]

/-- When the writer has come to its end all passages have, unless a send has broken down. -/
theorem Handles.isOver (handles : Handles first s sent last) (isOver : s.writer.IsOver)
    (unbroken : s.writer ≠ .brokeDown) : ∀ passage ∈ sent ++ last.toList, passage.isOver = true := by
  intro passage isPassage
  obtain isSent | isLast := List.mem_append.mp isPassage
  · obtain ⟨call, batch, progress⟩ := handles.complete passage isSent
    simp only [Passage.isOver, progress]
  · rw [Option.mem_toList] at isLast
    obtain rfl := isLast
    have holds := handles.current
    cases writer : s.writer with
    | absent =>
      rw [writer] at holds
      cases holds
    | offering | waiting | encoding | sending =>
      rw [writer] at isOver
      exact isOver.elim
    | brokeDown => exact absurd writer unbroken
    | ended result =>
      rw [writer] at holds
      cases result with
      | ok => cases holds
      | error error =>
        cases error with
        | encode failure =>
          obtain ⟨other, same, progress⟩ := holds
          rw [Option.some.inj same, Passage.isOver, progress]
        | status status =>
          obtain ⟨other, batch, same, progress⟩ := holds
          rw [Option.some.inj same, Passage.isOver, progress]
        | canceled => cases holds
        | _ => exact holds.elim

end Stream

end TelemetryStreams
