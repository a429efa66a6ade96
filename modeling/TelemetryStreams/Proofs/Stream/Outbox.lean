import TelemetryStreams.Proofs.Stream.Items
import TelemetryStreams.Proofs.Stream.Offers

/-!
# What the writer makes of its items

Item by item the writer has a batch made by the codec and writes its header block, and what it does for
one item depends on the items before it only through the codec and the table of the header blocks
(`Bench`). So the batches of a stream are those that one gets from a bench by handing it the items in the
order in which they were taken (`Bench.batches`): all that were sent, and after them at most one that was
not (`Faithful`).
-/
namespace TelemetryStreams

/-! ### The bench -/

/-- What is put on top of the metadata of one batch: nothing, unless there is a propagator that declares
something. -/
def Telemetry.injected (telemetry : Telemetry) (row : Item × SendSpan) : Metadata :=
  match telemetry.propagator with
  | some propagator =>
    if propagator.declared = [] then []
    else (propagator.rows row.1.parent row.2.context).map fun pair => (Text.lowercase pair.1, pair.2)
  | none => []

def Telemetry.combined (telemetry : Telemetry) (row : Item × SendSpan) : Metadata :=
  Metadata.overlay (row.1.metadata.getD []) (telemetry.injected row)

/-- What the writer works with from item to item. -/
structure Bench where
  telemetry : Telemetry
  codec : Codec
  headers : Hpack.Table := {}

namespace Bench

def block (bench : Bench) (row : Item × SendSpan) : Octets × Hpack.Table :=
  if bench.telemetry.combined row = [] then ([], bench.headers)
  else Metadata.encode bench.headers (bench.telemetry.combined row)

/-- The batch of an item, or why there is none, and the bench after it. -/
def write (bench : Bench) (row : Item × SendSpan) : Except EncodeError Batch × Bench :=
  let turn := bench.codec.encode row.1.records
  match Codec.guarded turn.1 with
  | .error failure => (.error failure, { bench with codec := turn.2 })
  | .ok batch =>
    (.ok { batch with headers := (bench.block row).1 },
      { bench with codec := turn.2, headers := (bench.block row).2 })

def after (bench : Bench) (rows : List (Item × SendSpan)) : Bench :=
  rows.foldl (fun bench row => (bench.write row).2) bench

def batches : Bench → List (Item × SendSpan) → List (Except EncodeError Batch)
  | _, [] => []
  | bench, row :: rows => (bench.write row).1 :: batches (bench.write row).2 rows

/-- Whose batch has which id, for items that are written one after the other. -/
def owners : Bench → List (Item × SendSpan) → List (Int64 × Nat)
  | _, [] => []
  | bench, row :: rows =>
    ((bench.write row).1.toOption.toList.map fun batch => (batch.id, row.1.ticket)) ++
      owners (bench.write row).2 rows

theorem after_concat (bench : Bench) (rows : List (Item × SendSpan)) (row : Item × SendSpan) :
    bench.after (rows ++ [row]) = ((bench.after rows).write row).2 := List.foldl_append

theorem batches_concat (bench : Bench) (rows : List (Item × SendSpan)) (row : Item × SendSpan) :
    bench.batches (rows ++ [row]) = bench.batches rows ++ [((bench.after rows).write row).1] := by
  induction rows generalizing bench with
  | nil => rfl
  | cons first rows ih =>
    rw [List.cons_append, batches, ih, batches, List.cons_append]
    rfl

theorem owners_append (bench : Bench) (rows more : List (Item × SendSpan)) :
    bench.owners (rows ++ more) = bench.owners rows ++ (bench.after rows).owners more := by
  induction rows generalizing bench with
  | nil => rfl
  | cons row rows ih =>
    rw [List.cons_append, owners, owners, ih, List.append_assoc]
    rfl

theorem length_batches (bench : Bench) (rows : List (Item × SendSpan)) :
    (bench.batches rows).length = rows.length := by
  induction rows generalizing bench with
  | nil => rfl
  | cons row rows ih => exact congrArg Nat.succ (ih _)

theorem write_of_error (bench : Bench) (row : Item × SendSpan) {failure : EncodeError}
    (fails : Codec.guarded (bench.codec.encode row.1.records).1 = .error failure) :
    bench.write row =
      (.error failure, { bench with codec := (bench.codec.encode row.1.records).2 }) := by
  simp only [write, fails]

theorem write_of_ok (bench : Bench) (row : Item × SendSpan) {batch : Batch}
    (works : Codec.guarded (bench.codec.encode row.1.records).1 = .ok batch) :
    bench.write row = (.ok { batch with headers := (bench.block row).1 },
      { bench with
        codec := (bench.codec.encode row.1.records).2, headers := (bench.block row).2 }) := by
  simp only [write, works]

end Bench

/-! ### Items that were taken -/

namespace Event

def pickUp (rows : List (Item × SendSpan)) : Event → List (Item × SendSpan)
  | .taken item => rows ++ [(item, .unrecorded item.parent)]
  | .spanStarted span =>
    rows.dropLast ++ rows.getLast?.toList.map fun row => (row.1, span)
  | _ => rows

/-- The items that the writer has taken, each with its span. -/
def handled (history : List Event) : List (Item × SendSpan) := history.foldl pickUp []

@[simp] theorem handled_append (a b : List Event) :
    handled (a ++ b) = b.foldl pickUp (handled a) := List.foldl_append

/-- Whether an event is about an item on its way: it is taken, its span starts, or its batch is registered
or sent. -/
def isTransit : Event → Bool
  | .taken _ | .spanStarted _ | .registered .. | .sent .. => true
  | _ => false

def Still (events : List Event) : Prop := ∀ event ∈ events, event.isTransit = false

variable {events more : List Event}

theorem Still.append (first : Still events) (second : Still more) : Still (events ++ more) :=
  fun event isEvent => (List.mem_append.mp isEvent).elim (first event) (second event)

theorem still_nil : Still [] := fun _ none => nomatch none

theorem still_singleton {event : Event} (isStill : event.isTransit = false) : Still [event] :=
  fun _ isEvent => List.mem_singleton.mp isEvent ▸ isStill

theorem Reports.still (reports : Reports events) : Still events := by
  intro event isEvent
  have report := reports event isEvent
  cases event <;> first | rfl | cases report

theorem Still.foldl_pickUp (still : Still events) (rows : List (Item × SendSpan)) :
    events.foldl pickUp rows = rows := by
  induction events generalizing rows with
  | nil => rfl
  | cons event events ih =>
    have same : pickUp rows event = rows := by
      have other := still event List.mem_cons_self
      cases event <;> first | rfl | cases other
    rw [List.foldl_cons, same]
    exact ih (fun event isEvent => still event (List.mem_cons_of_mem _ isEvent)) rows

theorem Still.takenItems (still : Still events) : takenItems events = [] := by
  refine List.filterMap_eq_nil_iff.mpr fun event isEvent => ?_
  have other := still event isEvent
  cases event <;> first | rfl | cases other

theorem Still.sentBatches (still : Still events) : sentBatches events = [] := by
  refine List.filterMap_eq_nil_iff.mpr fun event isEvent => ?_
  have other := still event isEvent
  cases event <;> first | rfl | cases other

theorem Still.registrations (still : Still events) : registrations events = [] := by
  refine List.filterMap_eq_nil_iff.mpr fun event isEvent => ?_
  have other := still event isEvent
  cases event <;> first | rfl | cases other

theorem map_fst_handled (history : List Event) :
    (handled history).map Prod.fst = takenItems history := by
  induction history using List.reverseRecOn with
  | nil => rfl
  | append_singleton history event ih =>
    rw [handled_append, takenItems_append, ← ih, List.foldl_cons, List.foldl_nil]
    cases event with
    | taken item => simp [pickUp, takenItems]
    | spanStarted span =>
      rcases List.eq_nil_or_concat (handled history) with none | ⟨rows, row, last⟩
      · simp [pickUp, takenItems, none]
      · simp [pickUp, takenItems, last]
    | _ => simp [pickUp, takenItems]

theorem foldl_pickUp_taken (s : Stream) (number : Nat) (item : Item)
    (rows : List (Item × SendSpan)) :
    (.taken item :: s.takeEvents number item : List Event).foldl pickUp rows =
      rows ++ [(item, s.spanFor number item)] := by
  have entered (items : List Item) : Still (items.map .entered) := by
    intro event isEvent
    obtain ⟨other, -, rfl⟩ := List.mem_map.mp isEvent
    rfl
  unfold Stream.takeEvents Stream.spanFor
  rw [List.foldl_cons, List.foldl_append, (entered _).foldl_pickUp]
  split <;> simp [pickUp]

end Event

def WriterPhase.row? : WriterPhase → Option (Item × SendSpan)
  | .encoding item span => some (item, span)
  | _ => none

/-- What became of the items that the writer has written: all of them were sent, but one more at most,
which is being sent, or could not be encoded or sent, so that the writer is over. -/
def WriterPhase.Leaves (sent : List Batch) (results : List (Except EncodeError Batch)) :
    WriterPhase → Prop
  | .absent | .offering | .waiting | .encoding .. | .ended (.ok _) | .ended (.error .canceled) =>
    results = sent.map .ok
  | .sending batch _ => results = (sent ++ [batch]).map .ok
  | .ended (.error (.encode failure)) => results = sent.map .ok ++ [.error failure]
  | .ended (.error _) | .brokeDown => ∃ batch, results = (sent ++ [batch]).map .ok

namespace Stream

variable {s next : Stream} {action : Action} {events : List Event} {first : Bench}

/-- The bench of a stream. The table is empty when the writer begins. -/
def bench (s : Stream) : Bench where
  telemetry := s.telemetry
  codec := s.codec
  headers := match s.writer with
    | .absent => {}
    | _ => s.headers

theorem combined_eq (s : Stream) (item : Item) (span : SendSpan) :
    s.combined item span = s.telemetry.combined (item, span) := by
  unfold combined Telemetry.combined Telemetry.injected
  cases s.telemetry.propagator with
  | none => rfl
  | some propagator =>
    simp only
    split
    · rfl
    · rfl

theorem headersFor_eq {item : Item} {span : SendSpan} (encoding : s.writer = .encoding item span) :
    s.headersFor item span = s.bench.block (item, span) := by
  have headers : s.bench.headers = s.headers := by simp [bench, encoding]
  unfold headersFor Bench.block
  rw [combined_eq, headers]
  rfl

/-- What a stream registers and sends is what its bench makes of the items that it has taken. -/
def Faithful (first : Bench) (s : Stream) : Prop :=
  ∃ done, Event.handled s.history = done ++ s.writer.row?.toList ∧ first.after done = s.bench ∧
    Event.registrations s.history = first.owners done ∧
    s.writer.Leaves (Event.sentBatches s.history) (first.batches done)

theorem Fresh.faithful (fresh : s.Fresh) : s.Faithful s.bench := by
  refine ⟨[], ?_, rfl, ?_, ?_⟩
  · rw [fresh.history, fresh.writer]
    rfl
  · rw [fresh.history]
    rfl
  · rw [fresh.history, fresh.writer]
    rfl

theorem Faithful.still (faithful : s.Faithful first) (step : Step s action events next)
    (still : Event.Still events) (row : next.writer.row? = s.writer.row?)
    (bench : next.bench = s.bench)
    (leaves : ∀ results, s.writer.Leaves (Event.sentBatches s.history) results →
      next.writer.Leaves (Event.sentBatches s.history) results) :
    (next.record events).Faithful first := by
  obtain ⟨done, handled, after, owners, left⟩ := faithful
  refine ⟨done, ?_, after.trans bench.symm, ?_, ?_⟩
  · rw [step.record_history, Event.handled_append, still.foldl_pickUp]
    exact handled.trans (congrArg (done ++ ·.toList) row.symm)
  · rw [step.record_history, Event.registrations_append, still.registrations, List.append_nil]
    exact owners
  · rw [step.record_history, Event.sentBatches_append, still.sentBatches, List.append_nil]
    exact leaves _ left

theorem Faithful.aside (faithful : s.Faithful first) (step : Step s action events next)
    (still : Event.Still events) (writer : next.writer = s.writer) (codec : next.codec = s.codec)
    (headers : next.headers = s.headers) (telemetry : next.telemetry = s.telemetry) :
    (next.record events).Faithful first := by
  refine faithful.still step still (congrArg _ writer) ?_ fun results left => writer ▸ left
  unfold Stream.bench
  rw [writer, codec, headers, telemetry]

theorem Faithful.takes {env : Surroundings} {item : Item} (faithful : s.Faithful first)
    (waiting : s.writer = .waiting)
    (step : Step s (.move .take env) (.taken item :: s.takeEvents env.nextSpan item) next)
    (encoding : next.writer = .encoding item (s.spanFor env.nextSpan item))
    (bench : next.bench = s.bench) :
    (next.record (.taken item :: s.takeEvents env.nextSpan item)).Faithful first := by
  obtain ⟨done, handled, after, owners, left⟩ := faithful
  rw [waiting] at handled left
  have idle := Event.idle_takeEvents s env.nextSpan item
  have unsent : Event.sentBatches (s.takeEvents env.nextSpan item) = [] :=
    Event.sentBatches_of_idle idle
  have unregistered : Event.registrations (s.takeEvents env.nextSpan item) = [] :=
    Event.registrations_of_idle idle
  refine ⟨done, ?_, after.trans bench.symm, ?_, ?_⟩
  · rw [step.record_history, Event.handled_append, Event.foldl_pickUp_taken, handled]
    change _ = done ++ next.writer.row?.toList
    rw [encoding]
    exact congrArg (· ++ _) (List.append_nil done)
  · rw [step.record_history, Event.registrations_append]
    change _ ++ Event.registrations (s.takeEvents env.nextSpan item) = _
    rw [unregistered, List.append_nil]
    exact owners
  · rw [step.record_history, Event.sentBatches_append]
    change next.writer.Leaves (_ ++ Event.sentBatches (s.takeEvents env.nextSpan item)) _
    rw [unsent, List.append_nil, encoding]
    exact left

/-- The writer is done with having its item encoded, and registers the batch if there is one. -/
theorem Faithful.writes {env : Surroundings} {item : Item} {span : SendSpan}
    (made : List (Int64 × Nat)) (rest : List Event) (faithful : s.Faithful first)
    (encoding : s.writer = .encoding item span)
    (step : Step s (.move .encode env) (made.map (fun row => .registered row.1 row.2) ++ rest) next)
    (still : Event.Still rest) (row : next.writer.row? = none)
    (owners : made = s.bench.owners [(item, span)])
    (bench : next.bench = (s.bench.write (item, span)).2)
    (leaves : next.writer.Leaves (Event.sentBatches s.history)
      ((Event.sentBatches s.history).map .ok ++ [(s.bench.write (item, span)).1])) :
    (next.record (made.map (fun row => .registered row.1 row.2) ++ rest)).Faithful first := by
  obtain ⟨done, handled, after, owned, left⟩ := faithful
  rw [encoding] at handled left
  have picked (rows : List (Item × SendSpan)) : (made.map fun row =>
      Event.registered row.1 row.2).foldl Event.pickUp rows = rows := by
    rw [List.foldl_map]
    exact List.foldl_fixed' (fun _ => rfl) made
  have registered : Event.registrations (made.map fun row => Event.registered row.1 row.2) = made := by
    simp [Event.registrations, List.filterMap_map]
  have unsent : Event.sentBatches (made.map fun row => Event.registered row.1 row.2) = [] := by
    simp [Event.sentBatches, List.filterMap_map]
  refine ⟨done ++ [(item, span)], ?_, ?_, ?_, ?_⟩
  · rw [step.record_history, Event.handled_append, List.foldl_append, picked, still.foldl_pickUp]
    change _ = _ ++ next.writer.row?.toList
    rw [row]
    exact handled.trans (List.append_nil _).symm
  · rw [Bench.after_concat, after]
    exact bench.symm
  · rw [step.record_history, Event.registrations_append, Event.registrations_append, registered,
      still.registrations, List.append_nil, Bench.owners_append, after, owned, owners]
  · rw [step.record_history, Event.sentBatches_append, Event.sentBatches_append, unsent,
      still.sentBatches, List.append_nil, List.append_nil, Bench.batches_concat, after,
      show first.batches done = _ from left]
    exact leaves

theorem Faithful.sends {env : Surroundings} {call : Nat} {batch : Batch} {span : SendSpan}
    {reports : List Event} (faithful : s.Faithful first) (sending : s.writer = .sending batch span)
    (step : Step s (.move .send env) (.sent call batch :: reports) next)
    (reported : Event.Reports reports) (offering : next.writer = .offering)
    (bench : next.bench = s.bench) :
    (next.record (.sent call batch :: reports)).Faithful first := by
  obtain ⟨done, handled, after, owners, left⟩ := faithful
  rw [sending] at handled left
  have sent : Event.sentBatches (.sent call batch :: reports) = [batch] :=
    congrArg (batch :: ·) reported.still.sentBatches
  have unregistered : Event.registrations (.sent call batch :: reports) = [] :=
    reported.still.registrations
  refine ⟨done, ?_, after.trans bench.symm, ?_, ?_⟩
  · rw [step.record_history, Event.handled_append, List.foldl_cons, reported.still.foldl_pickUp]
    change _ = done ++ next.writer.row?.toList
    rw [offering]
    exact handled
  · rw [step.record_history, Event.registrations_append, unregistered, List.append_nil]
    exact owners
  · rw [step.record_history, Event.sentBatches_append, sent]
    change next.writer.Leaves _ _
    rw [offering]
    exact left

theorem Faithful.step (faithful : s.Faithful first) (coherent : s.Coherent)
    (step : Step s action events next) : (next.record events).Faithful first := by
  have made := step
  cases step with
  | started | stalled | readCanceled | linedUp | left | delivered | modeSet | parentCanceled =>
    exact faithful.aside made Event.still_nil rfl rfl rfl rfl
  | openingCanceled | refused | unrecognized | sourceBroke | finished | entered =>
    exact faithful.aside made (Event.still_singleton rfl) rfl rfl rfl rfl
  | unexpected | settled =>
    exact faithful.aside made (by simp [Event.Still, Event.isTransit]) rfl rfl rfl rfl
  | readEnded => exact faithful.aside made (Event.still_singleton rfl) rfl rfl rfl rfl
  | joined => exact faithful.aside made (Event.reports_endLogs _ _).still rfl rfl rfl rfl
  | swept => exact faithful.aside made (Event.reports_release _).still rfl rfl rfl rfl
  | opened starting =>
    have absent := (coherent.early (.inr (.inl starting))).1
    refine faithful.still made (Event.still_singleton rfl) ?_ ?_ fun results left => ?_
    · rw [absent]; rfl
    · simp [bench, absent]
    · rw [absent] at left
      exact left
  | offered offering =>
    refine faithful.still made (Event.still_singleton rfl) ?_ ?_ fun results left => ?_
    · rw [offering]; rfl
    · simp [bench, offering]
    · rw [offering] at left
      exact left
  | taken waiting queued =>
    exact faithful.takes waiting made rfl (by simp [bench, waiting])
  | expired waiting | quit waiting =>
    refine faithful.still made (by simp [Event.Still, Event.isTransit]) ?_ ?_ fun results left => ?_
    · rw [waiting]; rfl
    · simp [bench, waiting]
    · rw [waiting] at left
      exact left
  | @notEncoded env item span failure encoding fails =>
    have failed := s.bench.write_of_error (item, span) fails
    refine faithful.writes [] _ encoding made ?_ rfl ?_ ?_ ?_
    · have logged := (Event.reports_encodeLog failure).still
      have ended := (Event.reports_spanEnds s span (some (Error.encode failure).message)).still
      exact ((logged.append (Event.still_singleton rfl)).append ended).append
        (Event.still_singleton rfl)
    · rw [Bench.owners, failed]
      rfl
    · rw [failed]
      simp [bench, encoding]
    · rw [failed]
      rfl
  | @encoded env item span batch encoding works =>
    have displaced := (Event.reports_displacement s.inFlight batch.id).still
    have written := s.bench.write_of_ok (item, span) works
    have block := headersFor_eq encoding
    refine faithful.writes [(batch.id, item.ticket)] _ encoding made
      (displaced.append (Event.reports_measurement s item).still) rfl ?_ ?_ ?_
    · rw [Bench.owners, written]
      rfl
    · rw [written, ← block]
      simp [bench, encoding]
    · rw [written, ← block]
      simp [WriterPhase.Leaves]
  | @notSent env batch span call status sending =>
    have ended := (Event.reports_spanEnds s span (some status.text)).still
    refine faithful.still made (ended.append (Event.still_singleton rfl)) ?_ ?_ fun results left => ?_
    · rw [sending]; rfl
    · simp [bench, sending]
    · rw [sending] at left
      exact ⟨batch, left⟩
  | sinkBroke sending =>
    refine faithful.still made Event.still_nil ?_ ?_ fun results left => ?_
    · rw [sending]; rfl
    · simp [bench, sending]
    · rw [sending] at left
      exact ⟨_, left⟩
  | sent sending =>
    exact faithful.sends sending made (Event.reports_spanEnds _ _ _) rfl (by simp [bench, sending])

end Stream

end TelemetryStreams
