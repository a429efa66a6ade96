import TelemetryStreams.Proofs.Metadata
import TelemetryStreams.Proofs.Stream.Order
import TelemetryStreams.Stream.Received

/-!
# What the peer reads

The peer of a call reads the header blocks of the batches with a table of its own, in the order in which
they were sent. After each batch its table is the one with which the writer goes on
(`Bench.recovers_write`), so it reads what travelled with the item of each batch (`Bench.recovers`). The
two tables differ only while a batch is being sent, or once the writer has ended with a batch that was
not (`Stream.Faithful.inStep`).
-/
namespace TelemetryStreams

/-! ### Reading batches -/

namespace Batch

def read (table : Hpack.Table) (batch : Batch) :
    Option (Except Metadata.Fault Metadata) × Hpack.Table :=
  if batch.headers = [] then (none, table)
  else (some (Metadata.decode table batch.headers).1, (Metadata.decode table batch.headers).2)

def tableAfter (table : Hpack.Table) (batches : List Batch) : Hpack.Table :=
  batches.foldl (fun table batch => (batch.read table).2) table

theorem readAll_cons (table : Hpack.Table) (batch : Batch) (batches : List Batch) :
    readAll table (batch :: batches) =
      (batch, (batch.read table).1) :: readAll (batch.read table).2 batches := by
  rw [readAll, read]
  split <;> rfl

theorem map_fst_readAll (table : Hpack.Table) (batches : List Batch) :
    (readAll table batches).map Prod.fst = batches := by
  induction batches generalizing table with
  | nil => rfl
  | cons batch batches ih => rw [readAll_cons, List.map_cons, ih]

theorem length_readAll (table : Hpack.Table) (batches : List Batch) :
    (readAll table batches).length = batches.length := by
  rw [← List.length_map Prod.fst, map_fst_readAll]

end Batch

/-- What travels with an item is a map of texts that are read back. -/
def Telemetry.Fits (telemetry : Telemetry) (row : Item × SendSpan) : Prop :=
  (telemetry.combined row).IsMap ∧ (telemetry.combined row).IsShort

/-- What a peer has got is the batch of an item and what travelled with it. -/
structure Telemetry.Recovers (telemetry : Telemetry) (row : Item × SendSpan)
    (got : Batch × Option (Except Metadata.Fault Metadata)) : Prop where
  payloads : got.1.payloads = [Codec.payload row.1.records]
  block : got.1.headers = [] ↔ telemetry.combined row = []
  read : got.2 =
    if telemetry.combined row = [] then none else some (.ok (telemetry.combined row).sorted)

namespace Bench

variable {bench : Bench} {row : Item × SendSpan} {rows : List (Item × SendSpan)} {batch : Batch}
  {batches : List Batch}

theorem telemetry_write (bench : Bench) (row : Item × SendSpan) :
    (bench.write row).2.telemetry = bench.telemetry := by
  unfold write
  simp only
  split <;> rfl

theorem telemetry_after (bench : Bench) (rows : List (Item × SendSpan)) :
    (bench.after rows).telemetry = bench.telemetry := by
  induction rows generalizing bench with
  | nil => rfl
  | cons row rows ih => exact (ih _).trans (bench.telemetry_write row)

theorem isDefault_write (isDefault : bench.headers.IsDefault) (row : Item × SendSpan) :
    (bench.write row).2.headers.IsDefault := by
  unfold write block
  simp only
  split
  · exact isDefault
  · split
    · exact isDefault
    · exact isDefault.encode _

theorem take_batches (bench : Bench) (rows : List (Item × SendSpan)) (count : Nat) :
    (bench.batches rows).take count = bench.batches (rows.take count) := by
  induction rows generalizing bench count with
  | nil => simp [batches]
  | cons row rows ih =>
    cases count with
    | zero => rfl
    | succ count => exact congrArg (_ :: ·) (ih _ count)

theorem recovers_write (isDefault : bench.headers.IsDefault) (fits : bench.telemetry.Fits row)
    (written : (bench.write row).1 = .ok batch) :
    bench.telemetry.Recovers row (batch, (batch.read bench.headers).1) ∧
      (batch.read bench.headers).2 = (bench.write row).2.headers := by
  obtain ⟨isMap, isShort⟩ := fits
  cases works : Codec.guarded (bench.codec.encode row.1.records).1 with
  | error failure =>
    rw [bench.write_of_error row works] at written
    cases written
  | ok made =>
    have payloads := Codec.payloads_of_encode works
    rw [bench.write_of_ok row works] at written ⊢
    obtain rfl := Except.ok.inj written
    by_cases none : bench.telemetry.combined row = []
    · have block : bench.block row = ([], bench.headers) := if_pos none
      simp only [block]
      exact ⟨⟨payloads, by simp [none], by simp [none, Batch.read]⟩, rfl⟩
    · have block : bench.block row =
          Metadata.encode bench.headers (bench.telemetry.combined row) := if_neg none
      have some : (Metadata.encode bench.headers (bench.telemetry.combined row)).1 ≠ [] :=
        fun empty => none ((Metadata.encode_eq_nil isDefault isShort).mp empty)
      have read := Metadata.decode_encode isDefault isMap isShort
      simp only [block]
      refine ⟨⟨payloads, by simp [none, some], ?_⟩, ?_⟩
      · simp [none, some, Batch.read, read]
      · simp [some, Batch.read, read]

/-- A peer reads from each batch what travelled with its item. -/
theorem recovers (isDefault : bench.headers.IsDefault)
    (fits : ∀ row ∈ rows, bench.telemetry.Fits row) (written : bench.batches rows = batches.map .ok) :
    List.Forall₂ (fun row got => bench.telemetry.Recovers row got ∧
        (got.1.id, row.1.ticket) ∈ bench.owners rows)
      rows (Batch.readAll bench.headers batches) := by
  induction rows generalizing bench batches with
  | nil =>
    obtain rfl := List.map_eq_nil_iff.mp written.symm
    exact .nil
  | cons row rows ih =>
    obtain ⟨batch, rest, rfl, made, others⟩ := List.map_eq_cons_iff.mp written.symm
    simp only [List.forall_mem_cons] at fits
    obtain ⟨first, table⟩ := recovers_write isDefault fits.1 made.symm
    have later := ih (isDefault_write isDefault row)
      (by simpa only [bench.telemetry_write] using fits.2) others.symm
    rw [Batch.readAll_cons, table, owners, ← made]
    refine .cons ⟨first, List.mem_append_left _ List.mem_cons_self⟩ (later.imp fun other got read => ?_)
    rw [bench.telemetry_write] at read
    exact ⟨read.1, List.mem_append_right _ read.2⟩

/-- The writer's table is that of a peer which has read all batches that were made. -/
theorem headers_after (isDefault : bench.headers.IsDefault)
    (fits : ∀ row ∈ rows, bench.telemetry.Fits row) :
    (bench.after rows).headers =
      Batch.tableAfter bench.headers ((bench.batches rows).filterMap Except.toOption) := by
  induction rows generalizing bench with
  | nil => rfl
  | cons row rows ih =>
    simp only [List.forall_mem_cons] at fits
    have later := ih (isDefault_write isDefault row)
      (by simpa only [bench.telemetry_write] using fits.2)
    refine later.trans ?_
    rw [batches]
    cases made : (bench.write row).1 with
    | error failure =>
      have same : (bench.write row).2.headers = bench.headers := by
        unfold write at made ⊢
        simp only at made ⊢
        split
        · rfl
        · simp_all
      rw [same]
      rfl
    | ok batch =>
      rw [← (recovers_write isDefault fits.1 made).2]
      rfl

end Bench

/-- Of the batches that were made one at most was not sent: it is being sent, or the writer has ended with
it. -/
theorem WriterPhase.Leaves.exists_unsent {writer : WriterPhase} {sent : List Batch}
    {results : List (Except EncodeError Batch)} (leaves : writer.Leaves sent results) :
    ∃ unsent, results.filterMap Except.toOption = sent ++ unsent ∧ (unsent = [] ∨ ∃ batch,
      unsent = [batch] ∧ ((∃ span, writer = .sending batch span) ∨ writer.HasEnded)) := by
  have made (more : List (Except EncodeError Batch)) :
      (sent.map Except.ok ++ more).filterMap Except.toOption =
        sent ++ more.filterMap Except.toOption := by
    simp [List.filterMap_map, Function.comp_def, Except.toOption]
  obtain ⟨rfl, -⟩ | ⟨batch, rfl, -, -, last⟩ | ⟨failure, rfl, -⟩ := leaves.outcome
  · exact ⟨[], by simpa using made [], .inl rfl⟩
  · exact ⟨[batch], made _, .inr ⟨batch, rfl, last⟩⟩
  · exact ⟨[], made _, .inl rfl⟩

namespace Event

variable {events : List Event}

@[simp] theorem calls_append (a b : List Event) : calls (a ++ b) = calls a ++ calls b :=
  List.filterMap_append

theorem calls_of_aside (aside : Aside events) : calls events = [] := by
  refine List.filterMap_eq_nil_iff.mpr fun event isEvent => ?_
  have report := aside event isEvent
  cases event <;> first | rfl | cases report

theorem not_sent_of_aside (aside : Aside events) (number : Nat) (batch : Batch) :
    .sent number batch ∉ events := by
  intro isSent
  cases aside _ isSent

end Event

namespace Stream

variable {s t next : Stream} {action : Action} {events : List Event} {first : Bench}

/-! ### The call -/

theorem Step.call_cases (step : Step s action events next) :
    (s.run = .starting ∧ ∃ number, events = [.opened number] ∧
      next.call.map Call.number = some number) ∨
    Event.calls events = [] ∧ next.call.map Call.number = s.call.map Call.number ∧
      ∀ number batch, Event.sent number batch ∈ events → s.call.map Call.number = some number := by
  have aside (aside : Event.Aside events) (same : next.call = s.call) :
      Event.calls events = [] ∧ next.call.map Call.number = s.call.map Call.number ∧
      ∀ number batch, Event.sent number batch ∈ events → s.call.map Call.number = some number :=
    ⟨Event.calls_of_aside aside, congrArg _ same,
      fun number batch isSent => absurd isSent (Event.not_sent_of_aside aside number batch)⟩
  cases step with
  | opened starting => exact .inl ⟨starting, _, rfl, rfl⟩
  | @taken env item queue =>
    have begun := Event.aside_takeEvents s env.nextSpan item
    have unopened := Event.calls_of_aside begun
    refine .inr ⟨unopened, rfl, fun number batch isSent => ?_⟩
    simp [Event.not_sent_of_aside begun] at isSent
  | @notEncoded env item span failure =>
    have logged := (Event.reports_encodeLog failure).aside
    have ended := (Event.reports_spanEnds s span (some (Error.encode failure).message)).aside
    refine .inr ⟨?_, rfl, fun number batch isSent => ?_⟩
    · simp only [Event.calls_append, Event.calls_of_aside logged, Event.calls_of_aside ended]
      rfl
    · simp [Event.not_sent_of_aside logged, Event.not_sent_of_aside ended] at isSent
  | @encoded env item span batch =>
    have displaced := (Event.reports_displacement s.inFlight batch.id).aside
    have measured := (Event.reports_measurement s item).aside
    have unopened := Event.calls_of_aside displaced
    refine .inr ⟨?_, rfl, fun number batch isSent => ?_⟩
    · rw [Event.calls_append, Event.calls_of_aside measured, List.append_nil]
      exact unopened
    · simp [Event.not_sent_of_aside displaced, Event.not_sent_of_aside measured] at isSent
  | @notSent env batch span call status =>
    have ended := (Event.reports_spanEnds s span (some status.text)).aside
    refine .inr ⟨?_, rfl, fun number batch isSent => ?_⟩
    · rw [Event.calls_append, Event.calls_of_aside ended]
      rfl
    · simp [Event.not_sent_of_aside ended] at isSent
  | @sent env batch span call _ called =>
    have ended := (Event.reports_spanEnds s span none).aside
    have unopened := Event.calls_of_aside ended
    refine .inr ⟨unopened, rfl, fun number batch isSent => ?_⟩
    simp only [List.mem_cons, Event.not_sent_of_aside ended, or_false, Event.sent.injEq] at isSent
    rw [called, isSent.1]
    rfl
  | joined => exact .inr (aside (Event.reports_endLogs _ _).aside rfl)
  | swept => exact .inr (aside (Event.reports_release _).aside rfl)
  | unrecognized _ called | unexpected _ called | settled _ called | sourceBroke _ called
  | modeSet called => exact .inr ⟨rfl, by simp [called], by simp⟩
  | readEnded _ called => exact .inr ⟨rfl, by simp [called], by simp⟩
  | @delivered message call called =>
    have same : (call.post message).number = call.number := by
      unfold Call.post
      split <;> rfl
    exact .inr ⟨rfl, by simp [called, same], by simp⟩
  | _ => exact .inr ⟨rfl, rfl, by simp⟩

/-- A stream has one call at most, and all its batches were sent on that. -/
structure OneCall (s : Stream) : Prop where
  opened : Event.calls s.history = (s.call.map Call.number).toList
  sent : ∀ number batch, Event.sent number batch ∈ s.history → s.call.map Call.number = some number

theorem Fresh.oneCall (fresh : s.Fresh) : s.OneCall := by
  refine ⟨?_, ?_⟩
  · rw [fresh.history, fresh.call]
    rfl
  · simp [fresh.history]

theorem OneCall.step (one : s.OneCall) (coherent : s.Coherent) (manned : s.Manned)
    (step : Step s action events next) : (next.record events).OneCall := by
  have history := step.record_history
  obtain ⟨starting, number, rfl, opened⟩ | ⟨none, same, sent⟩ := step.call_cases
  · have unopened := manned (coherent.early (.inr (.inl starting))).1
    refine ⟨?_, fun other batch isSent => ?_⟩
    · rw [history, Event.calls_append, one.opened, unopened]
      change _ = (next.call.map Call.number).toList
      rw [opened]
      rfl
    · rw [history] at isSent
      have earlier : Event.sent other batch ∈ s.history := by simpa using isSent
      have called := one.sent other batch earlier
      rw [unopened] at called
      cases called
  · refine ⟨?_, fun number batch isSent => ?_⟩
    · rw [history, Event.calls_append, none, List.append_nil, one.opened, ← same]
      rfl
    · rw [history] at isSent
      refine same.trans ?_
      obtain earlier | now := List.mem_append.mp isSent
      · exact one.sent number batch earlier
      · exact sent number batch now

theorem OneCall.unsent (one : s.OneCall) (uncalled : s.call.map Call.number = none) :
    Event.sentBatches s.history = [] := by
  refine List.filterMap_eq_nil_iff.mpr fun event isEvent => ?_
  cases event with
  | sent number batch =>
    have sent := one.sent number batch isEvent
    rw [uncalled] at sent
    cases sent
  | _ => rfl

/-- What a peer gets are the batches that were sent, and what it reads from them. -/
theorem OneCall.deliveries (one : s.OneCall) :
    Event.deliveries s.history =
      (Batch.readAll {} (Event.sentBatches s.history)).map fun got => (s.callNumber, got) := by
  unfold Event.deliveries callNumber
  rw [one.opened]
  cases called : s.call.map Call.number with
  | none =>
    rw [one.unsent called]
    rfl
  | some number =>
    have all : Event.sentOn number s.history = Event.sentBatches s.history := by
      refine List.filterMap_congr fun event isEvent => ?_
      cases event with
      | sent other batch =>
        have sent := one.sent other batch isEvent
        rw [called] at sent
        exact if_pos (Option.some.inj sent).symm
      | _ => rfl
    simp [all]

theorem OneCall.deliveries_eq (one : s.OneCall) (later : t.OneCall) (becomes : Becomes s t)
    (same : Event.sentBatches t.history = Event.sentBatches s.history) :
    Event.deliveries t.history = Event.deliveries s.history := by
  rw [later.deliveries, one.deliveries, same]
  cases called : s.call.map Call.number with
  | none =>
    rw [one.unsent called]
    rfl
  | some number =>
    obtain ⟨more, history⟩ := becomes.history
    have opened := later.opened
    rw [history, Event.calls_append, one.opened, called] at opened
    have still : t.call.map Call.number = some number := by
      cases other : t.call.map Call.number <;> simp_all
    rw [callNumber, callNumber, called, still]

/-! ### The writer and the peer -/

theorem Faithful.telemetry (faithful : s.Faithful first) : first.telemetry = s.telemetry := by
  obtain ⟨done, -, after, -⟩ := faithful
  rw [← first.telemetry_after done, after]
  rfl

/-- A peer reads from each batch that was sent what travelled with its item, and the item is the one of
the caller who was registered for the batch. -/
theorem Faithful.recovers (faithful : s.Faithful first) (start : first.headers = {})
    (fits : ∀ row ∈ Event.handled s.history, s.telemetry.Fits row) :
    List.Forall₂ (fun row got => s.telemetry.Recovers row got ∧
        (got.1.id, row.1.ticket) ∈ Event.registrations s.history)
      ((Event.handled s.history).take (Event.sentBatches s.history).length)
      (Batch.readAll {} (Event.sentBatches s.history)) := by
  have telemetry := faithful.telemetry
  obtain ⟨done, handled, -, owners, leaves⟩ := faithful
  obtain ⟨more, results, -⟩ := leaves.exists_more
  have count := congrArg List.length results
  rw [Bench.length_batches, List.length_append, List.length_map] at count
  have rows : (Event.handled s.history).take (Event.sentBatches s.history).length =
      done.take (Event.sentBatches s.history).length := by
    rw [handled, List.take_append_of_le_length (by omega)]
  have written : first.batches (done.take (Event.sentBatches s.history).length) =
      (Event.sentBatches s.history).map .ok := by
    rw [← Bench.take_batches, results, List.take_left' (List.length_map _)]
  have read := Bench.recovers (start ▸ Hpack.isDefault_start) (fun row isRow => ?_) written
  · rw [rows, ← start]
    refine read.imp fun row got ⟨recovers, owned⟩ => ⟨telemetry ▸ recovers, ?_⟩
    rw [owners, ← List.take_append_drop (Event.sentBatches s.history).length done,
      Bench.owners_append]
    exact List.mem_append_left _ owned
  · rw [telemetry]
    exact fits row (handled ▸ List.mem_append_left _ (List.mem_of_mem_take isRow))

/-- The writer's table is that of a peer which has read the batches that were sent, and at most one more:
the batch that is being sent, or with which the writer has ended. -/
theorem Faithful.inStep (faithful : s.Faithful first) (start : first.headers = {})
    (fits : ∀ row ∈ Event.handled s.history, s.telemetry.Fits row) :
    ∃ unsent, s.bench.headers = Batch.tableAfter {} (Event.sentBatches s.history ++ unsent) ∧
      (unsent = [] ∨ ∃ batch, unsent = [batch] ∧
        ((∃ span, s.writer = .sending batch span) ∨ s.writer.HasEnded)) := by
  have telemetry := faithful.telemetry
  obtain ⟨done, handled, after, -, leaves⟩ := faithful
  obtain ⟨unsent, made, last⟩ := leaves.exists_unsent
  have fit : ∀ row ∈ done, first.telemetry.Fits row :=
    fun row isRow => telemetry ▸ fits row (handled ▸ List.mem_append_left _ isRow)
  have headers := Bench.headers_after (start ▸ Hpack.isDefault_start) fit
  refine ⟨unsent, ?_, last⟩
  rw [← after, headers, start, made]

end Stream

end TelemetryStreams
