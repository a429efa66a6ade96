import TelemetryStreams.Proofs.Pool.Tickets
import TelemetryStreams.Proofs.Stream.Sizes

/-!
# Sizes match what is sent

A caller computes the size of its records when it makes its item, if sizes are measured at all
(`Reachable.weighed`), and the writer of a stream reports it. So what a stream reports are the
lengths of the encodings of the requests that its callers have submitted, one report for each that
the codec has encoded and that is not empty, in the order in which they were taken
(`sizes_are_reported`).
-/
namespace TelemetryStreams

def Setup.codecAt (setup : Setup) (place : Nat) : Codec :=
  (setup.variants[place]?.getD (setup.lifetime, setup.codec)).2

/-- The report that is due for records once the codec has had its turn: the length of their
encoding, as far as a report can hold it, under a method. -/
def Records.report? (method : String) (records : Records) :
    Except EncodeError Batch → Option (String × Int)
  | .ok _ => if records.encode = [] then none
    else some (method, (min records.encode.length Measured.greatest : Nat))
  | .error _ => none

def Measured.row (measured : Measured) : String × Int := (measured.method, measured.length.toInt)

/-- An item with the size of its records is reported as its records are. -/
theorem Item.row_report? {item : Item} (weighed : item.size = item.records.size) (method : String)
    (made : Except EncodeError Batch) :
    (item.report? method made).map Measured.row = item.records.report? method made := by
  cases made with
  | error failure => rfl
  | ok batch =>
    have length := item.records.length_encode_records
    simp only [report?, Records.report?]
    by_cases empty : item.records.encode = []
    · rw [empty, List.length_nil] at length
      rw [if_pos (weighed.trans length.symm), if_pos empty]
      rfl
    · have filled : item.size ≠ 0 := by
        rw [weighed, ← length]
        exact mt List.eq_nil_of_length_eq_zero empty
      rw [if_neg filled, if_neg empty, length, ← weighed]
      exact congrArg (fun length => some (method, length)) item.toInt_reported

theorem Item.report?_of_unweighed {item : Item} (unweighed : item.size = 0) (method : String)
    (made : Except EncodeError Batch) : item.report? method made = none := by
  cases made with
  | error failure => rfl
  | ok batch => exact if_pos unweighed

namespace Pool

variable {p q : Pool} {stream : Nat} {s : Stream}

theorem Reachable.sized (reachable : Reachable p) (isStream : p.streams[stream]? = some s) :
    s.Sized (p.setup.codecAt stream) := by
  refine reachable.eachAt (P := fun setup place s => s.Sized (setup.codecAt place))
    (fun p => p.newStream_fresh.sized rfl) (fun _ _ s action events next sound sized step => ?_)
    isStream
  exact sized.step sound.coherent step

/-- An item has the size of its records if sizes are measured, and none otherwise. -/
theorem Reachable.weighed (reachable : Reachable p) (isStream : p.streams[stream]? = some s)
    {item : Item} (isTaken : item ∈ Event.takenItems s.history) :
    item.size = if p.setup.telemetry.detailed then item.records.size else 0 := by
  obtain ⟨c, metadata, -, same⟩ := reachable.authored_taken isStream isTaken
  rw [same]
  rfl

/-- What a stream has reported when its codec has had a turn for some items. -/
structure Measures (p : Pool) (stream : Nat) (s : Stream) (items : List Item) : Prop where
  /-- These are the items that were taken, but for one that the writer is about to have encoded. -/
  taken : Event.takenItems s.history = items ++ s.writer.row?.toList.map Prod.fst
  /-- Each has the records of its caller, who has computed their size, if sizes are measured. -/
  own : ∀ item ∈ Event.takenItems s.history, ∃ c, p.callers[item.ticket]? = some c ∧
    item.records = c.records ∧
    item.size = if p.setup.telemetry.detailed then c.records.encode.length else 0
  /-- One report for each item that was encoded and is not empty, in this order, if sizes are
  measured. -/
  reports : p.setup.telemetry.detailed = true → (Event.measurements s.history).map Measured.row =
    (items.zip ((p.setup.codecAt stream).outcomes items)).filterMap fun row =>
      row.1.records.report? (s.method.getD "") row.2
  silent : p.setup.telemetry.detailed = false → Event.measurements s.history = []
  /-- The method is that of the call of the stream. -/
  method : items ≠ [] → ∃ call, s.call = some call ∧ s.method = some (Call.methodOf call.number)

/-- What a stream reports are the sizes of the requests that were encoded, in the order in which
they were taken, whatever becomes of them afterwards. -/
theorem sizes_are_reported (reachable : Reachable p) (isStream : p.streams[stream]? = some s) :
    ∃ items, Measures p stream s items := by
  have sized := reachable.sized isStream
  obtain ⟨items, taken, -, measured⟩ := sized.written
  have weighs : ∀ row ∈ items.zip ((p.setup.codecAt stream).outcomes items),
      row.1.size = if p.setup.telemetry.detailed then row.1.records.size else 0 := by
    intro row isRow
    have here : row.1 ∈ Event.takenItems s.history := by
      rw [taken]
      exact List.mem_append_left _ (List.of_mem_zip isRow).1
    exact reachable.weighed isStream here
  refine ⟨items, taken, fun item isTaken => ?_, fun detailed => ?_, fun plain => ?_,
    fun turned => ?_⟩
  · obtain ⟨c, metadata, isCaller, same⟩ := reachable.authored_taken isStream isTaken
    have records : item.records = c.records := congrArg Item.records same
    refine ⟨c, isCaller, records, ?_⟩
    rw [Records.length_encode_records, ← records]
    exact reachable.weighed isStream isTaken
  · rw [measured, Codec.reports, List.map_filterMap]
    refine List.filterMap_congr fun row isRow => ?_
    have weighed := weighs row isRow
    rw [if_pos detailed] at weighed
    exact row.1.row_report? weighed _ _
  · rw [measured, Codec.reports]
    refine List.filterMap_eq_nil_iff.mpr fun row isRow => ?_
    have unweighed := weighs row isRow
    rw [plain] at unweighed
    exact Item.report?_of_unweighed unweighed _ _
  · cases called : s.call with
    | none =>
      have untaken := (sized.unopened called).2
      rw [taken] at untaken
      exact absurd (List.append_eq_nil_iff.mp untaken).1 turned
    | some call =>
      have named := sized.method
      rw [called] at named
      exact ⟨call, rfl, named⟩

/-- A request of one span with two events and two links, of which one each holds nothing. -/
def nestedTraces : Records :=
  .traces (Records.single [{
    events := [{}, { time := 1, name := "e", attributes := [.entry "a" (some (.integer (-1)))]
                     dropped := 127 }]
    links := [{}, { traceId := [1, 2, 3, 4, 5, 6, 7, 8, 9, 10, 11, 12, 13, 14, 15, 16]
                    spanId := [1, 2, 3, 4, 5, 6, 7, 8], traceState := "z"
                    attributes := [.entry "l" (some (.double 0))], dropped := 128, flags := 1 }] }])

/-- A request of one histogram with two points, of which one holds nothing. Its bounds are a half and
one. -/
def nestedMetrics : Records :=
  .metrics (Records.single [{
    series := .histogram [{}, {
      attributes := [.entry "k" none], startTime := 8, time := 9, count := 3, sum := some 0
      buckets := [0, 1, 2], bounds := [0x3fe0000000000000, 0x3ff0000000000000], flags := 2
      min := some 0, max := some 0x3ff0000000000000 }] 1 }])

/-- The request of the second caller is empty, those of the next two are nested, and the batch of the last
one is not sent, since the pool is canceled. -/
def fiveSizes : List Action :=
  let submission (caller : Nat) (records : Records) : List Action :=
    [.arrive {} records (some 0), .enter caller, .submit caller false]
  let turn : List Action := [.stream 0 .offer, .stream 0 .take, .stream 0 .encode]
  let sent (caller : Nat) (records : Records) : List Action :=
    submission caller records ++ turn ++ [.stream 0 .send]
  [.run 0, .stream 0 .establish] ++ sent 0 (.logs (Records.single [{}])) ++ sent 1 (.traces []) ++
    sent 2 nestedTraces ++ sent 3 nestedMetrics ++
    submission 4 (.logs (Records.single [{}, {}])) ++ turn ++ [.cancel, .stream 0 .send]

theorem sizes_are_reported_unsent :
    ∃ p s items, (single { telemetry := { detailed := true } } []).follow fiveSizes = some p ∧
      p.streams[0]? = some s ∧ Measures p 0 s items ∧ items.map Item.ticket = [0, 1, 2, 3, 4] ∧
      (Event.sentBatches s.history).length = 4 ∧
      (Event.measurements s.history).map Measured.row =
        [("/fake.ArrowService/Call0", 6), ("/fake.ArrowService/Call0", 101),
          ("/fake.ArrowService/Call0", 119), ("/fake.ArrowService/Call0", 8)] := by
  have facts : ((single { telemetry := { detailed := true } } []).follow fiveSizes).bind
      (fun p => p.streams[0]?.map fun s => ((Event.takenItems s.history).map Item.ticket,
        s.writer.row?.isNone, (Event.sentBatches s.history).length,
        (Event.measurements s.history).map Measured.row)) =
      some ([0, 1, 2, 3, 4], true, 4,
        [("/fake.ArrowService/Call0", 6), ("/fake.ArrowService/Call0", 101),
          ("/fake.ArrowService/Call0", 119), ("/fake.ArrowService/Call0", 8)]) := by decide +kernel
  obtain ⟨p, follows, facts⟩ := Option.bind_eq_some_iff.mp facts
  obtain ⟨s, isStream, facts⟩ := Option.map_eq_some_iff.mp facts
  simp only [Prod.mk.injEq, Option.isNone_iff_eq_none] at facts
  obtain ⟨tickets, empty, sent, reported⟩ := facts
  have reachable : Reachable p := ⟨_, .single _ _, _, follows⟩
  obtain ⟨items, measures⟩ := sizes_are_reported reachable isStream
  have taken := measures.taken
  rw [empty, Option.toList_none, List.map_nil, List.append_nil] at taken
  exact ⟨p, s, items, follows, isStream, measures, taken ▸ tickets, sent, reported⟩

end Pool

end TelemetryStreams
