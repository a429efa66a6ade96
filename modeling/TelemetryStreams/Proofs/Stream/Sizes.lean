import TelemetryStreams.Proofs.Stream.Readings
import TelemetryStreams.Proofs.Stream.Rest

/-!
# The sizes that are reported

The writer reports the size of an item when there is a batch for it, before the batch is sent, and
under the method of the one call that the stream has. So the sizes that were reported are those of
the items that were encoded, in the order in which they were taken, but for items without a size
(`Sized`).
-/
namespace TelemetryStreams

/-- What is reported for an item once the codec has had its turn. -/
def Item.report? (method : String) (item : Item) : Except EncodeError Batch → Option Measured
  | .ok _ => if item.size = 0 then none else some ⟨method, Int64.ofNat item.reported⟩
  | .error _ => none

theorem Item.toInt_reported (item : Item) :
    (Int64.ofNat item.reported).toInt = (item.reported : Int) := by
  refine Int64.toInt_ofNat_of_lt ?_
  unfold Item.reported Measured.greatest
  omega

theorem Item.length_of_report? {item : Item} {method : String} {made : Except EncodeError Batch}
    {measured : Measured} (reports : item.report? method made = some measured) :
    measured.length.toInt = (item.reported : Int) := by
  cases made with
  | error failure => cases reports
  | ok batch =>
    simp only [report?] at reports
    split at reports
    · cases reports
    · rw [← Option.some.inj reports]
      exact item.toInt_reported

namespace Codec

theorem outcomes_concat (codec : Codec) (items : List Item) (item : Item) :
    codec.outcomes (items ++ [item]) =
      codec.outcomes items ++ [guarded ((codec.after items).encode item.records).1] := by
  induction items generalizing codec with
  | nil => rfl
  | cons first items ih =>
    rw [List.cons_append, outcomes_cons, ih, outcomes_cons, List.cons_append]
    rfl

theorem after_concat (codec : Codec) (items : List Item) (item : Item) :
    codec.after (items ++ [item]) = ((codec.after items).encode item.records).2 :=
  List.foldl_append

def reports (codec : Codec) (method : String) (items : List Item) : List Measured :=
  (items.zip (codec.outcomes items)).filterMap fun row => row.1.report? method row.2

theorem reports_concat (codec : Codec) (method : String) (items : List Item) (item : Item) :
    codec.reports method (items ++ [item]) = codec.reports method items ++
      (item.report? method (guarded ((codec.after items).encode item.records).1)).toList := by
  unfold reports
  rw [outcomes_concat, List.zip_append (codec.length_outcomes items).symm, List.filterMap_append]
  simp only [List.zip_cons_cons, List.zip_nil_right, List.filterMap_cons, List.filterMap_nil]
  split <;> simp_all

end Codec

namespace Stream

variable {s next : Stream} {action : Action} {events : List Event} {first : Codec}

theorem measurements_displacement (table : InFlight) (id : Int64) :
    Event.measurements (displacement table id) = [] := by
  unfold displacement
  split <;> rfl

theorem measurements_measurement (s : Stream) (item : Item) (batch : Batch) :
    Event.measurements (s.measurement item) =
      (item.report? (s.method.getD "") (.ok batch)).toList := by
  unfold measurement Item.report?
  split <;> rfl

theorem measurements_takeEvents (s : Stream) (number : Nat) (item : Item) :
    Event.measurements (s.takeEvents number item) = [] := by
  unfold takeEvents Event.measurements
  rw [List.filterMap_append, List.filterMap_map]
  split <;> simp

/-- When the codec has had its turn for an item its size is reported, if there is a batch. Otherwise
nothing is reported, and what is taken is what the writer has at hand then. -/
theorem Step.size_cases (step : Step s action events next) (coherent : s.Coherent) :
    (∃ item span, s.writer = .encoding item span ∧ Event.takenItems events = [] ∧
      next.writer.row? = none ∧ next.codec = (s.codec.encode item.records).2 ∧
      Event.measurements events = (item.report? (s.method.getD "")
        (Codec.guarded (s.codec.encode item.records).1)).toList) ∨
    next.codec = s.codec ∧ Event.measurements events = [] ∧
      s.writer.row?.toList.map Prod.fst ++ Event.takenItems events =
        next.writer.row?.toList.map Prod.fst := by
  by_cases takes : ∃ env, action = .move .take env
  · obtain ⟨env, rfl⟩ := takes
    cases step with
    | @taken env item queue waiting queued =>
      have taken : Event.takenItems (.taken item :: s.takeEvents env.nextSpan item) = [item] :=
        congrArg (item :: ·) (Event.takenItems_takeEvents s env.nextSpan item)
      refine .inr ⟨rfl, measurements_takeEvents s env.nextSpan item, ?_⟩
      rw [waiting, taken]
      rfl
    | openingCanceled early => simp at early
  · have untaken := step.takenItems_eq_nil fun env same => takes ⟨env, same⟩
    rw [untaken, List.append_nil]
    have ends (span : SendSpan) (failure : Option String) :
        Event.measurements (s.spanEnds span failure) = [] :=
      (Event.calm_spanEnds s span failure).measurements
    cases step with
    | taken => exact absurd ⟨_, rfl⟩ takes
    | @notEncoded env item span failure encoding fails =>
      refine .inl ⟨item, span, encoding, rfl, rfl, rfl, ?_⟩
      rw [fails]
      simp only [Event.measurements_append, (Event.calm_encodeLog failure).measurements, ends]
      rfl
    | @encoded env item span batch encoding works =>
      refine .inl ⟨item, span, encoding, rfl, rfl, rfl, ?_⟩
      rw [works, Event.measurements_append, measurements_measurement s item batch]
      exact congrArg (· ++ _) (measurements_displacement s.inFlight batch.id)
    | opened starting =>
      rw [(coherent.early (.inr (.inl starting))).1]
      exact .inr ⟨rfl, rfl, rfl⟩
    | offered busy | expired busy | quit busy | sinkBroke busy =>
      rw [busy]
      exact .inr ⟨rfl, rfl, rfl⟩
    | notSent busy =>
      rw [busy, Event.measurements_append, ends]
      exact .inr ⟨rfl, rfl, rfl⟩
    | sent busy =>
      rw [busy]
      exact .inr ⟨rfl, ends _ _, rfl⟩
    | joined => exact .inr ⟨rfl, (Event.calm_endLogs _ _).measurements, rfl⟩
    | swept => exact .inr ⟨rfl, (Event.calm_release _).measurements, rfl⟩
    | _ => exact .inr ⟨rfl, rfl, rfl⟩

theorem Step.method_cases (step : Step s action events next) :
    (s.run = .starting ∧ ∃ number, next.call = some { number := number } ∧
      next.method = some (s.method.getD (Call.methodOf number))) ∨
    next.call.map Call.number = s.call.map Call.number ∧ next.method = s.method := by
  cases step with
  | opened starting => exact .inl ⟨starting, _, rfl, rfl⟩
  | unrecognized _ called | unexpected _ called | settled _ called | sourceBroke _ called
  | modeSet called => exact .inr ⟨by rw [called]; rfl, rfl⟩
  | readEnded _ called => exact .inr ⟨by rw [called]; rfl, rfl⟩
  | @delivered message call called =>
    refine .inr ⟨?_, rfl⟩
    rw [called, Option.map_some, Option.map_some, Call.post]
    split <;> rfl
  | _ => exact .inr ⟨rfl, rfl⟩

/-- The sizes that a stream has reported are those of the items for which its codec has had a turn,
under the method of its call. -/
structure Sized (first : Codec) (s : Stream) : Prop where
  method : s.method = (s.call.map Call.number).map Call.methodOf
  unopened : s.call = none → s.writer = .absent ∧ Event.takenItems s.history = []
  written : ∃ items, Event.takenItems s.history = items ++ s.writer.row?.toList.map Prod.fst ∧
    s.codec = first.after items ∧
    Event.measurements s.history = first.reports (s.method.getD "") items

theorem Fresh.sized (fresh : s.Fresh) (unnamed : s.method = none) : s.Sized s.codec := by
  refine ⟨?_, fun _ => ⟨fresh.writer, ?_⟩, [], ?_, rfl, ?_⟩
  · rw [fresh.call, unnamed]
    rfl
  · rw [fresh.history]
    rfl
  · rw [fresh.history, fresh.writer]
    rfl
  · rw [fresh.history]
    rfl

theorem Sized.unopened_step (sized : s.Sized first) (step : Step s action events next)
    (unopened : next.call = none) :
    next.writer = .absent ∧ Event.takenItems (next.record events).history = [] := by
  obtain ⟨-, number, opened, -⟩ | ⟨same, -⟩ := step.method_cases
  · rw [opened] at unopened
    cases unopened
  · rw [unopened] at same
    obtain ⟨absent, untaken⟩ := sized.unopened (Option.map_eq_none_iff.mp same.symm)
    have idles := step.idles (by rw [absent]; trivial)
    refine ⟨?_, idles.taken.trans untaken⟩
    cases step with
    | opened => cases unopened
    | offered busy | taken busy | expired busy | quit busy | notEncoded busy | encoded busy
    | notSent busy | sent busy | sinkBroke busy => rw [absent] at busy; cases busy
    | _ => exact absent

theorem Sized.written_step (sized : s.Sized first) (coherent : s.Coherent)
    (step : Step s action events next) :
    ∃ items, Event.takenItems (next.record events).history =
        items ++ next.writer.row?.toList.map Prod.fst ∧
      next.codec = first.after items ∧
      Event.measurements (next.record events).history =
        first.reports (next.method.getD "") items := by
  obtain ⟨items, taken, codec, measured⟩ := sized.written
  rw [step.record_history, Event.takenItems_append, Event.measurements_append, taken, measured]
  obtain ⟨item, span, encoding, untaken, empty, turned, reported⟩ | ⟨turned, silent, taken'⟩ :=
    step.size_cases coherent
  · have named : next.method = s.method := by
      obtain ⟨starting, -⟩ | ⟨-, named⟩ := step.method_cases
      · rw [(coherent.early (.inr (.inl starting))).1] at encoding
        cases encoding
      · exact named
    refine ⟨items ++ [item], ?_, ?_, ?_⟩
    · rw [untaken, empty, encoding]
      rfl
    · rw [turned, codec, Codec.after_concat]
    · rw [Codec.reports_concat, reported, named, codec]
  · refine ⟨items, by rw [List.append_assoc, taken'], turned.trans codec, ?_⟩
    rw [silent, List.append_nil]
    obtain ⟨starting, -⟩ | ⟨-, named⟩ := step.method_cases
    · -- The name of the call is new, but nothing has been taken before it was opened.
      obtain ⟨-, untaken⟩ := sized.unopened (coherent.early (.inr (.inl starting))).2.2
      rw [taken] at untaken
      rw [(List.append_eq_nil_iff.mp untaken).1]
      rfl
    · rw [named]

theorem Sized.step (sized : s.Sized first) (coherent : s.Coherent)
    (step : Step s action events next) : (next.record events).Sized first := by
  refine ⟨?_, sized.unopened_step step, sized.written_step coherent step⟩
  change next.method = (next.call.map Call.number).map Call.methodOf
  obtain ⟨starting, number, opened, named⟩ | ⟨same, named⟩ := step.method_cases
  · have unnamed := sized.method
    rw [(coherent.early (.inr (.inl starting))).2.2] at unnamed
    rw [named, opened, unnamed]
    rfl
  · rw [named, same, sized.method]

end Stream

end TelemetryStreams
