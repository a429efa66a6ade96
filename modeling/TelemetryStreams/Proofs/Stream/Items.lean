import TelemetryStreams.Proofs.Stream.Dispatch

/-!
# The items of a stream

The items that a stream has taken and those that wait for it stand in one line, to which a submission
adds at the end and from which only a caller that leaves takes its item away. So if no caller submits
twice no item is taken twice, and each registered caller leaves the table once and is told one
result by the time the stream is done (`Sound.registered_once`).
-/
namespace TelemetryStreams

theorem Event.takenItems_takeEvents (s : Stream) (number : Nat) (item : Item) :
    Event.takenItems (s.takeEvents number item) = [] :=
  Event.takenItems_of_idle (Event.idle_takeEvents s number item)

namespace Stream

/-- Everything that was submitted, in order, unless its caller left before it was taken. -/
def items (s : Stream) : List Item := Event.takenItems s.history ++ s.queue ++ s.senders

def tickets (s : Stream) : List Nat := s.items.map Item.ticket

/-- Nobody waits for room while there is some. -/
def Lined (s : Stream) : Prop := s.queue = [] → s.senders = []

def Caused (s : Stream) : Prop :=
  ∀ error, s.cause = some error → error = .canceled ∨ error = .streamRestarting

/-- All that is kept by every step of a stream. -/
structure Sound (s : Stream) : Prop where
  coherent : s.Coherent
  caused : s.Caused
  accounted : s.Accounted
  written : s.Written
  lined : s.Lined

variable {s next : Stream} {action : Action} {events : List Event}

theorem Fresh.sound (fresh : s.Fresh) : s.Sound :=
  ⟨fresh.coherent, fun _ told => absurd (fresh.cause.symm.trans told) nofun, fresh.accounted,
    fresh.written, fun _ => fresh.senders⟩

theorem Fresh.items (fresh : s.Fresh) : s.items = [] := by
  simp [Stream.items, fresh.history, fresh.queue, fresh.senders, Event.takenItems]

theorem Coherent.record (coherent : s.Coherent) (events : List Event) :
    (s.record events).Coherent :=
  ⟨coherent.early, coherent.late, coherent.drained, coherent.told, coherent.distinct⟩

theorem Caused.step (caused : s.Caused) (step : Step s action events next) :
    (next.record events).Caused := by
  cases step with
  | finished =>
    intro error told
    cases told
    unfold finalCause
    cases cause : s.cause with
    | some first => exact caused first cause
    | none =>
      simp only [Option.getD_none]
      split
      · exact .inl rfl
      · exact .inr rfl
  | _ => exact caused

theorem Lined.step (lined : s.Lined) (step : Step s action events next) :
    (next.record events).Lined := by
  unfold Lined at lined ⊢
  cases step with
  | taken waiting queued =>
    intro empty
    obtain ⟨-, none⟩ := List.append_eq_nil_iff.mp empty
    cases senders : s.senders with
    | nil => simp only [record, List.drop_nil]
    | cons sender others => simp [senders] at none
  | entered empty =>
    intro none
    cases none
  | linedUp full => exact fun empty => absurd empty full
  | left => exact fun empty => by simp [record, leave, lined empty]
  | _ => exact lined

theorem Sound.step (sound : s.Sound) (step : Step s action events next) :
    (next.record events).Sound where
  coherent := (sound.coherent.step step).record events
  caused := sound.caused.step step
  accounted := sound.accounted.step sound.coherent step
  written := sound.written.step sound.coherent step
  lined := sound.lined.step step

theorem Step.items_submit {item : Item} (lined : s.Lined)
    (step : Step s (.submit item) events next) :
    (next.record events).items = s.items ++ [item] := by
  unfold items
  rw [step.record_history, Event.takenItems_append]
  cases step with
  | entered empty => simp [record, Event.takenItems, empty, lined empty]
  | linedUp full => simp [record, Event.takenItems]

theorem mem_items_submit (s : Stream) (item : Item) :
    item ∈ ((s.submit item).1.record (s.submit item).2).items := by
  unfold submit items record
  split <;> simp

theorem Step.mem_senders {item : Item} (step : Step s action events next)
    (waits : item ∈ next.senders) : item ∈ s.senders ∨ action = .submit item := by
  cases step with
  | taken => exact .inl (List.mem_of_mem_drop waits)
  | linedUp =>
    obtain earlier | now := List.mem_append.mp waits
    · exact .inl earlier
    · exact .inr (by rw [List.mem_singleton.mp now])
  | left => exact .inl (List.mem_of_mem_filter waits)
  | _ => exact .inl waits

theorem Step.items_leave {ticket : Nat} (step : Step s (.leave ticket) events next) :
    (next.record events).items =
      Event.takenItems s.history ++ s.queue ++ s.senders.filter (·.ticket ≠ ticket) := by
  unfold items
  rw [step.record_history, Event.takenItems_append]
  cases step
  simp [record, leave, Event.takenItems]

/-- Items are taken in no other step. -/
theorem Step.takenItems_eq_nil (step : Step s action events next)
    (other : ∀ env, action ≠ .move .take env) : Event.takenItems events = [] := by
  cases step with
  | started | stalled | sinkBroke | readCanceled | linedUp | left | delivered | modeSet
  | parentCanceled | openingCanceled | refused | opened | offered | expired | quit | readEnded
  | sourceBroke | finished | entered | unrecognized | unexpected | settled => rfl
  | taken => exact absurd rfl (other _)
  | @notEncoded env item span failure encoding fails =>
    have idle := Event.idle_encodeLog failure
    have idle' := Event.idle_spanEnds s span (some (Error.encode failure).message)
    rw [Event.takenItems_append, Event.takenItems_append, Event.takenItems_append,
      Event.takenItems_of_idle idle, Event.takenItems_of_idle idle']
    rfl
  | @encoded env item span batch encoding works =>
    rw [Event.takenItems_append, Event.takenItems_of_idle (Event.idle_measurement s item)]
    exact (List.append_nil _).trans (takenItems_displacement s.inFlight batch.id)
  | @notSent env batch span call status =>
    rw [Event.takenItems_append, Event.takenItems_of_idle (Event.idle_spanEnds s span _)]
    rfl
  | @sent env batch span =>
    have idle := Event.idle_spanEnds s span none
    exact (Event.takenItems_of_idle idle : Event.takenItems (s.spanEnds span none) = [])
  | joined => exact Event.takenItems_of_idle (Event.idle_endLogs _ _)
  | swept => exact takenItems_release _

/-- No other step changes the line: an item that is taken stays in its place. -/
theorem Step.items_eq (step : Step s action events next)
    (unsubmitted : ∀ item, action ≠ .submit item) (stayed : ∀ ticket, action ≠ .leave ticket) :
    (next.record events).items = s.items := by
  by_cases takes : ∃ env, action = .move .take env
  · obtain ⟨env, rfl⟩ := takes
    unfold items
    rw [step.record_history, Event.takenItems_append]
    cases step with
    | @taken env item queue waiting queued =>
      -- One item goes over into the history, and one from those who wait into the queue.
      have items : Event.takenItems (.taken item :: s.takeEvents env.nextSpan item) = [item] := by
        have none := Event.takenItems_takeEvents s env.nextSpan item
        unfold Event.takenItems at none ⊢
        rw [List.filterMap_cons, none]
      have line : s.senders.take 1 ++ s.senders.drop 1 = s.senders := List.take_append_drop 1 _
      simp only [record, items, queued, List.append_assoc, List.cons_append, List.nil_append, line]
    | openingCanceled early => simp at early
  · have none := step.takenItems_eq_nil fun env same => takes ⟨env, same⟩
    unfold items
    rw [step.record_history, Event.takenItems_append, none, List.append_nil]
    cases step with
    | taken => exact absurd ⟨_, rfl⟩ takes
    | entered empty => exact absurd rfl (unsubmitted _)
    | linedUp full => exact absurd rfl (unsubmitted _)
    | left => exact absurd rfl (stayed _)
    | _ => rfl

/-! ### Nobody is told twice -/

theorem filter_eq_singleton {α : Type} {rows : List (Nat × α)} {key : Nat} {value : α}
    (distinct : (rows.map (·.1)).Nodup) (isRow : (key, value) ∈ rows) :
    rows.filter (·.1 = key) = [(key, value)] := by
  induction rows with
  | nil => cases isRow
  | cons row rows ih =>
    obtain ⟨fresh, distinct⟩ := List.nodup_cons.mp distinct
    rcases List.mem_cons.mp isRow with rfl | isRow
    · have others : rows.filter (·.1 = key) = [] := by
        refine List.filter_eq_nil_iff.mpr fun other isOther => ?_
        have differ : other.1 ≠ key := fun same => fresh (List.mem_map.mpr ⟨other, isOther, same⟩)
        simpa using differ
      simp [others]
    · have differ : row.1 ≠ key := fun same =>
        fresh (List.mem_map.mpr ⟨(key, value), isRow, same.symm⟩)
      rw [List.filter_cons_of_neg (by simpa using differ)]
      exact ih distinct isRow

theorem Sound.mem_taken_of_answer (sound : s.Sound) {ticket : Nat} {result : Except Error Unit}
    (isAnswer : (ticket, result) ∈ Event.answers s.history) :
    ticket ∈ (Event.takenItems s.history).map Item.ticket := by
  rw [sound.accounted.answers] at isAnswer
  obtain ⟨⟨other, fate⟩, isFate, same⟩ := List.mem_map.mp isAnswer
  obtain ⟨rfl, -⟩ := Prod.mk.inj same
  refine sound.accounted.taken.mem_iff.mpr ?_
  refine List.mem_append_right _ (List.mem_append_right _ ?_)
  exact List.mem_map.mpr ⟨(other, fate), isFate, rfl⟩

theorem tickets_eq (s : Stream) : s.tickets =
    (Event.takenItems s.history).map Item.ticket ++ (s.queue ++ s.senders).map Item.ticket := by
  rw [tickets, items, List.append_assoc, List.map_append]

theorem Sound.mem_tickets_of_answer (sound : s.Sound) {ticket : Nat} {result : Except Error Unit}
    (isAnswer : (ticket, result) ∈ Event.answers s.history) : ticket ∈ s.tickets := by
  rw [tickets_eq]
  exact List.mem_append_left _ (sound.mem_taken_of_answer isAnswer)

theorem Sound.mem_taken_of_registered (sound : s.Sound) {id : Int64} {ticket : Nat}
    (registered : (id, ticket) ∈ Event.registrations s.history) :
    ticket ∈ (Event.takenItems s.history).map Item.ticket := by
  have isHeld : ticket ∈ s.ledger.departed ++ s.ledger.table.tickets :=
    (Ledger.registered_perm s.history).subset (List.mem_map.mpr ⟨(id, ticket), registered, rfl⟩)
  refine sound.accounted.taken.mem_iff.mpr (List.mem_append_right _ ?_)
  rw [sound.accounted.table] at isHeld
  obtain departed | inTable := List.mem_append.mp isHeld
  · exact List.mem_append_right _ ((List.filter_sublist.map _).subset departed)
  · exact List.mem_append_left _ inTable

theorem Sound.mem_tickets_of_registered (sound : s.Sound) {id : Int64} {ticket : Nat}
    (registered : (id, ticket) ∈ Event.registrations s.history) : ticket ∈ s.tickets := by
  rw [tickets_eq]
  exact List.mem_append_left _ (sound.mem_taken_of_registered registered)

/-- A caller is told that the codec failed when it has failed on the records of its item. -/
theorem Step.unencoded_cases (step : Step s action events next) {ticket : Nat}
    {failure : EncodeError} (told : (ticket, .error (.encode failure)) ∈ Event.answers events) :
    ∃ item span, s.writer = .encoding item span ∧ item.ticket = ticket ∧
      Codec.guarded (s.codec.encode item.records).1 = .error failure := by
  have silent {idle : List Event} (isIdle : Event.Idle idle)
      (told : (ticket, .error (.encode failure)) ∈ Event.answers idle) : False := by
    rw [Event.answers_of_idle isIdle] at told
    cases told
  have verdict {message : Incoming} {ack : Acknowledgment} {other : Nat}
      (told : (ticket, .error (.encode failure)) ∈
        Event.answers [.received message, .answered other ack.verdict.1]) : False := by
    obtain ⟨-, same⟩ := Prod.mk.inj (List.mem_singleton.mp told)
    obtain ⟨status, wrong⟩ := Acknowledgment.exists_status_of_verdict same.symm
    cases wrong
  cases step with
  | @notEncoded env item span other encoding fails =>
    rw [Event.answers_append, Event.answers_append, Event.answers_append,
      Event.answers_of_idle (Event.idle_encodeLog other),
      Event.answers_of_idle (Event.idle_spanEnds s span _)] at told
    obtain ⟨rfl, same⟩ := Prod.mk.inj (List.mem_singleton.mp told)
    cases same
    exact ⟨item, span, encoding, rfl, fails⟩
  | @encoded env item span batch =>
    rw [Event.answers_append, Event.answers_of_idle (Event.idle_measurement s item),
      List.append_nil] at told
    have displaced : (ticket, .error (.encode failure)) ∈
        Event.answers (displacement s.inFlight batch.id) := told
    rw [answers_displacement] at displaced
    obtain ⟨other, -, same⟩ := List.mem_map.mp displaced
    cases (Prod.mk.inj same).2
  | swept =>
    rw [answers_release] at told
    obtain ⟨row, -, same⟩ := List.mem_map.mp told
    cases (Prod.mk.inj same).2
  | unexpected | settled => exact (verdict told).elim
  | @taken env item => exact (silent (Event.idle_takeEvents s env.nextSpan item) told).elim
  | openingCanceled =>
    exact (silent (Event.idle_singleton (Event.isIdle_refusal .canceled)) told).elim
  | @refused env status =>
    exact (silent (Event.idle_singleton (Event.isIdle_refusal status)) told).elim
  | @notSent env batch span call status =>
    have idle : Event.Idle (s.spanEnds span (some status.text) ++ [.closed s.callNumber]) :=
      (Event.idle_spanEnds s span _).append (Event.idle_singleton rfl)
    exact (silent idle told).elim
  | @sent env batch span => exact (silent (Event.idle_spanEnds s span _) told).elim
  | readEnded _ _ _ last => exact (silent (Event.idle_lastMessage last) told).elim
  | @joined env read written => exact (silent (Event.idle_endLogs read written) told).elim
  | _ => cases told

variable (once : s.tickets.Nodup)
include once

theorem taken_nodup : ((Event.takenItems s.history).map Item.ticket).Nodup := by
  rw [tickets_eq] at once
  exact once.of_append_left

theorem Sound.ne_of_answer (sound : s.Sound) {ticket : Nat} {result : Except Error Unit}
    (isAnswer : (ticket, result) ∈ Event.answers s.history) :
    ∀ item ∈ s.senders, item.ticket ≠ ticket := by
  intro item isItem same
  rw [tickets_eq] at once
  refine List.disjoint_of_nodup_append once (sound.mem_taken_of_answer isAnswer) ?_
  exact List.mem_map.mpr ⟨item, List.mem_append_right _ isItem, same⟩

/-- What became of an item is settled once. -/
theorem Sound.fates_nodup (sound : s.Sound) : (s.ledger.fates.map (·.1)).Nodup := by
  have nodup := (sound.accounted.taken.nodup_iff).mp (taken_nodup once)
  exact nodup.of_append_right.of_append_right

theorem Sound.answers_nodup (sound : s.Sound) : ((Event.answers s.history).map (·.1)).Nodup := by
  rw [sound.accounted.answers, List.map_map]
  exact sound.fates_nodup once

/-- A caller is registered once, and not if the codec made no batch for it. -/
theorem Sound.registrations_nodup (sound : s.Sound) :
    ((Event.registrations s.history).map (·.2)).Nodup := by
  have perm := Ledger.registered_perm s.history
  change List.Perm _ (s.ledger.departed ++ s.ledger.table.tickets) at perm
  rw [perm.nodup_iff, sound.accounted.table]
  have nodup := (sound.accounted.taken.nodup_iff).mp (taken_nodup once)
  have departed : s.ledger.departed.Sublist (s.ledger.fates.map (·.1)) :=
    List.filter_sublist.map _
  have parts := nodup.of_append_right
  exact (List.perm_append_comm.nodup_iff.mp parts).sublist (departed.append_right _)

theorem Sound.not_registered_of_refused (sound : s.Sound) {id : Int64} {ticket : Nat}
    {failure : EncodeError}
    (isAnswer : (ticket, .error (.encode failure)) ∈ Event.answers s.history) :
    (id, ticket) ∉ Event.registrations s.history := by
  intro registered
  rw [sound.accounted.answers] at isAnswer
  obtain ⟨⟨other, fate⟩, isFate, same⟩ := List.mem_map.mp isAnswer
  obtain ⟨rfl, told⟩ := Prod.mk.inj same
  have stays : fate.isDeparture = false := by
    cases fate with
    | refused => rfl
    | settled ack =>
      obtain ⟨status, wrong⟩ := Acknowledgment.exists_status_of_verdict told
      cases wrong
    | displaced | released => cases told
  have isHeld : other ∈ s.ledger.departed ++ s.ledger.table.tickets :=
    (Ledger.registered_perm s.history).subset (List.mem_map.mpr ⟨(id, other), registered, rfl⟩)
  have isTold : other ∈ s.ledger.fates.map (·.1) := List.mem_map.mpr ⟨(other, fate), isFate, rfl⟩
  obtain departed | inTable := List.mem_append.mp isHeld
  · obtain ⟨⟨other', fate'⟩, isFate', rfl⟩ := List.mem_map.mp departed
    obtain ⟨isFate', departs⟩ := List.mem_filter.mp isFate'
    have same := List.inj_on_of_nodup_map (sound.fates_nodup once) isFate isFate' rfl
    rw [← congrArg Prod.snd same, stays] at departs
    cases departs
  · rw [sound.accounted.table] at inTable
    have nodup := (sound.accounted.taken.nodup_iff).mp (taken_nodup once)
    exact List.disjoint_of_nodup_append nodup.of_append_right inTable isTold

/-- When a stream is done every registered caller has left the table once, and was told one result:
that of its leaving. -/
theorem Sound.registered_once (sound : s.Sound) (done : s.run = .done) {id : Int64} {ticket : Nat}
    (registered : (id, ticket) ∈ Event.registrations s.history) :
    ∃ fate : Fate, fate.isDeparture ∧
      s.ledger.fates.filter (·.1 = ticket) = [(ticket, fate)] ∧
      (Event.answers s.history).filter (·.1 = ticket) = [(ticket, fate.result)] := by
  have perm := Ledger.registered_perm s.history
  have isDeparted : ticket ∈ s.ledger.departed ++ s.ledger.table.tickets :=
    perm.subset (List.mem_map.mpr ⟨(id, ticket), registered, rfl⟩)
  rw [sound.accounted.table, sound.coherent.drained (.inr done)] at isDeparted
  simp only [InFlight.tickets_nil, List.append_nil] at isDeparted
  obtain ⟨⟨other, fate⟩, isFate, rfl⟩ := List.mem_map.mp isDeparted
  obtain ⟨isFate, departs⟩ := List.mem_filter.mp isFate
  refine ⟨fate, departs, filter_eq_singleton (sound.fates_nodup once) isFate, ?_⟩
  refine filter_eq_singleton (sound.answers_nodup once) ?_
  rw [sound.accounted.answers]
  exact List.mem_map.mpr ⟨(other, fate), isFate, rfl⟩

end Stream

end TelemetryStreams
