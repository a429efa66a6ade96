import TelemetryStreams.Proofs.Stream.Endings

/-!
# Batches that wait for their acknowledgments

If the codec gives ids that are distinct among the batches in flight, then the table is what the
history says: the batches that were registered and for which the reader has taken no acknowledgment
since (`Ledger.table_eq_outstanding`). Nobody else removes an entry before the final sweep, so a
registered batch is in the table, or the reader has settled it (`Ledger.registered_cases`).

A peer that acknowledges only what it has received, each batch once and with a code that answers it,
therefore always finds the entry (`Served.step`): it has sent no more acknowledgments of an id than
it has received batches, a batch is received only after it was registered, and of the batches that
were registered under an id all but those in the table have been acknowledged.
-/
namespace TelemetryStreams

namespace Event

def acknowledgedIds (events : List Event) : List Int64 :=
  events.filterMap fun
    | .received (.acknowledged ack) => some ack.id
    | _ => none

@[simp] theorem acknowledgedIds_append (a b : List Event) :
    acknowledgedIds (a ++ b) = acknowledgedIds a ++ acknowledgedIds b := List.filterMap_append

theorem acknowledgedIds_of_ne {event : Event} (unread : ∀ ack, event ≠ .received (.acknowledged ack)) :
    acknowledgedIds [event] = [] := by
  unfold acknowledgedIds
  cases event with
  | received message =>
    cases message with
    | acknowledged ack => exact absurd rfl (unread ack)
    | _ => rfl
  | _ => rfl

theorem registrations_of_ne {event : Event} (unregistered : ∀ id ticket, event ≠ .registered id ticket) :
    registrations [event] = [] := by
  unfold registrations
  cases event with
  | registered id ticket => exact absurd rfl (unregistered id ticket)
  | _ => rfl

/-- The batches that were registered, and for which the reader has taken no acknowledgment since. -/
def outstanding : List Event → List (Int64 × Nat)
  | [] => []
  | .registered id ticket :: more =>
    if id ∈ acknowledgedIds more then outstanding more else (id, ticket) :: outstanding more
  | _ :: more => outstanding more

theorem outstanding_registered (events : List Event) (id : Int64) (ticket : Nat) :
    outstanding (events ++ [.registered id ticket]) = outstanding events ++ [(id, ticket)] := by
  induction events with
  | nil => rfl
  | cons event events ih =>
    cases event with
    | registered other =>
      have same : acknowledgedIds (events ++ [.registered id ticket]) = acknowledgedIds events := by
        rw [acknowledgedIds_append]
        exact List.append_nil _
      simp only [List.cons_append, outstanding, same, ih]
      split <;> rfl
    | _ => exact ih

theorem outstanding_acknowledged (events : List Event) (ack : Acknowledgment) :
    outstanding (events ++ [.received (.acknowledged ack)]) =
      InFlight.erase (outstanding events) ack.id := by
  induction events with
  | nil => rfl
  | cons event events ih =>
    cases event with
    | registered id =>
      have more : acknowledgedIds (events ++ [.received (.acknowledged ack)]) =
          acknowledgedIds events ++ [ack.id] := by
        rw [acknowledgedIds_append]
        rfl
      simp only [List.cons_append, outstanding, more, ih, List.mem_append, List.mem_singleton]
      by_cases taken : id ∈ acknowledgedIds events
      · simp [taken]
      · by_cases same : id = ack.id
        · rw [same] at taken
          simp [same, taken, InFlight.erase]
        · simp [taken, same, InFlight.erase]
    | _ => exact ih

theorem outstanding_of_ne {event : Event} (events : List Event)
    (unregistered : ∀ id ticket, event ≠ .registered id ticket)
    (unread : ∀ ack, event ≠ .received (.acknowledged ack)) :
    outstanding (events ++ [event]) = outstanding events := by
  induction events with
  | nil =>
    cases event with
    | registered id ticket => exact absurd rfl (unregistered id ticket)
    | _ => rfl
  | cons first events ih =>
    cases first with
    | registered =>
      simp only [List.cons_append, outstanding, acknowledgedIds_append, acknowledgedIds_of_ne unread,
        List.append_nil, ih]
    | _ => exact ih

end Event

namespace Ledger

variable {history : List Event} {id : Int64} {ticket : Nat}

theorem all_concat (test : Ledger → Event → Bool) (history : List Event) (event : Event) :
    Ledger.all test {} (history ++ [event]) =
      (Ledger.all test {} history && test (ofHistory history) event) := by
  rw [all_append, all, all, Bool.and_true]
  rfl

theorem table_eq_outstanding (distinct : Ledger.all isDistinct {} history = true)
    (unreleased : ∀ id, .logged (.releasing id) ∉ history) :
    (ofHistory history).table = Event.outstanding history := by
  induction history using List.reverseRecOn with
  | nil => rfl
  | append_singleton history event ih =>
    rw [all_concat, Bool.and_eq_true] at distinct
    obtain ⟨before, now⟩ := distinct
    have earlier := ih before fun id isEvent => unreleased id (List.mem_append_left _ isEvent)
    rw [ofHistory_append, List.foldl_cons, List.foldl_nil]
    unfold note
    split
    case h_1 id ticket =>
      have free : (ofHistory history).table.ticket? id = none := by simpa [isDistinct] using now
      rw [Event.outstanding_registered, ← earlier, InFlight.register, InFlight.erase_eq_self free]
    case h_2 ack => rw [Event.outstanding_acknowledged, ← earlier]; rfl
    case h_3 id => exact absurd (List.mem_append_right _ List.mem_cons_self) (unreleased id)
    case h_4 => rw [Event.outstanding_of_ne _ (by simp) (by simp), earlier]
    case h_5 unregistered unread _ _ =>
      rw [Event.outstanding_of_ne _ unregistered unread, earlier]

/-- While nobody is released a registered batch is in the table, or was settled by an
acknowledgment of its id. -/
theorem registered_cases (distinct : Ledger.all isDistinct {} history = true)
    (unreleased : ∀ id, .logged (.releasing id) ∉ history)
    (registered : (id, ticket) ∈ Event.registrations history) :
    (id, ticket) ∈ (ofHistory history).table ∨
      ∃ ack : Acknowledgment, ack.id = id ∧ (ticket, .settled ack) ∈ (ofHistory history).fates := by
  induction history using List.reverseRecOn with
  | nil => cases registered
  | append_singleton history event ih =>
    rw [all_concat, Bool.and_eq_true] at distinct
    obtain ⟨before, now⟩ := distinct
    have earlier := ih before fun id isEvent => unreleased id (List.mem_append_left _ isEvent)
    rw [Event.registrations_append, List.mem_append] at registered
    rw [ofHistory_append, List.foldl_cons, List.foldl_nil]
    unfold note
    split
    case h_1 id' ticket' =>
      have free : (ofHistory history).table.ticket? id' = none := by simpa [isDistinct] using now
      simp only [InFlight.register, InFlight.erase_eq_self free, leave, free, Option.toList_none,
        List.map_nil, List.append_nil]
      obtain was | isNow := registered
      · exact (earlier was).imp_left (List.mem_append_left _)
      · exact .inl (List.mem_append_right _ isNow)
    case h_2 ack =>
      have was : (id, ticket) ∈ Event.registrations history :=
        registered.resolve_right List.not_mem_nil
      obtain isRow | ⟨other, same, isFate⟩ := earlier was
      · by_cases same : id = ack.id
        · have found := (InFlight.ticket?_eq_some_iff (isTable history)).mpr isRow
          refine .inr ⟨ack, same.symm, List.mem_append_right _ ?_⟩
          rw [← same, found]
          exact List.mem_singleton.mpr rfl
        · exact .inl (InFlight.mem_erase.mpr ⟨isRow, same⟩)
      · exact .inr ⟨other, same, List.mem_append_left _ isFate⟩
    case h_3 id => exact absurd (List.mem_append_right _ List.mem_cons_self) (unreleased id)
    case h_4 =>
      have was : (id, ticket) ∈ Event.registrations history :=
        registered.resolve_right List.not_mem_nil
      refine (earlier was).imp_right ?_
      rintro ⟨ack, same, isFate⟩
      exact ⟨ack, same, List.mem_append_left _ isFate⟩
    case h_5 unregistered _ _ _ =>
      rw [Event.registrations_of_ne unregistered] at registered
      exact earlier (registered.resolve_right List.not_mem_nil)

/-- How many batches were registered under an id: those that were acknowledged, and the one in the
table if there is one. -/
theorem count_registered (distinct : Ledger.all isDistinct {} history = true)
    (unreleased : ∀ id, .logged (.releasing id) ∉ history)
    (lawful : Ledger.all isAnswer {} history = true) (id : Int64) :
    (Event.registrations history).countP (·.1 = id) =
      (Event.acknowledgedIds history).count id + (ofHistory history).table.countP (·.1 = id) := by
  induction history using List.reverseRecOn with
  | nil => rfl
  | append_singleton history event ih =>
    rw [all_concat, Bool.and_eq_true] at distinct lawful
    have earlier := ih distinct.1 (fun id isEvent => unreleased id (List.mem_append_left _ isEvent))
      lawful.1
    obtain ⟨-, now⟩ := distinct
    obtain ⟨-, answered⟩ := lawful
    rw [ofHistory_append, List.foldl_cons, List.foldl_nil, Event.registrations_append,
      Event.acknowledgedIds_append, List.countP_append, List.count_append, earlier]
    unfold note
    split
    case h_1 id' ticket =>
      have free : (ofHistory history).table.ticket? id' = none := by simpa [isDistinct] using now
      simp only [InFlight.register, InFlight.erase_eq_self free, List.countP_append]
      simp only [Event.registrations, Event.acknowledgedIds, List.filterMap_cons, List.filterMap_nil,
        List.count_nil, List.countP_cons, List.countP_nil]
      omega
    case h_2 ack =>
      have found : ((ofHistory history).table.ticket? ack.id).isSome = true := by
        simp only [isAnswer, Bool.and_eq_true] at answered
        exact answered.1
      obtain ⟨ticket, found⟩ := Option.isSome_iff_exists.mp found
      have gone := (InFlight.perm_erase (isTable history) found).countP_eq (·.1 = id)
      rw [List.countP_cons] at gone
      simp only [Event.registrations, Event.acknowledgedIds, List.filterMap_cons, List.filterMap_nil,
        List.count_cons, List.count_nil, List.countP_nil, leave, gone]
      simp only [decide_eq_true_eq, beq_iff_eq]
      omega
    case h_3 id => exact absurd (List.mem_append_right _ List.mem_cons_self) (unreleased id)
    case h_4 => simp [Event.registrations, Event.acknowledgedIds]
    case h_5 unregistered unread _ _ =>
      rw [Event.registrations_of_ne unregistered, Event.acknowledgedIds_of_ne unread]
      simp

end Ledger

namespace Stream

def inbox (s : Stream) : List Incoming := (s.call.map Call.inbox).getD []

/-- How many acknowledgments of an id the peer has sent, taken or not. -/
def acknowledgments (s : Stream) (id : Int64) : Nat :=
  (Event.acknowledgedIds s.history).count id +
    ((s.call.map Call.inbox).getD []).countP (·.isFor id)

def deliveries (s : Stream) (id : Int64) : Nat :=
  (Event.sentBatches s.history).countP (·.id = id)

/-- Nobody is released before the final sweep. -/
def Unswept (s : Stream) : Prop :=
  ∀ id, .logged (.releasing id) ∈ s.history → s.run = .finishing ∨ s.run = .done

/-- The peer has acknowledged what it has received, at most once each, and the reader has found an
entry for every acknowledgment. -/
structure Served (s : Stream) : Prop where
  answers : ∀ ack, .acknowledged ack ∈ s.inbox → ack.verdict.2 = true
  once : ∀ id, s.acknowledgments id ≤ s.deliveries id
  lawful : Ledger.all Ledger.isAnswer {} s.history = true
  reader : ∀ error, s.run = .joining (.error error) → ∃ status, error = .status status

variable {s next : Stream} {action : Action} {events : List Event}

theorem inbox_of_call {call : Call} (called : s.call = some call) : s.inbox = call.inbox := by
  rw [inbox, called]
  rfl

theorem Step.not_released (step : Step s action events next)
    (other : ∀ env, action ≠ .move .sweep env) (id : Int64) :
    .logged (.releasing id) ∉ events := by
  have absent {idle : List Event} (isIdle : Event.Idle idle) : .logged (.releasing id) ∉ idle :=
    fun isEvent => nomatch isIdle _ isEvent
  cases step with
  | swept => exact absurd rfl (other _)
  | openingCanceled => exact absent (Event.idle_singleton (Event.isIdle_refusal .canceled))
  | @refused env status => exact absent (Event.idle_singleton (Event.isIdle_refusal status))
  | @taken env item => simp [absent (Event.idle_takeEvents s env.nextSpan item)]
  | @notEncoded env item span failure =>
    simp [absent (Event.idle_encodeLog failure), absent (Event.idle_spanEnds s span _)]
  | @encoded env item span batch =>
    have kept : .logged (.releasing id) ∉ displacement s.inFlight batch.id := by
      unfold displacement
      split <;> simp
    simp [kept, absent (Event.idle_measurement s item)]
  | @notSent env batch span => simp [absent (Event.idle_spanEnds s span _)]
  | @sent env batch span => simp [absent (Event.idle_spanEnds s span _)]
  | @joined env read written => exact absent (Event.idle_endLogs read written)
  | _ => simp

theorem Unswept.step (unswept : s.Unswept) (step : Step s action events next) :
    (next.record events).Unswept := by
  intro id released
  rw [step.record_history] at released
  by_cases sweeps : ∃ env, action = .move .sweep env
  · obtain ⟨env, rfl⟩ := sweeps
    cases step with
    | swept => exact .inl rfl
    | openingCanceled early => simp at early
  · have absent := step.not_released (fun env same => sweeps ⟨env, same⟩) id
    have late := unswept id ((List.mem_append.mp released).resolve_right absent)
    cases step with
    | finished => exact .inr rfl
    | swept => exact .inl rfl
    | openingCanceled => exact .inl rfl
    | started phase | refused phase | stalled phase | opened phase | readCanceled phase
    | unrecognized phase | unexpected phase | settled phase | readEnded phase | sourceBroke phase
    | joined phase => simp [phase] at late
    | _ => exact late

/-! ### Honest peers -/

/-- What a step does to the inbox: nothing, or the reader takes the first message, or the peer sends
one more. -/
theorem Step.inbox_cases (coherent : s.Coherent) (step : Step s action events next) :
    (next.inbox = s.inbox ∧ Event.acknowledgedIds events = []) ∨
    (∃ message, s.inbox = message :: next.inbox ∧
      Event.acknowledgedIds events = Event.acknowledgedIds [.received message]) ∨
    ∃ message, action = .deliver message ∧ next.inbox = s.inbox ++ [message] ∧
      Event.acknowledgedIds events = [] := by
  have takes {call : Call} {message : Incoming} {rest : List Incoming}
      (called : s.call = some call) (front : call.inbox = message :: rest)
      (called' : next.call = some { call with inbox := rest }) :
      s.inbox = message :: next.inbox := by
    rw [inbox_of_call called, inbox_of_call called', front]
  -- Who does not read takes nothing.
  have unread (other : ∀ env, action ≠ .move .receive env) : Event.acknowledgedIds events = [] := by
    refine List.filterMap_eq_nil_iff.mpr fun event isEvent => ?_
    cases event with
    | received message => exact absurd isEvent (step.not_received other message)
    | _ => rfl
  cases step with
  | unrecognized _ called front | unexpected _ called front | settled _ called front
  | readEnded _ called front | sourceBroke _ called front =>
    exact .inr (.inl ⟨_, takes called front rfl, rfl⟩)
  | readCanceled => exact .inl ⟨rfl, rfl⟩
  | openingCanceled early =>
    exact .inl ⟨rfl, unread fun _ same => by cases same; simp at early⟩
  | opened starting =>
    have uncalled := (coherent.early (.inr (.inl starting))).2.2
    exact .inl ⟨by rw [inbox, inbox, uncalled]; rfl, rfl⟩
  | modeSet called => exact .inl ⟨(inbox_of_call called).symm, rfl⟩
  | @delivered message call called =>
    by_cases isOver : call.isOver = true
    · refine .inl ⟨?_, rfl⟩
      rw [inbox_of_call called]
      simp [inbox, Call.post, isOver]
    · refine .inr (.inr ⟨message, rfl, ?_, rfl⟩)
      rw [inbox_of_call called]
      simp [inbox, Call.post, isOver]
  | _ => exact .inl ⟨rfl, unread fun _ same => by cases same⟩

theorem Step.acknowledgments_le (coherent : s.Coherent) (step : Step s action events next)
    (id : Int64) : (next.record events).acknowledgments id ≤ s.acknowledgments id ∨
      ∃ message, action = .deliver message ∧ message.isFor id = true ∧
        (next.record events).acknowledgments id ≤ s.acknowledgments id + 1 := by
  have before : s.acknowledgments id =
      (Event.acknowledgedIds s.history).count id + s.inbox.countP (·.isFor id) := rfl
  have after : (next.record events).acknowledgments id =
      (Event.acknowledgedIds s.history).count id + (Event.acknowledgedIds events).count id +
        next.inbox.countP (·.isFor id) := by
    rw [acknowledgments, step.record_history, Event.acknowledgedIds_append, List.count_append]
    rfl
  obtain ⟨same, silent⟩ | ⟨message, taken, isTaken⟩ | ⟨message, isDelivery, posted, silent⟩ :=
    step.inbox_cases coherent
  · left
    rw [after, before, same, silent, List.count_nil]
    omega
  · -- A message goes from the front of the inbox into the history.
    left
    rw [after, before, taken, isTaken, List.countP_cons]
    cases message with
    | acknowledged ack =>
      simp only [Event.acknowledgedIds, List.filterMap_cons, List.filterMap_nil, List.count_cons,
        List.count_nil, Incoming.isFor, beq_iff_eq, decide_eq_true_eq]
      omega
    | failed | closed | brokeDown =>
      simp only [Event.acknowledgedIds, List.filterMap_cons, List.filterMap_nil, List.count_nil]
      omega
  · rw [after, before, posted, silent, List.countP_append, List.countP_singleton, List.count_nil]
    by_cases isFor : message.isFor id = true
    · refine .inr ⟨message, isDelivery, isFor, ?_⟩
      rw [if_pos isFor]
      omega
    · left
      rw [if_neg isFor]
      omega

theorem Step.deliveries_le (step : Step s action events next) (id : Int64) :
    s.deliveries id ≤ (next.record events).deliveries id := by
  unfold deliveries
  rw [step.record_history, Event.sentBatches_append, List.countP_append]
  exact Nat.le_add_right _ _

/-- The reader finds an entry for what an honest peer has acknowledged: the peer has received no more
batches with an id than were registered, and those that are not in the table were acknowledged. -/
theorem Served.found (served : s.Served) (accounted : s.Accounted)
    (distinct : Ledger.all Ledger.isDistinct {} s.history = true)
    (unreleased : ∀ id, .logged (.releasing id) ∉ s.history)
    (registered : ∀ id, s.deliveries id ≤ (Event.registrations s.history).countP (·.1 = id))
    {call : Call} {ack : Acknowledgment} {rest : List Incoming} (called : s.call = some call)
    (inbox : call.inbox = .acknowledged ack :: rest) :
    ∃ ticket, s.inFlight.ticket? ack.id = some ticket := by
  by_contra unknown
  have absent : s.inFlight.ticket? ack.id = none :=
    Option.eq_none_iff_forall_ne_some.mpr fun ticket found => unknown ⟨ticket, found⟩
  have none : s.inFlight.countP (·.1 = ack.id) = 0 :=
    List.countP_eq_zero.mpr fun row isRow => by
      simpa using InFlight.ticket?_eq_none_iff.mp absent row isRow
  have counted := Ledger.count_registered distinct unreleased served.lawful ack.id
  have table : (Ledger.ofHistory s.history).table = s.inFlight := accounted.table
  have taken : (Event.acknowledgedIds s.history).count ack.id + 1 ≤ s.acknowledgments ack.id := by
    unfold acknowledgments
    simp only [called, Option.map_some, Option.getD_some, inbox, List.countP_cons, Incoming.isFor]
    simp
  have once := served.once ack.id
  have registered := registered ack.id
  rw [table, none] at counted
  omega

theorem Served.reads (served : s.Served) (accounted : s.Accounted) (unswept : s.Unswept)
    (distinct : Ledger.all Ledger.isDistinct {} s.history = true)
    (registered : ∀ id, s.deliveries id ≤ (Event.registrations s.history).countP (·.1 = id))
    {call : Call} {ack : Acknowledgment} {rest : List Incoming} (reading : s.run = .reading)
    (called : s.call = some call) (front : call.inbox = .acknowledged ack :: rest) :
    (∃ ticket, s.inFlight.ticket? ack.id = some ticket) ∧ ack.verdict.2 = true := by
  have unreleased (id : Int64) : .logged (.releasing id) ∉ s.history := fun released => by
    have late := unswept id released
    simp [reading] at late
  refine ⟨served.found accounted distinct unreleased registered called front, ?_⟩
  have first : .acknowledged ack ∈ s.inbox := by
    rw [inbox_of_call called, front]
    exact List.mem_cons_self
  exact served.answers ack first

theorem Served.answers_step (served : s.Served) (coherent : s.Coherent)
    (step : Step s action events next)
    (honest : ∀ ack, action = .deliver (.acknowledged ack) → ack.verdict.2 = true)
    (ack : Acknowledgment) (isAck : .acknowledged ack ∈ next.inbox) : ack.verdict.2 = true := by
  obtain ⟨same, -⟩ | ⟨message, taken, -⟩ | ⟨message, rfl, posted, -⟩ := step.inbox_cases coherent
  · exact served.answers ack (same ▸ isAck)
  · exact served.answers ack (taken ▸ List.mem_cons_of_mem _ isAck)
  · rw [posted, List.mem_append, List.mem_singleton] at isAck
    obtain earlier | now := isAck
    · exact served.answers ack earlier
    · exact honest ack (by rw [now])

theorem Served.once_step (served : s.Served) (coherent : s.Coherent)
    (step : Step s action events next)
    (honest : ∀ ack, action = .deliver (.acknowledged ack) →
      s.acknowledgments ack.id < s.deliveries ack.id) (id : Int64) :
    (next.record events).acknowledgments id ≤ (next.record events).deliveries id := by
  have grows := step.deliveries_le id
  have once := served.once id
  obtain same | ⟨message, rfl, isFor, more⟩ := step.acknowledgments_le coherent id
  · omega
  · cases message with
    | acknowledged ack =>
      have isFor : ack.id = id := by simpa [Incoming.isFor] using isFor
      have fewer := honest ack rfl
      rw [isFor] at fewer
      omega
    | failed | closed | brokeDown => cases isFor

/-- An honest peer is served to the end, whatever else happens to the stream. -/
theorem Served.step (served : s.Served) (sound : s.Sound) (unswept : s.Unswept)
    (registered : ∀ id, s.deliveries id ≤ (Event.registrations s.history).countP (·.1 = id))
    (step : Step s action events next)
    (distinct : Ledger.all Ledger.isDistinct {} s.history = true)
    (honest : ∀ ack, action = .deliver (.acknowledged ack) →
      ack.verdict.2 = true ∧ s.acknowledgments ack.id < s.deliveries ack.id) :
    (next.record events).Served := by
  have reads {call : Call} {ack : Acknowledgment} {rest : List Incoming}
      (reading : s.run = .reading) (called : s.call = some call)
      (front : call.inbox = .acknowledged ack :: rest) :=
    served.reads sound.accounted unswept distinct registered reading called front
  have answers := served.answers_step sound.coherent step fun ack same => (honest ack same).1
  have once := served.once_step sound.coherent step fun ack same => (honest ack same).2
  refine ⟨answers, once, ?_, ?_⟩
  · rw [step.record_history, Ledger.all_append, served.lawful, Bool.true_and]
    by_contra violation
    obtain ⟨-, env, call, ack, rest, rfl, reading, called, front, wrong⟩ :=
      step.violated_cases sound.accounted (Bool.not_eq_true _ ▸ violation)
    obtain ⟨⟨ticket, isRow⟩, answers⟩ := reads reading called front
    simp [isRow, answers] at wrong
  · intro error joining
    cases step with
    | readCanceled => cases joining; exact ⟨_, rfl⟩
    | unrecognized reading called front absent =>
      obtain ⟨⟨ticket, isRow⟩, -⟩ := reads reading called front
      rw [absent] at isRow
      cases isRow
    | unexpected reading called front _ wrong =>
      have answers := (reads reading called front).2
      rw [wrong] at answers
      cases answers
    | @readEnded _ _ message _ _ _ _ _ last =>
      cases joining
      cases message with
      | failed status => cases last; exact ⟨_, rfl⟩
      | acknowledged | closed | brokeDown => cases last
    | started | openingCanceled | refused | stalled | opened | sourceBroke | joined | swept
    | finished => cases joining
    | _ => exact served.reader error joining

end Stream

end TelemetryStreams
