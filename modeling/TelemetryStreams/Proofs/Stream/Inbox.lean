import TelemetryStreams.Proofs.Stream.Runs

/-!
# Acknowledgments in the inbox

What waits in the inbox is taken in order, and all of it before the reader looks whether the call was
canceled. So an acknowledgment of a batch in flight that came before the reader ended is what the
caller of the batch is told, unless a message before it breaks the stream (`Becomes.answered`).
-/
namespace TelemetryStreams

/-- Whether a message ends the reader. -/
def Incoming.breaks (table : InFlight) : Incoming → Bool
  | .acknowledged ack => (table.settle ack).stop.isSome
  | _ => true

def Incoming.isFor (id : Int64) : Incoming → Bool
  | .acknowledged ack => ack.id = id
  | _ => false

namespace Ledger

/-- Whether all events pass a test, each with the ledger of those before it. -/
def all (test : Ledger → Event → Bool) (ledger : Ledger) : List Event → Bool
  | [] => true
  | event :: more => test ledger event && all test (ledger.note event) more

@[simp] theorem all_append (test : Ledger → Event → Bool) (ledger : Ledger) (a b : List Event) :
    ledger.all test (a ++ b) = (ledger.all test a && (a.foldl note ledger).all test b) := by
  induction a generalizing ledger with
  | nil => rfl
  | cons event events ih =>
    rw [List.cons_append, all, ih, all, List.foldl_cons, Bool.and_assoc]

/-- Whether a batch is registered under the id of no other one in flight. -/
def isDistinct (ledger : Ledger) : Event → Bool
  | .registered id _ => (ledger.table.ticket? id).isNone
  | _ => true

/-- Whether a message that comes while a batch is in flight leaves the reader at work, unless it
acknowledges the batch. -/
def isHarmless (row : Int64 × Nat) (ledger : Ledger) : Event → Bool
  | .received message =>
    decide (row ∉ ledger.table) || message.isFor row.1 || !message.breaks ledger.table
  | _ => true

end Ledger

namespace Stream

/-- An acknowledgment waits in the inbox, the first one of a batch in flight. -/
structure Awaits (s : Stream) (ack : Acknowledgment) (ticket : Nat) : Prop where
  reading : s.run = .reading
  inFlight : s.inFlight.ticket? ack.id = some ticket
  inbox : ∃ call before after, s.call = some call ∧
    call.inbox = before ++ .acknowledged ack :: after ∧
    ∀ message ∈ before, message.isFor ack.id = false

variable {s t next : Stream} {action : Action} {events : List Event} {ack : Acknowledgment}
  {ticket : Nat}

theorem Awaits.frame (awaits : s.Awaits ack ticket) (run : next.run = s.run)
    (inFlight : next.inFlight = s.inFlight) (call : next.call = s.call) :
    next.Awaits ack ticket := by
  refine ⟨run.trans awaits.reading, ?_, ?_⟩
  · rw [inFlight]
    exact awaits.inFlight
  · rw [call]
    exact awaits.inbox

theorem Awaits.front (awaits : s.Awaits ack ticket) {call : Call} {message : Incoming}
    {rest : List Incoming} (called : s.call = some call) (inbox : call.inbox = message :: rest) :
    message = .acknowledged ack ∨ message.isFor ack.id = false ∧
      ∃ before after, rest = before ++ .acknowledged ack :: after ∧
        ∀ message ∈ before, message.isFor ack.id = false := by
  obtain ⟨call', before, after, called', inbox', others⟩ := awaits.inbox
  obtain rfl := Option.some.inj (called.symm.trans called')
  rw [inbox] at inbox'
  cases before with
  | nil => exact .inl (List.cons.inj inbox').1
  | cons first before =>
    obtain ⟨rfl, rest⟩ := List.cons.inj inbox'
    refine .inr ⟨others _ List.mem_cons_self, before, after, rest, fun message isEarlier => ?_⟩
    exact others message (List.mem_cons_of_mem _ isEarlier)

/-- A message that breaks the stream is the acknowledgment itself. -/
theorem Awaits.eq_of_breaks (awaits : s.Awaits ack ticket) (accounted : s.Accounted) {call : Call}
    {message : Incoming} {rest : List Incoming} {more : List Event} (called : s.call = some call)
    (inbox : call.inbox = message :: rest) (breaks : message.breaks s.inFlight = true)
    (harmless : s.ledger.all (Ledger.isHarmless (ack.id, ticket)) (.received message :: more)) :
    message = .acknowledged ack := by
  obtain here | ⟨other, -⟩ := awaits.front called inbox
  · exact here
  · have isRow := InFlight.mem_of_ticket? awaits.inFlight
    simp [Ledger.all, Ledger.isHarmless, accounted.table, isRow, other, breaks] at harmless

/-- In a step the acknowledgment goes on waiting, or the caller of the batch is told the verdict. -/
theorem Awaits.step (awaits : s.Awaits ack ticket) (accounted : s.Accounted)
    (step : Step s action events next) (distinct : s.ledger.all Ledger.isDistinct events)
    (harmless : s.ledger.all (Ledger.isHarmless (ack.id, ticket)) events) :
    next.Awaits ack ticket ∨ (ticket, ack.verdict.1) ∈ Event.answers events := by
  have reading := awaits.reading
  cases step with
  | started phase | refused phase | stalled phase | opened phase | joined phase | swept phase
  | finished phase => rw [reading] at phase; cases phase
  | openingCanceled early =>
    obtain ⟨phase, -⟩ | ⟨phase, -⟩ := early
    · rw [reading] at phase; cases phase
    · rw [reading] at phase; cases phase
  | offered | taken | expired | quit | notEncoded | notSent | sent | sinkBroke | entered | linedUp
  | left | parentCanceled => exact .inl (awaits.frame rfl rfl rfl)
  | @encoded env item span batch encoding works =>
    refine .inl ⟨reading, ?_, awaits.inbox⟩
    -- The new batch has another id, so the entry stays.
    have free : s.inFlight.ticket? batch.id = none := by
      simp only [List.cons_append, Ledger.all, Bool.and_eq_true] at distinct
      simpa [Ledger.isDistinct, accounted.table] using distinct.1
    have differ : ack.id ≠ batch.id := by
      intro same
      rw [← same, awaits.inFlight] at free
      cases free
    rw [← awaits.inFlight]
    exact InFlight.ticket?_register_of_ne differ
  | readCanceled _ called empty =>
    obtain ⟨call, before, after, called', inbox, -⟩ := awaits.inbox
    obtain rfl := Option.some.inj (called.symm.trans called')
    rw [empty] at inbox
    exact absurd inbox.symm (by simp)
  | @unrecognized env call other rest _ called inbox absent =>
    have breaks : (Incoming.acknowledged other).breaks s.inFlight = true := by
      simp [Incoming.breaks, InFlight.settle, absent]
    have here := awaits.eq_of_breaks accounted called inbox breaks harmless
    rw [Incoming.acknowledged.inj here, awaits.inFlight] at absent
    cases absent
  | @unexpected env call other rest ticket' _ called inbox found wrong =>
    have breaks : (Incoming.acknowledged other).breaks s.inFlight = true := by
      simp [Incoming.breaks, InFlight.settle, found, wrong]
    have here := awaits.eq_of_breaks accounted called inbox breaks harmless
    obtain rfl := Incoming.acknowledged.inj here
    obtain rfl := Option.some.inj (found.symm.trans awaits.inFlight)
    exact .inr (by simp [Event.answers])
  | @settled env call other rest ticket' _ called inbox found answers =>
    obtain here | ⟨differ, before, after, rest_eq, others⟩ := awaits.front called inbox
    · obtain rfl := Incoming.acknowledged.inj here
      obtain rfl := Option.some.inj (found.symm.trans awaits.inFlight)
      exact .inr (by simp [Event.answers])
    · have differ : other.id ≠ ack.id := by simpa [Incoming.isFor] using differ
      refine .inl ⟨reading, ?_, _, before, after, rfl, rest_eq, others⟩
      rw [← awaits.inFlight]
      exact InFlight.ticket?_erase_of_ne (Ne.symm differ)
  | @readEnded env call message rest result _ called inbox last =>
    have breaks : message.breaks s.inFlight = true := by
      cases message <;> simp_all [lastResult, Incoming.breaks]
    rw [awaits.eq_of_breaks accounted called inbox breaks harmless] at last
    cases last
  | sourceBroke _ called inbox =>
    have breaks : Incoming.brokeDown.breaks s.inFlight = true := rfl
    cases awaits.eq_of_breaks accounted called inbox breaks harmless
  | @delivered message call called =>
    obtain ⟨call', before, after, called', inbox, others⟩ := awaits.inbox
    obtain rfl := Option.some.inj (called.symm.trans called')
    refine .inl ⟨reading, awaits.inFlight, call.post message, before, ?_⟩
    unfold Call.post
    split
    · exact ⟨after, rfl, inbox, others⟩
    · refine ⟨after ++ [message], rfl, ?_, others⟩
      simp only [inbox, List.append_assoc, List.cons_append]
  | @modeSet mode call called =>
    obtain ⟨call', before, after, called', inbox, others⟩ := awaits.inbox
    obtain rfl := Option.some.inj (called.symm.trans called')
    exact .inl ⟨reading, awaits.inFlight, _, before, after, rfl, inbox, others⟩

theorem Becomes.awaits (becomes : Becomes s t) (sound : s.Sound) (awaits : s.Awaits ack ticket)
    (distinct : Ledger.all Ledger.isDistinct {} t.history)
    (harmless : Ledger.all (Ledger.isHarmless (ack.id, ticket)) {} t.history) :
    t.Awaits ack ticket ∨ (ticket, ack.verdict.1) ∈ Event.answers t.history := by
  induction becomes with
  | refl => exact .inl awaits
  | @step t action events next earlier step ih =>
    rw [step.record_history, Ledger.all_append, Bool.and_eq_true] at distinct harmless
    rw [step.record_history, Event.answers_append]
    obtain waits | told := ih distinct.1 harmless.1
    · have accounted := (earlier.sound sound).accounted
      obtain waits | told := waits.step accounted step distinct.2 harmless.2
      · exact .inl (waits.frame rfl rfl rfl)
      · exact .inr (List.mem_append_right _ told)
    · exact .inr (List.mem_append_left _ told)

/-- The caller of a batch has been told the verdict that waited for it when the reader has ended. -/
theorem Becomes.answered (becomes : Becomes s t) (sound : s.Sound) (awaits : s.Awaits ack ticket)
    (ended : t.run ≠ .reading) (distinct : Ledger.all Ledger.isDistinct {} t.history)
    (harmless : Ledger.all (Ledger.isHarmless (ack.id, ticket)) {} t.history) :
    (ticket, ack.verdict.1) ∈ Event.answers t.history := by
  obtain waits | told := becomes.awaits sound awaits distinct harmless
  · exact absurd waits.reading ended
  · exact told

end Stream

end TelemetryStreams
