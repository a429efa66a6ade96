import TelemetryStreams.Proofs.Stream.Order

/-!
# Acknowledgments, one after the other

An acknowledgment is about the entry of its id. If there is one it leaves the table and its caller is
told what the code means (`Acknowledgment.Means`); all other entries stay, and nobody else is told
anything. The reader goes on if the code is one of the four that answer a batch (`acknowledge_answer`),
and it stops at any other code (`acknowledge_foreign`) and at an id without an entry
(`acknowledge_unknown`).

So acknowledgments of different batches do not get in each other's way: what the callers are told and
what is left in the table do not depend on the order in which they arrive
(`acknowledgments_touch_own_entries`).
-/
namespace TelemetryStreams

/-! ### What a code means -/

namespace Acknowledgment

/-- The id of the batch and what the peer says about it, as its caller reads them. -/
def detail (ack : Acknowledgment) : String := toString ack.id.toInt ++ ": " ++ ack.message

def IsAnswer (ack : Acknowledgment) : Prop :=
  ack.code = 0 ∨ ack.code = 14 ∨ ack.code = 3 ∨ ack.code = 8

instance (ack : Acknowledgment) : Decidable ack.IsAnswer :=
  inferInstanceAs (Decidable (_ ∨ _))

def foreignStatus (ack : Acknowledgment) : Status :=
  ⟨.internal, "unexpected stream response: " ++ ack.detail⟩

/-- What the caller of a batch is told, by the number of the code. -/
inductive Means (ack : Acknowledgment) : Except Error Unit → Prop
  | accepted (code : ack.code = 0) : Means ack (.ok ())
  | unavailable (code : ack.code = 14) :
      Means ack (.error (.status ⟨.unavailable, "destination unavailable: " ++ ack.detail⟩))
  | invalidArgument (code : ack.code = 3) :
      Means ack (.error (.status ⟨.invalidArgument, "invalid argument: " ++ ack.detail⟩))
  | resourceExhausted (code : ack.code = 8) :
      Means ack (.error (.status ⟨.resourceExhausted, "resource exhausted: " ++ ack.detail⟩))
  | foreign (foreign : ¬ ack.IsAnswer) : Means ack (.error (.status ack.foreignStatus))

variable {ack : Acknowledgment}

theorem answers_iff : ack.verdict.2 = true ↔ ack.IsAnswer := by
  simp [verdict_isAnswer_iff, Verdict.ofNumber_eq_ok_iff, Verdict.answers, Verdict.table, IsAnswer]

theorem means_verdict (ack : Acknowledgment) : ack.Means ack.verdict.1 := by
  have number {known : Verdict} (isKnown : Verdict.ofNumber ack.code = .ok known) :
      ∃ name, (known, ack.code, name) ∈ Verdict.table :=
    Verdict.ofNumber_eq_ok_iff.mp isKnown
  have foreign : ack.verdict.2 = true ↔ ack.IsAnswer := answers_iff
  unfold verdict at foreign ⊢
  simp only at foreign ⊢
  split
  case h_1 isKnown => exact .accepted (by simpa [Verdict.table] using number isKnown)
  case h_2 isKnown => exact .unavailable (by simpa [Verdict.table] using number isKnown)
  case h_3 isKnown => exact .invalidArgument (by simpa [Verdict.table] using number isKnown)
  case h_4 isKnown => exact .resourceExhausted (by simpa [Verdict.table] using number isKnown)
  case h_5 => exact .foreign (by simp_all)

end Acknowledgment

/-! ### One acknowledgment -/

namespace Stream

variable {s : Stream} {call : Call} {ack : Acknowledgment} {rest : List Incoming} {ticket : Nat}

theorem acknowledge_unknown (s : Stream) (absent : s.inFlight.ticket? ack.id = none) :
    s.acknowledge ack =
      ({ s with run := .joining (.error (.unrecognizedBatchId ack.id)), canceled := true }, []) := by
  simp [acknowledge, InFlight.settle, absent, readerEnds]

theorem acknowledge_answer (s : Stream) (found : s.inFlight.ticket? ack.id = some ticket)
    (isAnswer : ack.IsAnswer) :
    s.acknowledge ack =
      ({ s with inFlight := s.inFlight.erase ack.id }, [.answered ticket ack.verdict.1]) := by
  have answers := Acknowledgment.answers_iff.mpr isAnswer
  simp [acknowledge, InFlight.settle, found, answers]

theorem acknowledge_foreign (s : Stream) (found : s.inFlight.ticket? ack.id = some ticket)
    (foreign : ¬ ack.IsAnswer) :
    s.acknowledge ack = ({ s with
        inFlight := s.inFlight.erase ack.id
        run := .joining (.error (.unexpectedStatus ack.foreignStatus)), canceled := true },
      [.answered ticket ack.verdict.1]) := by
  have breaks : ack.verdict.2 = false :=
    Bool.eq_false_iff.mpr fun answers => foreign (Acknowledgment.answers_iff.mp answers)
  simp [acknowledge, InFlight.settle, found, breaks, readerEnds]
  rfl

/-- What reading one acknowledgment may do. If its id has no entry, the table stays as it is, nobody is
told anything, and the reader stops. Else exactly this entry leaves the table, exactly its caller is told
what the code means, and the reader goes on if and only if the code answers a batch. -/
structure TouchesOwnEntry (s : Stream) (ack : Acknowledgment) (next : Stream) (events : List Event) :
    Prop where
  unknown : s.inFlight.ticket? ack.id = none →
    next.inFlight = s.inFlight ∧ Event.answers events = [] ∧
      next.run = .joining (.error (.unrecognizedBatchId ack.id))
  known : ∀ ticket, s.inFlight.ticket? ack.id = some ticket →
    s.inFlight.Perm ((ack.id, ticket) :: next.inFlight) ∧
      next.inFlight.ticket? ack.id = none ∧
      (∀ id ≠ ack.id, next.inFlight.ticket? id = s.inFlight.ticket? id) ∧
      (∃ result, ack.Means result ∧ Event.answers events = [(ticket, result)]) ∧
      next.run = if ack.IsAnswer then .reading
        else .joining (.error (.unexpectedStatus ack.foreignStatus))

theorem touches_acknowledge (s : Stream) (ack : Acknowledgment) (reading : s.run = .reading)
    (isTable : s.inFlight.IsTable) :
    s.TouchesOwnEntry ack (s.acknowledge ack).1
      (.received (.acknowledged ack) :: (s.acknowledge ack).2) := by
  cases found : s.inFlight.ticket? ack.id with
  | none =>
    rw [acknowledge_unknown s found]
    refine ⟨fun _ => ⟨rfl, rfl, rfl⟩, fun ticket isEntry => ?_⟩
    rw [found] at isEntry
    cases isEntry
  | some ticket =>
    have parts := InFlight.perm_erase isTable found
    have others : ∀ id ≠ ack.id, (s.inFlight.erase ack.id).ticket? id = s.inFlight.ticket? id :=
      fun id differ => InFlight.ticket?_erase_of_ne differ
    have told : ∃ result, ack.Means result ∧ [(ticket, ack.verdict.1)] = [(ticket, result)] :=
      ⟨_, ack.means_verdict, rfl⟩
    constructor
    · intro absent
      rw [found] at absent
      cases absent
    · intro other isEntry
      obtain rfl : ticket = other := Option.some.inj (found.symm.trans isEntry)
      by_cases isAnswer : ack.IsAnswer
      · rw [acknowledge_answer s found isAnswer, if_pos isAnswer]
        exact ⟨parts, InFlight.ticket?_erase_self, others, told, reading⟩
      · rw [acknowledge_foreign s found isAnswer, if_neg isAnswer]
        exact ⟨parts, InFlight.ticket?_erase_self, others, told, rfl⟩

def withInbox (s : Stream) (call : Call) (inbox : List Incoming) : Stream :=
  { s with call := some { call with inbox := inbox } }

theorem receive_acknowledged (reading : s.run = .reading) (called : s.call = some call)
    (inbox : call.inbox = .acknowledged ack :: rest) :
    s.receive = some (((s.withInbox call rest).acknowledge ack).1,
      .received (.acknowledged ack) :: ((s.withInbox call rest).acknowledge ack).2) := by
  simp [receive, reading, called, inbox, withInbox]

/-! ### Several acknowledgments -/

/-- What happens when an acknowledgment is read for an entry of a table. -/
def report (table : InFlight) (ack : Acknowledgment) : List Event :=
  .received (.acknowledged ack) ::
    (table.ticket? ack.id).toList.map fun ticket => .answered ticket ack.verdict.1

/-- The entries of a table that some acknowledgments are not about. -/
def untouched (table : InFlight) (acks : List Acknowledgment) : InFlight :=
  table.filter fun row => row.1 ∉ acks.map (·.id)

theorem untouched_cons (table : InFlight) (ack : Acknowledgment) (acks : List Acknowledgment) :
    untouched table (ack :: acks) = untouched (table.erase ack.id) acks := by
  unfold untouched InFlight.erase
  rw [List.filter_filter]
  refine List.filter_congr fun row _ => ?_
  simp [Bool.and_comm]

theorem untouched_perm {acks others : List Acknowledgment} (table : InFlight)
    (same : others.Perm acks) : untouched table others = untouched table acks := by
  refine List.filter_congr fun row _ => ?_
  simp only [(same.map (·.id)).mem_iff]

/-- What is read for an entry does not depend on the entries of other ids. -/
theorem report_erase {table : InFlight} {id : Int64} (differ : ack.id ≠ id) :
    report (table.erase id) ack = report table ack := by
  rw [report, report, InFlight.ticket?_erase_of_ne differ]

theorem perform_answer (env : Surroundings) (reading : s.run = .reading)
    (found : s.inFlight.ticket? ack.id = some ticket) (isAnswer : ack.IsAnswer) :
    (s.withInbox call (.acknowledged ack :: rest)).perform (.move .receive env) =
      some (withInbox { s with
        inFlight := s.inFlight.erase ack.id
        history := s.history ++ report s.inFlight ack } call rest) := by
  have receives := receive_acknowledged (s := s.withInbox call (.acknowledged ack :: rest))
    reading rfl rfl
  have answers := acknowledge_answer ((s.withInbox call (.acknowledged ack :: rest)).withInbox
    { call with inbox := .acknowledged ack :: rest } rest) found isAnswer
  rw [answers] at receives
  simp only [perform, step, makeMove, receives, report, found]
  rfl

/-- Acknowledgments that answer different batches of the table: each caller is told what it would have
been told by its acknowledgment alone. -/
theorem follow_acknowledged {acks : List Acknowledgment} (env : Surroundings)
    (reading : s.run = .reading) (distinct : (acks.map (·.id)).Nodup)
    (known : ∀ ack ∈ acks, ack.IsAnswer ∧ s.inFlight.ticket? ack.id ≠ none) :
    (s.withInbox call (acks.map .acknowledged ++ rest)).follow
        (List.replicate acks.length (.move .receive env)) =
      some { s.withInbox call rest with
        inFlight := untouched s.inFlight acks
        history := s.history ++ acks.flatMap (report s.inFlight) } := by
  induction acks generalizing s with
  | nil => simp [follow, withInbox, untouched]
  | cons ack acks ih =>
    simp only [List.map_cons, List.nodup_cons, List.forall_mem_cons] at distinct known
    obtain ⟨alone, distinct⟩ := distinct
    obtain ⟨⟨isAnswer, isEntry⟩, known⟩ := known
    obtain ⟨ticket, found⟩ := Option.ne_none_iff_exists'.mp isEntry
    have apart : ∀ other ∈ acks, other.id ≠ ack.id := by
      intro other isOther same
      exact alone (same ▸ List.mem_map_of_mem isOther)
    -- what the first acknowledgment leaves behind, its place in the inbox apart
    let next : Stream := { s with
      inFlight := s.inFlight.erase ack.id, history := s.history ++ report s.inFlight ack }
    have first : (s.withInbox call ((ack :: acks).map .acknowledged ++ rest)).perform
        (.move .receive env) = some (next.withInbox call (acks.map .acknowledged ++ rest)) :=
      perform_answer env reading found isAnswer
    have later := @ih next reading distinct fun other isOther => by
      rw [InFlight.ticket?_erase_of_ne (apart other isOther)]
      exact known other isOther
    have reports : acks.flatMap (report next.inFlight) = acks.flatMap (report s.inFlight) :=
      List.flatMap_congr fun other isOther => report_erase (apart other isOther)
    rw [List.length_cons, List.replicate_succ, follow, first, Option.bind_some, later, reports,
      untouched_cons, List.flatMap_cons, ← List.append_assoc]
    rfl

/-- Acknowledgments are read one entry at a time. For every table and every acknowledgment, the reader
that takes it touches the entry of its id and no other. So if acknowledgments answer different batches
in the table, then what is told and what is left in the table do not depend on their order. -/
theorem acknowledgments_touch_own_entries {s : Stream} {call : Call} (env : Surroundings)
    (reading : s.run = .reading) (called : s.call = some call) (isTable : s.inFlight.IsTable) :
    (∀ ack rest, call.inbox = .acknowledged ack :: rest →
      ∃ next events, s.step (.move .receive env) = some (next, events) ∧
        s.TouchesOwnEntry ack next events) ∧
    ∀ (acks others : List Acknowledgment) (rest : List Incoming), others.Perm acks →
      (acks.map (·.id)).Nodup →
      (∀ ack ∈ acks, ack.IsAnswer ∧ s.inFlight.ticket? ack.id ≠ none) →
      ∃ t u, (s.withInbox call (acks.map .acknowledged ++ rest)).follow
            (List.replicate acks.length (.move .receive env)) = some t ∧
          (s.withInbox call (others.map .acknowledged ++ rest)).follow
            (List.replicate others.length (.move .receive env)) = some u ∧
        t.run = .reading ∧ u.run = .reading ∧
        t.inFlight = untouched s.inFlight acks ∧ u.inFlight = t.inFlight ∧
        (Event.answers u.history).Perm (Event.answers t.history) := by
  constructor
  · intro ack rest inbox
    have touches := touches_acknowledge (s.withInbox call rest) ack reading isTable
    exact ⟨_, _, receive_acknowledged reading called inbox, touches.unknown, touches.known⟩
  · intro acks others rest same distinct known
    have distinct' : (others.map (·.id)).Nodup := (same.map _).nodup_iff.mpr distinct
    have known' : ∀ ack ∈ others, ack.IsAnswer ∧ s.inFlight.ticket? ack.id ≠ none :=
      fun ack isOne => known ack (same.subset isOne)
    refine ⟨_, _, follow_acknowledged env reading distinct known,
      follow_acknowledged env reading distinct' known', reading, reading, rfl, ?_, ?_⟩
    · exact untouched_perm s.inFlight same
    · simp only [Event.answers_append]
      exact ((same.flatMap_right _).filterMap _).append_left _

/-- A stream that reads, with three batches in flight and three messages in its inbox. -/
def threeInFlight : Stream :=
  { run := .reading, inFlight := [(7, 0), (-1, 1), (8, 2)],
    call := some { number := 0, inbox := [.acknowledged { id := -1, code := 10, message := "late" },
      .acknowledged { id := 7 }, .acknowledged { id := 8, code := 14, message := "busy" }] } }

/-- The first acknowledgment has a code that answers no batch. Behind it come two that answer batches, and
they might come the other way round. -/
theorem acknowledgments_touch_own_entries_swapped :
    ∃ call, threeInFlight.call = some call ∧ threeInFlight.inFlight.IsTable ∧
      (∃ next events, threeInFlight.step (.move .receive {}) = some (next, events) ∧
        threeInFlight.TouchesOwnEntry { id := -1, code := 10, message := "late" } next events) ∧
      ∃ t u, (threeInFlight.withInbox call [.acknowledged { id := 7 },
            .acknowledged { id := 8, code := 14, message := "busy" }]).follow
            (List.replicate 2 (.move .receive {})) = some t ∧
          (threeInFlight.withInbox call [.acknowledged { id := 8, code := 14, message := "busy" },
            .acknowledged { id := 7 }]).follow (List.replicate 2 (.move .receive {})) = some u ∧
        t.inFlight = [(-1, 1)] ∧ u.inFlight = t.inFlight ∧
        (Event.answers u.history).Perm (Event.answers t.history) := by
  have isTable : threeInFlight.inFlight.IsTable := by
    unfold InFlight.IsTable
    decide
  obtain ⟨one, several⟩ := acknowledgments_touch_own_entries {} rfl rfl isTable
  obtain ⟨t, u, follows, follows', -, -, left, same, told⟩ := several
    [{ id := 7 }, { id := 8, code := 14, message := "busy" }]
    [{ id := 8, code := 14, message := "busy" }, { id := 7 }] [] (List.Perm.swap _ _ _)
    (by decide) (by decide)
  exact ⟨_, rfl, isTable, one _ _ rfl, t, u, follows, follows', left, same, told⟩

end Stream

end TelemetryStreams
