import TelemetryStreams.Proofs.InFlight
import TelemetryStreams.Stream.Basic
import Mathlib.Data.List.Induction

/-!
# The ledger of a history

A ledger is what one can tell from the events of a stream alone: which batches wait for their
acknowledgment, and what became of every item that does not. It is kept without looking at the
stream, so it says what the table of a stream should be and whom the stream should have told what.

Every registered ticket is in the table of the ledger or has left it (`registered_perm`), and an
entry that an acknowledgment has removed was made before and not touched in between (`settled_split`).
-/
namespace TelemetryStreams

/-- What became of an item. -/
inductive Fate where
  /-- The codec made no batch of it. -/
  | refused (failure : EncodeError)
  /-- Its batch was acknowledged. -/
  | settled (ack : Acknowledgment)
  /-- Another batch took the id of its batch. -/
  | displaced
  /-- It was released at the end of the stream. -/
  | released

namespace Fate

def result : Fate → Except Error Unit
  | refused failure => .error (.encode failure)
  | settled ack => ack.verdict.1
  | displaced | released => .error .streamRestarting

/-- Whether there was a batch that waited for its acknowledgment. -/
def isDeparture : Fate → Bool
  | refused _ => false
  | _ => true

end Fate

namespace Event

def takenItems (events : List Event) : List Item :=
  events.filterMap fun
    | .taken item => some item
    | _ => none

/-- The batches that were registered, with the tickets of their callers. -/
def registrations (events : List Event) : List (Int64 × Nat) :=
  events.filterMap fun
    | .registered id ticket => some (id, ticket)
    | _ => none

def answers (events : List Event) : List (Nat × Except Error Unit) :=
  events.filterMap fun
    | .answered ticket result => some (ticket, result)
    | _ => none

/-- The id of the batch to whose entry an event happens. -/
def id? : Event → Option Int64
  | .registered id _ | .logged (.releasing id) => some id
  | .received (.acknowledged ack) => some ack.id
  | _ => none

def Quiet (id : Int64) (events : List Event) : Prop := ∀ event ∈ events, event.id? ≠ some id

@[simp] theorem takenItems_append (a b : List Event) :
    takenItems (a ++ b) = takenItems a ++ takenItems b :=
  List.filterMap_append

@[simp] theorem registrations_append (a b : List Event) :
    registrations (a ++ b) = registrations a ++ registrations b := List.filterMap_append

@[simp] theorem answers_append (a b : List Event) : answers (a ++ b) = answers a ++ answers b :=
  List.filterMap_append

end Event

/-- What a history amounts to. -/
structure Ledger where
  /-- The batches that wait for their acknowledgment. -/
  table : InFlight := []
  /-- What became of the other items, by the tickets of their callers. -/
  fates : List (Nat × Fate) := []

namespace Ledger

def leave (ledger : Ledger) (id : Int64) (fate : Fate) : Ledger :=
  { table := ledger.table.erase id
    fates := ledger.fates ++ (ledger.table.ticket? id).toList.map fun ticket => (ticket, fate) }

def note (ledger : Ledger) : Event → Ledger
  | .registered id ticket =>
    { ledger.leave id .displaced with table := ledger.table.register id ticket }
  | .received (.acknowledged ack) => ledger.leave ack.id (.settled ack)
  | .logged (.releasing id) => ledger.leave id .released
  | .answered ticket (.error (.encode failure)) =>
    { ledger with fates := ledger.fates ++ [(ticket, .refused failure)] }
  | _ => ledger

def ofHistory (history : List Event) : Ledger := history.foldl note {}

@[simp] theorem ofHistory_append (a b : List Event) :
    ofHistory (a ++ b) = b.foldl note (ofHistory a) := List.foldl_append

/-- The tickets that have left the table. -/
def departed (ledger : Ledger) : List Nat :=
  (ledger.fates.filter (·.2.isDeparture)).map (·.1)

variable {ledger : Ledger} {id : Int64} {ticket : Nat} {event : Event} {history : List Event}

theorem note_isTable (distinct : ledger.table.IsTable) : (ledger.note event).table.IsTable := by
  unfold note
  split
  · exact distinct.register
  · exact distinct.erase
  · exact distinct.erase
  · exact distinct
  · exact distinct

theorem isTable (history : List Event) : (ofHistory history).table.IsTable := by
  induction history using List.reverseRecOn with
  | nil => exact InFlight.isTable_nil
  | append_singleton history event ih =>
    rw [ofHistory_append]
    exact note_isTable ih

theorem mem_note_of_ne {row : Int64 × Nat} (differ : event.id? ≠ some row.1) :
    row ∈ (ledger.note event).table ↔ row ∈ ledger.table := by
  unfold note
  split
  case h_1 id ticket =>
    have differ : row.1 ≠ id := fun same => differ (by rw [same]; rfl)
    have other : row ≠ (id, ticket) := fun same => differ (by rw [same])
    simp [InFlight.register, InFlight.mem_erase, differ, other]
  case h_2 ack =>
    have differ : row.1 ≠ ack.id := fun same => differ (by rw [same]; rfl)
    simp [leave, InFlight.mem_erase, differ]
  case h_3 id =>
    have differ : row.1 ≠ id := fun same => differ (by rw [same]; rfl)
    simp [leave, InFlight.mem_erase, differ]
  case h_4 => rfl
  case h_5 => rfl

theorem eq_of_mem_note_registered {other : Nat}
    (isRow : (id, other) ∈ (ledger.note (.registered id ticket)).table) : other = ticket := by
  simpa [note, InFlight.register, InFlight.mem_erase] using isRow

/-- What happens to an entry otherwise is that it leaves. -/
theorem not_mem_note (about : event.id? = some id) (unregistered : ∀ t, event ≠ .registered id t) :
    (id, ticket) ∉ (ledger.note event).table := by
  unfold Event.id? at about
  split at about
  case h_1 =>
    cases about
    exact absurd rfl (unregistered _)
  case h_2 =>
    cases about
    simp [note, leave, InFlight.mem_erase]
  case h_3 =>
    cases about
    simp [note, leave, InFlight.mem_erase]
  case h_4 => cases about

/-- An entry in the table was made, and nothing has happened to it since then. -/
theorem held_split (held : (id, ticket) ∈ (ofHistory history).table) :
    ∃ before after, history = before ++ .registered id ticket :: after ∧ Event.Quiet id after := by
  -- From the end of the history: the last event made the entry, or left it alone.
  induction history using List.reverseRecOn with
  | nil => cases held
  | append_singleton history event ih =>
    rw [ofHistory_append] at held
    by_cases about : event.id? = some id
    · by_cases registered : ∃ other, event = .registered id other
      · obtain ⟨other, rfl⟩ := registered
        obtain rfl := eq_of_mem_note_registered held
        exact ⟨history, [], rfl, fun _ none => nomatch none⟩
      · exact absurd held (not_mem_note about fun other same => registered ⟨other, same⟩)
    · obtain ⟨before, after, rfl, quiet⟩ := ih ((mem_note_of_ne about).mp held)
      refine ⟨before, after ++ [event], by simp, ?_⟩
      intro other isOther
      rcases List.mem_append.mp isOther with isOther | isOther
      · exact quiet other isOther
      · exact List.mem_singleton.mp isOther ▸ about

theorem mem_fates_leave {fate : Fate} {row : Nat × Fate} (isRow : row ∈ (ledger.leave id fate).fates) :
    row ∈ ledger.fates ∨ ledger.table.ticket? id = some row.1 ∧ row.2 = fate := by
  rcases List.mem_append.mp isRow with isRow | isRow
  · exact .inl isRow
  · obtain ⟨other, isOther, rfl⟩ := List.mem_map.mp isRow
    exact .inr ⟨Option.mem_toList.mp isOther, rfl⟩

theorem mem_fates_note {row : Nat × Fate} (isRow : row ∈ (ledger.note event).fates) :
    row ∈ ledger.fates ∨
      (∃ failure, event = .answered row.1 (.error (.encode failure)) ∧
        row.2 = .refused failure) ∨
      ∃ id, event.id? = some id ∧ ledger.table.ticket? id = some row.1 ∧
        ∀ ack, row.2 = .settled ack → event = .received (.acknowledged ack) := by
  unfold note at isRow
  split at isRow
  case h_1 id ticket =>
    obtain earlier | ⟨found, isFate⟩ := mem_fates_leave isRow
    · exact .inl earlier
    · exact .inr (.inr ⟨id, rfl, found, by simp [isFate]⟩)
  case h_2 ack =>
    obtain earlier | ⟨found, isFate⟩ := mem_fates_leave isRow
    · exact .inl earlier
    · exact .inr (.inr ⟨ack.id, rfl, found, by simp [isFate]⟩)
  case h_3 id =>
    obtain earlier | ⟨found, isFate⟩ := mem_fates_leave isRow
    · exact .inl earlier
    · exact .inr (.inr ⟨id, rfl, found, by simp [isFate]⟩)
  case h_4 ticket failure =>
    rcases List.mem_append.mp isRow with isRow | isRow
    · exact .inl isRow
    · obtain rfl := List.mem_singleton.mp isRow
      exact .inr (.inl ⟨failure, rfl, rfl⟩)
  case h_5 => exact .inl isRow

/-- What an acknowledgment has settled was registered under its id before, and nothing happened to
the entry in between. -/
theorem settled_split {ack : Acknowledgment}
    (settled : (ticket, .settled ack) ∈ (ofHistory history).fates) :
    ∃ before between after,
      history = before ++ .registered ack.id ticket :: between ++
        .received (.acknowledged ack) :: after ∧
      Event.Quiet ack.id between := by
  induction history using List.reverseRecOn with
  | nil => cases settled
  | append_singleton history event ih =>
    rw [ofHistory_append] at settled
    rcases mem_fates_note settled with earlier | ⟨failure, -, wrong⟩ | ⟨id, about, found, isAck⟩
    · obtain ⟨before, between, after, rfl, quiet⟩ := ih earlier
      exact ⟨before, between, after ++ [event], by simp, quiet⟩
    · cases wrong
    · obtain rfl := isAck ack rfl
      cases about
      obtain ⟨before, between, rfl, quiet⟩ := held_split (InFlight.mem_of_ticket? found)
      exact ⟨before, between, [], by simp, quiet⟩

/-! ### Counting -/

theorem leave_perm (id : Int64) (fate : Fate) (distinct : ledger.table.IsTable)
    (departs : fate.isDeparture) :
    (ledger.departed ++ ledger.table.tickets).Perm
      ((ledger.leave id fate).departed ++ (ledger.leave id fate).table.tickets) := by
  have gone : ((ledger.table.ticket? id).toList.map fun ticket => (ticket, fate)).filter
      (·.2.isDeparture) = (ledger.table.ticket? id).toList.map fun ticket => (ticket, fate) := by
    simp [departs]
  unfold departed leave
  rw [List.filter_append, gone, List.map_append, List.map_map, List.append_assoc]
  simp only [Function.comp_def, List.map_id']
  exact (InFlight.tickets_perm id distinct).append_left _

/-- Every registered ticket waits in the table or has departed. -/
theorem registered_perm (history : List Event) :
    ((Event.registrations history).map (·.2)).Perm
      ((ofHistory history).departed ++ (ofHistory history).table.tickets) := by
  induction history using List.reverseRecOn with
  | nil => exact List.Perm.refl _
  | append_singleton history event ih =>
    have distinct := isTable history
    rw [ofHistory_append, Event.registrations_append, List.map_append]
    simp only [List.foldl_cons, List.foldl_nil]
    unfold note
    split
    case h_1 id ticket =>
      have left := ih.trans (leave_perm id .displaced distinct rfl)
      simp only [InFlight.register, InFlight.tickets, List.map_append, List.map_cons, List.map_nil,
        ← List.append_assoc]
      exact left.append_right [ticket]
    case h_2 ack =>
      simpa [Event.registrations] using ih.trans (leave_perm ack.id (.settled ack) distinct rfl)
    case h_3 id =>
      simpa [Event.registrations] using ih.trans (leave_perm id .released distinct rfl)
    case h_4 ticket failure =>
      simpa [Event.registrations, departed, Fate.isDeparture] using ih
    case h_5 unregistered _ _ _ =>
      have nothing : Event.registrations [event] = [] := by
        unfold Event.registrations
        cases event <;> simp_all
      rw [nothing]
      simpa using ih

end Ledger

end TelemetryStreams
