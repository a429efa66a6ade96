import TelemetryStreams.Proofs.Stream.Accounts

/-!
# The batches that a stream has sent

A batch on the wire belongs to the caller that was registered since the batch before it was sent
(`Dispatch`). A stream registers one caller for each batch, so every batch has one owner, no caller
has two, and the batch carries the records of its owner under the id of the registration
(`Written`). A registered caller whose batch is not on the wire is that of the last registration, and
nothing was sent since then (`sent_of_registered`).
-/
namespace TelemetryStreams

namespace Event

/-- All batches on the wire. -/
def sentBatches (events : List Event) : List Batch :=
  events.filterMap fun
    | .sent _ batch => some batch
    | _ => none

@[simp] theorem sentBatches_append (a b : List Event) :
    sentBatches (a ++ b) = sentBatches a ++ sentBatches b := List.filterMap_append

theorem sentBatches_of_idle {events : List Event} (idle : Idle events) :
    sentBatches events = [] := by
  refine List.filterMap_eq_nil_iff.mpr fun event isEvent => ?_
  have := idle event isEvent
  cases event <;> simp_all [isIdle]

end Event

/-- What a history says about the batches on the wire. -/
structure Dispatch where
  /-- What was registered since the last batch was sent. -/
  unsent : List (Int64 × Nat) := []
  /-- The batches that were sent, by the tickets of their callers. -/
  sends : List (Nat × Batch) := []

namespace Dispatch

def note (dispatch : Dispatch) : Event → Dispatch
  | .registered id ticket => { dispatch with unsent := dispatch.unsent ++ [(id, ticket)] }
  | .sent _ batch =>
    { unsent := [], sends := dispatch.sends ++ dispatch.unsent.map fun row => (row.2, batch) }
  | _ => dispatch

def ofHistory (history : List Event) : Dispatch := history.foldl note {}

variable {dispatch : Dispatch} {id : Int64} {ticket : Nat}

@[simp] theorem ofHistory_append (a b : List Event) :
    ofHistory (a ++ b) = b.foldl note (ofHistory a) := List.foldl_append

theorem foldl_note_of_idle {events : List Event} (idle : Event.Idle events) :
    events.foldl note dispatch = dispatch := by
  refine idle.foldl_eq (fun dispatch event isIdle => ?_) dispatch
  unfold note
  split <;> simp_all [Event.isIdle]

/-- Each registration is owed a batch, or has one on the wire. -/
theorem tickets_eq (history : List Event) :
    (Event.registrations history).map (·.2) =
      (ofHistory history).sends.map (·.1) ++ (ofHistory history).unsent.map (·.2) := by
  induction history using List.reverseRecOn with
  | nil => rfl
  | append_singleton history event ih =>
    rw [ofHistory_append, Event.registrations_append, List.map_append, ih]
    unfold Event.registrations
    cases event <;> simp [note, Function.comp_def]

theorem prefix_sends (more : List Event) : dispatch.sends <+: (more.foldl note dispatch).sends := by
  induction more generalizing dispatch with
  | nil => exact List.prefix_refl _
  | cons event more ih =>
    refine List.IsPrefix.trans ?_ ih
    unfold note
    split
    · exact List.prefix_refl _
    · exact List.prefix_append _ _
    · exact List.prefix_refl _

theorem mem_sends_of_unsent (owed : (id, ticket) ∈ dispatch.unsent) {more : List Event}
    (sends : Event.sentBatches more ≠ []) :
    ∃ batch, (ticket, batch) ∈ (more.foldl note dispatch).sends := by
  induction more generalizing dispatch with
  | nil => exact absurd rfl sends
  | cons event more ih =>
    rw [List.foldl_cons]
    by_cases isSent : ∃ call batch, event = .sent call batch
    · obtain ⟨call, batch, rfl⟩ := isSent
      refine ⟨batch, (prefix_sends more).subset ?_⟩
      exact List.mem_append_right _ (List.mem_map.mpr ⟨(id, ticket), owed, rfl⟩)
    · refine ih ?_ ?_
      · unfold note
        split
        · exact List.mem_append_left _ owed
        · exact absurd ⟨_, _, rfl⟩ isSent
        · exact owed
      · unfold Event.sentBatches at sends ⊢
        rw [List.filterMap_cons] at sends
        split at sends
        · exact sends
        case h_2 isBatch =>
          split at isBatch
          · exact absurd ⟨_, _, rfl⟩ isSent
          · cases isBatch

/-- If anything was sent since a registration, then a batch of the registered caller. -/
theorem sent_of_registered (before : List Event) (id : Int64) (ticket : Nat) {after : List Event}
    (sends : Event.sentBatches after ≠ []) :
    ∃ batch, (ticket, batch) ∈
      (ofHistory (before ++ .registered id ticket :: after)).sends := by
  rw [ofHistory_append, List.foldl_cons]
  have owed : (id, ticket) ∈ ((ofHistory before).note (.registered id ticket)).unsent :=
    List.mem_append_right _ (List.mem_singleton.mpr rfl)
  exact mem_sends_of_unsent owed sends

end Dispatch

/-- A batch that the codec makes carries its records and nothing else. -/
theorem Codec.payloads_of_encode {codec : Codec} {records : Records} {batch : Batch}
    (works : Codec.guarded (codec.encode records).1 = .ok batch) :
    batch.payloads = [Codec.payload records] := by
  unfold Codec.encode Codec.guarded at works
  cases turn : codec.script.head?.getD .batch with
  | batch => simp only [turn] at works; cases works; rfl
  | refuse message => simp only [turn] at works; cases works
  | breakDown lastWords => simp only [turn] at works; cases works

/-- Whether a batch under a ticket is that of an item which the writer took. -/
def Event.Carries (history : List Event) (ticket : Nat) (batch : Batch) : Prop :=
  (batch.id, ticket) ∈ Event.registrations history ∧
    ∃ item ∈ Event.takenItems history, item.ticket = ticket ∧
      batch.payloads = [Codec.payload item.records]

theorem Event.Carries.append {history : List Event} {ticket : Nat} {batch : Batch}
    (carries : Event.Carries history ticket batch) (more : List Event) :
    Event.Carries (history ++ more) ticket batch := by
  obtain ⟨registered, item, isTaken, same, payloads⟩ := carries
  refine ⟨?_, item, ?_, same, payloads⟩
  · rw [Event.registrations_append]
    exact List.mem_append_left _ registered
  · rw [Event.takenItems_append]
    exact List.mem_append_left _ isTaken

/-- What the writer owes: a batch once it is registered, and nothing before that. A writer that is
over owes whatever it left. -/
def WriterPhase.Owes (history : List Event) (unsent : List (Int64 × Nat)) : WriterPhase → Prop
  | .absent | .offering | .waiting => unsent = []
  | .encoding item _ => unsent = [] ∧ item ∈ Event.takenItems history
  | .sending batch _ => ∃ ticket, unsent = [(batch.id, ticket)] ∧
      Event.Carries history ticket batch
  | .ended _ | .brokeDown => True

theorem WriterPhase.Owes.append {history : List Event} {unsent : List (Int64 × Nat)}
    {writer : WriterPhase} (owes : writer.Owes history unsent) (more : List Event) :
    writer.Owes (history ++ more) unsent := by
  cases writer with
  | encoding item span =>
    refine ⟨owes.1, ?_⟩
    rw [Event.takenItems_append]
    exact List.mem_append_left _ owes.2
  | sending batch span =>
    obtain ⟨ticket, unsent, carries⟩ := owes
    exact ⟨ticket, unsent, carries.append more⟩
  | absent | offering | waiting | ended | brokeDown => exact owes

namespace Stream

def dispatch (s : Stream) : Dispatch := .ofHistory s.history

/-- Every batch on the wire has one owner, whose records it carries under the id of its
registration. -/
structure Written (s : Stream) : Prop where
  paired : s.dispatch.sends.map (·.2) = Event.sentBatches s.history
  carries : ∀ ticket batch, (ticket, batch) ∈ s.dispatch.sends →
    Event.Carries s.history ticket batch
  owes : s.writer.Owes s.history s.dispatch.unsent

variable {s next : Stream} {action : Action} {events : List Event}

theorem Fresh.written (fresh : s.Fresh) : s.Written := by
  have empty : s.dispatch = {} := by simp [dispatch, fresh.history, Dispatch.ofHistory]
  refine ⟨?_, ?_, ?_⟩
  · simp [empty, fresh.history, Event.sentBatches]
  · simp [empty]
  · rw [fresh.writer, empty]
    rfl

theorem Step.dispatch (step : Step s action events next) :
    (next.record events).dispatch = events.foldl Dispatch.note s.dispatch := by
  rw [Stream.dispatch, step.record_history, Dispatch.ofHistory_append]
  rfl

/-- A step that neither registers nor sends. -/
theorem Written.frame (written : s.Written) (step : Step s action events next)
    (notes : events.foldl Dispatch.note s.dispatch = s.dispatch)
    (batches : Event.sentBatches events = [])
    (owes : next.writer.Owes (s.history ++ events) s.dispatch.unsent) :
    (next.record events).Written := by
  have same : (next.record events).dispatch = s.dispatch := step.dispatch.trans notes
  refine ⟨?_, ?_, ?_⟩
  · rw [same, step.record_history, Event.sentBatches_append, batches, List.append_nil]
    exact written.paired
  · rw [same, step.record_history]
    exact fun ticket batch isSent => (written.carries ticket batch isSent).append events
  · rw [same, step.record_history]
    exact owes

theorem Written.idle (written : s.Written) (step : Step s action events next)
    (idle : Event.Idle events)
    (owes : next.writer.Owes (s.history ++ events) s.dispatch.unsent) :
    (next.record events).Written :=
  written.frame step (Dispatch.foldl_note_of_idle idle) (Event.sentBatches_of_idle idle) owes

theorem Written.apart (written : s.Written) (step : Step s action events next)
    (notes : events.foldl Dispatch.note s.dispatch = s.dispatch)
    (batches : Event.sentBatches events = []) (writer : next.writer = s.writer) :
    (next.record events).Written :=
  written.frame step notes batches (writer ▸ written.owes.append events)

theorem Written.aside (written : s.Written) (step : Step s action events next)
    (idle : Event.Idle events) (writer : next.writer = s.writer) : (next.record events).Written :=
  written.idle step idle (writer ▸ written.owes.append events)

/-! ### Steps of account -/

theorem foldl_dispatch_displacement (table : InFlight) (id : Int64) (dispatch : Dispatch) :
    (displacement table id).foldl Dispatch.note dispatch = dispatch := by
  unfold displacement
  split <;> rfl

theorem sentBatches_displacement (table : InFlight) (id : Int64) :
    Event.sentBatches (displacement table id) = [] := by
  unfold displacement
  split <;> rfl

theorem foldl_dispatch_release (rows : InFlight) (dispatch : Dispatch) :
    (rows.flatMap release).foldl Dispatch.note dispatch = dispatch := by
  induction rows with
  | nil => rfl
  | cons row rows ih =>
    rw [List.flatMap_cons, List.foldl_append]
    exact ih

theorem sentBatches_release (rows : InFlight) : Event.sentBatches (rows.flatMap release) = [] :=
  filterMap_release rows fun _ => rfl

theorem Written.registers {env : Surroundings} {item : Item} {batch : Batch} {span span' : SendSpan}
    {block : List UInt8} {rest : List Event} (written : s.Written)
    (encoding : s.writer = .encoding item span)
    (works : Codec.guarded (s.codec.encode item.records).1 = .ok batch)
    (step : Step s (.move .encode env)
      (.registered batch.id item.ticket :: displacement s.inFlight batch.id ++ rest) next)
    (idle : Event.Idle rest) (sending : next.writer = .sending { batch with headers := block } span') :
    (next.record
      (.registered batch.id item.ticket :: displacement s.inFlight batch.id ++ rest)).Written := by
  have owed := written.owes
  rw [encoding] at owed
  obtain ⟨settled, isTaken⟩ := owed
  have after : (next.record (.registered batch.id item.ticket ::
      displacement s.inFlight batch.id ++ rest)).dispatch =
      { s.dispatch with unsent := [(batch.id, item.ticket)] } := by
    rw [step.dispatch, List.foldl_append, Dispatch.foldl_note_of_idle idle, List.foldl_cons,
      foldl_dispatch_displacement]
    simp [Dispatch.note, settled]
  have batches : Event.sentBatches (.registered batch.id item.ticket ::
      displacement s.inFlight batch.id ++ rest) = [] := by
    rw [Event.sentBatches_append, Event.sentBatches_of_idle idle, List.append_nil]
    exact sentBatches_displacement s.inFlight batch.id
  refine ⟨?_, ?_, ?_⟩
  · rw [after, step.record_history, Event.sentBatches_append, batches, List.append_nil]
    exact written.paired
  · rw [after, step.record_history]
    exact fun ticket batch isSent => (written.carries ticket batch isSent).append _
  · rw [after, step.record_history]
    change next.writer.Owes _ _
    have payloads := Codec.payloads_of_encode works
    rw [sending]
    refine ⟨item.ticket, rfl, ?_, item, ?_, rfl, payloads⟩
    · rw [Event.registrations_append]
      exact List.mem_append_right _ List.mem_cons_self
    · rw [Event.takenItems_append]
      exact List.mem_append_left _ isTaken

theorem Written.sends {env : Surroundings} {call : Nat} {batch : Batch} {span : SendSpan}
    {rest : List Event} (written : s.Written) (sending : s.writer = .sending batch span)
    (step : Step s (.move .send env) (.sent call batch :: rest) next) (idle : Event.Idle rest)
    (offering : next.writer = .offering) : (next.record (.sent call batch :: rest)).Written := by
  have owed := written.owes
  rw [sending] at owed
  obtain ⟨ticket, unsent, carries⟩ := owed
  have after : (next.record (.sent call batch :: rest)).dispatch =
      { unsent := [], sends := s.dispatch.sends ++ [(ticket, batch)] } := by
    rw [step.dispatch, List.foldl_cons, Dispatch.foldl_note_of_idle idle]
    simp [Dispatch.note, unsent]
  have batches : Event.sentBatches (.sent call batch :: rest) = [batch] := by
    have more := Event.sentBatches_of_idle idle
    unfold Event.sentBatches at more ⊢
    rw [List.filterMap_cons, more]
  refine ⟨?_, ?_, ?_⟩
  · rw [after, step.record_history, Event.sentBatches_append, batches, List.map_append,
      written.paired]
    rfl
  · rw [after, step.record_history]
    intro other row isSent
    rcases List.mem_append.mp isSent with earlier | now
    · exact (written.carries other row earlier).append _
    · obtain ⟨rfl, rfl⟩ := Prod.mk.inj (List.mem_singleton.mp now)
      exact carries.append _
  · rw [after]
    change next.writer.Owes _ _
    rw [offering]
    rfl

/-- Every step keeps the owners of the batches. -/
theorem Written.step (coherent : s.Coherent) (written : s.Written)
    (step : Step s action events next) : (next.record events).Written := by
  have made := step
  have owed := written.owes
  cases step with
  | started idle => exact written.aside made Event.idle_nil rfl
  | openingCanceled early canceled =>
    exact written.aside made (Event.idle_singleton (Event.isIdle_refusal .canceled)) rfl
  | @refused env status starting alive opening =>
    exact written.aside made (Event.idle_singleton (Event.isIdle_refusal status)) rfl
  | stalled starting alive opening => exact written.aside made Event.idle_nil rfl
  | opened starting alive opening =>
    rw [(coherent.early (.inr (.inl starting))).1] at owed
    exact written.idle made (Event.idle_singleton rfl) owed
  | offered offering =>
    rw [offering] at owed
    exact written.idle made (Event.idle_singleton rfl) owed
  | @taken env item queue waiting queued =>
    have idle := Event.idle_takeEvents s env.nextSpan item
    have batches : Event.sentBatches (s.takeEvents env.nextSpan item) = [] :=
      Event.sentBatches_of_idle idle
    have notes : (s.takeEvents env.nextSpan item).foldl Dispatch.note s.dispatch = s.dispatch :=
      Dispatch.foldl_note_of_idle idle
    rw [waiting] at owed
    refine written.frame made notes batches ⟨owed, ?_⟩
    rw [Event.takenItems_append]
    exact List.mem_append_right _ List.mem_cons_self
  | expired waiting limited isOver =>
    exact written.idle made (by simp [Event.Idle, Event.isIdle]) trivial
  | quit waiting canceled =>
    exact written.idle made (by simp [Event.Idle, Event.isIdle]) trivial
  | @notEncoded env item span failure encoding fails =>
    have idle := Event.idle_encodeLog failure
    have idle' := Event.idle_spanEnds s span (some (Error.encode failure).message)
    refine written.frame made ?_ ?_ trivial
    · rw [List.foldl_append, List.foldl_append, List.foldl_append,
        Dispatch.foldl_note_of_idle idle, Dispatch.foldl_note_of_idle idle']
      rfl
    · rw [Event.sentBatches_append, Event.sentBatches_append, Event.sentBatches_append,
        Event.sentBatches_of_idle idle, Event.sentBatches_of_idle idle']
      rfl
  | encoded encoding works =>
    exact written.registers encoding works made (Event.idle_measurement _ _) rfl
  | notSent sending called fails =>
    exact written.idle made ((Event.idle_spanEnds _ _ _).append (Event.idle_singleton rfl)) trivial
  | sent sending called alive accepts =>
    exact written.sends sending made (Event.idle_spanEnds _ _ _) rfl
  | sinkBroke sending called alive breaks => exact written.idle made Event.idle_nil trivial
  | readCanceled reading called empty canceled => exact written.aside made Event.idle_nil rfl
  | unrecognized reading called inbox absent => exact written.apart made rfl rfl rfl
  | unexpected reading called inbox found breaks => exact written.apart made rfl rfl rfl
  | settled reading called inbox found answers => exact written.apart made rfl rfl rfl
  | readEnded reading called inbox last =>
    exact written.aside made (Event.idle_lastMessage last) rfl
  | sourceBroke reading called inbox =>
    exact written.aside made (Event.idle_singleton rfl) rfl
  | joined joining isOver => exact written.aside made (Event.idle_endLogs _ _) rfl
  | swept sweeping =>
    exact written.apart made (foldl_dispatch_release _ _) (sentBatches_release _) rfl
  | finished finishing => exact written.aside made (Event.idle_singleton rfl) rfl
  | entered empty => exact written.aside made (Event.idle_singleton rfl) rfl
  | linedUp full => exact written.aside made Event.idle_nil rfl
  | left => exact written.aside made Event.idle_nil rfl
  | delivered called => exact written.aside made Event.idle_nil rfl
  | modeSet called => exact written.aside made Event.idle_nil rfl
  | parentCanceled => exact written.aside made Event.idle_nil rfl

end Stream

end TelemetryStreams
