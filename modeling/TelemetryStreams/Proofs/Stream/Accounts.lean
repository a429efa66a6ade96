import TelemetryStreams.Proofs.Stream.Ledger
import TelemetryStreams.Proofs.Stream.Phases

/-!
# The books of a stream

A stream does what the ledger of its history says: its table is that of the ledger, it has told each
caller the result of what became of its item and nobody else anything, and an item that the writer
took is with the writer, in the table, or accounted for (`Accounted`). Every step keeps this.
-/
namespace TelemetryStreams

/-- Whether an event is of no account: no item moves and nobody is told anything. -/
def Event.isIdle : Event → Bool
  | .taken _ | .registered .. | .answered .. | .sent .. | .received (.acknowledged _)
  | .logged (.releasing _) => false
  | _ => true

def Event.Idle (events : List Event) : Prop := ∀ event ∈ events, event.isIdle = true

namespace Event

variable {events more : List Event}

theorem Idle.append (first : Idle events) (second : Idle more) : Idle (events ++ more) :=
  fun event isEvent => (List.mem_append.mp isEvent).elim (first event) (second event)

theorem takenItems_of_idle (idle : Idle events) : takenItems events = [] := by
  refine List.filterMap_eq_nil_iff.mpr fun event isEvent => ?_
  have := idle event isEvent
  cases event <;> simp_all [isIdle]

theorem answers_of_idle (idle : Idle events) : answers events = [] := by
  refine List.filterMap_eq_nil_iff.mpr fun event isEvent => ?_
  have := idle event isEvent
  cases event <;> simp_all [isIdle]

theorem registrations_of_idle (idle : Idle events) : registrations events = [] := by
  refine List.filterMap_eq_nil_iff.mpr fun event isEvent => ?_
  have := idle event isEvent
  cases event <;> simp_all [isIdle]

theorem Idle.foldl_eq {σ : Type} {note : σ → Event → σ}
    (ignores : ∀ (state : σ) (event : Event), event.isIdle = true → note state event = state)
    (idle : Idle events) (state : σ) : events.foldl note state = state := by
  induction events with
  | nil => rfl
  | cons event events ih =>
    rw [List.foldl_cons, ignores state event (idle event List.mem_cons_self)]
    exact ih fun other isOther => idle other (List.mem_cons_of_mem _ isOther)

theorem foldl_note_of_idle (idle : Idle events) (ledger : Ledger) :
    events.foldl Ledger.note ledger = ledger := by
  refine idle.foldl_eq (fun ledger event isIdle => ?_) ledger
  unfold Ledger.note
  split <;> simp_all [Event.isIdle]

/-! ### What is of no account -/

theorem idle_nil : Idle [] := fun _ none => nomatch none

theorem idle_singleton {event : Event} (isIdle : event.isIdle = true) : Idle [event] :=
  fun _ isEvent => List.mem_singleton.mp isEvent ▸ isIdle

theorem idle_lastMessage {message : Incoming} {result : Except Error Unit}
    (last : Stream.lastResult message = some result) : Idle [.received message] := by
  cases message with
  | failed | closed => exact idle_singleton rfl
  | acknowledged | brokeDown => cases last

theorem idle_spanEnds (s : Stream) (span : SendSpan) (failure : Option String) :
    Idle (s.spanEnds span failure) := by
  unfold Stream.spanEnds Idle
  split <;> simp [isIdle]

theorem idle_encodeLog (failure : EncodeError) : Idle (Stream.encodeLog failure) := by
  cases failure <;> simp [Stream.encodeLog, Idle, isIdle]

theorem idle_measurement (s : Stream) (item : Item) : Idle (s.measurement item) := by
  unfold Stream.measurement Idle
  split <;> simp [isIdle]

theorem idle_takeEvents (s : Stream) (number : Nat) (item : Item) :
    Idle (s.takeEvents number item) := by
  unfold Stream.takeEvents
  refine Idle.append ?_ fun event isEvent => ?_
  · unfold Idle
    split <;> simp [isIdle]
  · obtain ⟨other, -, rfl⟩ := List.mem_map.mp isEvent
    rfl

theorem isIdle_refusal (status : Status) : (Event.logged (Stream.refusal status)).isIdle = true := by
  unfold Stream.refusal
  split <;> rfl

theorem isIdle_ofError (half : Half) (error : Error) :
    (Event.logged (.ofError half error)).isIdle = true := by
  unfold Log.ofError
  simp only
  split <;> split <;> rfl

theorem idle_endLogs (read written : Except Error Unit) : Idle (Stream.endLogs read written) := by
  have first : (Event.logged (Stream.readerEnd read).1).isIdle = true := by
    unfold Stream.readerEnd
    split
    case h_1 => rfl
    case h_2 status =>
      split
      · rfl
      · exact isIdle_ofError .reader (.status status)
    case h_3 error _ => exact isIdle_ofError .reader error
  unfold Stream.endLogs Idle
  cases written with
  | ok => simpa using first
  | error error => simpa using ⟨first, isIdle_ofError _ _⟩

end Event

/-- The item with which the writer is busy before its batch is registered. -/
def WriterPhase.item? : WriterPhase → Option Item
  | .encoding item _ => some item
  | _ => none

namespace Stream

def ledger (s : Stream) : Ledger := .ofHistory s.history

/-- The books of a stream agree with its ledger. -/
structure Accounted (s : Stream) : Prop where
  table : s.ledger.table = s.inFlight
  answers : Event.answers s.history = s.ledger.fates.map fun row => (row.1, row.2.result)
  taken : ((Event.takenItems s.history).map Item.ticket).Perm
    (s.writer.item?.toList.map Item.ticket ++ (s.inFlight.tickets ++ s.ledger.fates.map (·.1)))

variable {s next : Stream} {action : Action} {events : List Event}

theorem Fresh.accounted (fresh : s.Fresh) : s.Accounted := by
  have empty : s.ledger = {} := by simp [ledger, fresh.history, Ledger.ofHistory]
  refine ⟨?_, ?_, ?_⟩
  · rw [empty, fresh.inFlight]
  · simp [empty, fresh.history, Event.answers]
  · simp [empty, fresh.history, fresh.writer, fresh.inFlight, Event.takenItems, WriterPhase.item?]

/-- A step writes its events down and leaves what was written before. -/
theorem Step.history (step : Step s action events next) : next.history = s.history := by
  cases step <;> rfl

theorem Step.record_history (step : Step s action events next) :
    (next.record events).history = s.history ++ events := by
  rw [record, step.history]

theorem Step.ledger (step : Step s action events next) :
    (next.record events).ledger = events.foldl Ledger.note s.ledger := by
  rw [Stream.ledger, step.record_history, Ledger.ofHistory_append]
  rfl

/-- The books stay as they are if no item moves and nobody is told anything. -/
theorem Accounted.frame (accounted : s.Accounted) (step : Step s action events next)
    (notes : events.foldl Ledger.note s.ledger = s.ledger) (answers : Event.answers events = [])
    (taken : Event.takenItems events = []) (inFlight : next.inFlight = s.inFlight)
    (item : next.writer.item? = s.writer.item?) : (next.record events).Accounted := by
  have same : (next.record events).ledger = s.ledger := step.ledger.trans notes
  refine ⟨?_, ?_, ?_⟩
  · rw [same]
    exact accounted.table.trans inFlight.symm
  · rw [same, step.record_history, Event.answers_append, answers, List.append_nil]
    exact accounted.answers
  · rw [same, step.record_history, Event.takenItems_append, taken, List.append_nil]
    change List.Perm _ (next.writer.item?.toList.map _ ++ (next.inFlight.tickets ++ _))
    rw [item, inFlight]
    exact accounted.taken

theorem Accounted.idle (accounted : s.Accounted) (step : Step s action events next)
    (idle : Event.Idle events) (inFlight : next.inFlight = s.inFlight)
    (item : next.writer.item? = s.writer.item?) : (next.record events).Accounted :=
  accounted.frame step (Event.foldl_note_of_idle idle _) (Event.answers_of_idle idle)
    (Event.takenItems_of_idle idle) inFlight item

/-! ### Steps of account -/

theorem Accounted.takes {item : Item} {rest : List Event} (accounted : s.Accounted)
    (step : Step s action (.taken item :: rest) next) (idle : Event.Idle rest)
    (inFlight : next.inFlight = s.inFlight) (free : s.writer.item? = none)
    (busy : next.writer.item? = some item) : (next.record (.taken item :: rest)).Accounted := by
  have same : (next.record (.taken item :: rest)).ledger = s.ledger := by
    rw [step.ledger, List.foldl_cons]
    exact Event.foldl_note_of_idle idle _
  refine ⟨?_, ?_, ?_⟩
  · rw [same]
    exact accounted.table.trans inFlight.symm
  · rw [same, step.record_history, Event.answers_append]
    have quiet : Event.answers rest = [] := Event.answers_of_idle idle
    change Event.answers s.history ++ Event.answers rest = _
    rw [quiet, List.append_nil]
    exact accounted.answers
  · have items : Event.takenItems (.taken item :: rest) = [item] := by
      have more := Event.takenItems_of_idle idle
      unfold Event.takenItems at more ⊢
      rw [List.filterMap_cons, more]
    rw [same, step.record_history, Event.takenItems_append, items, List.map_append]
    change List.Perm _ (next.writer.item?.toList.map _ ++ (next.inFlight.tickets ++ _))
    have taken := accounted.taken
    rw [free] at taken
    rw [busy, inFlight]
    exact (taken.append_right [item.ticket]).trans List.perm_append_comm

theorem answers_displacement (table : InFlight) (id : Int64) :
    Event.answers (displacement table id) =
      (table.ticket? id).toList.map fun ticket => (ticket, Fate.displaced.result) := by
  unfold displacement
  split
  case h_1 other found => simp [found, Event.answers, Fate.result]
  case h_2 absent => simp [absent, Event.answers]

theorem foldl_note_displacement (table : InFlight) (id : Int64) (ledger : Ledger) :
    (displacement table id).foldl Ledger.note ledger = ledger := by
  unfold displacement
  split <;> rfl

theorem takenItems_displacement (table : InFlight) (id : Int64) :
    Event.takenItems (displacement table id) = [] := by
  unfold displacement
  split <;> rfl

theorem Accounted.registers {env : Surroundings} {item : Item} {id : Int64} {rest : List Event}
    (coherent : s.Coherent) (accounted : s.Accounted)
    (step : Step s (.move .encode env)
      (.registered id item.ticket :: displacement s.inFlight id ++ rest) next)
    (idle : Event.Idle rest) (inFlight : next.inFlight = s.inFlight.register id item.ticket)
    (busy : s.writer.item? = some item) (free : next.writer.item? = none) :
    (next.record (.registered id item.ticket :: displacement s.inFlight id ++ rest)).Accounted := by
  have after : (next.record (.registered id item.ticket :: displacement s.inFlight id ++
      rest)).ledger = s.ledger.note (.registered id item.ticket) := by
    rw [step.ledger, List.foldl_append, Event.foldl_note_of_idle idle, List.foldl_cons,
      foldl_note_displacement]
  have displaced : (s.ledger.note (.registered id item.ticket)).fates = s.ledger.fates ++
      (s.inFlight.ticket? id).toList.map fun ticket => (ticket, .displaced) := by
    rw [← accounted.table]
    rfl
  refine ⟨?_, ?_, ?_⟩
  · rw [after]
    change s.ledger.table.register id item.ticket = next.inFlight
    rw [inFlight, accounted.table]
  · have told : Event.answers (.registered id item.ticket :: displacement s.inFlight id ++ rest) =
        Event.answers (displacement s.inFlight id) := by
      rw [Event.answers_append, Event.answers_of_idle idle, List.append_nil]
      rfl
    rw [after, displaced, step.record_history, Event.answers_append, told, answers_displacement,
      accounted.answers, List.map_append, List.map_map]
    rfl
  · have items : Event.takenItems (.registered id item.ticket :: displacement s.inFlight id ++
        rest) = [] := by
      rw [Event.takenItems_append, Event.takenItems_of_idle idle, List.append_nil]
      exact takenItems_displacement s.inFlight id
    rw [after, displaced, step.record_history, Event.takenItems_append, items, List.append_nil]
    change List.Perm _ (next.writer.item?.toList.map _ ++ (next.inFlight.tickets ++ _))
    rw [free, inFlight, InFlight.tickets_register]
    simp only [Option.toList_none, List.map_nil, List.nil_append, List.map_append, List.map_map,
      Function.comp_def, List.map_id']
    -- The ticket goes from the writer into the table, and a displaced one from there to the fates.
    have taken := accounted.taken
    rw [busy] at taken
    have moved := (InFlight.tickets_perm id coherent.distinct).append_right
      (s.ledger.fates.map (·.1))
    refine taken.trans ((moved.append_left [item.ticket]).trans ?_)
    generalize (s.inFlight.ticket? id).toList = gone
    generalize (s.inFlight.erase id).tickets = kept
    generalize s.ledger.fates.map (·.1) = fates
    rw [List.perm_iff_count]
    intro ticket
    simp only [List.count_append]
    omega

theorem Accounted.refuses {env : Surroundings} {item : Item} {failure : EncodeError}
    {first last : List Event} (accounted : s.Accounted)
    (step : Step s (.move .encode env)
      (first ++ [.answered item.ticket (.error (.encode failure))] ++ last) next)
    (idle : Event.Idle first) (idle' : Event.Idle last) (inFlight : next.inFlight = s.inFlight)
    (busy : s.writer.item? = some item) (free : next.writer.item? = none) :
    (next.record (first ++ [.answered item.ticket (.error (.encode failure))] ++
      last)).Accounted := by
  have after : (next.record (first ++ [.answered item.ticket (.error (.encode failure))] ++
      last)).ledger = s.ledger.note (.answered item.ticket (.error (.encode failure))) := by
    rw [step.ledger, List.foldl_append, List.foldl_append, Event.foldl_note_of_idle idle,
      Event.foldl_note_of_idle idle']
    rfl
  refine ⟨?_, ?_, ?_⟩
  · rw [after]
    exact accounted.table.trans inFlight.symm
  · rw [after, step.record_history]
    simp only [Event.answers_append, Event.answers_of_idle idle, Event.answers_of_idle idle',
      accounted.answers, Ledger.note, List.map_append, List.nil_append, List.append_nil]
    rfl
  · rw [after, step.record_history]
    simp only [Event.takenItems_append, Event.takenItems_of_idle idle,
      Event.takenItems_of_idle idle', List.nil_append, List.append_nil, List.map_append]
    change List.Perm _ (next.writer.item?.toList.map _ ++ (next.inFlight.tickets ++
      (s.ledger.fates ++ [(item.ticket, Fate.refused failure)]).map _))
    have taken := accounted.taken
    rw [busy] at taken
    rw [free, inFlight, List.map_append]
    refine (List.Perm.trans (by simpa [Event.takenItems] using taken) ?_)
    have last : List.Perm ([item.ticket] ++ (s.inFlight.tickets ++ s.ledger.fates.map (·.1)))
        ((s.inFlight.tickets ++ s.ledger.fates.map (·.1)) ++ [item.ticket]) := List.perm_append_comm
    simpa using last

theorem Accounted.settles {env : Surroundings} {ack : Acknowledgment} {ticket : Nat}
    (coherent : s.Coherent) (accounted : s.Accounted)
    (step : Step s (.move .receive env)
      [.received (.acknowledged ack), .answered ticket ack.verdict.1] next)
    (found : s.inFlight.ticket? ack.id = some ticket)
    (inFlight : next.inFlight = s.inFlight.erase ack.id)
    (item : next.writer.item? = s.writer.item?) :
    (next.record [.received (.acknowledged ack), .answered ticket ack.verdict.1]).Accounted := by
  have unheard (ledger : Ledger) : ledger.note (.answered ticket ack.verdict.1) = ledger := by
    unfold Ledger.note
    split
    case h_4 failure same =>
      obtain ⟨status, same⟩ := Acknowledgment.exists_status_of_verdict (Event.answered.inj same).2
      cases same
    case h_5 => rfl
    all_goals contradiction
  have after : (next.record [.received (.acknowledged ack),
      .answered ticket ack.verdict.1]).ledger = s.ledger.note (.received (.acknowledged ack)) := by
    rw [step.ledger]
    simp only [List.foldl_cons, List.foldl_nil, unheard]
  have settled : (s.ledger.note (.received (.acknowledged ack))).fates =
      s.ledger.fates ++ [(ticket, .settled ack)] := by
    simp [Ledger.note, Ledger.leave, accounted.table, found]
  refine ⟨?_, ?_, ?_⟩
  · rw [after]
    change s.ledger.table.erase ack.id = next.inFlight
    rw [inFlight, accounted.table]
  · rw [after, settled, step.record_history, Event.answers_append, accounted.answers,
      List.map_append]
    rfl
  · rw [after, settled, step.record_history, Event.takenItems_append]
    change List.Perm _ (next.writer.item?.toList.map _ ++ (next.inFlight.tickets ++ _))
    rw [item, inFlight]
    have taken := accounted.taken
    have moved := InFlight.tickets_perm ack.id coherent.distinct
    rw [found] at moved
    simp only [List.perm_iff_count, List.count_append, Option.toList_some] at moved taken ⊢
    intro other
    have taken := taken other
    have moved := moved other
    simp only [Event.takenItems, List.map_append, List.count_append, List.filterMap_cons,
      List.filterMap_nil, List.map_nil, List.count_nil, List.map_cons] at taken ⊢
    omega

/-- An acknowledgment of a batch that nobody waits for changes nothing. -/
theorem Accounted.ignores {env : Surroundings} {ack : Acknowledgment} (accounted : s.Accounted)
    (step : Step s (.move .receive env) [.received (.acknowledged ack)] next)
    (absent : s.inFlight.ticket? ack.id = none) (inFlight : next.inFlight = s.inFlight)
    (item : next.writer.item? = s.writer.item?) :
    (next.record [.received (.acknowledged ack)]).Accounted := by
  have same : (next.record [.received (.acknowledged ack)]).ledger = s.ledger := by
    rw [← accounted.table] at absent
    rw [step.ledger]
    change s.ledger.leave ack.id (.settled ack) = s.ledger
    simp [Ledger.leave, absent, InFlight.erase_eq_self absent]
  refine ⟨?_, ?_, ?_⟩
  · rw [same]
    exact accounted.table.trans inFlight.symm
  · rw [same, step.record_history, Event.answers_append, accounted.answers]
    exact List.append_nil _
  · rw [same, step.record_history, Event.takenItems_append, List.map_append]
    change List.Perm (_ ++ []) (next.writer.item?.toList.map _ ++ (next.inFlight.tickets ++ _))
    rw [item, inFlight, List.append_nil]
    exact accounted.taken

theorem foldl_note_release (rows : InFlight) (ledger : Ledger) (distinct : ledger.table.IsTable)
    (all : rows.Perm ledger.table) :
    (rows.flatMap release).foldl Ledger.note ledger =
      { table := [], fates := ledger.fates ++ rows.map fun row => (row.2, Fate.released) } := by
  induction rows generalizing ledger with
  | nil =>
    obtain ⟨table, fates⟩ := ledger
    have empty : table = [] := all.nil_eq.symm
    simp [empty]
  | cons row rows ih =>
    obtain ⟨id, ticket⟩ := row
    have found : ledger.table.ticket? id = some ticket :=
      (InFlight.ticket?_eq_some_iff distinct).mpr (all.subset List.mem_cons_self)
    have others : rows.Perm (ledger.table.erase id) :=
      (List.perm_cons _).mp (all.trans (InFlight.perm_erase distinct found))
    rw [List.flatMap_cons, List.foldl_append]
    change (rows.flatMap release).foldl Ledger.note (ledger.leave id .released) = _
    rw [ih (ledger.leave id .released) distinct.erase others]
    simp [Ledger.leave, found]

theorem answers_release (rows : InFlight) :
    Event.answers (rows.flatMap release) = rows.map fun row => (row.2, Fate.released.result) := by
  induction rows with
  | nil => rfl
  | cons row rows ih =>
    rw [List.flatMap_cons, Event.answers_append, ih]
    rfl

/-- What sees no single release sees none of them. -/
theorem filterMap_release {β : Type} {view : Event → Option β} (rows : InFlight)
    (unseen : ∀ row, (release row).filterMap view = []) :
    (rows.flatMap release).filterMap view = [] := by
  rw [List.filterMap_flatMap, List.flatMap_eq_nil_iff]
  exact fun row _ => unseen row

theorem takenItems_release (rows : InFlight) : Event.takenItems (rows.flatMap release) = [] :=
  filterMap_release rows fun _ => rfl

theorem Accounted.sweeps {env : Surroundings} (coherent : s.Coherent) (accounted : s.Accounted)
    (step : Step s (.move .sweep env) (s.inFlight.byId.flatMap release) next)
    (inFlight : next.inFlight = []) (item : next.writer.item? = s.writer.item?) :
    (next.record (s.inFlight.byId.flatMap release)).Accounted := by
  have perm := s.inFlight.byId_perm
  have after : (next.record (s.inFlight.byId.flatMap release)).ledger =
      { table := [], fates := s.ledger.fates ++
        s.inFlight.byId.map fun row => (row.2, Fate.released) } := by
    rw [step.ledger]
    refine foldl_note_release _ _ ?_ ?_
    · rw [accounted.table]
      exact coherent.distinct
    · rw [accounted.table]
      exact perm
  refine ⟨?_, ?_, ?_⟩
  · rw [after]
    exact inFlight.symm
  · rw [after, step.record_history, Event.answers_append, answers_release, accounted.answers,
      List.map_append, List.map_map]
    rfl
  · rw [after, step.record_history, Event.takenItems_append, takenItems_release, List.append_nil]
    change List.Perm _ (next.writer.item?.toList.map _ ++ (next.inFlight.tickets ++ _))
    rw [item, inFlight, List.map_append, List.map_map]
    -- The tickets go from the table to the fates, in another order.
    have tickets : (s.inFlight.byId.map (·.2)).Perm s.inFlight.tickets := perm.map _
    refine accounted.taken.trans (List.Perm.append_left _ ?_)
    exact List.perm_append_comm.trans (tickets.symm.append_left _)

/-- Every step keeps the books. -/
theorem Accounted.step (coherent : s.Coherent) (accounted : s.Accounted)
    (step : Step s action events next) : (next.record events).Accounted := by
  have made := step
  cases step with
  | started idle => exact accounted.idle made Event.idle_nil rfl rfl
  | openingCanceled early canceled =>
    exact accounted.idle made (Event.idle_singleton (Event.isIdle_refusal .canceled)) rfl rfl
  | @refused env status starting alive opening =>
    exact accounted.idle made (Event.idle_singleton (Event.isIdle_refusal status)) rfl rfl
  | stalled starting alive opening => exact accounted.idle made Event.idle_nil rfl rfl
  | opened starting alive opening =>
    have item : s.writer.item? = none := by
      rw [(coherent.early (.inr (.inl starting))).1]
      rfl
    exact accounted.idle made (Event.idle_singleton rfl) rfl item.symm
  | offered offering =>
    exact accounted.idle made (Event.idle_singleton rfl) rfl (by rw [offering]; rfl)
  | taken waiting queued =>
    exact accounted.takes made (Event.idle_takeEvents _ _ _) rfl (by rw [waiting]; rfl) rfl
  | expired waiting limited isOver =>
    exact accounted.idle made (by simp [Event.Idle, Event.isIdle]) rfl (by rw [waiting]; rfl)
  | quit waiting canceled =>
    exact accounted.idle made (by simp [Event.Idle, Event.isIdle]) rfl (by rw [waiting]; rfl)
  | @notEncoded env item span failure encoding fails =>
    rw [List.append_assoc] at made ⊢
    exact accounted.refuses made (Event.idle_encodeLog failure)
      ((Event.idle_spanEnds _ _ _).append (Event.idle_singleton rfl)) rfl (by rw [encoding]; rfl) rfl
  | encoded encoding works =>
    exact accounted.registers coherent made (Event.idle_measurement _ _) rfl
      (by rw [encoding]; rfl) rfl
  | notSent sending called fails =>
    exact accounted.idle made ((Event.idle_spanEnds _ _ _).append (Event.idle_singleton rfl)) rfl
      (by rw [sending]; rfl)
  | @sent env batch span call sending called alive accepts =>
    have idle := Event.idle_spanEnds s span none
    have told : Event.answers (s.spanEnds span none) = [] := Event.answers_of_idle idle
    have taken : Event.takenItems (s.spanEnds span none) = [] := Event.takenItems_of_idle idle
    exact accounted.frame made (Event.foldl_note_of_idle idle _) told taken rfl
      (by rw [sending]; rfl)
  | sinkBroke sending called alive breaks =>
    exact accounted.idle made Event.idle_nil rfl (by rw [sending]; rfl)
  | readCanceled reading called empty canceled => exact accounted.idle made Event.idle_nil rfl rfl
  | unrecognized reading called inbox absent => exact accounted.ignores made absent rfl rfl
  | unexpected reading called inbox found breaks =>
    exact accounted.settles coherent made found rfl rfl
  | settled reading called inbox found answers =>
    exact accounted.settles coherent made found rfl rfl
  | readEnded reading called inbox last =>
    exact accounted.idle made (Event.idle_lastMessage last) rfl rfl
  | sourceBroke reading called inbox =>
    exact accounted.idle made (Event.idle_singleton rfl) rfl rfl
  | joined joining isOver => exact accounted.idle made (Event.idle_endLogs _ _) rfl rfl
  | swept sweeping => exact accounted.sweeps coherent made rfl rfl
  | finished finishing =>
    exact accounted.idle made (Event.idle_singleton rfl) rfl rfl
  | entered empty => exact accounted.idle made (Event.idle_singleton rfl) rfl rfl
  | linedUp full => exact accounted.idle made Event.idle_nil rfl rfl
  | left => exact accounted.idle made Event.idle_nil rfl rfl
  | delivered called => exact accounted.idle made Event.idle_nil rfl rfl
  | modeSet called => exact accounted.idle made Event.idle_nil rfl rfl
  | parentCanceled => exact accounted.idle made Event.idle_nil rfl rfl

end Stream

end TelemetryStreams
