import TelemetryStreams.Proofs.Pool.Callers

/-!
# The tickets of a pool

A caller submits to at most one stream, and once: an item belongs to a caller that has come to its
stream, with the records of that caller, and no ticket stands twice in the lines of all streams
(`Placed`). So there is at most one answer to a ticket, and a caller has heard it exactly if it was
given (`Told`).
-/
namespace TelemetryStreams

def CallPhase.WaitsWith (stream : Nat) : CallPhase → Prop
  | .queued other _ | .awaiting other => other = stream
  | _ => False

namespace Pool

variable {p q : Pool} {caller stream : Nat} {c d : Caller} {s t : Stream}

def answersOf (p : Pool) (stream : Nat) : List (Nat × Except Error Unit) :=
  (p.streams[stream]?.map fun s => Event.answers s.history).getD []

theorem answersOf_eq (isStream : p.streams[stream]? = some s) :
    p.answersOf stream = Event.answers s.history := by
  rw [answersOf, isStream]
  rfl

/-- What a change does to the lines. -/
inductive Lines (p q : Pool) : Prop
  | same (same : ∀ stream, q.itemsOf stream = p.itemsOf stream)
  /-- A caller joins a line. -/
  | joined {caller : Nat} {c : Caller} {stream : Nat} {bound : Bool} {metadata : Option Metadata}
      (isCaller : p.callers[caller]? = some c)
      (submitting : c.phase = .submitting stream bound metadata)
      (line : q.itemsOf stream = p.itemsOf stream ++ [p.itemOf caller c metadata])
      (others : ∀ other, other ≠ stream → q.itemsOf other = p.itemsOf other)
      (came : ∃ d, q.callers[caller]? = some d ∧ d.phase.WaitsWith stream)
  /-- A caller leaves a line, unless its item has gone too far. -/
  | left {caller : Nat} (fewer : ∀ stream, (q.itemsOf stream).Sublist (p.itemsOf stream))
      (others : ∀ stream, ∀ item ∈ p.itemsOf stream, item.ticket ≠ caller → item ∈ q.itemsOf stream)
      (gone : ∃ d result, q.callers[caller]? = some d ∧ d.phase = .done result)

theorem Change.lines (change : Change p q) (healthy : Healthy p) : Lines p q := by
  cases change with
  | moved isStream unsubmitted stayed step =>
    refine .same fun stream => ?_
    rw [itemsOf_set (afterMove_streams _ _ _ _) rfl isStream, step.items_eq unsubmitted stayed]
    split
    case isTrue here => subst here; rw [itemsOf_eq isStream]
    case isFalse => rfl
  | grown =>
    refine .same fun stream => ?_
    unfold itemsOf
    by_cases inside : stream < p.streams.length
    · rw [List.getElem?_append_left inside]
    · have none : p.streams[stream]? = none := List.getElem?_eq_none_iff.mpr (by omega)
      have new : p.startedStream.items = [] := p.newStream_fresh.items
      rw [List.getElem?_append_right (by omega), none]
      cases stream - p.streams.length with
      | zero => exact new
      | succ more => rfl
  | arrived => exact .same fun _ => rfl
  | callerCanceled | parted => exact .same fun _ => rfl
  | advanced => exact .same fun _ => rfl
  | phased => exact .same fun _ => rfl
  | took => exact .same fun _ => rfl
  | @handed caller c stream s bound metadata isCaller submitting isStream =>
    have lined := (healthy stream s isStream).lined
    refine .joined isCaller submitting ?_ (fun other differ => ?_) ?_
    · rw [itemsOf_set (p := p) rfl rfl isStream, if_pos rfl,
        (Stream.submit_cases _).items_submit lined, itemsOf_eq isStream]
    · rw [itemsOf_set (p := p) rfl rfl isStream, if_neg (Ne.symm differ)]
    · refine ⟨_, setPhase_self rfl isCaller, ?_⟩
      simp only
      split <;> rfl
  | @withdrew caller c stream s bound error isCaller queued isStream =>
    have step : Stream.Step s (.leave caller) [] (s.leave caller) := .left
    have left := step.items_leave
    refine @Lines.left _ _ caller (fun other => ?_) (fun other item isItem differ => ?_) ?_
    · rw [itemsOf_set (p := p) rfl rfl isStream]
      split
      case isTrue here =>
        subst here
        rw [left, itemsOf_eq isStream]
        exact (List.Sublist.refl _).append List.filter_sublist
      case isFalse => exact List.Sublist.refl _
    · rw [itemsOf_set (p := p) rfl rfl isStream]
      split
      case isTrue here =>
        subst here
        rw [itemsOf_eq isStream, Stream.items] at isItem
        rw [left]
        rcases List.mem_append.mp isItem with isItem | isItem
        · exact List.mem_append_left _ isItem
        · exact List.mem_append_right _ (List.mem_filter.mpr ⟨isItem, by simpa using differ⟩)
      case isFalse => exact isItem
    · exact ⟨_, .error error, setPhase_self rfl isCaller, rfl⟩
  | glanced => exact .same fun _ => rfl
  | downgraded => exact .same fun _ => rfl

/-! ### Whose items they are -/

/-- Every item belongs to a caller that has come to its stream, and no ticket stands twice. -/
structure Placed (p : Pool) : Prop where
  owned : ∀ stream, ∀ item ∈ p.itemsOf stream, ∃ c, p.callers[item.ticket]? = some c ∧
    c.records = item.records ∧ c.phase.IsWith stream
  once : ∀ stream, (p.ticketsOf stream).Nodup
  lone : ∀ stream other ticket, ticket ∈ p.ticketsOf stream → ticket ∈ p.ticketsOf other →
    stream = other
  present : ∀ caller c stream, p.callers[caller]? = some c → c.phase.WaitsWith stream →
    caller ∈ p.ticketsOf stream

theorem CallPhase.WaitsWith.isWith {phase : CallPhase} (waits : phase.WaitsWith stream) :
    phase.IsWith stream := by
  cases phase <;> simp_all [CallPhase.WaitsWith, CallPhase.IsWith]

/-- A caller waits with a stream because it did so before, or has just joined its line. -/
theorem Goes.waitsWith {phase : CallPhase} (goes : Goes p q caller c phase)
    (waits : phase.WaitsWith stream) :
    c.phase.WaitsWith stream ∨ caller ∈ q.ticketsOf stream := by
  cases goes with
  | stays => exact .inl waits
  | moves moves =>
    cases moves with
    | accepted queued =>
      rw [queued]
      exact .inl waits
    | _ => cases waits
  | takes => cases waits
  | @hands other s bound metadata submitting isStream alive untold joined =>
    have same : other = stream := by
      split at waits
      · exact waits
      · exact waits
    exact .inr (same ▸ joined)
  | withdraws => cases waits

theorem Origin.placed (origin : Origin p) : Placed p := by
  have none : ∀ stream, p.itemsOf stream = [] := by
    intro stream
    cases origin with
    | single setup script =>
      cases stream with
      | zero => exact (newStream_fresh _).items
      | succ more => rfl
    | ofControllers setup script count => rfl
  have nobody : p.callers = [] := by
    cases origin with
    | single => rfl
    | ofControllers => rfl
  refine ⟨?_, ?_, ?_, ?_⟩
  · intro stream item isItem
    rw [none] at isItem
    cases isItem
  · intro stream
    rw [ticketsOf, none]
    exact List.nodup_nil
  · intro stream other ticket isTicket
    rw [ticketsOf, none] at isTicket
    cases isTicket
  · intro caller c stream isCaller
    rw [nobody] at isCaller
    cases isCaller

theorem Placed.absent (placed : Placed p) (isCaller : p.callers[caller]? = some c)
    (apart : ¬ c.phase.IsWith stream) : caller ∉ p.ticketsOf stream := by
  intro isTicket
  obtain ⟨item, isItem, rfl⟩ := List.mem_map.mp isTicket
  obtain ⟨d, isOwner, -, isWith⟩ := placed.owned stream item isItem
  obtain rfl := Option.some.inj (isCaller.symm.trans isOwner)
  exact apart isWith

/-- A caller that waits with a stream after a change stands in its line, if those who stood there
before and still wait do so. -/
theorem Placed.waits (placed : Placed p) (change : Change p q)
    (still : ∀ caller d stream, q.callers[caller]? = some d → d.phase.WaitsWith stream →
      caller ∈ p.ticketsOf stream → caller ∈ q.ticketsOf stream)
    (isCaller : q.callers[caller]? = some d) (waits : d.phase.WaitsWith stream) :
    caller ∈ q.ticketsOf stream := by
  obtain ⟨-, arriving, -⟩ | ⟨c, before, -, goes⟩ := change.caller_cases isCaller
  · rw [arriving] at waits
    cases waits
  · obtain waited | joined := goes.waitsWith waits
    · exact still caller d stream isCaller waits (placed.present caller c stream before waited)
    · exact joined

theorem Placed.shorten (placed : Placed p) (change : Change p q)
    (fewer : ∀ stream, (q.itemsOf stream).Sublist (p.itemsOf stream))
    (still : ∀ caller d stream, q.callers[caller]? = some d → d.phase.WaitsWith stream →
      caller ∈ p.ticketsOf stream → caller ∈ q.ticketsOf stream) : Placed q := by
  have subset : ∀ stream ticket, ticket ∈ q.ticketsOf stream → ticket ∈ p.ticketsOf stream :=
    fun stream ticket isTicket => ((fewer stream).map _).subset isTicket
  refine ⟨?_, ?_, ?_, ?_⟩
  · intro stream item isItem
    obtain ⟨c, isCaller, records, isWith⟩ := placed.owned stream item ((fewer stream).subset isItem)
    obtain ⟨d, isCaller', kept, goes⟩ := change.goes isCaller
    exact ⟨d, isCaller', kept.records.trans records, goes.isWith isWith⟩
  · exact fun stream => (placed.once stream).sublist ((fewer stream).map _)
  · intro stream other ticket isTicket isOther
    exact placed.lone stream other ticket (subset _ _ isTicket) (subset _ _ isOther)
  · intro caller d stream isCaller waits
    exact placed.waits change still isCaller waits

theorem Placed.extend {item : Item} (placed : Placed p) (change : Change p q)
    (line : q.itemsOf stream = p.itemsOf stream ++ [item])
    (others : ∀ other, other ≠ stream → q.itemsOf other = p.itemsOf other)
    (new : ∀ other, item.ticket ∉ p.ticketsOf other)
    (owned : ∃ d, q.callers[item.ticket]? = some d ∧ d.records = item.records ∧
      d.phase.IsWith stream) : Placed q := by
  have tickets : q.ticketsOf stream = p.ticketsOf stream ++ [item.ticket] := by
    rw [ticketsOf, line, List.map_append]
    rfl
  have elsewhere : ∀ other, other ≠ stream → q.ticketsOf other = p.ticketsOf other := by
    intro other differ
    rw [ticketsOf, others other differ]
    rfl
  have mem_tickets : ∀ other ticket, ticket ∈ q.ticketsOf other →
      ticket ∈ p.ticketsOf other ∨ other = stream ∧ ticket = item.ticket := by
    intro other ticket isTicket
    by_cases same : other = stream
    · rw [same, tickets] at isTicket
      rcases List.mem_append.mp isTicket with earlier | now
      · exact .inl (same ▸ earlier)
      · exact .inr ⟨same, List.mem_singleton.mp now⟩
    · rw [elsewhere other same] at isTicket
      exact .inl isTicket
  refine ⟨?_, ?_, ?_, ?_⟩
  · intro other row isRow
    have earlier : row ∈ p.itemsOf other → ∃ d, q.callers[row.ticket]? = some d ∧
        d.records = row.records ∧ d.phase.IsWith other := by
      intro isItem
      obtain ⟨c, isCaller, records, isWith⟩ := placed.owned other row isItem
      obtain ⟨d, isCaller', kept, goes⟩ := change.goes isCaller
      exact ⟨d, isCaller', kept.records.trans records, goes.isWith isWith⟩
    by_cases same : other = stream
    · rw [same, line] at isRow
      rcases List.mem_append.mp isRow with isRow | isRow
      · exact earlier (same ▸ isRow)
      · rw [List.mem_singleton.mp isRow, same]
        exact owned
    · exact earlier (others other same ▸ isRow)
  · intro other
    by_cases same : other = stream
    · rw [same, tickets, List.nodup_append]
      refine ⟨placed.once stream, List.nodup_singleton _, fun ticket isTicket last isLast => ?_⟩
      rw [List.mem_singleton.mp isLast]
      exact fun same => new stream (same ▸ isTicket)
    · rw [elsewhere other same]
      exact placed.once other
  · intro first second ticket isFirst isSecond
    obtain isFirst | ⟨rfl, rfl⟩ := mem_tickets first ticket isFirst
    · obtain isSecond | ⟨rfl, rfl⟩ := mem_tickets second ticket isSecond
      · exact placed.lone first second ticket isFirst isSecond
      · exact absurd isFirst (new first)
    · obtain isSecond | ⟨rfl, -⟩ := mem_tickets second item.ticket isSecond
      · exact absurd isSecond (new second)
      · rfl
  · intro caller d other isCaller waits
    refine placed.waits change (fun caller d other isCaller waits isTicket => ?_) isCaller waits
    by_cases same : other = stream
    · rw [same, tickets]
      exact List.mem_append_left _ (same ▸ isTicket)
    · rw [elsewhere other same]
      exact isTicket

/-- Every change keeps the items with their callers. -/
theorem Change.placed (change : Change p q) (healthy : Healthy p) (placed : Placed p) :
    Placed q := by
  cases change.lines healthy with
  | same same =>
    refine placed.shorten change (fun stream => ?_) fun caller d stream _ _ isTicket => ?_
    · rw [same]
    · rw [ticketsOf, same]
      exact isTicket
  | @joined caller c stream bound metadata isCaller submitting line others came =>
    obtain ⟨d, isCaller', waits⟩ := came
    obtain ⟨d', isCaller'', kept, -⟩ := change.goes isCaller
    obtain rfl := Option.some.inj (isCaller'.symm.trans isCaller'')
    have new : ∀ other, caller ∉ p.ticketsOf other := fun other =>
      placed.absent isCaller (by rw [submitting]; exact id)
    exact placed.extend change line others new
      ⟨d, isCaller', kept.records, CallPhase.WaitsWith.isWith waits⟩
  | @left gone fewer others leaves =>
    obtain ⟨e, result, isGone, done⟩ := leaves
    refine placed.shorten change fewer fun caller d stream isCaller waits isTicket => ?_
    obtain ⟨item, isItem, rfl⟩ := List.mem_map.mp isTicket
    refine List.mem_map.mpr ⟨item, others stream item isItem fun same => ?_, rfl⟩
    obtain rfl := Option.some.inj ((same ▸ isCaller).symm.trans isGone)
    rw [done] at waits
    exact waits

/-- A line grows by the item of the caller that submits only. -/
theorem Change.mem_itemsOf (change : Change p q) (healthy : Healthy p) {item : Item}
    (isItem : item ∈ q.itemsOf stream) :
    item ∈ p.itemsOf stream ∨ ∃ caller c bound metadata, p.callers[caller]? = some c ∧
      c.phase = .submitting stream bound metadata ∧ item = p.itemOf caller c metadata ∧
      ∃ d, q.callers[caller]? = some d ∧ d.phase.WaitsWith stream := by
  cases change.lines healthy with
  | same same => exact .inl (same stream ▸ isItem)
  | @joined caller c other bound metadata isCaller submitting line others came =>
    by_cases here : stream = other
    · subst here
      rw [line] at isItem
      obtain earlier | now := List.mem_append.mp isItem
      · exact .inl earlier
      · exact .inr ⟨caller, c, bound, metadata, isCaller, submitting, List.mem_singleton.mp now, came⟩
    · exact .inl (others stream here ▸ isItem)
  | left fewer => exact .inl ((fewer stream).subset isItem)

theorem Change.mem_ticketsOf (change : Change p q) (healthy : Healthy p)
    (isTicket : caller ∈ q.ticketsOf stream) :
    caller ∈ p.ticketsOf stream ∨ ∃ c bound metadata, p.callers[caller]? = some c ∧
      c.phase = .submitting stream bound metadata ∧
      ∃ d, q.callers[caller]? = some d ∧ d.phase.WaitsWith stream := by
  obtain ⟨item, isItem, rfl⟩ := List.mem_map.mp isTicket
  obtain earlier | ⟨caller, c, bound, metadata, isCaller, submitting, rfl, came⟩ :=
    change.mem_itemsOf healthy isItem
  · exact .inl (List.mem_map.mpr ⟨item, earlier, rfl⟩)
  · exact .inr ⟨c, bound, metadata, isCaller, submitting, came⟩

/-- A caller that does not wait with a stream after a change stood in its line before, if it stands
there. -/
theorem Change.mem_of_idle (change : Change p q) (healthy : Healthy p)
    (isCaller : q.callers[caller]? = some d) (idle : ¬ d.phase.WaitsWith stream)
    (isTicket : caller ∈ q.ticketsOf stream) : caller ∈ p.ticketsOf stream := by
  obtain earlier | ⟨-, -, -, -, -, e, isCaller', waits⟩ := change.mem_ticketsOf healthy isTicket
  · exact earlier
  · obtain rfl := Option.some.inj (isCaller.symm.trans isCaller')
    exact absurd waits idle

theorem Trails.placed (trails : Trails p q) (placed : Placed p) : Placed q := by
  have tickets : ∀ stream, q.ticketsOf stream = p.ticketsOf stream := by
    intro stream
    rw [ticketsOf, trails.itemsOf_eq]
    rfl
  refine ⟨?_, ?_, ?_, ?_⟩
  · intro stream item isItem
    rw [trails.callers]
    exact placed.owned stream item (trails.itemsOf_eq stream ▸ isItem)
  · intro stream
    rw [tickets]
    exact placed.once stream
  · intro stream other ticket
    rw [tickets, tickets]
    exact placed.lone stream other ticket
  · intro caller c stream
    rw [trails.callers, tickets]
    exact placed.present caller c stream

/-! ### What callers have been told -/

/-- A caller has heard exactly what it was told. -/
def Told (p : Pool) : Prop :=
  ∀ (caller : Nat) (c : Caller) (result : Except Error Unit), p.callers[caller]? = some c →
    (c.reply = some result ↔ ∃ stream, (caller, result) ∈ p.answersOf stream)

theorem Healthy.mem_ticketsOf (healthy : Healthy p) {result : Except Error Unit}
    (isAnswer : (caller, result) ∈ p.answersOf stream) : caller ∈ p.ticketsOf stream := by
  cases isStream : p.streams[stream]? with
  | none => simp [answersOf, isStream] at isAnswer
  | some s =>
    rw [answersOf_eq isStream] at isAnswer
    rw [ticketsOf_eq isStream]
    exact (healthy stream s isStream).mem_tickets_of_answer isAnswer

theorem Placed.answers_nodup (placed : Placed p) (healthy : Healthy p) (stream : Nat) :
    ((p.answersOf stream).map (·.1)).Nodup := by
  cases isStream : p.streams[stream]? with
  | none => simp [answersOf, isStream]
  | some s =>
    have once := placed.once stream
    rw [ticketsOf_eq isStream] at once
    rw [answersOf_eq isStream]
    exact (healthy stream s isStream).answers_nodup once

theorem answersOf_set {other : Nat} (streams : q.streams = p.streams.set other t)
    (isStream : p.streams[other]? = some s) (stream : Nat) :
    q.answersOf stream = if other = stream then Event.answers t.history else p.answersOf stream := by
  unfold answersOf
  rw [streams]
  split
  case isTrue here => subst here; rw [getElem?_set_self isStream]; rfl
  case isFalse elsewhere => rw [List.getElem?_set_ne elsewhere]

theorem answerTo_eq {events : List Event} {result : Except Error Unit}
    (once : ((Event.answers events).map (·.1)).Nodup)
    (isAnswer : (caller, result) ∈ Event.answers events) :
    Event.answerTo caller events = some result := by
  unfold Event.answerTo
  rw [← List.head?_filter, Stream.filter_eq_singleton once isAnswer]
  rfl

theorem mem_of_answerTo {events : List Event} {result : Except Error Unit}
    (first : Event.answerTo caller events = some result) :
    (caller, result) ∈ Event.answers events := by
  obtain ⟨row, found, rfl⟩ := Option.map_eq_some_iff.mp first
  have same : row.1 = caller := by simpa using List.find?_some found
  exact same ▸ List.mem_of_find?_eq_some found

theorem answersOf_congr (same : q.streams = p.streams) (stream : Nat) :
    q.answersOf stream = p.answersOf stream := by
  unfold answersOf
  rw [same]

theorem answersOf_silent {action : Stream.Action} {events : List Event} {other : Nat}
    (streams : q.streams = p.streams.set other (t.record events))
    (isStream : p.streams[other]? = some s) (step : Stream.Step s action events t)
    (silent : Event.answers events = []) (stream : Nat) :
    q.answersOf stream = p.answersOf stream := by
  rw [answersOf_set streams isStream, step.record_history, Event.answers_append, silent,
    List.append_nil]
  split
  case isTrue here => rw [← answersOf_eq isStream, here]
  case isFalse => rfl

theorem Told.frame (told : Told p) (healthy : Healthy p) (placed : Placed p) (change : Change p q)
    (answers : ∀ stream, q.answersOf stream = p.answersOf stream)
    (reply : ∀ (caller : Nat) (c d : Caller), p.callers[caller]? = some c →
      q.callers[caller]? = some d → d.reply = c.reply) : Told q := by
  intro caller d result isCaller
  simp only [answers]
  cases before : p.callers[caller]? with
  | none =>
    rw [(change.came isCaller before).2]
    refine ⟨nofun, fun ⟨stream, isAnswer⟩ => ?_⟩
    obtain ⟨item, isItem, rfl⟩ := List.mem_map.mp (healthy.mem_ticketsOf isAnswer)
    obtain ⟨c, isOwner, -⟩ := placed.owned stream item isItem
    exact absurd (before.symm.trans isOwner) nofun
  | some c =>
    rw [reply caller c d before isCaller]
    exact told caller c result before

theorem reply_setPhase {r : Pool} {other : Nat} {phase : CallPhase} (callers : r.callers = p.callers)
    (isCaller : p.callers[caller]? = some c)
    (isCaller' : (r.setPhase other phase).callers[caller]? = some d) : d.reply = c.reply := by
  rw [setPhase_callers, callers, isCaller] at isCaller'
  split at isCaller'
  · cases isCaller'; rfl
  · cases isCaller'; rfl

/-- What a stream tells when it moves is heard. -/
theorem Told.moves {action : Stream.Action} {events : List Event} {next : Stream} (told : Told p)
    (healthy : Healthy p) (placed : Placed p) (isStream : p.streams[stream]? = some s)
    (unsubmitted : ∀ item, action ≠ .submit item) (stayed : ∀ ticket, action ≠ .leave ticket)
    (step : Stream.Step s action events next) : Told (p.afterMove stream next events) := by
  have change := Change.moved isStream unsubmitted stayed step
  have healthy' := change.healthy healthy
  have placed' := change.placed healthy placed
  have answers : ∀ other, (p.afterMove stream next events).answersOf other =
      if stream = other then p.answersOf stream ++ Event.answers events else p.answersOf other := by
    intro other
    rw [answersOf_set (afterMove_streams _ _ _ _) isStream, step.record_history,
      Event.answers_append, answersOf_eq isStream]
  have earlier : ∀ other row, row ∈ p.answersOf other →
      row ∈ (p.afterMove stream next events).answersOf other := by
    intro other row isAnswer
    rw [answers]
    split
    case isTrue here => exact List.mem_append_left _ (here ▸ isAnswer)
    case isFalse => exact isAnswer
  have once := placed'.answers_nodup healthy' stream
  rw [answers, if_pos rfl, List.map_append] at once
  intro caller d result isCaller
  rw [afterMove_callers] at isCaller
  obtain ⟨c, before, rfl⟩ := Option.map_eq_some_iff.mp isCaller
  constructor
  · intro reply
    rcases Option.or_eq_some_iff.mp reply with first | ⟨-, now⟩
    · obtain ⟨other, isAnswer⟩ := (told caller c result before).mp first
      exact ⟨other, earlier other _ isAnswer⟩
    · refine ⟨stream, ?_⟩
      rw [answers, if_pos rfl]
      exact List.mem_append_right _ (mem_of_answerTo now)
  · intro ⟨other, isAnswer⟩
    have line := healthy'.mem_ticketsOf isAnswer
    rw [answers] at isAnswer
    refine Option.or_eq_some_iff.mpr ?_
    split at isAnswer
    case isFalse => exact .inl ((told caller c result before).mpr ⟨other, isAnswer⟩)
    case isTrue here =>
      subst here
      rcases List.mem_append.mp isAnswer with first | now
      · exact .inl ((told caller c result before).mpr ⟨stream, first⟩)
      · refine .inr ⟨?_, answerTo_eq once.of_append_right now⟩
        -- An earlier answer would be one of the same stream, which tells a caller one thing only.
        cases reply : c.reply with
        | none => rfl
        | some first =>
          obtain ⟨other, isFirst⟩ := (told caller c first before).mp reply
          have line' := healthy'.mem_ticketsOf (earlier other _ isFirst)
          obtain rfl := placed'.lone other stream caller line' line
          exact (List.disjoint_of_nodup_append once (List.mem_map.mpr ⟨_, isFirst, rfl⟩)
            (List.mem_map.mpr ⟨_, now, rfl⟩)).elim

theorem Change.told (change : Change p q) (healthy : Healthy p) (placed : Placed p)
    (told : Told p) : Told q := by
  have made := change
  cases change with
  | moved isStream unsubmitted stayed step =>
    exact told.moves healthy placed isStream unsubmitted stayed step
  | grown =>
    refine told.frame healthy placed made (fun stream => ?_) fun caller c d before after => ?_
    · unfold answersOf
      by_cases inside : stream < p.streams.length
      · rw [List.getElem?_append_left inside]
      · have none : p.streams[stream]? = none := List.getElem?_eq_none_iff.mpr (by omega)
        rw [List.getElem?_append_right (by omega), none]
        cases stream - p.streams.length with
        | zero => rfl
        | succ more => rfl
    · exact congrArg _ (Option.some.inj (after.symm.trans before))
  | arrived =>
    refine told.frame healthy placed made (fun _ => rfl) fun caller c d before after => ?_
    have inside := (List.getElem?_eq_some_iff.mp before).1
    rw [List.getElem?_append_left inside] at after
    exact congrArg _ (Option.some.inj (after.symm.trans before))
  | callerCanceled | parted =>
    refine told.frame healthy placed made (fun _ => rfl) fun caller c d before after => ?_
    rw [updateCaller_callers, before] at after
    split at after
    · cases after; rfl
    · cases after; rfl
  | advanced =>
    refine told.frame healthy placed made (fun _ => rfl) fun caller c d before after => ?_
    exact congrArg _ (Option.some.inj (after.symm.trans before))
  | phased =>
    exact told.frame healthy placed made (fun _ => rfl) fun caller c d => reply_setPhase rfl
  | took =>
    exact told.frame healthy placed made (fun _ => rfl) fun caller c d => reply_setPhase rfl
  | @handed caller c stream s bound metadata isCaller submitting isStream =>
    have step := Stream.submit_cases (s := s) (p.itemOf caller c metadata)
    have silent : Event.answers (s.submit (p.itemOf caller c metadata)).2 = [] := by
      unfold Stream.submit
      split <;> rfl
    exact told.frame healthy placed made (answersOf_silent rfl isStream step silent)
      fun caller c d => reply_setPhase rfl
  | withdrew isCaller queued isStream =>
    exact told.frame healthy placed made (answersOf_silent rfl isStream .left rfl)
      fun caller c d => reply_setPhase rfl
  | glanced =>
    refine told.frame healthy placed made (fun _ => rfl) fun caller c d before after => ?_
    exact congrArg _ (Option.some.inj (after.symm.trans before))
  | downgraded =>
    refine told.frame healthy placed made (fun _ => rfl) fun caller c d before after => ?_
    exact congrArg _ (Option.some.inj (after.symm.trans before))

theorem Trails.told (trails : Trails p q) (told : Told p) : Told q := by
  have answers : ∀ stream, q.answersOf stream = p.answersOf stream := by
    intro stream
    obtain same | all := trails.streams
    · exact answersOf_congr same stream
    · unfold answersOf
      rw [all, List.getElem?_map, Option.map_map]
      rfl
  intro caller c result isCaller
  simp only [answers]
  rw [trails.callers] at isCaller
  exact told caller c result isCaller

theorem Origin.told (origin : Origin p) : Told p := by
  intro caller c result isCaller
  cases origin with
  | single => cases isCaller
  | ofControllers => cases isCaller

/-- What always holds between the streams and the callers of a pool. -/
structure Sound (p : Pool) : Prop where
  healthy : Healthy p
  placed : Placed p
  told : Told p

theorem Origin.sound (origin : Origin p) : Sound p :=
  ⟨origin.healthy, origin.placed, origin.told⟩

theorem Change.sound (change : Change p q) (sound : Sound p) : Sound q :=
  ⟨change.healthy sound.healthy, change.placed sound.healthy sound.placed,
    change.told sound.healthy sound.placed sound.told⟩

theorem Trails.sound (trails : Trails p q) (sound : Sound p) : Sound q :=
  ⟨trails.healthy sound.healthy, trails.placed sound.placed, trails.told sound.told⟩

theorem Reachable.sound (reachable : Reachable p) : Sound p :=
  reachable.invariant (fun _ origin => origin.sound) (fun _ _ sound change => change.sound sound)
    (fun _ _ sound trails => trails.sound sound)

/-! ### What items say -/

/-- Every item is what its caller has made of its request. -/
def Authored (p : Pool) : Prop :=
  ∀ stream, ∀ item ∈ p.itemsOf stream, ∃ c metadata, p.callers[item.ticket]? = some c ∧
    item = p.itemOf item.ticket c metadata

theorem itemOf_kept (kept : Kept c d) (setup : q.setup = p.setup) (metadata : Option Metadata) :
    q.itemOf caller d metadata = p.itemOf caller c metadata := by
  unfold itemOf
  rw [kept.records, kept.parent, setup]

theorem Authored.change (authored : Authored p) (healthy : Healthy p) (change : Change p q) :
    Authored q := by
  intro stream item isItem
  have made : ∃ c metadata, p.callers[item.ticket]? = some c ∧
      item = p.itemOf item.ticket c metadata := by
    obtain earlier | ⟨caller, c, bound, metadata, isCaller, -, rfl, -⟩ :=
      change.mem_itemsOf healthy isItem
    · exact authored stream item earlier
    · exact ⟨c, metadata, isCaller, rfl⟩
  obtain ⟨c, metadata, isCaller, same⟩ := made
  obtain ⟨d, isCaller', kept, -⟩ := change.goes isCaller
  exact ⟨d, metadata, isCaller', same.trans (itemOf_kept kept change.setup metadata).symm⟩

theorem Authored.trails (authored : Authored p) (trails : Trails p q) : Authored q := by
  intro stream item isItem
  obtain ⟨c, metadata, isCaller, same⟩ := authored stream item (trails.itemsOf_eq stream ▸ isItem)
  rw [trails.callers]
  exact ⟨c, metadata, isCaller,
    same.trans (itemOf_kept (Kept.refl c) trails.setup metadata).symm⟩

theorem Origin.authored (origin : Origin p) : Authored p := by
  intro stream item isItem
  obtain ⟨c, isCaller, -⟩ := origin.placed.owned stream item isItem
  cases origin with
  | single => cases isCaller
  | ofControllers => cases isCaller

theorem Reachable.authored (reachable : Reachable p) : Authored p :=
  (reachable.invariant (P := fun p => Healthy p ∧ Authored p)
    (fun _ origin => ⟨origin.healthy, origin.authored⟩)
    (fun _ _ both change => ⟨change.healthy both.1, both.2.change both.1 change⟩)
    (fun _ _ both trails => ⟨trails.healthy both.1, both.2.trails trails⟩)).2

/-- The items that a stream has taken are those of its callers. -/
theorem Reachable.authored_taken (reachable : Reachable p) (isStream : p.streams[stream]? = some s)
    {item : Item} (isTaken : item ∈ Event.takenItems s.history) :
    ∃ c metadata, p.callers[item.ticket]? = some c ∧ item = p.itemOf item.ticket c metadata := by
  apply reachable.authored stream item
  rw [itemsOf_eq isStream, Stream.items, List.append_assoc]
  exact List.mem_append_left _ isTaken

end Pool

end TelemetryStreams
