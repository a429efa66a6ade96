import TelemetryStreams.Proofs.Pool.Tickets

/-!
# Results and batches

What a caller is told follows from the batches on the wire. Over all streams a caller has at most one
batch there, which carries its records. It learns of success, or of a status, only from an
acknowledgment of the id under which it was registered, by the stream that registered it; and if it
returns for a reason that does not involve a stream, nothing was sent for it
(`results_follow_acknowledgments`).
-/
namespace TelemetryStreams.Pool

variable {p q : Pool} {caller stream : Nat} {c d : Caller} {s : Stream}

/-! ### Batches of a caller -/

/-- The batches that the stream at a place has sent, by the tickets of their callers. -/
def sendsOf (p : Pool) (stream : Nat) : List (Nat × Batch) :=
  (p.streams[stream]?.map fun s => s.dispatch.sends).getD []

/-- The batches that were sent for a caller, by their streams. -/
def sendsFor (p : Pool) (caller : Nat) : List (Nat × Batch) :=
  (List.range p.streams.length).flatMap fun stream =>
    ((p.sendsOf stream).filter (·.1 = caller)).map fun row => (stream, row.2)

theorem sendsOf_eq (isStream : p.streams[stream]? = some s) :
    p.sendsOf stream = s.dispatch.sends := by
  rw [sendsOf, isStream]
  rfl

theorem mem_sendsOf {row : Nat × Batch} (isSent : row ∈ p.sendsOf stream) :
    ∃ s, p.streams[stream]? = some s ∧ row ∈ s.dispatch.sends := by
  cases isStream : p.streams[stream]? with
  | none => simp [sendsOf, isStream] at isSent
  | some s => exact ⟨s, rfl, sendsOf_eq isStream ▸ isSent⟩

theorem mem_sendsFor {batch : Batch} :
    (stream, batch) ∈ p.sendsFor caller ↔ (caller, batch) ∈ p.sendsOf stream := by
  unfold sendsFor
  constructor
  · intro isSent
    obtain ⟨other, -, isRow⟩ := List.mem_flatMap.mp isSent
    obtain ⟨⟨ticket, sent⟩, isFound, same⟩ := List.mem_map.mp isRow
    obtain ⟨isFound, isCaller⟩ := List.mem_filter.mp isFound
    have isCaller : ticket = caller := by simpa using isCaller
    cases same
    exact isCaller ▸ isFound
  · intro isSent
    obtain ⟨s, isStream, -⟩ := mem_sendsOf isSent
    have inside := (List.getElem?_eq_some_iff.mp isStream).1
    refine List.mem_flatMap.mpr ⟨stream, List.mem_range.mpr inside, ?_⟩
    exact List.mem_map.mpr ⟨(caller, batch), List.mem_filter.mpr ⟨isSent, by simp⟩, rfl⟩

theorem length_flatMap_range_le {α : Type} {f : Nat → List α} (each : ∀ n, (f n).length ≤ 1)
    (lone : ∀ n m, f n ≠ [] → f m ≠ [] → n = m) (count : Nat) :
    ((List.range count).flatMap f).length ≤ 1 := by
  induction count with
  | zero => exact Nat.zero_le 1
  | succ count ih =>
    rw [List.range_succ, List.flatMap_append, List.flatMap_singleton, List.length_append]
    by_cases empty : f count = []
    · rw [empty]
      exact ih
    · have none : (List.range count).flatMap f = [] := by
        refine List.flatMap_eq_nil_iff.mpr fun other isOther => ?_
        have below := List.mem_range.mp isOther
        by_contra full
        exact absurd (lone other count full empty) (by omega)
      rw [none]
      simpa using each count

/-- Whoever has a batch on the wire was registered under its id, stands in the line of the stream,
and the batch carries its records. -/
theorem Sound.carries (sound : Sound p) (isStream : p.streams[stream]? = some s) {batch : Batch}
    (isSent : (caller, batch) ∈ s.dispatch.sends) :
    (batch.id, caller) ∈ Event.registrations s.history ∧ caller ∈ p.ticketsOf stream ∧
      ∃ c, p.callers[caller]? = some c ∧ batch.payloads = [Codec.payload c.records] := by
  obtain ⟨registered, item, isTaken, rfl, payloads⟩ :=
    (sound.healthy stream s isStream).written.carries caller batch isSent
  have isItem : item ∈ s.items := List.mem_append_left _ (List.mem_append_left _ isTaken)
  rw [← itemsOf_eq isStream] at isItem
  obtain ⟨c, isCaller, records, -⟩ := sound.placed.owned stream item isItem
  refine ⟨registered, List.mem_map.mpr ⟨item, isItem, rfl⟩, c, isCaller, ?_⟩
  rw [records]
  exact payloads

theorem Sound.sends_nodup (sound : Sound p) (isStream : p.streams[stream]? = some s) :
    (s.dispatch.sends.map (·.1)).Nodup := by
  have once := sound.placed.once stream
  rw [ticketsOf_eq isStream] at once
  have nodup := (sound.healthy stream s isStream).registrations_nodup once
  rw [Dispatch.tickets_eq] at nodup
  exact nodup.of_append_left

theorem Sound.sendsFor_le_one (sound : Sound p) (caller : Nat) :
    (p.sendsFor caller).length ≤ 1 := by
  have line : ∀ other, ((p.sendsOf other).filter (·.1 = caller)).map (fun row => (other, row.2)) ≠
      [] → ∃ s batch, p.streams[other]? = some s ∧ (caller, batch) ∈ s.dispatch.sends := by
    intro other some
    obtain ⟨row, isRow⟩ := List.exists_mem_of_ne_nil _ some
    obtain ⟨⟨ticket, batch⟩, isFound, -⟩ := List.mem_map.mp isRow
    obtain ⟨isFound, same⟩ := List.mem_filter.mp isFound
    have same : ticket = caller := by simpa using same
    obtain ⟨s, isStream, isSent⟩ := mem_sendsOf isFound
    exact ⟨s, batch, isStream, same ▸ isSent⟩
  refine length_flatMap_range_le (fun other => ?_) (fun first second isFirst isSecond => ?_) _
  · by_cases empty : ((p.sendsOf other).filter (·.1 = caller)).map (fun row => (other, row.2)) = []
    · rw [empty]
      exact Nat.zero_le 1
    · obtain ⟨s, batch, isStream, isSent⟩ := line other empty
      rw [sendsOf_eq isStream, Stream.filter_eq_singleton (sound.sends_nodup isStream) isSent]
      exact Nat.le_refl 1
  · obtain ⟨s, batch, isStream, isSent⟩ := line first isFirst
    obtain ⟨t, batch', isStream', isSent'⟩ := line second isSecond
    exact sound.placed.lone first second caller (sound.carries isStream isSent).2.1
      (sound.carries isStream' isSent').2.1

theorem Sound.sendsFor_eq_singleton (sound : Sound p) {row : Nat × Batch}
    (isSent : row ∈ p.sendsFor caller) : p.sendsFor caller = [row] := by
  have atMost := sound.sendsFor_le_one caller
  obtain ⟨before, after, split⟩ := List.append_of_mem isSent
  rw [split, List.length_append, List.length_cons] at atMost
  have first : before = [] := List.eq_nil_of_length_eq_zero (by omega)
  have last : after = [] := List.eq_nil_of_length_eq_zero (by omega)
  rw [split, first, last, List.nil_append]

theorem Sound.sendsFor_eq_nil (sound : Sound p) (absent : ∀ stream, caller ∉ p.ticketsOf stream) :
    p.sendsFor caller = [] := by
  refine List.eq_nil_iff_forall_not_mem.mpr fun ⟨stream, batch⟩ isSent => ?_
  obtain ⟨s, isStream, isRow⟩ := mem_sendsOf (mem_sendsFor.mp isSent)
  exact absent stream (sound.carries isStream isRow).2.1

/-! ### Acknowledgments -/

/-- An acknowledgment for a caller: it came to the stream that had registered the caller under that
id, and nothing had happened to the entry since. What was sent for the caller was sent there under
that id, and a stream that has sent anything in between has sent the batch of the caller. -/
def AcknowledgedBy (p : Pool) (caller : Nat) (ack : Acknowledgment) : Prop :=
  ∃ stream s before between after, p.streams[stream]? = some s ∧
    s.history = before ++ .registered ack.id caller :: between ++
      .received (.acknowledged ack) :: after ∧
    Event.Quiet ack.id between ∧
    (∀ row ∈ p.sendsFor caller, row.1 = stream ∧ row.2.id = ack.id) ∧
    (Event.sentBatches between ≠ [] → ∃ batch, p.sendsFor caller = [(stream, batch)])

/-- What a caller was told by a stream it was told because of an acknowledgment, unless it is that the
codec failed or the stream restarts. -/
theorem Sound.acknowledged (sound : Sound p) {result : Except Error Unit}
    (isCaller : p.callers[caller]? = some c) (told : c.reply = some result)
    (encoded : ∀ failure, result ≠ .error (.encode failure))
    (kept : result ≠ .error .streamRestarting) :
    ∃ ack, AcknowledgedBy p caller ack ∧ ack.verdict.1 = result := by
  obtain ⟨stream, isAnswer⟩ := (sound.told caller c result isCaller).mp told
  cases isStream : p.streams[stream]? with
  | none => simp [answersOf, isStream] at isAnswer
  | some s =>
    have streamSound := sound.healthy stream s isStream
    have line := sound.healthy.mem_ticketsOf isAnswer
    rw [answersOf_eq isStream, streamSound.accounted.answers] at isAnswer
    obtain ⟨⟨ticket, fate⟩, isFate, same⟩ := List.mem_map.mp isAnswer
    obtain ⟨rfl, rfl⟩ := Prod.mk.inj same
    cases fate with
    | refused failure => exact absurd rfl (encoded failure)
    | displaced => exact absurd rfl kept
    | released => exact absurd rfl kept
    | settled ack =>
      obtain ⟨before, between, after, history, quiet⟩ := Ledger.settled_split isFate
      refine ⟨ack, ⟨stream, s, before, between, after, isStream, history, quiet, ?_, ?_⟩, rfl⟩
      · -- The batch is on the wire of the stream in whose line the caller stands.
        rintro ⟨other, batch⟩ isSent
        obtain ⟨t, isStream', isRow⟩ := mem_sendsOf (mem_sendsFor.mp isSent)
        obtain ⟨isBatch, isLine, -⟩ := sound.carries isStream' isRow
        obtain rfl := sound.placed.lone other stream ticket isLine line
        obtain rfl := Option.some.inj (isStream.symm.trans isStream')
        have once := sound.placed.once other
        rw [ticketsOf_eq isStream] at once
        have isEntry : (ack.id, ticket) ∈ Event.registrations s.history := by
          rw [history]
          simp [Event.registrations]
        have same := List.inj_on_of_nodup_map (streamSound.registrations_nodup once) isBatch isEntry
          rfl
        exact ⟨rfl, congrArg Prod.fst same⟩
      · -- What was sent since the registration begins with the batch of the caller.
        intro sends
        have more : Event.sentBatches (between ++ .received (.acknowledged ack) :: after) ≠ [] := by
          rw [Event.sentBatches_append]
          exact fun none => sends (List.append_eq_nil_iff.mp none).1
        obtain ⟨batch, isRow⟩ := Dispatch.sent_of_registered before ack.id ticket more
        rw [← List.cons_append, ← List.append_assoc, ← history] at isRow
        have isSent : (stream, batch) ∈ p.sendsFor ticket := by
          rw [mem_sendsFor, sendsOf_eq isStream]
          exact isRow
        exact ⟨batch, sound.sendsFor_eq_singleton isSent⟩

/-! ### Why callers return -/

/-- Why a caller has its result: a stream has told it, it has left or been released, or it has never
come to a stream. -/
inductive Reason (p : Pool) (caller : Nat) (c : Caller) : Except Error Bool → Prop
  | told {reply : Except Error Unit} (told : c.reply = some reply) :
      Reason p caller c (reply.map fun _ => true)
  | left {error : Error}
      (own : error = .canceled ∨ error = .deadlineExceeded ∨ error = .streamRestarting) :
      Reason p caller c (.error error)
  | unsent {result : Except Error Bool}
      (kind : result = .ok false ∨ ∃ text, result = .error (.credentials text))
      (absent : ∀ stream, caller ∉ p.ticketsOf stream) : Reason p caller c result

/-- Every caller that is done has a reason for it. -/
def Justified (p : Pool) : Prop :=
  ∀ (caller : Nat) (c : Caller) (result : Except Error Bool), p.callers[caller]? = some c →
    c.phase = .done result → Reason p caller c result

theorem Reason.overdue {now : Nat} {reason : Error} (ended : d.ended? now = some reason) :
    Reason q caller c (.error reason) := by
  refine .left ?_
  obtain canceled | exceeded := ended?_cases ended
  · exact .inl canceled
  · exact .inr (.inl exceeded)

theorem Reason.ended {now : Nat} {reason : Error} (ends : d.Ends now reason) :
    Reason q caller c (.error reason) := by
  refine .left ?_
  obtain canceled | exceeded := ends_cases ends
  · exact .inl canceled
  · exact .inr (.inl exceeded)

theorem Reason.caused {cause : Error} (caused : s.Caused) (told : s.cause = some cause) :
    Reason q caller c (.error cause) := by
  refine .left ?_
  obtain canceled | restarting := caused cause told
  · exact .inl canceled
  · exact .inr (.inr restarting)

/-- With what a caller returns has a reason. -/
theorem Returns.reason {result : Except Error Bool} (returns : Returns p caller c result) (sound : Sound p)
    (change : Change p q) (isCaller : p.callers[caller]? = some c)
    (isCaller' : q.callers[caller]? = some d) (idle : ∀ stream, ¬ d.phase.WaitsWith stream)
    (reply : ∀ result, c.reply = some result → d.reply = some result) :
    Reason q caller d result := by
  have absent (apart : ∀ stream, ¬ c.phase.IsWith stream) (stream : Nat) :
      caller ∉ q.ticketsOf stream := fun isTicket =>
    sound.placed.absent isCaller (apart stream)
      (change.mem_of_idle sound.healthy isCaller' (idle stream) isTicket)
  cases returns with
  | overdue arriving free ended => exact .overdue ended
  | uncredentialed fetching =>
    refine .unsent (.inr ⟨_, rfl⟩) (absent fun stream => ?_)
    rw [fetching]
    exact id
  | ended submitting ended => exact .ended ended
  | refused submitting isStream told => exact .caused (sound.healthy _ _ isStream).caused told
  | shutDown => exact .left (.inr (.inr rfl))
  | downgraded looking =>
    exact .unsent (.inl rfl) (absent fun stream => looking.apart)
  | gaveUp seeking alive ended => exact .ended ended
  | replied awaiting told => exact .told (reply _ told)
  | left awaiting untold ended => exact .ended ended
  | abandoned awaiting untold alive isStream told =>
    exact .caused (sound.healthy _ _ isStream).caused told

theorem Change.justified (change : Change p q) (sound : Sound p) (justified : Justified p) :
    Justified q := by
  intro caller d result isCaller phase
  obtain ⟨-, arriving, -⟩ | ⟨c, before, kept, goes⟩ := change.caller_cases isCaller
  · rw [phase] at arriving
    cases arriving
  · have idle : ∀ stream, ¬ d.phase.WaitsWith stream := fun stream => by rw [phase]; exact id
    rw [phase] at goes
    obtain same | returns | ⟨stream, bound, s, error, queued, isStream, reason, rfl⟩ :=
      goes.done_cases
    · cases justified caller c result before same with
      | told told => exact .told (kept.reply _ told)
      | left own => exact .left own
      | unsent kind absent =>
        refine .unsent kind fun stream isTicket => absent stream ?_
        exact change.mem_of_idle sound.healthy isCaller (idle stream) isTicket
    · exact returns.reason sound change before isCaller idle kept.reply
    · obtain ⟨-, ended⟩ | told := reason
      · exact .ended ended
      · exact .caused (sound.healthy _ _ isStream).caused told

theorem Reachable.justified (reachable : Reachable p) : Justified p := by
  refine (reachable.invariant (P := fun p => Sound p ∧ Justified p) ?_ ?_ ?_).2
  · intro p origin
    refine ⟨origin.sound, fun caller c result isCaller => ?_⟩
    cases origin with
    | single => cases isCaller
    | ofControllers => cases isCaller
  · exact fun p q both change => ⟨change.sound both.1, change.justified both.1 both.2⟩
  · intro p q both trails
    refine ⟨trails.sound both.1, fun caller c result isCaller phase => ?_⟩
    rw [trails.callers] at isCaller
    cases both.2 caller c result isCaller phase with
    | told told => exact .told told
    | left own => exact .left own
    | unsent kind absent =>
      refine .unsent kind fun stream => ?_
      rw [ticketsOf, trails.itemsOf_eq]
      exact absent stream

/-! ### Callers that came too late -/

/-- The context of a caller has ended as far as the caller can tell when it comes. One without a stream
of its own choice asks, and one with such a stream finds out as it is about to submit. -/
def Late (p : Pool) (c : Caller) : Prop :=
  (c.target = none → c.ended? p.now ≠ none) ∧ (c.target ≠ none → ∃ reason, c.Ends p.now reason)

theorem Late.keeps (late : Late p c) (kept : Kept c d) (order : p.now ≤ q.now) : Late q d := by
  unfold Late
  rw [kept.target]
  exact ⟨fun free => kept.ended order (late.1 free),
    fun bound => (late.2 bound).imp fun _ => kept.ends order⟩

/-- Where a caller can stand whose context had ended when it came. -/
def CallPhase.IsTurnedAway (target : Option Nat) : CallPhase → Prop
  | .arriving => True
  | .fetching _ => target ≠ none
  | .submitting _ bound _ => bound = true ∧ target ≠ none
  | .done result => ∃ error, result = .error error
  | _ => False

/-- The context of a caller has ended before it came to a stream. -/
structure Overdue (p : Pool) (caller : Nat) (c : Caller) : Prop where
  isCaller : p.callers[caller]? = some c
  late : Late p c
  away : CallPhase.IsTurnedAway c.target c.phase
  absent : ∀ stream, caller ∉ p.ticketsOf stream

theorem Looking.not_turnedAway (looking : Looking c) : ¬ CallPhase.IsTurnedAway c.target c.phase := by
  obtain ⟨metadata, phase | phase⟩ := looking
  · rw [phase]
    exact id
  · rw [phase]
    exact id

theorem Goes.turnedAway {phase : CallPhase} (goes : Goes p q caller c phase)
    (late : Late p c) (away : CallPhase.IsTurnedAway c.target c.phase) :
    CallPhase.IsTurnedAway c.target phase := by
  cases goes with
  | stays => exact away
  | moves moves =>
    cases moves with
    | fetches arriving alive => exact fun free => late.1 free (alive free)
    | heads departing target => exact ⟨rfl, by rw [target]; nofun⟩
    | looks departing free =>
      obtain ⟨arriving, alive⟩ | ⟨ready, fetching⟩ := departing
      · exact absurd (alive free) (late.1 free)
      · rw [fetching] at away
        exact absurd free away
    | waits looking => exact absurd away looking.not_turnedAway
    | accepted queued => simp [queued, CallPhase.IsTurnedAway] at away
    | returns returns =>
      cases returns with
      | downgraded looking => exact absurd away looking.not_turnedAway
      | replied awaiting => simp [awaiting, CallPhase.IsTurnedAway] at away
      | _ => exact ⟨_, rfl⟩
  | takes looking => exact absurd away looking.not_turnedAway
  | hands submitting isStream alive =>
    rw [submitting] at away
    obtain ⟨reason, ends⟩ := late.2 away.2
    exact absurd ends (alive away.1 reason)
  | withdraws => exact ⟨_, rfl⟩

theorem Change.overdue (change : Change p q) (sound : Sound p) (overdue : Overdue p caller c) :
    ∃ d, Overdue q caller d := by
  obtain ⟨d, isCaller, kept, goes⟩ := change.goes overdue.isCaller
  have away := goes.turnedAway overdue.late overdue.away
  refine ⟨d, isCaller, overdue.late.keeps kept change.now_le, kept.target ▸ away, ?_⟩
  intro stream isTicket
  have idle : ¬ d.phase.WaitsWith stream := by
    cases phase : d.phase <;> simp_all [CallPhase.WaitsWith, CallPhase.IsTurnedAway]
  exact overdue.absent stream (change.mem_of_idle sound.healthy isCaller idle isTicket)

theorem Trails.overdue (trails : Trails p q) (overdue : Overdue p caller c) :
    Overdue q caller c where
  isCaller := by rw [trails.callers]; exact overdue.isCaller
  late := overdue.late.keeps (Kept.refl c) (Nat.le_of_eq trails.now.symm)
  away := overdue.away
  absent stream := by
    rw [ticketsOf, trails.itemsOf_eq]
    exact overdue.absent stream

/-- Nothing is ever sent for a caller whose context had ended when it came. -/
theorem Leads.overdue (leads : Leads p q) (sound : Sound p) (isCaller : p.callers[caller]? = some c)
    (arriving : c.phase = .arriving) (late : Late p c) : q.sendsFor caller = [] := by
  have first : Overdue p caller c := by
    refine ⟨isCaller, late, by rw [arriving]; trivial, fun stream => ?_⟩
    exact sound.placed.absent isCaller (by rw [arriving]; exact id)
  obtain ⟨sound, d, overdue⟩ : Sound q ∧ ∃ d, Overdue q caller d := by
    refine leads.keeps (P := fun q => Sound q ∧ ∃ d, Overdue q caller d) ?_ ?_ ⟨sound, c, first⟩
    · intro p q ⟨sound, c, overdue⟩ change
      exact ⟨change.sound sound, change.overdue sound overdue⟩
    · intro p q ⟨sound, c, overdue⟩ trails
      exact ⟨trails.sound sound, c, trails.overdue overdue⟩
  exact sound.sendsFor_eq_nil overdue.absent

/-! ### What a result tells -/

/-- Every batch on the wire belongs to one caller, and a caller has at most one there, with its own
records. A caller learns that its records were accepted, or of a status, only from an acknowledgment
for it; and nothing was sent for a caller that learns that there are no streams, that has no
credentials, or whose context had ended when it came. -/
theorem results_follow_acknowledgments (reachable : Reachable p)
    (isCaller : p.callers[caller]? = some c) :
    (∀ stream s, p.streams[stream]? = some s →
      (p.sendsOf stream).map (·.2) = Event.sentBatches s.history) ∧
    (p.sendsFor caller).length ≤ 1 ∧
    (∀ row ∈ p.sendsFor caller, row.2.payloads = [Codec.payload c.records]) ∧
    (c.phase = .done (.ok true) → ∃ ack, AcknowledgedBy p caller ack ∧ ack.code = 0) ∧
    (∀ status, c.phase = .done (.error (.status status)) →
      ∃ ack, AcknowledgedBy p caller ack ∧ ack.code ≠ 0 ∧
        ack.verdict.1 = .error (.status status)) ∧
    (c.phase = .done (.ok false) ∨ (∃ text, c.phase = .done (.error (.credentials text))) →
      p.sendsFor caller = []) ∧
    ∀ q d, Reachable q → Leads q p → q.callers[caller]? = some d → d.phase = .arriving →
      Late q d → p.sendsFor caller = [] := by
  have sound := reachable.sound
  have justified := reachable.justified caller c
  refine ⟨?_, sound.sendsFor_le_one caller, ?_, ?_, ?_, ?_, ?_⟩
  · intro stream s isStream
    rw [sendsOf_eq isStream]
    exact (sound.healthy stream s isStream).written.paired
  · intro ⟨stream, batch⟩ isSent
    obtain ⟨s, isStream, isRow⟩ := mem_sendsOf (mem_sendsFor.mp isSent)
    obtain ⟨-, -, d, isOwner, payloads⟩ := sound.carries isStream isRow
    obtain rfl := Option.some.inj (isCaller.symm.trans isOwner)
    exact payloads
  · intro phase
    have reason := justified _ isCaller phase
    generalize same : (Except.ok true : Except Error Bool) = result at reason
    cases reason with
    | @told reply told =>
      cases reply with
      | error error => cases same
      | ok =>
        obtain ⟨ack, acknowledged, verdict⟩ :=
          sound.acknowledged isCaller told (fun _ => nofun) nofun
        exact ⟨ack, acknowledged, ack.verdict_eq_ok_iff.mp verdict⟩
    | left => cases same
    | unsent kind =>
      subst same
      obtain kind | ⟨text, kind⟩ := kind <;> cases kind
  · intro status phase
    have reason := justified _ isCaller phase
    generalize same : (Except.error (.status status) : Except Error Bool) = result at reason
    cases reason with
    | @told reply told =>
      cases reply with
      | ok => cases same
      | error error =>
        cases same
        obtain ⟨ack, acknowledged, verdict⟩ :=
          sound.acknowledged isCaller told (fun _ => nofun) nofun
        refine ⟨ack, acknowledged, fun accepted => ?_, verdict⟩
        rw [ack.verdict_eq_ok_iff.mpr accepted] at verdict
        cases verdict
    | left own => cases same; simp at own
    | unsent kind =>
      subst same
      obtain kind | ⟨text, kind⟩ := kind <;> cases kind
  · intro phase
    obtain ⟨result, phase, kind⟩ : ∃ result, c.phase = .done result ∧
        (result = .ok false ∨ ∃ text, result = .error (.credentials text)) := by
      obtain phase | ⟨text, phase⟩ := phase
      · exact ⟨_, phase, .inl rfl⟩
      · exact ⟨_, phase, .inr ⟨text, rfl⟩⟩
    cases justified _ isCaller phase with
    | @told reply told =>
      cases reply with
      | ok => simp [Except.map] at kind
      | error error =>
        obtain ⟨text, rfl⟩ : ∃ text, error = .credentials text := by simpa [Except.map] using kind
        obtain ⟨ack, -, verdict⟩ := sound.acknowledged isCaller told (fun _ => nofun) nofun
        obtain ⟨status, same⟩ := Acknowledgment.exists_status_of_verdict verdict
        cases same
    | left own =>
      obtain kind | ⟨text, kind⟩ := kind
      · cases kind
      · cases kind; simp at own
    | unsent _ absent => exact sound.sendsFor_eq_nil absent
  · intro q d reachable' leads isCaller' arriving late
    exact leads.overdue reachable'.sound isCaller' arriving late

/-- On two streams batches get the same id, and the peer accepts one of them and not the other. -/
def coincidingRun : List Action :=
  [.proceed 0, .proceed 1, .stream 0 .establish, .stream 1 .establish, .stream 0 .offer,
    .stream 1 .offer, .arrive {} (.traces []) none, .enter 0, .look 0, .submit 0 false,
    .arrive {} (.logs []) none, .enter 1, .look 1, .submit 1 false,
    .stream 0 .take, .stream 0 .encode, .stream 0 .send,
    .stream 1 .take, .stream 1 .encode, .stream 1 .send,
    .deliver 1 (.acknowledged { id := 1, code := 14, message := "busy" }), .stream 1 .receive,
    .deliver 0 (.acknowledged { id := 1 }), .stream 0 .receive, .collect 0 false, .collect 1 false]

theorem results_follow_acknowledgments_coinciding :
    ∃ p c d, (ofControllers {} [] 2).follow coincidingRun = some p ∧
      p.callers[0]? = some c ∧ c.phase = .done (.ok true) ∧ p.callers[1]? = some d ∧
      d.phase = .done (.error (.status ⟨.unavailable, "destination unavailable: 1: busy"⟩)) ∧
      (∃ ack, AcknowledgedBy p 0 ack ∧ ack.code = 0) ∧
      ∃ ack, AcknowledgedBy p 1 ack ∧ ack.code ≠ 0 := by
  have facts : ((ofControllers {} [] 2).follow coincidingRun).bind (fun p =>
      p.callers[0]?.bind fun c => p.callers[1]?.map fun d => (c.phase, d.phase)) =
      some (.done (.ok true),
        .done (.error (.status ⟨.unavailable, "destination unavailable: 1: busy"⟩))) := by
    decide +kernel
  obtain ⟨p, follows, facts⟩ := Option.bind_eq_some_iff.mp facts
  obtain ⟨c, isFirst, facts⟩ := Option.bind_eq_some_iff.mp facts
  obtain ⟨d, isSecond, facts⟩ := Option.map_eq_some_iff.mp facts
  obtain ⟨accepted, declined⟩ := Prod.mk.inj facts
  have reachable : Reachable p := ⟨_, .ofControllers _ _ _, coincidingRun, follows⟩
  obtain ⟨-, -, -, success, -⟩ := results_follow_acknowledgments reachable isFirst
  obtain ⟨-, -, -, -, status, -⟩ := results_follow_acknowledgments reachable isSecond
  obtain ⟨ack, acknowledged, code, -⟩ := status _ declined
  exact ⟨p, c, d, follows, isFirst, accepted, isSecond, declined, success accepted, ack,
    acknowledged, code⟩

/-- The peer acknowledges a batch while its send is still stalled. -/
def prematureRun : List Action :=
  [.proceed 0, .stream 0 .establish, .stream 0 .offer, .setMode 0 .stall,
    .arrive {} (.traces []) none, .enter 0, .look 0, .submit 0 false, .stream 0 .take,
    .stream 0 .encode, .deliver 0 (.acknowledged { id := 1 }), .stream 0 .receive, .collect 0 false]

/-- Success alone does not tell that a batch was sent. -/
theorem success_before_send :
    ∃ p c, (ofControllers {} [] 1).follow prematureRun = some p ∧ p.callers[0]? = some c ∧
      c.phase = .done (.ok true) ∧ p.sendsFor 0 = [] := by
  have facts : ((ofControllers {} [] 1).follow prematureRun).bind (fun p =>
      p.callers[0]?.map fun c => (c.phase, (p.sendsFor 0).length)) =
      some (.done (.ok true), 0) := by decide +kernel
  obtain ⟨p, follows, facts⟩ := Option.bind_eq_some_iff.mp facts
  obtain ⟨c, isCaller, facts⟩ := Option.map_eq_some_iff.mp facts
  obtain ⟨accepted, none⟩ := Prod.mk.inj facts
  exact ⟨p, c, follows, isCaller, accepted, List.eq_nil_of_length_eq_zero none⟩

end TelemetryStreams.Pool
