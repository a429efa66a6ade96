import TelemetryStreams.Proofs.Pool.Managed
import TelemetryStreams.Proofs.Pool.Ready

/-!
# No stream is lost

In a pool of controllers a stream whose writer waits for an item is in one place: it is ready, or
one caller has taken it and not handed over its item, or one item is in its queue. Two numbers are
kept by every step (`Conserved`): how often the stream is ready, and how many items are on their way
to its writer. They add up to one while the writer waits, and both are zero while it is busy. An
item that is on its way when the writer ends is never taken.

It follows that a queue is empty when an item is handed over, so nobody ever waits for room, and
that a caller changes what is ready by taking a stream only (`streams_are_conserved`).
-/
namespace TelemetryStreams

/-- How often a stream can be ready and how many items can be on their way to its writer. -/
def WriterPhase.Balances (ready coming : Nat) : WriterPhase → Prop
  | .waiting => ready + coming = 1
  | .ended _ | .brokeDown => ready = 0 ∧ coming ≤ 1
  | .absent | .offering | .encoding .. | .sending .. => ready = 0 ∧ coming = 0

/-- Whether a caller has a stream and has not handed over its item. -/
def CallPhase.takes (stream : Nat) : CallPhase → Bool
  | .submitting other _ _ => other = stream
  | _ => false

/-- Whether a caller came to its stream, if it has one, by taking it, and never waits for room. -/
def CallPhase.IsFree : CallPhase → Prop
  | .submitting _ bound _ => bound = false
  | .queued .. => False
  | _ => True

theorem WriterPhase.Balances.waits {writer : WriterPhase} {ready coming : Nat}
    (balances : writer.Balances ready coming) (some : 0 < ready) :
    writer = .waiting ∧ ready = 1 ∧ coming = 0 := by
  cases writer with
  | waiting =>
    have one : ready + coming = 1 := balances
    exact ⟨rfl, by omega, by omega⟩
  | absent | offering | encoding | sending | ended | brokeDown =>
    have none : ready = 0 := balances.1
    omega

theorem WriterPhase.Balances.coming_le {writer : WriterPhase} {ready coming : Nat}
    (balances : writer.Balances ready coming) : coming ≤ 1 := by
  cases writer with
  | waiting =>
    have one : ready + coming = 1 := balances
    omega
  | ended | brokeDown => exact balances.2
  | absent | offering | encoding | sending =>
    have none : coming = 0 := balances.2
    omega

/-- While an item is on its way the writer waits for it or has ended. -/
theorem WriterPhase.Balances.expects {writer : WriterPhase} {ready coming : Nat}
    (balances : writer.Balances ready coming) (some : 0 < coming) :
    writer = .waiting ∨ writer.HasEnded := by
  cases writer with
  | waiting => exact .inl rfl
  | ended | brokeDown => exact .inr trivial
  | absent | offering | encoding | sending =>
    have none : coming = 0 := balances.2
    omega

theorem WriterPhase.Balances.of_hasEnded {writer : WriterPhase} {ready coming : Nat}
    (ended : writer.HasEnded) (none : ready = 0) (most : coming ≤ 1) :
    writer.Balances ready coming := by
  cases writer with
  | ended | brokeDown => exact ⟨none, most⟩
  | absent | offering | waiting | encoding | sending => cases ended

/-- A writer that has ended may lose an item that is on its way. -/
theorem WriterPhase.Balances.lose {writer : WriterPhase} {coming less : Nat} {ready : Nat}
    (balances : writer.Balances ready coming) (isOver : writer.IsOver) (order : less ≤ coming) :
    writer.Balances ready less := by
  cases writer with
  | absent =>
    have none : ready = 0 ∧ coming = 0 := balances
    exact ⟨none.1, by omega⟩
  | ended | brokeDown => exact ⟨balances.1, Nat.le_trans order balances.2⟩
  | offering | waiting | encoding | sending => cases isOver

namespace Pool

variable {p q : Pool} {caller stream count : Nat} {c : Caller} {s t : Stream}

/-! ### What is ready -/

theorem count_setReady_self {prioritizer : Prioritizer} (accepts : prioritizer.downgraded = false)
    (absent : prioritizer.ready.count stream = 0) :
    (prioritizer.setReady stream).ready.count stream = 1 := by
  have new : stream ∉ prioritizer.ready := List.count_eq_zero.mp absent
  unfold Prioritizer.setReady
  rw [if_neg (by simp [accepts, new]), Prioritizer.notifyOne_ready, List.count_append, absent]
  simp

theorem count_removeReady_self (prioritizer : Prioritizer) :
    (prioritizer.removeReady stream).ready.count stream = 0 :=
  List.count_eq_zero.mpr fun ready => (Prioritizer.mem_removeReady.mp ready).2 rfl

theorem count_noted_of_ne {other : Nat} (differ : other ≠ stream) (prioritizer : Prioritizer)
    (event : Event) :
    (noted other prioritizer event).ready.count stream = prioritizer.ready.count stream := by
  unfold noted
  split
  · unfold Prioritizer.setReady
    split
    · rfl
    · rw [Prioritizer.notifyOne_ready, List.count_append, List.count_singleton,
        if_neg (by simpa using differ)]
      rfl
  · exact List.count_filter (by simpa using Ne.symm differ)
  · rfl

theorem count_foldl_noted_of_ne {other : Nat} (differ : other ≠ stream) (prioritizer : Prioritizer)
    (events : List Event) :
    (events.foldl (noted other) prioritizer).ready.count stream =
      prioritizer.ready.count stream := by
  induction events generalizing prioritizer with
  | nil => rfl
  | cons event events ih => rw [List.foldl_cons, ih, count_noted_of_ne differ]

/-- A step that neither offers nor withdraws its stream, nor puts anything in its queue, keeps the
balance. -/
theorem balances_silent {action : Stream.Action} {events : List Event} {next : Stream}
    {ready claims : Nat} (step : Stream.Step s action events next)
    (unsubmitted : ∀ item, action ≠ .submit item) (stayed : ∀ ticket, action ≠ .leave ticket)
    (coherent : s.Coherent) (alone : s.senders = []) (silent : Event.offers events = [])
    (balances : s.writer.Balances ready (claims + s.queue.length)) :
    next.senders = [] ∧ next.writer.Balances ready (claims + next.queue.length) := by
  cases step with
  | offered | expired | quit => cases silent
  | entered | linedUp => exact absurd rfl (unsubmitted _)
  | left => exact absurd rfl (stayed _)
  | @taken env item queue waiting queued =>
    rw [waiting] at balances
    have one : ready + (claims + s.queue.length) = 1 := balances
    have length := congrArg List.length queued
    rw [List.length_cons] at length
    refine ⟨by simp [alone], ?_, ?_⟩
    · omega
    · change claims + (queue ++ s.senders.take 1).length = 0
      rw [alone, List.take_nil, List.append_nil]
      omega
  | opened starting =>
    rw [(coherent.early (.inr (.inl starting))).1] at balances
    exact ⟨alone, balances⟩
  | encoded busy | sent busy =>
    rw [busy] at balances
    exact ⟨alone, balances⟩
  | notEncoded busy | notSent busy | sinkBroke busy =>
    rw [busy] at balances
    exact ⟨alone, balances.1, Nat.le_trans (Nat.le_of_eq balances.2) (Nat.zero_le 1)⟩
  | _ => exact ⟨alone, balances⟩

/-- A step of a stream that nobody submits to keeps the balance, if the prioritizer takes offers. -/
theorem balances_step {action : Stream.Action} {events : List Event} {next : Stream}
    {prioritizer : Prioritizer} {claims : Nat} (step : Stream.Step s action events next)
    (unsubmitted : ∀ item, action ≠ .submit item) (stayed : ∀ ticket, action ≠ .leave ticket)
    (coherent : s.Coherent) (alone : s.senders = [])
    (takesOffers : s.writer = .offering → prioritizer.downgraded = false)
    (balances : s.writer.Balances (prioritizer.ready.count stream) (claims + s.queue.length)) :
    next.senders = [] ∧ next.writer.Balances
      (((Event.offers events).foldl (noted stream) prioritizer).ready.count stream)
      (claims + next.queue.length) := by
  obtain ⟨offering, waiting, offers⟩ | ⟨-, ended, offers⟩ | ⟨silent, -⟩ := step.offers_cases
  · obtain ⟨queue, senders⟩ := step.queue_of_offers (by rw [offers]; exact nofun)
    rw [offering] at balances
    have ready := count_setReady_self (takesOffers offering) balances.1
    rw [waiting, queue, senders, offers]
    exact ⟨alone, Nat.add_eq_one_iff.mpr (.inr ⟨ready, balances.2⟩)⟩
  · obtain ⟨queue, senders⟩ := step.queue_of_offers (by rw [offers]; exact nofun)
    rw [queue, senders, offers]
    exact ⟨alone, .of_hasEnded ended (count_removeReady_self prioritizer) balances.coming_le⟩
  · rw [silent]
    exact balances_silent step unsubmitted stayed coherent alone silent balances

/-! ### What is on its way -/

/-- How many callers have taken a stream and not handed over their items. -/
def claims (p : Pool) (stream : Nat) : Nat := p.callers.countP fun c => c.phase.takes stream

/-- What one needs to know of a caller, and of a stream, to say where the streams are. -/
def stance (c : Caller) : Option Nat × CallPhase := (c.target, c.phase)

@[inherit_doc stance]
def lane (s : Stream) : WriterPhase × List Item × List Item := (s.writer, s.queue, s.senders)

/-- The streams are where they were. -/
structure Alike (p q : Pool) : Prop where
  stances : q.callers.map stance = p.callers.map stance
  lanes : q.streams.map lane = p.streams.map lane
  ready : q.prioritizer.ready = p.prioritizer.ready

theorem claims_eq (p : Pool) (stream : Nat) :
    p.claims stream = (p.callers.map stance).countP fun row => row.2.takes stream := by
  rw [List.countP_map]
  rfl

theorem Alike.claims_eq (alike : Alike p q) (stream : Nat) : q.claims stream = p.claims stream := by
  rw [Pool.claims_eq, Pool.claims_eq, alike.stances]

theorem Alike.trans {r : Pool} (first : Alike p q) (second : Alike q r) : Alike p r where
  stances := second.stances.trans first.stances
  lanes := second.lanes.trans first.lanes
  ready := second.ready.trans first.ready

theorem alike_trails (trails : Trails p q) : Alike p q := by
  refine ⟨by rw [trails.callers], ?_, trails.ready⟩
  obtain same | all := trails.streams
  · rw [same]
  · rw [all, List.map_map]
    rfl

theorem alike_updateCaller (p : Pool) (caller : Nat) {change : Caller → Caller}
    (same : ∀ c, stance (change c) = stance c) : Alike p (p.updateCaller caller change) := by
  refine ⟨List.ext_getElem? fun other => ?_, rfl, rfl⟩
  rw [List.getElem?_map, List.getElem?_map, updateCaller_callers]
  split
  · rw [Option.map_map, Function.comp_def]
    simp only [same]
  · rfl

theorem setPhase_callers_eq {phase : CallPhase} (isCaller : p.callers[caller]? = some c) :
    (p.setPhase caller phase).callers = p.callers.set caller { c with phase := phase } := by
  change p.callers.modify caller _ = _
  rw [List.modify_eq_set_getElem?, isCaller]
  rfl

theorem claims_setPhase {r : Pool} (phase : CallPhase) (callers : r.callers = p.callers)
    (isCaller : p.callers[caller]? = some c) (stream : Nat) :
    (r.setPhase caller phase).claims stream + (if c.phase.takes stream then 1 else 0) =
      p.claims stream + if phase.takes stream then 1 else 0 := by
  unfold claims
  rw [setPhase_callers_eq (callers ▸ isCaller), callers]
  exact countP_set _ isCaller

theorem claims_pos (isCaller : p.callers[caller]? = some c) (takes : c.phase.takes stream = true) :
    0 < p.claims stream :=
  List.countP_pos_iff.mpr ⟨c, List.mem_of_getElem? isCaller, takes⟩

/-! ### Where the streams are -/

/-- A stream is where its writer expects it, and callers have come to streams by taking them. -/
structure Conserved (p : Pool) : Prop where
  balanced : ∀ (stream : Nat) (s : Stream), p.streams[stream]? = some s →
    s.writer.Balances (p.prioritizer.ready.count stream) (p.claims stream + s.queue.length)
  alone : ∀ (stream : Nat) (s : Stream), p.streams[stream]? = some s → s.senders = []
  within : ∀ stream, p.streams[stream]? = none →
    p.prioritizer.ready.count stream = 0 ∧ p.claims stream = 0
  free : ∀ (caller : Nat) (c : Caller), p.callers[caller]? = some c →
    c.target = none ∧ c.phase.IsFree

theorem conserved_ofControllers (setup : Setup) (script : List Opening) (count : Nat) :
    Conserved (ofControllers setup script count) := by
  refine ⟨?_, ?_, fun _ _ => ⟨rfl, rfl⟩, ?_⟩
  · intro stream s isStream
    cases isStream
  · intro stream s isStream
    cases isStream
  · intro caller c isCaller
    cases isCaller

theorem Conserved.alike (conserved : Conserved p) (alike : Alike p q) : Conserved q := by
  have old {stream : Nat} {t : Stream} (isStream : q.streams[stream]? = some t) :
      ∃ s, p.streams[stream]? = some s ∧ s.writer = t.writer ∧ s.queue = t.queue ∧
        s.senders = t.senders := by
    have same := congrArg (·[stream]?) alike.lanes
    simp only [List.getElem?_map, isStream] at same
    obtain ⟨s, before, same⟩ := Option.map_eq_some_iff.mp same.symm
    simp only [lane, Prod.mk.injEq] at same
    exact ⟨s, before, same⟩
  refine ⟨?_, ?_, ?_, ?_⟩
  · intro stream t isStream
    obtain ⟨s, before, writer, queue, -⟩ := old isStream
    rw [alike.ready, alike.claims_eq, ← writer, ← queue]
    exact conserved.balanced stream s before
  · intro stream t isStream
    obtain ⟨s, before, -, -, senders⟩ := old isStream
    rw [← senders]
    exact conserved.alone stream s before
  · intro stream outside
    have same := congrArg (·[stream]?) alike.lanes
    simp only [List.getElem?_map, outside] at same
    rw [alike.ready, alike.claims_eq]
    exact conserved.within stream (Option.map_eq_none_iff.mp same.symm)
  · intro caller d isCaller
    have same := congrArg (·[caller]?) alike.stances
    simp only [List.getElem?_map, isCaller] at same
    obtain ⟨c, before, same⟩ := Option.map_eq_some_iff.mp same.symm
    simp only [stance, Prod.mk.injEq] at same
    obtain ⟨target, phase⟩ := same
    rw [← target, ← phase]
    exact conserved.free caller c before

theorem Conserved.exists_stream (conserved : Conserved p) (isCaller : p.callers[caller]? = some c)
    (takes : c.phase.takes stream = true) : ∃ s, p.streams[stream]? = some s := by
  have some := claims_pos isCaller takes
  refine Option.ne_none_iff_exists'.mp fun outside => ?_
  have none := (conserved.within stream outside).2
  omega

/-- The queue is empty when a caller hands over its item, and the writer waits for it or has ended.
-/
theorem Conserved.empty (conserved : Conserved p) (isCaller : p.callers[caller]? = some c)
    (takes : c.phase.takes stream = true) (isStream : p.streams[stream]? = some s) :
    s.queue = [] ∧ (s.writer = .waiting ∨ s.writer.HasEnded) := by
  have balances := conserved.balanced stream s isStream
  have some := claims_pos isCaller takes
  have most := balances.coming_le
  exact ⟨List.eq_nil_of_length_eq_zero (by omega), balances.expects (by omega)⟩

theorem Conserved.free_setPhase {r : Pool} {phase : CallPhase} (conserved : Conserved p)
    (callers : r.callers = p.callers) (isCaller : p.callers[caller]? = some c)
    (isFree : phase.IsFree) (other : Nat) (d : Caller)
    (isOther : (r.setPhase caller phase).callers[other]? = some d) :
    d.target = none ∧ d.phase.IsFree := by
  rw [setPhase_callers, callers] at isOther
  by_cases same : caller = other
  · subst same
    rw [if_pos rfl, isCaller] at isOther
    obtain rfl := Option.some.inj isOther
    exact ⟨(conserved.free caller c isCaller).1, isFree⟩
  · rw [if_neg same] at isOther
    exact conserved.free other d isOther

section
variable {phase : CallPhase}

theorem Conserved.goes (conserved : Conserved p) (isCaller : p.callers[caller]? = some c)
    (isFree : phase.IsFree) (had : ∀ stream, c.phase.takes stream = false)
    (has : ∀ stream, phase.takes stream = false) : Conserved (p.setPhase caller phase) := by
  have same (stream : Nat) : (p.setPhase caller phase).claims stream = p.claims stream := by
    have claims := claims_setPhase phase rfl isCaller stream
    simpa [had, has] using claims
  refine ⟨?_, conserved.alone, ?_, conserved.free_setPhase rfl isCaller isFree⟩
  · intro stream s isStream
    rw [same]
    exact conserved.balanced stream s isStream
  · intro stream outside
    rw [same]
    exact conserved.within stream outside

theorem Moves.takes (moves : Moves p caller c phase) (target : c.target = none)
    (isFree : c.phase.IsFree) (undone : ∀ result, phase ≠ .done result) :
    phase.IsFree ∧ ∀ stream, phase.takes stream = false ∧ c.phase.takes stream = false := by
  cases moves with
  | fetches arriving => exact ⟨trivial, fun stream => ⟨rfl, by rw [arriving]; rfl⟩⟩
  | heads departing chosen => rw [target] at chosen; cases chosen
  | looks departing =>
    refine ⟨trivial, fun stream => ⟨rfl, ?_⟩⟩
    obtain ⟨arriving, -⟩ | ⟨ready, fetching⟩ := departing
    · rw [arriving]; rfl
    · rw [fetching]; rfl
  | waits looking =>
    refine ⟨trivial, fun stream => ⟨rfl, ?_⟩⟩
    obtain ⟨metadata, choosing | seeking⟩ := looking
    · rw [choosing]; rfl
    · rw [seeking]; rfl
  | accepted queued => rw [queued] at isFree; cases isFree
  | returns => exact absurd rfl (undone _)

/-- A caller that returns had taken no stream, or one that is done. -/
theorem Returns.takes {result : Except Error Bool} (returns : Returns p caller c result)
    (isFree : c.phase.IsFree) : (∀ stream, c.phase.takes stream = false) ∨
      ∃ stream s cause, c.phase.takes stream = true ∧ p.streams[stream]? = some s ∧
        s.cause = some cause := by
  cases returns with
  | overdue phase | uncredentialed phase | gaveUp phase | replied phase | left phase
  | abandoned phase => exact .inl fun stream => by rw [phase]; rfl
  | ended submitting => rw [submitting] at isFree; cases isFree
  | refused submitting isStream told =>
    exact .inr ⟨_, _, _, by rw [submitting]; exact decide_eq_true rfl, isStream, told⟩
  | shutDown looking | downgraded looking =>
    obtain ⟨metadata, phase | phase⟩ := looking
    · exact .inl fun stream => by rw [phase]; rfl
    · exact .inl fun stream => by rw [phase]; rfl

theorem Conserved.returns {result : Except Error Bool} (conserved : Conserved p)
    (healthy : Healthy p) (isCaller : p.callers[caller]? = some c)
    (returns : Returns p caller c result) : Conserved (p.setPhase caller (.done result)) := by
  obtain none | ⟨stream, s, cause, takes, isStream, told⟩ :=
    returns.takes (conserved.free caller c isCaller).2
  · exact conserved.goes isCaller trivial none fun _ => rfl
  · have less (other : Nat) : (p.setPhase caller (.done result)).claims other ≤ p.claims other := by
      have claims := claims_setPhase (.done result) rfl isCaller other
      have none : CallPhase.takes other (.done result) = false := rfl
      rw [none] at claims
      exact Nat.le.intro claims
    refine ⟨?_, conserved.alone, ?_, conserved.free_setPhase rfl isCaller trivial⟩
    · intro other t isOther
      have balances := conserved.balanced other t isOther
      by_cases same : other = stream
      · subst same
        obtain rfl := Option.some.inj (isStream.symm.trans isOther)
        have coherent := (healthy other s isStream).coherent
        have done := coherent.told.mp (by rw [told]; rfl)
        exact balances.lose (coherent.late (.inr (.inr done)))
          (Nat.add_le_add_right (less other) _)
      · have claims := claims_setPhase (.done result) rfl isCaller other
        have apart : c.phase.takes other = false := by
          revert takes
          cases c.phase with
          | submitting taken => simpa [CallPhase.takes] using fun here => here ▸ Ne.symm same
          | _ => exact fun _ => rfl
        rw [apart] at claims
        have kept : (p.setPhase caller (.done result)).claims other = p.claims other := claims
        rw [kept]
        exact balances
    · intro other outside
      have none := conserved.within other outside
      exact ⟨none.1, Nat.eq_zero_of_le_zero (none.2 ▸ less other)⟩

/-- A caller takes the stream in front. -/
theorem Conserved.takes {prioritizer : Prioritizer} {metadata : Option Metadata}
    (conserved : Conserved p) (isCaller : p.callers[caller]? = some c) (looking : Looking c)
    (first : p.prioritizer.ready = stream :: prioritizer.ready) :
    Conserved (setPhase { p with prioritizer := prioritizer } caller
      (.submitting stream false metadata)) := by
  have had (other : Nat) : c.phase.takes other = false := by
    obtain ⟨metadata, phase | phase⟩ := looking
    · rw [phase]; rfl
    · rw [phase]; rfl
  -- For every stream the sum stays; for the one in front one more is on its way, one less ready.
  have moved (other : Nat) :
      (setPhase { p with prioritizer := prioritizer } caller
        (.submitting stream false metadata)).claims other =
          p.claims other + (if stream = other then 1 else 0) ∧
      p.prioritizer.ready.count other =
        prioritizer.ready.count other + if stream = other then 1 else 0 := by
    have claims := claims_setPhase (p := p) (r := { p with prioritizer := prioritizer })
      (.submitting stream false metadata) rfl isCaller other
    rw [had] at claims
    refine ⟨?_, by rw [first, List.count_cons]; simp⟩
    simpa [CallPhase.takes] using claims
  refine ⟨?_, conserved.alone, ?_, conserved.free_setPhase rfl isCaller rfl⟩
  · intro other t isOther
    have balances := conserved.balanced other t isOther
    obtain ⟨claims, ready⟩ := moved other
    change t.writer.Balances (prioritizer.ready.count other) _
    rw [claims]
    by_cases same : stream = other
    · rw [if_pos same] at ready ⊢
      obtain ⟨waiting, one, none⟩ := balances.waits (by omega)
      rw [waiting]
      change _ + _ = 1
      omega
    · rw [if_neg same] at ready ⊢
      rwa [ready] at balances
  · intro other outside
    have none := conserved.within other outside
    obtain ⟨claims, ready⟩ := moved other
    have apart : stream ≠ other := by
      rintro rfl
      rw [if_pos rfl] at ready
      omega
    rw [if_neg apart] at claims ready
    exact ⟨ready.symm.trans none.1, claims.trans none.2⟩

/-- A caller hands over its item, which finds the queue empty. -/
theorem Conserved.hands {metadata : Option Metadata} {bound : Bool} {item : Item}
    (conserved : Conserved p) (isCaller : p.callers[caller]? = some c)
    (submitting : c.phase = .submitting stream bound metadata)
    (isStream : p.streams[stream]? = some s) (empty : s.queue = []) :
    Conserved (setPhase { p with
      streams := p.streams.set stream ((s.submit item).1.record (s.submit item).2) } caller
      (.awaiting stream)) := by
  have entered : (s.submit item).1.record (s.submit item).2 =
      { s with queue := [item], history := s.history ++ [.entered item] } := by
    unfold Stream.submit
    rw [if_pos empty]
    rfl
  have moved (other : Nat) :
      (setPhase { p with
        streams := p.streams.set stream ((s.submit item).1.record (s.submit item).2) } caller
        (.awaiting stream)).claims other + (if stream = other then 1 else 0) = p.claims other := by
    have claims := claims_setPhase (p := p) (r := { p with
      streams := p.streams.set stream ((s.submit item).1.record (s.submit item).2) })
      (.awaiting stream) rfl isCaller other
    rw [submitting] at claims
    simpa [CallPhase.takes] using claims
  refine ⟨?_, ?_, ?_, conserved.free_setPhase rfl isCaller trivial⟩
  · intro other t isOther
    have claims := moved other
    obtain ⟨rfl, rfl⟩ | ⟨apart, isOther⟩ := getElem?_set_cases isOther
    · have balances := conserved.balanced stream s isStream
      rw [if_pos rfl] at claims
      rw [empty, List.length_nil, Nat.add_zero, ← claims] at balances
      rw [entered]
      exact balances
    · rw [if_neg apart, Nat.add_zero] at claims
      rw [claims]
      exact conserved.balanced other t isOther
  · intro other t isOther
    obtain ⟨rfl, rfl⟩ | ⟨-, isOther⟩ := getElem?_set_cases isOther
    · rw [entered]
      exact conserved.alone stream s isStream
    · exact conserved.alone other t isOther
  · intro other outside
    have apart : stream ≠ other := by
      rintro rfl
      exact absurd (outside.symm.trans (getElem?_set_self isStream)) nofun
    have claims := moved other
    rw [if_neg apart, Nat.add_zero] at claims
    rw [claims]
    exact conserved.within other ((List.getElem?_set_ne apart).symm.trans outside)

/-- Every turn of a caller keeps the streams where they are expected. -/
theorem Conserved.acts (conserved : Conserved p) (healthy : Healthy p)
    (isCaller : p.callers[caller]? = some c) (acts : Acts p caller c q) : Conserved q := by
  obtain ⟨target, isFree⟩ := conserved.free caller c isCaller
  cases acts with
  | moves moves undone same =>
    obtain ⟨isFree', takes⟩ := moves.takes target isFree undone
    have goes := conserved.goes isCaller isFree' (fun stream => (takes stream).2)
      fun stream => (takes stream).1
    exact goes.alike ⟨rfl, rfl, same.ready⟩
  | returns returns same =>
    exact (conserved.returns healthy isCaller returns).alike ⟨rfl, rfl, same.ready⟩
  | takes looking alive first => exact conserved.takes isCaller looking first
  | @hands stream s bound metadata submitting isStream =>
    have takes : c.phase.takes stream = true := by rw [submitting]; exact decide_eq_true rfl
    have empty := (conserved.empty isCaller takes isStream).1
    rw [if_pos empty]
    exact conserved.hands isCaller submitting isStream empty
  | withdraws queued => rw [queued] at isFree; cases isFree

end

/-! ### All turns -/

theorem stances_afterMove (p : Pool) (stream : Nat) (next : Stream) (events : List Event) :
    (p.afterMove stream next events).callers.map stance = p.callers.map stance := by
  refine List.ext_getElem? fun caller => ?_
  rw [List.getElem?_map, List.getElem?_map, afterMove_callers, Option.map_map]
  rfl

/-- A stream moves. -/
theorem Conserved.moves {action : Stream.Action} {events : List Event} {next : Stream}
    (conserved : Conserved p) (healthy : Healthy p)
    (accepts : s.run ≠ .done → p.prioritizer.downgraded = false)
    (isStream : p.streams[stream]? = some s) (step : Stream.Step s action events next)
    (unsubmitted : ∀ item, action ≠ .submit item) (stayed : ∀ ticket, action ≠ .leave ticket) :
    Conserved (p.afterMove stream next events) := by
  have claims (other : Nat) : (p.afterMove stream next events).claims other = p.claims other := by
    rw [claims_eq, claims_eq, stances_afterMove]
  have coherent := (healthy stream s isStream).coherent
  have takesOffers : s.writer = .offering → p.prioritizer.downgraded = false := by
    intro offering
    refine accepts fun done => ?_
    have isOver := coherent.late (.inr (.inr done))
    rw [offering] at isOver
    cases isOver
  obtain ⟨alone, balances⟩ := balances_step step unsubmitted stayed coherent
    (conserved.alone stream s isStream) takesOffers (conserved.balanced stream s isStream)
  have elsewhere {other : Nat} (differ : stream ≠ other) :
      (p.afterMove stream next events).prioritizer.ready.count other =
        p.prioritizer.ready.count other := by
    rw [afterMove_prioritizer, count_foldl_noted_of_ne differ]
  refine ⟨?_, ?_, ?_, ?_⟩
  · intro other t isOther
    rw [afterMove_streams] at isOther
    rw [claims]
    obtain ⟨rfl, rfl⟩ | ⟨apart, isOther⟩ := getElem?_set_cases isOther
    · rw [afterMove_prioritizer]
      exact balances
    · rw [elsewhere apart]
      exact conserved.balanced other t isOther
  · intro other t isOther
    rw [afterMove_streams] at isOther
    obtain ⟨rfl, rfl⟩ | ⟨-, isOther⟩ := getElem?_set_cases isOther
    · exact alone
    · exact conserved.alone other t isOther
  · intro other outside
    rw [afterMove_streams] at outside
    have differ : stream ≠ other := by
      rintro rfl
      exact absurd (outside.symm.trans (getElem?_set_self isStream)) nofun
    rw [List.getElem?_set_ne differ] at outside
    rw [claims, elsewhere differ]
    exact conserved.within other outside
  · intro caller d isCaller
    rw [afterMove_callers] at isCaller
    obtain ⟨c, before, rfl⟩ := Option.map_eq_some_iff.mp isCaller
    exact conserved.free caller c before

theorem Conserved.starts {controller : Nat} (conserved : Conserved p) :
    Conserved (p.startStream controller) := by
  have split {other : Nat} {t : Stream}
      (isOther : (p.streams ++ [p.startedStream])[other]? = some t) :
      p.streams[other]? = some t ∨ p.streams[other]? = none ∧ t = p.startedStream := by
    by_cases old : other < p.streams.length
    · exact .inl ((List.getElem?_append_left old).symm.trans isOther)
    · have new := (List.getElem?_eq_some_iff.mp isOther).1
      rw [List.length_append, List.length_singleton] at new
      obtain rfl : other = p.streams.length := by omega
      rw [List.getElem?_concat_length] at isOther
      exact .inr ⟨List.getElem?_eq_none (Nat.le_refl _), (Option.some.inj isOther).symm⟩
  refine ⟨?_, ?_, ?_, conserved.free⟩
  · intro other t isOther
    obtain old | ⟨outside, rfl⟩ := split isOther
    · exact conserved.balanced other t old
    · exact conserved.within other outside
  · intro other t isOther
    obtain old | ⟨outside, rfl⟩ := split isOther
    · exact conserved.alone other t old
    · rfl
  · intro other outside
    have inside := List.getElem?_eq_none_iff.mp outside
    refine conserved.within other (List.getElem?_eq_none_iff.mpr ?_)
    simp only [startStream, setController, List.length_append] at inside
    omega

/-- A stream whose writer waits is in one of three places. -/
theorem Conserved.places (conserved : Conserved p) (isStream : p.streams[stream]? = some s)
    (waiting : s.writer = .waiting) :
    (p.prioritizer.ready.count stream = 1 ∧ p.claims stream = 0 ∧ s.queue = []) ∨
    (p.prioritizer.ready.count stream = 0 ∧ p.claims stream = 1 ∧ s.queue = []) ∨
    (p.prioritizer.ready.count stream = 0 ∧ p.claims stream = 0 ∧ ∃ item, s.queue = [item]) := by
  have balances := conserved.balanced stream s isStream
  rw [waiting] at balances
  have one : p.prioritizer.ready.count stream + (p.claims stream + s.queue.length) = 1 := balances
  cases queue : s.queue with
  | nil =>
    rw [queue, List.length_nil] at one
    obtain ready | ready : p.prioritizer.ready.count stream = 1 ∨
        p.prioritizer.ready.count stream = 0 := by omega
    · exact .inl ⟨ready, by omega, rfl⟩
    · exact .inr (.inl ⟨ready, by omega, rfl⟩)
  | cons item rest =>
    rw [queue, List.length_cons] at one
    have single : rest = [] := List.eq_nil_of_length_eq_zero (by omega)
    exact .inr (.inr ⟨by omega, by omega, item, by rw [single]⟩)

theorem Conserved.waits_of_ready (conserved : Conserved p) (ready : stream ∈ p.prioritizer.ready) :
    ∃ s : Stream, p.streams[stream]? = some s ∧ s.writer = .waiting := by
  have some := List.count_pos_iff.mpr ready
  cases isStream : p.streams[stream]? with
  | none =>
    have none := (conserved.within stream isStream).1
    omega
  | some s => exact ⟨s, rfl, ((conserved.balanced stream s isStream).waits some).1⟩

theorem Conserved.ready_eq_nil (conserved : Conserved p)
    (none : ∀ (stream : Nat) (s : Stream), p.streams[stream]? = some s → s.writer ≠ .waiting) :
    p.prioritizer.ready = [] := by
  refine List.eq_nil_iff_forall_not_mem.mpr fun stream ready => ?_
  obtain ⟨s, isStream, waiting⟩ := conserved.waits_of_ready ready
  exact none stream s isStream waiting

/-- The streams of a downgraded pool are done, so none of them is ready. -/
theorem Conserved.ready_of_downgraded (conserved : Conserved p) (healthy : Healthy p)
    (allDone : ∀ (stream : Nat) (s : Stream), p.streams[stream]? = some s → s.run = .done) :
    p.prioritizer.ready = [] := by
  refine conserved.ready_eq_nil fun stream s isStream waiting => ?_
  have isOver := (healthy stream s isStream).coherent.late (.inr (.inr (allDone stream s isStream)))
  rw [waiting] at isOver
  cases isOver

/-- A controller that gives up leaves what is ready as it was: nothing, if it was the last one. -/
theorem Conserved.ready_proceeds {controller : Nat} (conserved : Conserved p) (healthy : Healthy p)
    (proceeds : Proceeds p controller q)
    (allDone : q.prioritizer.downgraded = true →
      ∀ (stream : Nat) (s : Stream), q.streams[stream]? = some s → s.run = .done) :
    q.prioritizer.ready = p.prioritizer.ready := by
  cases proceeds with
  | givesUp =>
    obtain ⟨-, -, streams⟩ := giveUp_controllers p controller
    rw [streams] at allDone
    unfold giveUp at allDone ⊢
    simp only at allDone ⊢
    split
    case isTrue last =>
      rw [if_pos last] at allDone
      exact (conserved.ready_of_downgraded healthy (allDone rfl)).symm
    case isFalse => rfl
  | starts | stops | resumes | retires | breaks => rfl

theorem Conserved.proceeds {controller : Nat} (conserved : Conserved p) (healthy : Healthy p)
    (proceeds : Proceeds p controller q)
    (allDone : q.prioritizer.downgraded = true →
      ∀ (stream : Nat) (s : Stream), q.streams[stream]? = some s → s.run = .done) :
    Conserved q := by
  have ready := conserved.ready_proceeds healthy proceeds allDone
  cases proceeds with
  | starts => exact conserved.starts
  | givesUp =>
    obtain ⟨-, -, streams⟩ := giveUp_controllers p controller
    refine conserved.alike ⟨?_, by rw [streams], ready⟩
    unfold giveUp
    simp only
    split <;> rfl
  | stops | resumes | retires | breaks => exact conserved.alike ⟨rfl, rfl, ready⟩

theorem Conserved.arrives (conserved : Conserved p) (arriving : c.phase = .arriving)
    (free : c.target = none) : Conserved { p with callers := p.callers ++ [c] } := by
  have same (stream : Nat) :
      Pool.claims { p with callers := p.callers ++ [c] } stream = p.claims stream := by
    unfold claims
    rw [List.countP_append, List.countP_singleton, arriving]
    rfl
  refine ⟨?_, conserved.alone, ?_, ?_⟩
  · intro stream s isStream
    rw [same]
    exact conserved.balanced stream s isStream
  · intro stream outside
    rw [same]
    exact conserved.within stream outside
  · intro caller d isCaller
    obtain isOld | isNew := List.mem_append.mp (List.mem_of_getElem? isCaller)
    · obtain ⟨place, isOld⟩ := List.mem_iff_getElem?.mp isOld
      exact conserved.free place d isOld
    · obtain rfl := List.mem_singleton.mp isNew
      exact ⟨free, by rw [arriving]; trivial⟩

theorem Managed.conserved (managed : Managed count p) : Conserved p := by
  refine managed.invariant (conserved_ofControllers · · count) ?_
  intro p q action managed conserved isManaged made
  have healthy := managed.sound.healthy
  cases perform_turn made with
  | moved isStream step =>
    have moves := conserved.moves healthy (managed.takesOffers isStream) isStream step
      (fun _ => nofun) (fun _ => nofun)
    exact moves.alike ⟨rfl, rfl, rfl⟩
  | delivered isStream step | modeSet isStream step =>
    exact conserved.moves healthy (managed.takesOffers isStream) isStream step
      (fun _ => nofun) (fun _ => nofun)
  | undelivered | modeUnset => exact conserved
  | started | restarted | glanced | canceled => cases isManaged
  | @arrived spec records target c arriving untold chosen =>
    refine conserved.arrives arriving ?_
    cases target with
    | none => exact chosen
    | some => cases isManaged
  | contextEnded => exact conserved.alike (alike_updateCaller _ _ fun _ => rfl)
  | parted =>
    refine conserved.alike (Alike.trans ?_ (alike_trails (trails_endIfAbandoned _)))
    exact alike_updateCaller _ _ fun _ => rfl
  | acts own isCaller acts => exact conserved.acts healthy isCaller acts
  | proceeds proceeds =>
    have after := managed.step isManaged made
    exact conserved.proceeds healthy proceeds fun downgraded =>
      (after.over_of_downgraded downgraded).2
  | asked | returned | advanced => exact conserved.alike ⟨rfl, rfl, rfl⟩
  | began =>
    have cancels := conserved.alike (alike_trails (trails_cancel p))
    exact cancels.alike ⟨rfl, rfl, rfl⟩
  | dropped | letGo =>
    refine conserved.alike (Alike.trans ?_ (alike_trails (trails_endIfAbandoned _)))
    exact ⟨rfl, rfl, rfl⟩

/-! ### How readiness changes -/

/-- What a step does to the streams that are ready. -/
inductive Shifts (p : Pool) (action : Action) (q : Pool) : Prop
  | stays (same : q.prioritizer.ready = p.prioritizer.ready)
  /-- A writer begins to wait. -/
  | offered {stream move s} (isMove : action = .stream stream move)
      (isStream : p.streams[stream]? = some s) (offering : s.writer = .offering)
      (more : q.prioritizer.ready = p.prioritizer.ready ++ [stream])
  /-- A writer stops waiting and ends. -/
  | withdrawn {stream move s} (isMove : action = .stream stream move)
      (isStream : p.streams[stream]? = some s) (waiting : s.writer = .waiting)
      (less : q.prioritizer.ready = p.prioritizer.ready.filter (· ≠ stream))
  /-- A caller takes the stream in front. -/
  | taken {caller stream metadata d} (own : action.caller? = some caller)
      (first : p.prioritizer.ready = stream :: q.prioritizer.ready)
      (isCaller : q.callers[caller]? = some d) (took : d.phase = .submitting stream false metadata)

theorem Conserved.shifts_moved {move : Move} {env : Surroundings} {events : List Event}
    {next : Stream} (conserved : Conserved p)
    (accepts : s.run ≠ .done → p.prioritizer.downgraded = false) (coherent : s.Coherent)
    (isStream : p.streams[stream]? = some s) (step : Stream.Step s (.move move env) events next)
    (ready : q.prioritizer.ready = (p.afterMove stream next events).prioritizer.ready) :
    Shifts p (.stream stream move) q := by
  rw [afterMove_prioritizer] at ready
  obtain ⟨offering, -, offers⟩ | ⟨waiting, -, offers⟩ | ⟨offers, -⟩ := step.offers_cases
  · have undone : s.run ≠ .done := by
      intro done
      have isOver := coherent.late (.inr (.inr done))
      rw [offering] at isOver
      cases isOver
    have balances := conserved.balanced stream s isStream
    rw [offering] at balances
    have new : stream ∉ p.prioritizer.ready := List.count_eq_zero.mp balances.1
    refine .offered rfl isStream offering ?_
    rw [ready, offers]
    change (p.prioritizer.setReady stream).ready = _
    unfold Prioritizer.setReady
    rw [if_neg (by simp [accepts undone, new]), Prioritizer.notifyOne_ready]
  · rw [offers] at ready
    exact .withdrawn rfl isStream waiting ready
  · rw [offers] at ready
    exact .stays ready

theorem Acts.shifts {action : Action} (acts : Acts p caller c q)
    (own : action.caller? = some caller) (isCaller : p.callers[caller]? = some c) :
    Shifts p action q := by
  cases acts with
  | moves _ _ same => exact .stays same.ready
  | returns _ same => exact .stays same.ready
  | takes looking alive first => exact .taken own first (setPhase_self rfl isCaller) rfl
  | hands | withdraws => exact .stays rfl

/-- Streams are offered and withdrawn by their writers and taken by callers, and that is all that
happens to what is ready. -/
theorem Managed.shifts {action : Action} (managed : Managed count p)
    (isManaged : action.isManaged = true) (made : p.perform action = some q) :
    Shifts p action q := by
  have conserved := managed.conserved
  have healthy := managed.sound.healthy
  cases perform_turn made with
  | @moved stream s move next events attempts isStream step =>
    exact conserved.shifts_moved (managed.takesOffers isStream) (healthy _ _ isStream).coherent
      isStream step rfl
  | delivered isStream step =>
    cases step
    exact .stays (by rw [afterMove_prioritizer]; rfl)
  | modeSet isStream step =>
    cases step
    exact .stays (by rw [afterMove_prioritizer]; rfl)
  | started | restarted | glanced | canceled => cases isManaged
  | acts own isCaller acts => exact acts.shifts own isCaller
  | proceeds proceeds =>
    have after := managed.step isManaged made
    exact .stays (conserved.ready_proceeds healthy proceeds fun downgraded =>
      (after.over_of_downgraded downgraded).2)
  | parted | dropped | letGo => exact .stays (trails_endIfAbandoned _).ready
  | _ => exact .stays rfl

/-- While the writer of a stream waits for an item, the stream is ready once, or one caller has
taken it and not handed over its item, or one item is in its queue. No other stream is ready. So
whoever hands over an item finds the queue empty, nobody waits for room, and a caller that returns
leaves what is ready as it is. -/
theorem streams_are_conserved (managed : Managed count p) :
    (∀ (stream : Nat) (s : Stream), p.streams[stream]? = some s → s.writer = .waiting →
      (p.prioritizer.ready.count stream = 1 ∧ p.claims stream = 0 ∧ s.queue = []) ∨
      (p.prioritizer.ready.count stream = 0 ∧ p.claims stream = 1 ∧ s.queue = []) ∨
      (p.prioritizer.ready.count stream = 0 ∧ p.claims stream = 0 ∧
        ∃ item, s.queue = [item])) ∧
    (∀ stream ∈ p.prioritizer.ready,
      ∃ s : Stream, p.streams[stream]? = some s ∧ s.writer = .waiting) ∧
    (∀ (caller : Nat) (c : Caller) (stream : Nat) (bound : Bool) (metadata : Option Metadata),
      p.callers[caller]? = some c → c.phase = .submitting stream bound metadata →
      ∃ s : Stream, p.streams[stream]? = some s ∧ s.queue = [] ∧
        (s.writer = .waiting ∨ s.writer.HasEnded)) ∧
    (∀ (caller : Nat) (c : Caller) (stream : Nat) (bound : Bool), p.callers[caller]? = some c →
      c.phase ≠ .queued stream bound) ∧
    (∀ (stream : Nat) (s : Stream), p.streams[stream]? = some s → s.senders = []) ∧
    ∀ (action : Action) (q : Pool), action.isManaged = true → p.perform action = some q →
      Shifts p action q ∧
      ∀ (caller : Nat) (d : Caller) (result : Except Error Bool), action.caller? = some caller →
        q.callers[caller]? = some d → d.phase = .done result →
        q.prioritizer.ready = p.prioritizer.ready := by
  have conserved := managed.conserved
  refine ⟨?_, ?_, ?_, ?_, conserved.alone, ?_⟩
  · exact fun stream s isStream waiting => conserved.places isStream waiting
  · exact fun stream ready => conserved.waits_of_ready ready
  · intro caller c stream bound metadata isCaller submitting
    have takes : c.phase.takes stream = true := by rw [submitting]; exact decide_eq_true rfl
    obtain ⟨s, isStream⟩ := conserved.exists_stream isCaller takes
    exact ⟨s, isStream, conserved.empty isCaller takes isStream⟩
  · intro caller c stream bound isCaller queued
    have isFree := (conserved.free caller c isCaller).2
    rw [queued] at isFree
    exact isFree
  · intro action q isManaged made
    refine ⟨managed.shifts isManaged made, fun caller d result own isCaller done => ?_⟩
    cases managed.shifts isManaged made with
    | stays same => exact same
    | offered isMove | withdrawn isMove => rw [isMove] at own; cases own
    | taken own' first isCaller' took =>
      obtain rfl := Option.some.inj (own.symm.trans own')
      obtain rfl := Option.some.inj (isCaller.symm.trans isCaller')
      rw [took] at done
      cases done

/-- One stream has been taken, one has an item in its queue, and one is ready. -/
def dividedRun : List Action :=
  [.proceed 0, .proceed 1, .proceed 2, .stream 0 .establish, .stream 1 .establish,
    .stream 2 .establish, .stream 0 .offer, .stream 1 .offer, .stream 2 .offer,
    .arrive {} (.traces []) none, .arrive {} (.logs []) none, .enter 0, .enter 1, .look 0, .look 1,
    .submit 1 false]

theorem streams_are_conserved_divided :
    ∃ p s item, (ofControllers {} [] 3).follow dividedRun = some p ∧ Managed 3 p ∧
      p.claims 0 = 1 ∧ p.prioritizer.ready = [2] ∧
      p.streams[1]? = some s ∧ s.writer = .waiting ∧ s.queue = [item] := by
  have facts : ((ofControllers {} [] 3).follow dividedRun).bind (fun p =>
      p.streams[1]?.map fun s => (p.claims 0, p.claims 1, p.prioritizer.ready, s.queue.length,
        (s.take p.surroundings).isSome)) = some (1, 0, [2], 1, true) := by decide +kernel
  obtain ⟨p, follows, facts⟩ := Option.bind_eq_some_iff.mp facts
  obtain ⟨s, isStream, facts⟩ := Option.map_eq_some_iff.mp facts
  simp only [Prod.mk.injEq] at facts
  obtain ⟨taken, none, ready, length, waits⟩ := facts
  have waiting : s.writer = .waiting := by
    obtain ⟨⟨next, events⟩, made⟩ := Option.isSome_iff_exists.mp waits
    cases Stream.take_cases made with
    | openingCanceled early => simp at early
    | taken waiting => exact waiting
  have managed : Managed 3 p := ⟨{}, [], dividedRun, rfl, follows⟩
  obtain ⟨places, -⟩ := streams_are_conserved managed
  obtain ⟨here, -⟩ | ⟨-, here, -⟩ | ⟨-, -, item, queue⟩ := places 1 s isStream waiting
  · simp [ready] at here
  · omega
  · exact ⟨p, s, item, follows, managed, taken, ready, isStream, waiting, queue⟩

end Pool

end TelemetryStreams
