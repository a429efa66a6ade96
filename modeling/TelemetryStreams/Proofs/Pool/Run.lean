import TelemetryStreams.Proofs.Pool.Changes
import TelemetryStreams.Proofs.Stream.Runs

/-!
# Runs of a pool

A pool starts with a single stream or with controllers, and any possible steps follow, in any order
(`Reachable`). What every change and what follows it keep, a run keeps (`Leads.keeps`). Along a run a
stream is never replaced: it stays at its place and makes steps of its own (`Leads.becomes`), so what
every step of a stream keeps holds of all streams of all pools (`Change.healthy`).
-/
namespace TelemetryStreams.Pool

variable {p q r : Pool} {stream : Nat} {s t : Stream}

/-- Performs some actions, if they are possible and run no stream twice. -/
def follow (p : Pool) : List Action → Option Pool
  | [] => some p
  | action :: actions =>
    if p.permits action then (p.perform action).bind fun q => q.follow actions else none

/-- A run from one pool to another one. -/
def Leads (p q : Pool) : Prop := ∃ actions, p.follow actions = some q

theorem Leads.refl (p : Pool) : Leads p p := ⟨[], rfl⟩

theorem Leads.head {action : Action} (permitted : p.permits action = true)
    (made : p.perform action = some q) (leads : Leads q r) : Leads p r := by
  obtain ⟨actions, follows⟩ := leads
  exact ⟨action :: actions, by simp [follow, permitted, made, follows]⟩

/-- An invariant of all steps is one of all runs. -/
theorem Leads.induction {P : Pool → Prop}
    (step : ∀ p q action, P p → p.permits action = true → p.perform action = some q → P q)
    (leads : Leads p q) (holds : P p) : P q := by
  obtain ⟨actions, follows⟩ := leads
  -- On the actions, for all pools from which they may start.
  induction actions generalizing p with
  | nil =>
    cases follows
    exact holds
  | cons action actions ih =>
    simp only [follow] at follows
    split at follows
    case isFalse => cases follows
    case isTrue permitted =>
      obtain ⟨middle, made, follows⟩ := Option.bind_eq_some_iff.mp follows
      exact ih (step p middle action holds permitted made) follows

/-- What every change and all that follows it keep, a run keeps. -/
theorem Leads.keeps {P : Pool → Prop} (change : ∀ p q, P p → Change p q → P q)
    (trails : ∀ p q, P p → Trails p q → P q) (leads : Leads p q) (holds : P p) : P q := by
  refine leads.induction (fun p q action holds permitted made => ?_) holds
  obtain ⟨middle, rfl | changed, follows⟩ := perform_cases permitted made
  · exact trails _ _ holds follows
  · exact trails _ _ (change _ _ holds changed) follows

theorem Leads.trans (first : Leads p q) (second : Leads q r) : Leads p r := by
  obtain ⟨actions, follows⟩ := first
  induction actions generalizing p with
  | nil =>
    cases follows
    exact second
  | cons action actions ih =>
    simp only [follow] at follows
    split at follows
    case isFalse => cases follows
    case isTrue permitted =>
      obtain ⟨middle, made, follows⟩ := Option.bind_eq_some_iff.mp follows
      exact .head permitted made (ih follows)

/-- What is seen in the middle of a run and at its end. -/
theorem follow_cases {α β : Type} {first second : List Action} {view : Pool → Option α}
    {view' : Pool → Option β} {x : α} {y : β} (seen : (p.follow first).bind view = some x)
    (seen' : (p.follow first).bind (fun q => (q.follow second).bind view') = some y) :
    ∃ q r, p.follow first = some q ∧ q.follow second = some r ∧ view q = some x ∧
      view' r = some y := by
  obtain ⟨q, follows, seen⟩ := Option.bind_eq_some_iff.mp seen
  rw [follows, Option.bind_some] at seen'
  obtain ⟨r, more, seen'⟩ := Option.bind_eq_some_iff.mp seen'
  exact ⟨q, r, follows, more, seen, seen'⟩

/-- How a pool starts. -/
inductive Origin : Pool → Prop
  | single (setup : Setup) (script : List Opening) : Origin (single setup script)
  | ofControllers (setup : Setup) (script : List Opening) (count : Nat) :
      Origin (ofControllers setup script count)

/-- The states of all runs of all pools. -/
def Reachable (p : Pool) : Prop := ∃ origin, Origin origin ∧ Leads origin p

theorem Origin.reachable (origin : Origin p) : Reachable p := ⟨p, origin, Leads.refl p⟩

theorem Reachable.leads (reachable : Reachable p) (leads : Leads p q) : Reachable q := by
  obtain ⟨origin, isOrigin, first⟩ := reachable
  exact ⟨origin, isOrigin, first.trans leads⟩

/-- What holds at the start and is kept by every change and what follows it holds always. -/
theorem Reachable.invariant {P : Pool → Prop} (origin : ∀ p, Origin p → P p)
    (change : ∀ p q, P p → Change p q → P q) (trails : ∀ p q, P p → Trails p q → P q)
    (reachable : Reachable p) : P p := by
  obtain ⟨start, isOrigin, leads⟩ := reachable
  exact leads.keeps change trails (origin start isOrigin)

/-! ### The streams of a pool -/

/-- What no notice changes is the same after a move of a stream. -/
theorem view_afterMove {σ : Type} (view : Pool → σ)
    (still : ∀ (p : Pool) (stream : Nat) (event : Event), view (p.notice stream event) = view p)
    (p : Pool) (stream : Nat) (next : Stream) (events : List Event) :
    view (p.afterMove stream next events) =
      view { p with streams := p.streams.set stream (next.record events) } := by
  unfold afterMove
  generalize { p with streams := p.streams.set stream (next.record events) } = q
  induction events generalizing q with
  | nil => rfl
  | cons event events ih => rw [List.foldl_cons, ih, still]

theorem view_notice {σ : Type} (view : Pool → σ)
    (blind : ∀ (p : Pool) prioritizer callers endpoint spans, view { p with
      prioritizer := prioritizer, callers := callers, endpoint := endpoint, spans := spans } = view p)
    (p : Pool) (stream : Nat) (event : Event) : view (p.notice stream event) = view p := by
  unfold notice
  split
  all_goals exact blind p _ _ _ _

theorem afterMove_streams (p : Pool) (stream : Nat) (next : Stream) (events : List Event) :
    (p.afterMove stream next events).streams = p.streams.set stream (next.record events) :=
  view_afterMove Pool.streams (view_notice _ fun _ _ _ _ _ => rfl) p stream next events

theorem afterMove_setup (p : Pool) (stream : Nat) (next : Stream) (events : List Event) :
    (p.afterMove stream next events).setup = p.setup :=
  view_afterMove Pool.setup (view_notice _ fun _ _ _ _ _ => rfl) p stream next events

theorem afterMove_now (p : Pool) (stream : Nat) (next : Stream) (events : List Event) :
    (p.afterMove stream next events).now = p.now :=
  view_afterMove Pool.now (view_notice _ fun _ _ _ _ _ => rfl) p stream next events

theorem Change.setup (change : Change p q) : q.setup = p.setup := by
  cases change with
  | moved => exact afterMove_setup _ _ _ _
  | _ => rfl

theorem Leads.setup (leads : Leads p q) : q.setup = p.setup := by
  refine leads.keeps (P := fun q => q.setup = p.setup) ?_ ?_ rfl
  · exact fun q r same change => change.setup.trans same
  · exact fun q r same trails => trails.setup.trans same

theorem Change.now_le (change : Change p q) : p.now ≤ q.now := by
  cases change with
  | moved => exact (Nat.le_of_eq (afterMove_now _ _ _ _).symm)
  | advanced => exact Nat.le_add_right _ _
  | _ => exact Nat.le_refl _

theorem newStream_fresh (p : Pool) : p.newStream.Fresh :=
  ⟨rfl, rfl, rfl, rfl, rfl, rfl, rfl, rfl⟩

def startedStream (p : Pool) : Stream := { p.newStream with run := .starting }

theorem startedStream_sound (p : Pool) : p.startedStream.Sound := by
  have sound := p.newStream_fresh.sound.step (Stream.Step.started p.newStream_fresh.run)
  rwa [Stream.record_nil] at sound

theorem getElem?_set_self {streams : List Stream} (isStream : streams[stream]? = some s) :
    (streams.set stream t)[stream]? = some t :=
  List.getElem?_set_self (List.getElem?_eq_some_iff.mp isStream).1

theorem getElem?_set_cases {α : Type} {l : List α} {i j : Nat} {b c : α}
    (isEntry : (l.set i b)[j]? = some c) : i = j ∧ c = b ∨ i ≠ j ∧ l[j]? = some c := by
  by_cases same : i = j
  · subst same
    have inside := (List.getElem?_eq_some_iff.mp isEntry).1
    rw [List.length_set] at inside
    rw [List.getElem?_set_self inside] at isEntry
    exact .inl ⟨rfl, (Option.some.inj isEntry).symm⟩
  · rw [List.getElem?_set_ne same] at isEntry
    exact .inr ⟨same, isEntry⟩

theorem stays_set {streams : List Stream} {other : Nat} {u : Stream}
    (isOther : streams[other]? = some u) (stays : Stream.Stays u t)
    (isStream : streams[stream]? = some s) :
    ∃ after, (streams.set other t)[stream]? = some after ∧ Stream.Stays s after := by
  by_cases same : other = stream
  · subst same
    obtain rfl := Option.some.inj (isOther.symm.trans isStream)
    exact ⟨t, getElem?_set_self isStream, stays⟩
  · exact ⟨s, by rw [List.getElem?_set_ne same, isStream], .inl rfl⟩

/-- A change leaves every stream at its place. -/
theorem Change.stays (change : Change p q) (isStream : p.streams[stream]? = some s) :
    ∃ t, q.streams[stream]? = some t ∧ Stream.Stays s t := by
  cases change with
  | moved isOther _ _ step =>
    rw [afterMove_streams]
    exact stays_set isOther (.inr ⟨_, _, _, step, rfl⟩) isStream
  | grown =>
    refine ⟨s, ?_, .inl rfl⟩
    have inside := (List.getElem?_eq_some_iff.mp isStream).1
    exact (List.getElem?_append_left inside).trans isStream
  | arrived => exact ⟨s, isStream, .inl rfl⟩
  | callerCanceled | parted => exact ⟨s, isStream, .inl rfl⟩
  | advanced => exact ⟨s, isStream, .inl rfl⟩
  | phased => exact ⟨s, isStream, .inl rfl⟩
  | took => exact ⟨s, isStream, .inl rfl⟩
  | handed _ _ isOther =>
    exact stays_set isOther (.inr ⟨_, _, _, Stream.submit_cases _, rfl⟩) isStream
  | withdrew _ _ isOther =>
    exact stays_set isOther (.inr ⟨_, _, _, .left, rfl⟩) isStream
  | glanced => exact ⟨s, isStream, .inl rfl⟩
  | downgraded => exact ⟨s, isStream, .inl rfl⟩

theorem Trails.stays (trails : Trails p q) (isStream : p.streams[stream]? = some s) :
    ∃ t, q.streams[stream]? = some t ∧ Stream.Stays s t := by
  obtain same | all := trails.streams
  · exact ⟨s, by rw [same, isStream], .inl rfl⟩
  · refine ⟨_, ?_, Stream.stays_cancelParent s⟩
    rw [all, List.getElem?_map, isStream]
    rfl

theorem Change.started (change : Change p q) (isStream : q.streams[stream]? = some t)
    (new : p.streams[stream]? = none) : t = p.startedStream := by
  have outside := List.getElem?_eq_none_iff.mp new
  cases change with
  | moved =>
    rw [afterMove_streams] at isStream
    have inside := (List.getElem?_eq_some_iff.mp isStream).1
    rw [List.length_set] at inside
    omega
  | grown =>
    have inside := (List.getElem?_eq_some_iff.mp isStream).1
    simp only [List.length_append, List.length_singleton] at inside
    obtain rfl : stream = p.streams.length := by omega
    simp only [List.getElem?_concat_length, Option.some.injEq] at isStream
    exact isStream.symm
  | arrived => simp_all
  | callerCanceled | parted => simp_all [updateCaller]
  | advanced => simp_all
  | phased => simp_all [setPhase, updateCaller]
  | took => simp_all [setPhase, updateCaller]
  | handed =>
    have inside := (List.getElem?_eq_some_iff.mp isStream).1
    simp only [setPhase, updateCaller, List.length_set] at inside
    omega
  | withdrew =>
    have inside := (List.getElem?_eq_some_iff.mp isStream).1
    simp only [setPhase, updateCaller, List.length_set] at inside
    omega
  | glanced => simp_all
  | downgraded => simp_all

theorem Trails.old (trails : Trails p q) (isStream : q.streams[stream]? = some t) :
    ∃ s, p.streams[stream]? = some s := by
  obtain same | all := trails.streams
  · exact ⟨t, by rw [← same, isStream]⟩
  · rw [all, List.getElem?_map] at isStream
    obtain ⟨s, isStream, -⟩ := Option.map_eq_some_iff.mp isStream
    exact ⟨s, isStream⟩

/-- Along a run a stream makes steps of its own. -/
theorem Leads.becomes (leads : Leads p q) (isStream : p.streams[stream]? = some s) :
    ∃ t, q.streams[stream]? = some t ∧ Stream.Becomes s t := by
  refine leads.keeps (P := fun q => ∃ t, q.streams[stream]? = some t ∧ Stream.Becomes s t)
    ?_ ?_ ⟨s, isStream, .refl⟩
  · intro p q ⟨t, isStream, becomes⟩ change
    obtain ⟨u, isStream, stays⟩ := change.stays isStream
    exact ⟨u, isStream, becomes.trans stays.becomes⟩
  · intro p q ⟨t, isStream, becomes⟩ trails
    obtain ⟨u, isStream, stays⟩ := trails.stays isStream
    exact ⟨u, isStream, becomes.trans stays.becomes⟩

def itemsOf (p : Pool) (stream : Nat) : List Item := (p.streams[stream]?.map Stream.items).getD []

/-- Who submitted to the stream at a place. -/
def ticketsOf (p : Pool) (stream : Nat) : List Nat := (p.itemsOf stream).map Item.ticket

theorem itemsOf_eq (isStream : p.streams[stream]? = some s) : p.itemsOf stream = s.items := by
  rw [itemsOf, isStream]
  rfl

theorem ticketsOf_eq (isStream : p.streams[stream]? = some s) : p.ticketsOf stream = s.tickets := by
  rw [ticketsOf, itemsOf_eq isStream]
  rfl

theorem itemsOf_set {streams : List Stream} {other : Nat} (streams_eq : q.streams = streams.set other t)
    (same : p.streams = streams) (isStream : streams[other]? = some s) (stream : Nat) :
    q.itemsOf stream = if other = stream then t.items else p.itemsOf stream := by
  unfold itemsOf
  rw [streams_eq, same]
  split
  case isTrue here => subst here; rw [getElem?_set_self isStream]; rfl
  case isFalse elsewhere => rw [List.getElem?_set_ne elsewhere]

theorem itemsOf_congr (same : q.streams = p.streams) (stream : Nat) :
    q.itemsOf stream = p.itemsOf stream := by
  unfold itemsOf
  rw [same]

theorem Trails.itemsOf_eq (trails : Trails p q) (stream : Nat) :
    q.itemsOf stream = p.itemsOf stream := by
  obtain same | all := trails.streams
  · exact itemsOf_congr same stream
  · unfold itemsOf
    rw [all, List.getElem?_map, Option.map_map]
    rfl

/-- All streams of the pool keep what streams keep. -/
def Healthy (p : Pool) : Prop :=
  ∀ (stream : Nat) (s : Stream), p.streams[stream]? = some s → s.Sound

theorem Origin.healthy (origin : Origin p) : Healthy p := by
  intro stream s isStream
  cases origin with
  | single setup script =>
    obtain rfl := List.mem_singleton.mp (List.mem_of_getElem? isStream)
    exact (newStream_fresh _).sound
  | ofControllers setup script count => cases isStream

theorem Change.healthy (change : Change p q) (healthy : Healthy p) : Healthy q := by
  intro stream t isStream
  cases before : p.streams[stream]? with
  | none =>
    rw [change.started isStream before]
    exact p.startedStream_sound
  | some s =>
    obtain ⟨u, isStream', stays⟩ := change.stays before
    obtain rfl := Option.some.inj (isStream.symm.trans isStream')
    exact stays.becomes.sound (healthy stream s before)

theorem Trails.healthy (trails : Trails p q) (healthy : Healthy p) : Healthy q := by
  intro stream t isStream
  obtain ⟨s, before⟩ := trails.old isStream
  obtain ⟨u, isStream', stays⟩ := trails.stays before
  obtain rfl := Option.some.inj (isStream.symm.trans isStream')
  exact stays.becomes.sound (healthy stream s before)

theorem Change.length_streams_le (change : Change p q) :
    q.streams.length ≤ p.streams.length + 1 := by
  cases change with
  | moved =>
    rw [afterMove_streams, List.length_set]
    exact Nat.le_succ _
  | grown => simp
  | handed | withdrew => simp [setPhase, updateCaller]
  | arrived | callerCanceled | parted | advanced | phased | took | glanced | downgraded => exact Nat.le_succ _

/-- What holds of a stream that has just been started at its place, and is kept by every step, holds of all
streams after a run if it held of all before. -/
theorem Leads.eachAt {P : Setup → Nat → Stream → Prop}
    (started : ∀ p : Pool, P p.setup p.streams.length p.startedStream)
    (step : ∀ setup place s action events next, s.Sound → P setup place s →
      Stream.Step s action events next → P setup place (next.record events))
    (leads : Leads p q) (healthy : Healthy p)
    (holds : ∀ (stream : Nat) (s : Stream), p.streams[stream]? = some s → P p.setup stream s)
    (stream : Nat) (s : Stream) (isStream : q.streams[stream]? = some s) : P q.setup stream s := by
  have stays {setup : Setup} {place : Nat} {s t : Stream} (sound : s.Sound) (holds : P setup place s)
      (stays : Stream.Stays s t) : P setup place t := by
    obtain rfl | ⟨action, events, next, made, rfl⟩ := stays
    · exact holds
    · exact step setup place s action events next sound holds made
  refine (leads.keeps (P := fun p => Healthy p ∧ ∀ (stream : Nat) (s : Stream),
    p.streams[stream]? = some s → P p.setup stream s) ?_ ?_ ⟨healthy, holds⟩).2 stream s isStream
  · intro p q ⟨healthy, holds⟩ change
    refine ⟨change.healthy healthy, fun stream t isStream => ?_⟩
    rw [change.setup]
    cases before : p.streams[stream]? with
    | none =>
      have outside := List.getElem?_eq_none_iff.mp before
      have inside := (List.getElem?_eq_some_iff.mp isStream).1
      have more := change.length_streams_le
      obtain rfl : stream = p.streams.length := by omega
      exact change.started isStream before ▸ started p
    | some s =>
      obtain ⟨u, isStream', becomes⟩ := change.stays before
      obtain rfl := Option.some.inj (isStream.symm.trans isStream')
      exact stays (healthy stream s before) (holds stream s before) becomes
  · intro p q ⟨healthy, holds⟩ trails
    refine ⟨trails.healthy healthy, fun stream t isStream => ?_⟩
    rw [trails.setup]
    obtain ⟨s, before⟩ := trails.old isStream
    obtain ⟨u, isStream', becomes⟩ := trails.stays before
    obtain rfl := Option.some.inj (isStream.symm.trans isStream')
    exact stays (healthy stream s before) (holds stream s before) becomes

theorem Leads.each {P : Stream → Prop} (started : ∀ p : Pool, P p.startedStream)
    (step : ∀ s action events next, s.Sound → P s → Stream.Step s action events next →
      P (next.record events))
    (leads : Leads p q) (healthy : Healthy p)
    (holds : ∀ (stream : Nat) (s : Stream), p.streams[stream]? = some s → P s) (stream : Nat)
    (s : Stream) (isStream : q.streams[stream]? = some s) : P s :=
  leads.eachAt (P := fun _ _ s => P s) started (fun _ _ => step) healthy holds stream s isStream

/-- What holds of a stream that nothing has happened to at its place, and is kept by every step, holds of
every stream of every pool. -/
theorem Reachable.eachAt {P : Setup → Nat → Stream → Prop}
    (fresh : ∀ p : Pool, P p.setup p.streams.length p.newStream)
    (step : ∀ setup place s action events next, s.Sound → P setup place s →
      Stream.Step s action events next → P setup place (next.record events))
    (reachable : Reachable p) (isStream : p.streams[stream]? = some s) : P p.setup stream s := by
  have started (p : Pool) : P p.setup p.streams.length p.startedStream := by
    have start := Stream.Step.started p.newStream_fresh.run
    have holds := step _ _ _ _ _ _ p.newStream_fresh.sound (fresh p) start
    rwa [Stream.record_nil] at holds
  obtain ⟨start, origin, leads⟩ := reachable
  refine leads.eachAt started step origin.healthy (fun stream s isStream => ?_) stream s isStream
  cases origin with
  | single setup script =>
    have inside : stream < 1 := (List.getElem?_eq_some_iff.mp isStream).1
    obtain rfl : stream = 0 := by omega
    obtain rfl := Option.some.inj isStream
    exact fresh { setup := setup, endpoint := { script := script } }
  | ofControllers => cases isStream

theorem Reachable.each {P : Stream → Prop} (fresh : ∀ p : Pool, P p.newStream)
    (step : ∀ s action events next, s.Sound → P s → Stream.Step s action events next →
      P (next.record events))
    (reachable : Reachable p) (isStream : p.streams[stream]? = some s) : P s :=
  reachable.eachAt (P := fun _ _ s => P s) fresh (fun _ _ => step) isStream

end TelemetryStreams.Pool
