import TelemetryStreams.Proofs.Context.Cancellation

/-!
# When contexts end

A context ends at a moment that two parties find out in two ways: whoever asks looks at the token
and the clock (`endOf`), and whoever waits is woken by the token or the timer and looks then
(`Watch.look`). Along every history a watch that has reported has done so for a reason that it may
find, and one that has not and is not about to look would find none (`Heeds`), because every step that
brings a reason about wakes it. The deadline that both go by is the earliest of all that were applied
on the way from the creation of the context. They agree on a cancellation. On a deadline they agree
from when the clock has passed both it and the tick at which the timer serves it, and before both
(`ends_are_noticed`). In between they do not (`asking_and_waiting_disagree`), which is for less than a
tick if the deadline is within the range of the timer (`wakes_after_ends`).
-/
namespace TelemetryStreams

namespace Contexts

variable {s t u : Contexts} {c d : Context} {history actions : List Action} {action : Action}
  {reason : Error} {place watch : Nat} {w : Watch}

/-! ### Watches -/

/-- What holds of a watch on a context: what it has reported is so, and it looks if there is
something to report. -/
structure Heeds (s : Contexts) (c : Context) (w : Watch) : Prop where
  token : w.token = c.token
  deadline : w.deadline = c.deadline
  exist : c.token < s.tokens.length
  reported : ∀ reason, w.released = some reason → s.Wakes c reason
  alert : w.woken = false → w.released = none → ∀ reason, ¬ s.Wakes c reason

theorem heeds_begin (exist : c.token < s.tokens.length) :
    Heeds s c { token := c.token, deadline := c.deadline } where
  token := rfl
  deadline := rfl
  exist := exist
  reported reason isReport := by cases isReport
  alert asleep := by cases asleep

theorem Heeds.rest (heeds : Heeds s c w) (later : Later s t)
    (same : ∀ reason, t.Wakes c reason → s.Wakes c reason) : Heeds t c w :=
  ⟨heeds.token, heeds.deadline, Nat.lt_of_lt_of_le heeds.exist later.tokens,
    fun reason isReport => later.wakes (heeds.reported reason isReport),
    fun asleep silent reason => heeds.alert asleep silent reason ∘ same reason⟩

/-- A step that wakes watches does no harm, if those that it leaves asleep still have no reason to
look. -/
theorem Heeds.wake (heeds : Heeds s c w) (isWatch : s.watches[watch]? = some w)
    {fits : Watch → Bool} (watches : t.watches = s.watches) (later : Later s (t.wake fits))
    (same : fits w = false → ∀ reason, (t.wake fits).Wakes c reason → s.Wakes c reason) :
    ∃ w', (t.wake fits).watches[watch]? = some w' ∧ Heeds (t.wake fits) c w' ∧
      ∀ reason, w.released = some reason → w'.released = some reason := by
  have isAfter : (t.wake fits).watches[watch]? =
      some (if fits w then { w with woken := true } else w) := by
    simp [Contexts.wake, watches, isWatch]
  have exist := Nat.lt_of_lt_of_le heeds.exist later.tokens
  have reported (reason : Error) (isReport : w.released = some reason) :
      (t.wake fits).Wakes c reason := later.wakes (heeds.reported reason isReport)
  cases fit : fits w with
  | true =>
    rw [fit, if_pos rfl] at isAfter
    exact ⟨_, isAfter,
      ⟨heeds.token, heeds.deadline, exist, reported, fun asleep => by cases asleep⟩, fun _ => id⟩
  | false =>
    rw [fit, if_neg Bool.false_ne_true] at isAfter
    exact ⟨w, isAfter, ⟨heeds.token, heeds.deadline, exist, reported, fun asleep silent reason =>
      heeds.alert asleep silent reason ∘ same fit reason⟩, fun _ => id⟩

theorem Heeds.look (heeds : Heeds s c w) (late : Bool) :
    Heeds s c (w.look s.now (s.isCanceled w.token) late) := by
  unfold Watch.look
  split
  case isFalse => exact heeds
  case isTrue =>
    refine ⟨heeds.token, heeds.deadline, heeds.exist, fun reason isReport => ?_, fun _ silent => ?_⟩
    · rw [heeds.token, heeds.deadline] at isReport
      obtain isReport | ⟨-, found⟩ := Option.or_eq_some_iff.mp isReport
      · exact heeds.reported reason isReport
      · exact wakes_of_wakeReason found
    · rw [heeds.token, heeds.deadline] at silent
      exact wakeReason_eq_none_iff.mp (Option.or_eq_none_iff.mp silent).2

theorem released_look (isReport : w.released = some reason) (now : Nat) (canceled late : Bool) :
    (w.look now canceled late).released = some reason := by
  unfold Watch.look
  split <;> simp [isReport]

/-- What a watch is after a step: it heeds its context, and what it has reported stays. -/
theorem Turn.heeds (turn : Turn s action t) (isWatch : s.watches[watch]? = some w)
    (heeds : Heeds s c w) :
    ∃ w', t.watches[watch]? = some w' ∧ Heeds t c w' ∧
      ∀ reason, w.released = some reason → w'.released = some reason := by
  have later := turn.later
  cases turn with
  | created | shared =>
    refine ⟨w, isWatch, heeds.rest later fun reason wakes => ?_, fun _ => id⟩
    refine wakes.later (Nat.le_refl _) fun canceled => ?_
    exact (canceled.symm.trans (isCanceled_of_append rfl heeds.exist)).symm
  | cloned | changed => exact ⟨w, isWatch, heeds.rest later fun _ => id, fun _ => id⟩
  | watched =>
    have inside := (List.getElem?_eq_some_iff.mp isWatch).1
    exact ⟨w, (List.getElem?_append_left inside).trans isWatch, heeds.rest later fun _ => id,
      fun _ => id⟩
  | canceled | canceledShared =>
    refine heeds.wake isWatch rfl later fun unfit reason wakes => ?_
    rw [heeds.token, decide_eq_false_iff_not] at unfit
    refine wakes.later (Nat.le_refl _) fun canceled => ?_
    simpa [Ne.symm unfit] using (isCanceled_cancelToken _ _ _).symm.trans canceled
  | @advanced time =>
    refine heeds.wake isWatch rfl later fun unfit reason wakes => ?_
    rw [heeds.deadline] at unfit
    cases reason with
    | deadlineExceeded =>
      have served : c.deadline.any (Clock.servedAt · ≤ s.now + time) = true := any_served_iff.mpr wakes
      exact absurd (served.symm.trans unfit) (by decide)
    | _ => exact wakes
  | @looked late =>
    refine ⟨w.look s.now (s.isCanceled w.token) (late.contains watch), ?_,
      (heeds.look _).rest later fun _ => id, fun reason isReport => released_look isReport _ _ _⟩
    simp [look, isWatch]

/-- A watch that is not about to look has reported if and only if it would find a reason. -/
theorem Heeds.released_iff (heeds : Heeds s c w) (asleep : w.woken = false) :
    w.released ≠ none ↔ ∃ reason, s.Wakes c reason := by
  constructor
  · intro reports
    obtain ⟨reason, isReport⟩ := Option.ne_none_iff_exists'.mp reports
    exact ⟨reason, heeds.reported reason isReport⟩
  · rintro ⟨reason, wakes⟩ silent
    exact heeds.alert asleep silent reason wakes

/-- Where one reason may be found alone it is the one that is reported. -/
theorem Heeds.alone (heeds : Heeds s c w) (asleep : w.woken = false) {reason : Error}
    (wakes : s.Wakes c reason) (alone : ∀ other, s.Wakes c other → other = reason) :
    w.released = some reason := by
  have reports := (heeds.released_iff asleep).mpr ⟨reason, wakes⟩
  obtain ⟨found, isReport⟩ := Option.ne_none_iff_exists'.mp reports
  exact alone found (heeds.reported found isReport) ▸ isReport

theorem endOf_alone {reason : Error} (ends : s.Ends c reason)
    (alone : ∀ other, s.Ends c other → other = reason) : s.endOf c = some reason := by
  obtain ⟨found, isEnd⟩ := Option.ne_none_iff_exists'.mp (endOf_ne_none_iff.mpr ⟨reason, ends⟩)
  exact alone found (ends_of_endOf isEnd) ▸ isEnd

/-- Who asks and who waits agree on a context that was canceled, and else if the deadline has both
passed and been served, or neither. -/
theorem wakes_iff_ends :
    ((∃ reason, s.Wakes c reason) ↔ s.endOf c ≠ none) ↔
      s.isCanceled c.token = true ∨
        ∀ time, c.deadline = some time → (Clock.servedAt time ≤ s.now ↔ time ≤ s.now) := by
  have served : (∃ reason, s.Wakes c reason) ↔ s.isCanceled c.token = true ∨
      ∃ time, c.deadline = some time ∧ Clock.servedAt time ≤ s.now := by
    constructor
    · rintro ⟨reason, wakes⟩
      cases reason with
      | canceled => exact .inl wakes
      | deadlineExceeded => exact .inr wakes
      | _ => exact wakes.elim
    · rintro (canceled | served)
      · exact ⟨.canceled, canceled⟩
      · exact ⟨.deadlineExceeded, served⟩
  have passed : s.endOf c ≠ none ↔ s.isCanceled c.token = true ∨ c.IsDue s.now := by
    rw [ne_eq, endOf_eq_none_iff, not_and_or, not_not, Bool.not_eq_false]
  rw [served, passed, Context.IsDue]
  by_cases canceled : s.isCanceled c.token = true
  · simp [canceled]
  · cases c.deadline <;> simp [canceled]

/-- Within the range of the timer whoever waits is told no sooner than whoever asks, and less than a tick
later. On whole ticks both are told at once. -/
theorem wakes_after_ends
    (inRange : ∀ time, c.deadline = some time → time ≤ Clock.lastTick * Clock.tick) :
    ((∃ reason, s.Wakes c reason) → s.endOf c ≠ none) ∧
    (∀ time, c.deadline = some time → time + Clock.tick ≤ s.now → ∃ reason, s.Wakes c reason) ∧
    ((∀ time, c.deadline = some time → Clock.tick ∣ time) →
      ((∃ reason, s.Wakes c reason) ↔ s.endOf c ≠ none)) := by
  refine ⟨?_, fun time isDeadline passed => ?_, fun whole => wakes_iff_ends.mpr (.inr ?_)⟩
  · rintro ⟨reason, wakes⟩
    refine endOf_ne_none_iff.mpr ⟨reason, ?_⟩
    cases reason with
    | deadlineExceeded =>
      obtain ⟨time, isDeadline, served⟩ := wakes
      exact ⟨time, isDeadline, Nat.le_trans (Clock.le_servedAt (inRange time isDeadline)) served⟩
    | _ => exact wakes
  · have served := Nat.le_trans (Nat.le_of_lt (Clock.servedAt_lt time)) passed
    exact ⟨.deadlineExceeded, time, isDeadline, served⟩
  · intro time isDeadline
    rw [Clock.servedAt_of_dvd (inRange time isDeadline) (whole time isDeadline)]

/-- What every step keeps of a watch a history keeps. -/
theorem Heeds.follow (heeds : Heeds t c w) (isWatch : t.watches[watch]? = some w)
    (follows : t.follow actions = some u) :
    ∃ w', u.watches[watch]? = some w' ∧ Heeds u c w' ∧
      ∀ reason, w.released = some reason → w'.released = some reason := by
  refine follow_induction (P := fun u => ∃ w', u.watches[watch]? = some w' ∧ Heeds u c w' ∧
      ∀ reason, w.released = some reason → w'.released = some reason)
    (fun s t action holds turn => ?_) follows ⟨w, isWatch, heeds, fun _ => id⟩
  obtain ⟨w', isBefore, heeds, stays⟩ := holds
  obtain ⟨w'', isAfter, heeds, stays'⟩ := turn.heeds isBefore heeds
  exact ⟨w'', isAfter, heeds, fun reason isReport => stays' reason (stays reason isReport)⟩

/-- Whether a watch began to wait for a context in a history. -/
def Awaits (history : List Action) (watch : Nat) (c : Context) : Prop :=
  ∃ before place after s, history = before ++ .watch place :: after ∧ follow {} before = some s ∧
    s.contexts[place]? = some c ∧ s.watches.length = watch

theorem Awaits.heeds (awaits : Awaits history watch c) (follows : follow {} history = some t) :
    ∃ w, t.watches[watch]? = some w ∧ Heeds t c w := by
  obtain ⟨before, place, after, s, rfl, first, isContext, rfl⟩ := awaits
  rw [follow_append, first, Option.bind_some, follow] at follows
  obtain ⟨m, made, rest⟩ := Option.bind_eq_some_iff.mp follows
  cases step_turn made with
  | watched isWatched =>
    obtain rfl := Option.some.inj (isWatched.symm.trans isContext)
    have exist := (traced_follow first).exist place _ isContext
    have begins := (heeds_begin exist).rest (step_turn made).later fun _ => id
    obtain ⟨w, isWatch, heeds, -⟩ := begins.follow List.getElem?_concat_length rest
    exact ⟨w, isWatch, heeds⟩

/-! ### Deadlines -/

/-- Whether the context at a place comes from one that was made at some time, and by which
changes. -/
def Founded (history : List Action) (t : Contexts) (place : Nat) (spec : CallerSpec) (start : Nat)
    (changes : List (Nat × Change)) : Prop :=
  ∃ before after s, history = before ++ .create spec :: after ∧ follow {} before = some s ∧
    s.now = start ∧ Descends (s.create spec) s.contexts.length after t place changes

theorem exists_founded (follows : follow {} history = some t)
    (isContext : t.contexts[place]? = some d) :
    ∃ spec start changes, Founded history t place spec start changes := by
  induction history using List.reverseRecOn generalizing t place d with
  | nil =>
    cases follows
    cases isContext
  | append_singleton history action ih =>
    obtain ⟨s, earlier, turn⟩ := turn_of_follow_concat follows
    obtain ⟨spec, rfl, rfl, -, -⟩ | ⟨origin, b, made, isOld, passes, -⟩ :=
      turn.context_cases isContext
    · cases turn
      exact ⟨spec, s.now, [], history, [], s, rfl, earlier, rfl, .refl (by simp [create])⟩
    · obtain ⟨spec, start, changes, before, after, s', rfl, first, isStart, descends⟩ :=
        ih earlier isOld
      exact ⟨spec, start, changes ++ made, before, after ++ [action], s', by simp, first, isStart,
        descends.step turn passes⟩

theorem Founded.deadline_eq {spec : CallerSpec} {start : Nat} {changes : List (Nat × Change)}
    (founded : Founded history t place spec start changes)
    (isContext : t.contexts[place]? = some d) :
    d.deadline = ((spec.timeout.map (start + ·)).toList ++ Change.limits changes).min? := by
  obtain ⟨before, after, s, -, -, rfl, descends⟩ := founded
  have derived := descends.derives List.getElem?_concat_length
  obtain rfl := Option.some.inj (derived.symm.trans isContext)
  exact Context.deadline_deriveAll _ _

theorem isSettled_look (s : Contexts) (late : List Nat) : (s.look late).isSettled = true := by
  rw [isSettled, List.all_eq_true]
  intro w isWatch
  obtain ⟨place, inside, rfl⟩ := List.mem_mapIdx.mp isWatch
  unfold Watch.look
  split
  · rfl
  · simp [*]

theorem asleep_of_settled (settled : t.isSettled = true) (isWatch : t.watches[watch]? = some w) :
    w.woken = false := by
  have asleep := List.all_eq_true.mp settled w (List.mem_of_getElem? isWatch)
  simpa using asleep

/-- What is canceled was canceled by an operation of the history. -/
theorem isCanceled_iff (follows : follow {} history = some t) (token : Nat) :
    t.isCanceled token = true ↔ ∃ before action after s, history = before ++ action :: after ∧
      follow {} before = some s ∧ Cancels s token action := by
  induction history using List.reverseRecOn generalizing t with
  | nil =>
    cases follows
    simp [isCanceled]
  | append_singleton history action ih =>
    obtain ⟨s, earlier, turn⟩ := turn_of_follow_concat follows
    have traced := traced_follow earlier
    rw [turn.isCanceled_iff traced.exist traced.shared, ih earlier]
    constructor
    · rintro (⟨before, other, after, r, rfl, first, cancels⟩ | cancels)
      · exact ⟨before, other, after ++ [action], r, by simp, first, cancels⟩
      · exact ⟨history, action, [], s, rfl, earlier, cancels⟩
    · rintro ⟨before, other, after, r, same, first, cancels⟩
      obtain rfl | ⟨after, last, rfl⟩ := after.eq_nil_or_concat
      · obtain ⟨rfl, rfl⟩ : history = before ∧ action = other := by simpa using same
        obtain rfl := Option.some.inj (first.symm.trans earlier)
        exact .inr cancels
      · have whole : history ++ [action] = (before ++ other :: after) ++ [last] := by simp [same]
        obtain ⟨rfl, -⟩ := List.append_inj' whole rfl
        exact .inl ⟨before, other, after, r, rfl, first, cancels⟩

/-- The deadline of a context is the earliest of those that were applied since the context was made that
it comes from, and a token is canceled if an operation has canceled it. Whoever asks learns that a
context has ended as soon as its token is canceled or the clock has come to its deadline. Whoever waits
learns a reason only if the token is canceled or the timer has served the deadline, and when nobody is
about to look it has learned one then; it is the one that holds, if one holds alone. So the two agree
when nobody is about to look, except on a deadline that has passed and not been served or been served
and not passed. Nobody is about to look after a look. A context that has ended has done so for good, and
what a watch has reported stays. -/
theorem ends_are_noticed (follows : follow {} history = some t) :
    (∀ place d, t.contexts[place]? = some d →
      (∃ spec start changes, Founded history t place spec start changes) ∧
      ∀ spec start changes, Founded history t place spec start changes →
        d.deadline = ((spec.timeout.map (start + ·)).toList ++ Change.limits changes).min?) ∧
    (∀ token, t.isCanceled token = true ↔ ∃ before action after s,
      history = before ++ action :: after ∧ follow {} before = some s ∧ Cancels s token action) ∧
    (∀ c, (t.endOf c ≠ none ↔ ∃ reason, t.Ends c reason) ∧
      ∀ reason, t.Ends c reason → (∀ other, t.Ends c other → other = reason) →
        t.endOf c = some reason) ∧
    (∀ watch c, Awaits history watch c → ∃ w, t.watches[watch]? = some w ∧
      (∀ reason, w.released = some reason → t.Wakes c reason) ∧
      (t.isSettled = true →
        (w.released ≠ none ↔ ∃ reason, t.Wakes c reason) ∧
        (∀ reason, t.Wakes c reason → (∀ other, t.Wakes c other → other = reason) →
          w.released = some reason) ∧
        ((w.released ≠ none ↔ t.endOf c ≠ none) ↔ t.isCanceled c.token = true ∨
          ∀ time, c.deadline = some time → (Clock.servedAt time ≤ t.now ↔ time ≤ t.now))) ∧
      ∀ reason later u, w.released = some reason → t.follow later = some u →
        ∃ w', u.watches[watch]? = some w' ∧ w'.released = some reason) ∧
    (∀ late, (t.look late).isSettled = true) ∧
    ∀ c later u, t.endOf c ≠ none → t.follow later = some u → u.endOf c ≠ none := by
  refine ⟨fun place d isContext => ⟨exists_founded follows isContext, fun _ _ _ founded =>
    founded.deadline_eq isContext⟩, isCanceled_iff follows,
    fun c => ⟨endOf_ne_none_iff, fun _ => endOf_alone⟩, fun watch c awaits => ?_,
    t.isSettled_look, fun c later u ended rest => (later_of_follow rest).endOf ended⟩
  obtain ⟨w, isWatch, heeds⟩ := awaits.heeds follows
  refine ⟨w, isWatch, heeds.reported, fun settled => ?_, fun reason later u isReport rest => ?_⟩
  · have asleep := asleep_of_settled settled isWatch
    have released := heeds.released_iff asleep
    refine ⟨released, fun reason wakes alone => heeds.alone asleep wakes alone, ?_⟩
    rw [released]
    exact wakes_iff_ends
  · obtain ⟨w', isAfter, -, stays⟩ := heeds.follow isWatch rest
    exact ⟨w', isAfter, stays reason isReport⟩

/-- A watch on a context whose deadline is between two ticks, and another one on a clone that is linked
to a token. The token is canceled between the deadline and the tick after it. -/
def waiting : List Action :=
  [.create { timeout := some 1500000 }, .share, .watch 0, .clone 0, .change 1 (.link 1), .watch 1,
    .look [], .advance 1700000, .cancelShared 0, .look [0]]

theorem ends_are_noticed_between_ticks :
    ∃ t v w, follow {} waiting = some t ∧ t.isSettled = true ∧
      Awaits waiting 0 { token := 0, deadline := some 1500000 } ∧
      Awaits waiting 1 { token := 1, deadline := some 1500000 } ∧
      t.watches[0]? = some v ∧ v.released = none ∧
      t.watches[1]? = some w ∧ w.released = some .canceled := by
  have facts : (follow {} waiting).map (fun t => (t.isSettled, t.now, t.isCanceled 0)) =
      some (true, 1700000, false) := by decide +kernel
  obtain ⟨t, follows, facts⟩ := Option.map_eq_some_iff.mp facts
  simp only [Prod.mk.injEq] at facts
  obtain ⟨settled, now, uncanceled⟩ := facts
  have first : Awaits waiting 0 { token := 0, deadline := some 1500000 } :=
    ⟨[.create { timeout := some 1500000 }, .share], 0, _, _, rfl, rfl, rfl, rfl⟩
  have second : Awaits waiting 1 { token := 1, deadline := some 1500000 } :=
    ⟨[.create { timeout := some 1500000 }, .share, .watch 0, .clone 0, .change 1 (.link 1)], 1, _,
      _, rfl, rfl, rfl, rfl⟩
  obtain ⟨-, tokens, -, watches, -⟩ := ends_are_noticed follows
  obtain ⟨v, isFirst, -, agree, -⟩ := watches 0 _ first
  obtain ⟨w, isSecond, -, agree', -⟩ := watches 1 _ second
  have late : ¬ ∃ time, some 1500000 = some time ∧ Clock.servedAt time ≤ t.now := by
    rintro ⟨time, isDeadline, served⟩
    cases isDeadline
    rw [now] at served
    exact absurd served (by decide)
  have canceled : t.isCanceled 1 = true := (tokens 1).mpr
    ⟨waiting.take 8, .cancelShared 0, [.look [0]], _, rfl, rfl, rfl⟩
  refine ⟨t, v, w, follows, settled, first, second, isFirst, ?_, isSecond, ?_⟩
  · by_contra reports
    obtain ⟨reason, wakes⟩ := (agree settled).1.mp reports
    cases reason with
    | canceled => exact absurd (uncanceled.symm.trans wakes) Bool.false_ne_true
    | deadlineExceeded => exact late wakes
    | _ => exact wakes
  · refine (agree' settled).2.1 .canceled canceled fun other wakes => ?_
    cases other with
    | canceled => rfl
    | deadlineExceeded => exact absurd wakes late
    | _ => exact wakes.elim

/-- Half a tick after it was made a context with a timeout of half a tick has ended for one who asks, and
one who waits has not been told. After the last tick it is the other way round, whatever the timeout. -/
theorem asking_and_waiting_disagree :
    (∃ t w, follow {} [.create { timeout := some 500000 }, .watch 0, .look [], .advance 500000,
        .look []] = some t ∧ t.isSettled = true ∧ t.watches[0]? = some w ∧
      t.ended? 0 = some .deadlineExceeded ∧ w.released = none) ∧
    ∃ t w, follow {} [.advance (Clock.lastTick * Clock.tick), .create { timeout := some 1000000000 },
        .watch 0, .look []] = some t ∧ t.isSettled = true ∧ t.watches[0]? = some w ∧
      t.ended? 0 = none ∧ w.released = some .deadlineExceeded :=
  ⟨⟨_, _, rfl, by decide +kernel, rfl, by decide +kernel, by decide +kernel⟩,
    _, _, rfl, by decide +kernel, rfl, by decide +kernel, by decide +kernel⟩

end Contexts

end TelemetryStreams
