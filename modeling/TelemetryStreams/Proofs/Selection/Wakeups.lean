import TelemetryStreams.Proofs.Prioritizer
import TelemetryStreams.Proofs.Selection.Turns
import Mathlib.Data.List.Perm.Basic

/-!
# Wake-ups

A stream that becomes ready notifies one caller, and a caller that leaves without having looked hands
its notification on. So while somebody waits without a notification there are at least as many notified
callers as ready streams (`Prioritizer.Matched`), and a caller that waits in a state in which nobody can
move waits because there is no stream (`wakeups_are_not_lost`). After a downgrade there is no stream any
more, and every caller is turned away when it is its turn.
-/
namespace TelemetryStreams

namespace Prioritizer

def callers (p : Prioritizer) : List Nat := p.waiting ++ p.notified

/-- While somebody waits, all ready streams but some have a notified caller each. -/
def Matched (p : Prioritizer) (slack : Nat) : Prop :=
  p.waiting ≠ [] → p.ready.length ≤ p.notified.length + slack

/-- What every operation keeps. -/
structure Alert (p : Prioritizer) : Prop where
  matched : p.Matched 0
  closed : p.downgraded = true → p.ready = []

variable {p : Prioritizer} {caller stream : Nat}

/-! ### Notifications -/

/-- A notification makes up for one stream. -/
theorem Matched.notifyOne (matched : p.Matched 1) : p.notifyOne.Matched 0 := by
  unfold Prioritizer.notifyOne
  split
  case h_1 none => exact fun some => absurd none some
  case h_2 first others waiting =>
    intro _
    have bound := matched (by rw [waiting]; nofun)
    simpa using bound

theorem notifyOne_callers (p : Prioritizer) : p.notifyOne.callers.Perm p.callers := by
  unfold Prioritizer.notifyOne callers
  split
  case h_1 => exact List.Perm.refl _
  case h_2 first others waiting =>
    rw [waiting, ← List.append_assoc]
    exact List.perm_append_singleton first _

theorem Alert.notifyOne (matched : p.Matched 1) (closed : p.downgraded = true → p.ready = []) :
    p.notifyOne.Alert := by
  refine ⟨matched.notifyOne, ?_⟩
  unfold Prioritizer.notifyOne
  split <;> exact closed

/-- Whoever is notified may be taken back at the cost of one notification. -/
theorem Alert.unnotified (alert : p.Alert) (notified : caller ∈ p.notified) :
    ({ p with notified := p.notified.erase caller } : Prioritizer).Matched 1 := by
  intro waits
  have bound := alert.matched waits
  have size := List.length_erase_of_mem notified
  have some := List.length_pos_of_mem notified
  simp only
  omega

theorem erase_notified_perm (notified : caller ∈ p.notified) :
    ({ p with notified := p.notified.erase caller } : Prioritizer).callers.Perm
      (p.callers.erase caller) := by
  unfold callers
  rw [List.perm_iff_count]
  intro other
  have once := List.count_pos_iff.mpr notified
  simp only [List.count_append, List.count_erase]
  split
  case isTrue same =>
    have same : caller = other := by simpa using same
    subst same
    omega
  case isFalse => omega

/-! ### Operations -/

theorem Alert.setReady (alert : p.Alert) (stream : Nat) : (p.setReady stream).Alert := by
  unfold Prioritizer.setReady
  split
  case isTrue => exact alert
  case isFalse accepted =>
    have bound := alert.matched
    refine Alert.notifyOne (fun waits => ?_) fun closed => absurd (.inl closed) accepted
    simpa using bound waits

theorem setReady_callers (p : Prioritizer) (stream : Nat) :
    (p.setReady stream).callers.Perm p.callers := by
  unfold Prioritizer.setReady
  split
  · exact List.Perm.refl _
  · exact notifyOne_callers _

theorem Alert.removeReady (alert : p.Alert) (stream : Nat) : (p.removeReady stream).Alert := by
  refine ⟨fun waits => ?_, fun closed => ?_⟩
  · exact Nat.le_trans (List.length_filter_le _ _) (alert.matched waits)
  · simp [Prioritizer.removeReady, alert.closed closed]

theorem alert_downgrade (p : Prioritizer) : p.downgrade.Alert :=
  ⟨fun _ => Nat.zero_le _, fun _ => rfl⟩

/-- A look takes a stream, or there is none: one stream more than matched is fine before it. -/
theorem Alert.look (matched : p.Matched 1) (closed : p.downgraded = true → p.ready = [])
    (caller : Nat) : (p.look caller).2.Alert := by
  unfold Prioritizer.look
  split
  case h_1 stream others ready =>
    refine ⟨fun waits => ?_, fun down => ?_⟩
    · have bound := matched waits
      rw [ready, List.length_cons] at bound
      exact Nat.le_of_succ_le_succ bound
    · have none := closed down
      rw [ready] at none
      cases none
  case h_2 none =>
    split
    · exact ⟨fun _ => by simp [none], fun _ => none⟩
    · exact ⟨fun _ => by simp [none], fun _ => none⟩

/-- Exactly a caller that finds nothing is one that waits afterwards. -/
theorem look_callers (p : Prioritizer) (caller : Nat) :
    (p.look caller).2.callers.Perm
      (if (p.look caller).1 = .nothing then caller :: p.callers else p.callers) := by
  unfold Prioritizer.look callers
  split
  case h_1 => exact List.Perm.refl _
  case h_2 =>
    split
    case isTrue => exact List.Perm.refl _
    case isFalse =>
      simp only [if_true, List.append_assoc, List.singleton_append]
      exact List.perm_middle

theorem Alert.leave (alert : p.Alert) (caller : Nat) : (p.leave caller).Alert := by
  unfold Prioritizer.leave
  split
  case isTrue notified => exact Alert.notifyOne (alert.unnotified notified) alert.closed
  case isFalse =>
    refine ⟨fun waits => alert.matched fun none => waits ?_, alert.closed⟩
    simp [none]

theorem leave_callers (p : Prioritizer) (caller : Nat) :
    (p.leave caller).callers.Perm (p.callers.erase caller) := by
  unfold Prioritizer.leave
  split
  case isTrue notified => exact (notifyOne_callers _).trans (erase_notified_perm notified)
  case isFalse unnotified =>
    unfold callers
    by_cases waits : caller ∈ p.waiting
    · rw [List.erase_append_left _ waits]
    · rw [List.erase_append_right _ waits, List.erase_of_not_mem waits,
        List.erase_of_not_mem unnotified]

end Prioritizer

namespace Selection

variable {s t u : Selection} {action : Action} {actions more : List Action} {caller : Nat}
  {c d : Seeker}

/-! ### What every step keeps -/

/-- Whether the caller at a place has looked and found nothing. -/
def Waits (s : Selection) (caller : Nat) : Prop :=
  ∃ c, s.seekers[caller]? = some c ∧ c.phase = .waiting

/-- The prioritizer knows exactly the callers that wait, and matches them with the ready streams. -/
structure Watchful (s : Selection) : Prop where
  alert : s.prioritizer.Alert
  once : s.prioritizer.callers.Nodup
  knows : ∀ caller, caller ∈ s.prioritizer.callers ↔ s.Waits caller

theorem watchful_start : Watchful {} := by
  refine ⟨⟨fun _ => Nat.le_refl _, fun _ => rfl⟩, List.nodup_nil, fun caller => ?_⟩
  simp [Prioritizer.callers, Waits]

theorem Watchful.operates (watchful : Watchful s) {prioritizer : Prioritizer}
    (alert : prioritizer.Alert) (same : prioritizer.callers.Perm s.prioritizer.callers) :
    Watchful { s with prioritizer := prioritizer } :=
  ⟨alert, same.nodup_iff.mpr watchful.once, fun caller => same.mem_iff.trans (watchful.knows caller)⟩

theorem Watchful.frame (watchful : Watchful s) (prioritizer : t.prioritizer = s.prioritizer)
    (same : ∀ caller, t.Waits caller ↔ s.Waits caller) : Watchful t := by
  refine ⟨prioritizer ▸ watchful.alert, prioritizer ▸ watchful.once, fun caller => ?_⟩
  rw [prioritizer, same]
  exact watchful.knows caller

theorem Watchful.not_knows (watchful : Watchful s) (isSeeker : s.seekers[caller]? = some c)
    (idle : c.phase ≠ .waiting) : caller ∉ s.prioritizer.callers := by
  intro known
  obtain ⟨d, isSeeker', waits⟩ := (watchful.knows caller).mp known
  obtain rfl := Option.some.inj (isSeeker.symm.trans isSeeker')
  exact idle waits

/-- A caller takes its turn: the prioritizer knows the others as before, and this one if it waits. -/
theorem Watchful.turns {prioritizer : Prioritizer} {phase : Seeking} (watchful : Watchful s)
    (isSeeker : s.seekers[caller]? = some c) (alert : prioritizer.Alert)
    (known : prioritizer.callers.Perm (if phase = .waiting then
      caller :: s.prioritizer.callers.erase caller else s.prioritizer.callers.erase caller)) :
    Watchful { s with
      prioritizer := prioritizer
      seekers := s.seekers.modify caller fun c => { c with phase := phase } } := by
  have gone := watchful.once.not_mem_erase (a := caller)
  refine ⟨alert, known.nodup_iff.mpr ?_, fun other => known.mem_iff.trans ?_⟩
  · split
    · exact List.nodup_cons.mpr ⟨gone, watchful.once.erase caller⟩
    · exact watchful.once.erase caller
  · by_cases same : other = caller
    · subst same
      unfold Waits
      rw [setPhase_getElem? isSeeker]
      split
      case isTrue waits => simp [waits]
      case isFalse idle => simp [idle, gone]
    · have others : other ∈ s.prioritizer.callers.erase caller ↔ other ∈ s.prioritizer.callers :=
        List.mem_erase_of_ne same
      unfold Waits
      rw [modify_getElem?, if_neg (Ne.symm same)]
      refine Iff.trans ?_ (others.trans (watchful.knows other))
      split
      · simp [same]
      · rfl

theorem ofFind_waiting (find : Find) : ofFind find = .waiting ↔ find = .nothing := by
  cases find <;> simp [ofFind]

theorem Watchful.looks {before : Prioritizer} (watchful : Watchful s)
    (isSeeker : s.seekers[caller]? = some c) (matched : before.Matched 1)
    (closed : before.downgraded = true → before.ready = [])
    (known : before.callers.Perm (s.prioritizer.callers.erase caller)) :
    Watchful (s.found caller (before.look caller)) := by
  refine watchful.turns isSeeker (Prioritizer.Alert.look matched closed caller) ?_
  refine (before.look_callers caller).trans ?_
  by_cases nothing : (before.look caller).1 = .nothing
  · rw [if_pos nothing, if_pos ((ofFind_waiting _).mpr nothing)]
    exact known.cons caller
  · rw [if_neg nothing, if_neg fun waits => nothing ((ofFind_waiting _).mp waits)]
    exact known

theorem Watchful.leaves {result : Except Error (Option Nat)} (watchful : Watchful s)
    (isSeeker : s.seekers[caller]? = some c) : Watchful (s.left caller result) :=
  watchful.turns isSeeker (watchful.alert.leave caller) (s.prioritizer.leave_callers caller)

/-- Every step keeps the callers and the streams matched. -/
theorem Watchful.step (watchful : Watchful s) (turn : Turn s action t) : Watchful t := by
  cases turn with
  | readied => exact watchful.operates (watchful.alert.setReady _) (Prioritizer.setReady_callers _ _)
  | withdrawn => exact watchful.operates (watchful.alert.removeReady _) (List.Perm.refl _)
  | downgraded => exact watchful.operates (Prioritizer.alert_downgrade _) (List.Perm.refl _)
  | @arrived spec c arriving =>
    refine watchful.frame rfl fun caller => ?_
    simp only [Waits, List.getElem?_append]
    split
    case isTrue => rfl
    case isFalse outside =>
      have none : s.seekers[caller]? = none := List.getElem?_eq_none_iff.mpr (by omega)
      rw [none, List.getElem?_singleton]
      split <;> simp [arriving]
  | canceled =>
    refine watchful.frame rfl fun caller => ?_
    simp only [Waits, modify_getElem?]
    split
    case isTrue => cases s.seekers[caller]? <;> simp
    case isFalse => rfl
  | advanced => exact watchful.frame rfl fun _ => Iff.rfl
  | @looked caller c isSeeker arriving =>
    have unknown := watchful.not_knows isSeeker (by rw [arriving]; nofun)
    have matched : s.prioritizer.Matched 1 := fun waits =>
      Nat.le_succ_of_le (watchful.alert.matched waits)
    refine watchful.looks isSeeker matched watchful.alert.closed ?_
    rw [List.erase_of_not_mem unknown]
  | lookedAgain isSeeker waiting notified =>
    exact watchful.looks isSeeker (watchful.alert.unnotified notified) watchful.alert.closed
      (Prioritizer.erase_notified_perm notified)
  | dismissed isSeeker => exact watchful.leaves isSeeker
  | gaveUp isSeeker => exact watchful.leaves isSeeker

theorem watchful_follow (follows : follow {} actions = some s) : Watchful s :=
  follow_induction (fun _ _ _ watchful turn => watchful.step turn) follows watchful_start

/-! ### Settled states -/

theorem perform_eq_none (settled : system.isSettled s = true) (isSeeker : s.seekers[caller]? = some c)
    (own : action ∈ system.moves s caller) : s.perform action = none := by
  have inside := (List.getElem?_eq_some_iff.mp isSeeker).1
  have still := List.all_eq_true.mp settled caller (List.mem_range.mpr inside)
  have stuck : system.next? s caller = none := by
    simpa [System.canMove] using still
  exact List.findSome?_eq_none_iff.mp stuck action own

theorem waits_of_settled (settled : system.isSettled s = true) (isSeeker : s.seekers[caller]? = some c)
    (pending : c.IsPending) : c.phase = .waiting ∧ caller ∉ s.prioritizer.notified ∧
      s.prioritizer.downgraded = false ∧ ∀ reason, ¬ c.EndedBy s.now reason := by
  have stuck (action : Action) (own : action ∈ system.moves s caller) :=
    perform_eq_none settled isSeeker own
  have looks := stuck (.look caller) (by simp [system])
  have again := stuck (.lookAgain caller) (by simp [system])
  have dismissed := stuck (.dismiss caller) (by simp [system])
  have givesUp := stuck (.giveUp caller false) (by simp [system])
  cases phase : c.phase with
  | arriving => simp [perform, isSeeker, phase] at looks
  | done result => exact absurd phase (pending result)
  | waiting =>
    refine ⟨rfl, fun notified => ?_, ?_, ?_⟩
    · simp [perform, isSeeker, phase, notified] at again
    · simpa [perform, isSeeker, phase] using dismissed
    · have live : wakeReason s.now c.canceled false c.deadline = none := by
        refine Option.eq_none_iff_forall_ne_some.mpr fun reason ended => ?_
        simp [perform, isSeeker, phase, ended] at givesUp
      exact wakeReason_eq_none_iff.mp live

/-- Whoever waits in a settled state waits for lack of a stream. -/
theorem Watchful.ready_eq_nil (watchful : Watchful s) (settled : system.isSettled s = true)
    (isSeeker : s.seekers[caller]? = some c) (pending : c.IsPending) : s.prioritizer.ready = [] := by
  -- Every notified caller could move, so there is none, and the streams are matched with the notified.
  have none : s.prioritizer.notified = [] := by
    refine List.eq_nil_iff_forall_not_mem.mpr fun other notified => ?_
    have known : other ∈ s.prioritizer.callers := List.mem_append_right _ notified
    obtain ⟨d, isOther, waits⟩ := (watchful.knows other).mp known
    have undone : d.IsPending := fun result done => by rw [waits] at done; cases done
    exact (waits_of_settled settled isOther undone).2.1 notified
  have waits := (waits_of_settled settled isSeeker pending).1
  have known := (watchful.knows caller).mpr ⟨c, isSeeker, waits⟩
  unfold Prioritizer.callers at known
  rw [none, List.append_nil] at known
  have bound := watchful.alert.matched (List.ne_nil_of_mem known)
  rw [none] at bound
  exact List.eq_nil_of_length_eq_zero (Nat.le_zero.mp bound)

/-! ### After a downgrade -/

/-- Whether a caller was turned away: there is no stream any more, or its own context has ended. -/
def TurnedAway (s : Selection) (caller : Nat) : Prop :=
  ∃ c, s.seekers[caller]? = some c ∧ (c.phase = .done (.ok none) ∨
    ∃ reason, c.phase = .done (.error reason) ∧ c.EndedBy s.now reason)

theorem TurnedAway.step (away : s.TurnedAway caller) (turn : Turn s action t) :
    t.TurnedAway caller := by
  obtain ⟨c, isSeeker, result⟩ := away
  obtain ⟨⟨d, isSeeker', keeps⟩, order⟩ := turn.kept isSeeker
  refine ⟨d, isSeeker', result.imp (keeps.result _) ?_⟩
  exact fun ⟨reason, done, ended⟩ => ⟨reason, keeps.result _ done, keeps.endedBy order ended⟩

theorem turnedAway_setPhase {prioritizer : Prioritizer} {result : Except Error (Option Nat)}
    (isSeeker : s.seekers[caller]? = some c)
    (away : result = .ok none ∨ ∃ reason, result = .error reason ∧ c.EndedBy s.now reason) :
    TurnedAway { s with
      prioritizer := prioritizer
      seekers := s.seekers.modify caller fun c => { c with phase := .done result } } caller := by
  refine ⟨_, setPhase_getElem? isSeeker, ?_⟩
  obtain rfl | ⟨reason, rfl, ended⟩ := away
  · exact .inl rfl
  · exact .inr ⟨reason, rfl, ended⟩

theorem Turn.stays_downgraded (turn : Turn s action t) (downgraded : s.prioritizer.downgraded = true) :
    t.prioritizer.downgraded = true := by
  cases turn with
  | readied => exact (Prioritizer.downgraded_setReady _ _).trans downgraded
  | withdrawn | arrived | canceled | advanced => exact downgraded
  | downgraded => rfl
  | looked | lookedAgain => exact (Prioritizer.downgraded_look _ _).trans downgraded
  | dismissed | gaveUp => exact (Prioritizer.agrees_leave _ _).downgraded.trans downgraded

/-- After a downgrade whoever takes its turn is turned away. -/
theorem Watchful.turnsAway (watchful : Watchful s) (downgraded : s.prioritizer.downgraded = true)
    (turn : Turn s action t) (own : action ∈ system.moves s caller) : t.TurnedAway caller := by
  have looks {c : Seeker} {before : Prioritizer} (isSeeker : s.seekers[caller]? = some c)
      (same : before.Agrees s.prioritizer) :
      (s.found caller (before.look caller)).TurnedAway caller := by
    have empty : before.ready = [] := same.ready.trans (watchful.alert.closed downgraded)
    have found : (before.look caller).1 = .downgraded := by
      simp [Prioritizer.look, empty, same.downgraded.trans downgraded]
    unfold Selection.found
    rw [found]
    exact turnedAway_setPhase isSeeker (.inl rfl)
  simp only [system, List.mem_cons, List.not_mem_nil, or_false] at own
  cases turn with
  | readied | withdrawn | downgraded | arrived | canceled | advanced => simp at own
  | looked isSeeker =>
    obtain rfl : _ = caller := by simpa using own
    exact looks isSeeker ⟨rfl, rfl⟩
  | lookedAgain isSeeker =>
    obtain rfl : _ = caller := by simpa using own
    exact looks isSeeker ⟨rfl, rfl⟩
  | dismissed isSeeker =>
    obtain rfl : _ = caller := by simpa using own
    exact turnedAway_setPhase isSeeker (.inl rfl)
  | @gaveUp other _ _ late isSeeker waiting ended =>
    obtain rfl : other = caller := by cases late <;> simpa using own
    exact turnedAway_setPhase isSeeker (.inr ⟨_, rfl, ended⟩)

theorem exists_turn (downgraded : s.prioritizer.downgraded = true)
    (isSeeker : s.seekers[caller]? = some c) (pending : c.IsPending) :
    ∃ t, system.next? s caller = some t := by
  refine Option.isSome_iff_exists.mp (Option.isSome_iff_ne_none.mpr fun stuck => ?_)
  have none (action : Action) (own : action ∈ system.moves s caller) :=
    List.findSome?_eq_none_iff.mp stuck action own
  cases phase : c.phase with
  | arriving =>
    have looks := none (.look caller) (by simp [system])
    simp [system, perform, isSeeker, phase] at looks
  | waiting =>
    have dismissed := none (.dismiss caller) (by simp [system])
    simp [system, perform, isSeeker, phase, downgraded] at dismissed
  | done result => exact pending result phase

/-- What there is to say of a state after a downgrade: a caller has its result from before, or has none
yet, or was turned away. -/
structure Closed (s t : Selection) : Prop where
  downgraded : t.prioritizer.downgraded = true
  empty : t.prioritizer.ready = []
  refuses : ∀ caller c, t.seekers[caller]? = some c → c.IsPending ∨ t.TurnedAway caller ∨
    ∃ before result, s.seekers[caller]? = some before ∧ before.phase = .done result ∧
      c.phase = .done result

theorem closed_self (watchful : Watchful s) (downgraded : s.prioritizer.downgraded = true) :
    Closed s s := by
  refine ⟨downgraded, watchful.alert.closed downgraded, fun caller c isSeeker => ?_⟩
  by_cases pending : c.IsPending
  · exact .inl pending
  · unfold Seeker.IsPending at pending
    push Not at pending
    obtain ⟨result, done⟩ := pending
    exact .inr (.inr ⟨c, result, isSeeker, done, done⟩)

theorem Closed.step (watchful : Watchful t) (closed : Closed s t) (turn : Turn t action u) :
    Closed s u := by
  have downgraded := turn.stays_downgraded closed.downgraded
  refine ⟨downgraded, (watchful.step turn).alert.closed downgraded, fun caller d isSeeker => ?_⟩
  obtain own | arriving | ⟨c, isBefore, phase⟩ := turn.phase_cases isSeeker
  · exact .inr (.inl (watchful.turnsAway closed.downgraded turn own))
  · exact .inl fun result done => by rw [arriving] at done; cases done
  · obtain pending | away | ⟨before, result, isFirst, done, kept⟩ := closed.refuses caller c isBefore
    · exact .inl fun result done => pending result (phase.symm.trans done)
    · exact .inr (.inl (away.step turn))
    · exact .inr (.inr ⟨before, result, isFirst, done, phase.trans kept⟩)

/-- No wake-up is lost: in a settled state only a caller with a live context has no result, and only if no
stream is ready and the prioritizer is not downgraded. After a downgrade no stream is ready any more, and
every caller that has no result by then has a turn left, by which it learns that there is no stream or
returns with the end of its own context; none gets a stream. -/
theorem wakeups_are_not_lost (follows : follow {} actions = some s) :
    (system.isSettled s = true →
      ∀ (caller : Nat) (c : Seeker), s.seekers[caller]? = some c → c.IsPending →
      s.prioritizer.ready = [] ∧ s.prioritizer.downgraded = false ∧
        ∀ reason, ¬ c.EndedBy s.now reason) ∧
    (s.prioritizer.downgraded = true → ∀ more t, s.follow more = some t →
      Closed s t ∧ ∀ (caller : Nat) (c : Seeker), t.seekers[caller]? = some c → c.IsPending →
        (∃ u, system.next? t caller = some u) ∧
        ∀ action ∈ system.moves t caller, ∀ u, t.perform action = some u → u.TurnedAway caller) := by
  have watchful := watchful_follow follows
  refine ⟨fun settled caller c isSeeker pending => ?_, fun downgraded more t continues => ?_⟩
  · obtain ⟨-, -, undowngraded, live⟩ := waits_of_settled settled isSeeker pending
    exact ⟨watchful.ready_eq_nil settled isSeeker pending, undowngraded, live⟩
  · have both : Watchful t ∧ Closed s t :=
      follow_induction (P := fun t => Watchful t ∧ Closed s t)
        (fun _ _ _ both turn => ⟨both.1.step turn, both.2.step both.1 turn⟩) continues
        ⟨watchful, closed_self watchful downgraded⟩
    obtain ⟨watchful, closed⟩ := both
    refine ⟨closed, fun caller c isSeeker pending => ?_⟩
    refine ⟨exists_turn closed.downgraded isSeeker pending, fun action own u made => ?_⟩
    exact watchful.turnsAway closed.downgraded (perform_turn made) own

/-- Two streams become ready while three callers wait, and the first of them leaves with its
notification, so that the third one is notified in its place. A fourth caller waits. -/
def handedOn : List Action :=
  [.arrive {}, .arrive {}, .arrive {}, .look 0, .look 1, .look 2, .setReady 7, .setReady 8,
    .cancel 0, .giveUp 0 false, .lookAgain 2, .lookAgain 1, .arrive {}, .look 3]

/-- The fourth caller waits as no stream is ready, and is turned away once the prioritizer is
downgraded. -/
theorem wakeups_are_not_lost_handed_on :
    (∃ s, follow {} handedOn = some s ∧ system.isSettled s = true ∧ s.prioritizer.ready = [] ∧
      s.seekers.map Seeker.phase =
        [.done (.error .canceled), .done (.ok (some 8)), .done (.ok (some 7)), .waiting]) ∧
    ∃ s t, follow {} (handedOn ++ [.downgrade]) = some s ∧ s.perform (.dismiss 3) = some t ∧
      t.TurnedAway 3 := by
  constructor
  · have facts : ((follow {} handedOn).bind fun s => s.seekers[3]?.map fun c =>
        (system.isSettled s, s.seekers.map Seeker.phase, c.phase)) =
        some (true, [Seeking.done (.error .canceled), .done (.ok (some 8)), .done (.ok (some 7)),
          .waiting], .waiting) := by decide +kernel
    obtain ⟨s, follows, facts⟩ := Option.bind_eq_some_iff.mp facts
    obtain ⟨c, isSeeker, facts⟩ := Option.map_eq_some_iff.mp facts
    simp only [Prod.mk.injEq] at facts
    obtain ⟨settled, phases, waiting⟩ := facts
    have pending : c.IsPending := fun result done => by rw [waiting] at done; cases done
    obtain ⟨ready, -, -⟩ := (wakeups_are_not_lost follows).1 settled 3 c isSeeker pending
    exact ⟨s, follows, settled, ready, phases⟩
  · have facts : ((follow {} (handedOn ++ [.downgrade])).bind fun s => s.seekers[3]?.bind fun c =>
        (s.perform (.dismiss 3)).map fun _ => (s.prioritizer.downgraded, c.phase)) =
        some (true, .waiting) := by decide +kernel
    obtain ⟨s, follows, facts⟩ := Option.bind_eq_some_iff.mp facts
    obtain ⟨c, isSeeker, facts⟩ := Option.bind_eq_some_iff.mp facts
    obtain ⟨t, made, facts⟩ := Option.map_eq_some_iff.mp facts
    simp only [Prod.mk.injEq] at facts
    obtain ⟨downgraded, waiting⟩ := facts
    have pending : c.IsPending := fun result done => by rw [waiting] at done; cases done
    obtain ⟨-, turns⟩ := (wakeups_are_not_lost follows).2 downgraded [] s rfl
    obtain ⟨-, away⟩ := turns 3 c isSeeker pending
    exact ⟨s, t, follows, made, away (.dismiss 3) (by simp [system]) t made⟩

end Selection

end TelemetryStreams
