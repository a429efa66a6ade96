import TelemetryStreams.Selection

/-!
# What a step of the callers can be

`Selection.Turn` lists the steps of the prioritizer and its callers, each with its action and the state
after it. Every step that is possible is in the list (`perform_turn`). A run performs steps in any order
(`Selection.follow`), and what every step keeps a run keeps (`follow_induction`). A caller stays at its
place with its deadline, and once it has its result it keeps it (`Turn.kept`).
-/
namespace TelemetryStreams

namespace Seeker

def IsPending (c : Seeker) : Prop := ∀ result, c.phase ≠ .done result

def EndedBy (c : Seeker) (now : Nat) (reason : Error) : Prop :=
  Wakes now c.canceled c.deadline reason

end Seeker

namespace Selection

/-- The steps of the prioritizer and its callers. -/
inductive Turn (s : Selection) : Action → Selection → Prop
  | readied {stream} :
      Turn s (.setReady stream) { s with prioritizer := s.prioritizer.setReady stream }
  | withdrawn {stream} :
      Turn s (.removeReady stream) { s with prioritizer := s.prioritizer.removeReady stream }
  | downgraded : Turn s .downgrade { s with prioritizer := s.prioritizer.downgrade }
  | arrived {spec c} (arriving : c.phase = .arriving) :
      Turn s (.arrive spec) { s with seekers := s.seekers ++ [c] }
  | canceled {caller c} (isSeeker : s.seekers[caller]? = some c) :
      Turn s (.cancel caller)
        { s with seekers := s.seekers.modify caller fun c => { c with canceled := true } }
  | advanced {time} : Turn s (.advance time) { s with now := s.now + time }
  | looked {caller c} (isSeeker : s.seekers[caller]? = some c) (arriving : c.phase = .arriving) :
      Turn s (.look caller) (s.found caller (s.prioritizer.look caller))
  | lookedAgain {caller c} (isSeeker : s.seekers[caller]? = some c) (waiting : c.phase = .waiting)
      (notified : caller ∈ s.prioritizer.notified) :
      Turn s (.lookAgain caller) (s.found caller (s.prioritizer.lookAgain caller))
  | dismissed {caller c} (isSeeker : s.seekers[caller]? = some c) (waiting : c.phase = .waiting)
      (closed : s.prioritizer.downgraded = true) : Turn s (.dismiss caller) (s.left caller (.ok none))
  | gaveUp {caller c reason late} (isSeeker : s.seekers[caller]? = some c)
      (waiting : c.phase = .waiting) (ended : c.EndedBy s.now reason) :
      Turn s (.giveUp caller late) (s.left caller (.error reason))

variable {s t : Selection} {action : Action} {caller : Nat} {c d : Seeker}

/-- Every step that is possible is in the list. -/
theorem perform_turn (made : s.perform action = some t) : Turn s action t := by
  cases action with
  | setReady stream => cases made; exact .readied
  | removeReady stream => cases made; exact .withdrawn
  | downgrade => cases made; exact .downgraded
  | arrive spec => cases made; exact .arrived rfl
  | advance time => cases made; exact .advanced
  | cancel caller =>
    obtain ⟨c, isSeeker, made⟩ := Option.bind_eq_some_iff.mp made
    cases made
    exact .canceled isSeeker
  | look caller =>
    obtain ⟨c, isSeeker, made⟩ := Option.bind_eq_some_iff.mp made
    split at made
    case isTrue arriving => cases made; exact .looked isSeeker arriving
    case isFalse => cases made
  | lookAgain caller =>
    obtain ⟨c, isSeeker, made⟩ := Option.bind_eq_some_iff.mp made
    split at made
    case isTrue both => cases made; exact .lookedAgain isSeeker both.1 both.2
    case isFalse => cases made
  | dismiss caller =>
    obtain ⟨c, isSeeker, made⟩ := Option.bind_eq_some_iff.mp made
    split at made
    case isTrue both => cases made; exact .dismissed isSeeker both.1 both.2
    case isFalse => cases made
  | giveUp caller late =>
    obtain ⟨c, isSeeker, made⟩ := Option.bind_eq_some_iff.mp made
    obtain ⟨reason, ended, made⟩ := Option.bind_eq_some_iff.mp made
    split at made
    case isTrue waiting => cases made; exact .gaveUp isSeeker waiting (wakes_of_wakeReason ended)
    case isFalse => cases made

def follow (s : Selection) : List Action → Option Selection
  | [] => some s
  | action :: actions => (s.perform action).bind fun t => t.follow actions

theorem follow_induction {P : Selection → Prop}
    (step : ∀ s t action, P s → Turn s action t → P t) {actions : List Action}
    (follows : s.follow actions = some t) (holds : P s) : P t := by
  induction actions generalizing s with
  | nil =>
    cases follows
    exact holds
  | cons action actions ih =>
    obtain ⟨middle, made, follows⟩ := Option.bind_eq_some_iff.mp follows
    exact ih follows (step s middle action holds (perform_turn made))

/-! ### Callers -/

theorem modify_getElem? (seekers : List Seeker) (other caller : Nat) (change : Seeker → Seeker) :
    (seekers.modify other change)[caller]? =
      if other = caller then seekers[caller]?.map change else seekers[caller]? := by
  rw [List.getElem?_modify]
  split <;> simp

/-- What a caller keeps: its place, its deadline, the end of its context, and its result. -/
structure Keeps (c d : Seeker) : Prop where
  deadline : d.deadline = c.deadline
  canceled : c.canceled = true → d.canceled = true
  result : ∀ result, c.phase = .done result → d.phase = .done result

theorem Keeps.refl (c : Seeker) : Keeps c c := ⟨rfl, id, fun _ => id⟩

theorem Keeps.trans {e : Seeker} (first : Keeps c d) (second : Keeps d e) : Keeps c e :=
  ⟨second.deadline.trans first.deadline, second.canceled ∘ first.canceled,
    fun result done => second.result result (first.result result done)⟩

/-- A context that has ended for a reason has done so for good. -/
theorem Keeps.endedBy (keeps : Keeps c d) {earlier later : Nat} (order : earlier ≤ later)
    {reason : Error} (ended : c.EndedBy earlier reason) : d.EndedBy later reason := by
  unfold Seeker.EndedBy
  rw [keeps.deadline]
  exact ended.later order keeps.canceled

theorem setPhase_getElem? {seekers : List Seeker} {phase : Seeking}
    (isSeeker : seekers[caller]? = some c) :
    (seekers.modify caller fun c => { c with phase := phase })[caller]? =
      some { c with phase := phase } := by
  rw [modify_getElem?, if_pos rfl, isSeeker]
  rfl

theorem kept_setPhase {other : Nat} {phase : Seeking} {seekers : List Seeker}
    (isSeeker : seekers[caller]? = some c)
    (undone : other = caller → c.IsPending) :
    ∃ d, (seekers.modify other fun c => { c with phase := phase })[caller]? = some d ∧
      Keeps c d := by
  by_cases same : other = caller
  · subst same
    refine ⟨_, setPhase_getElem? isSeeker, rfl, id, fun result done => ?_⟩
    exact absurd done (undone rfl result)
  · rw [modify_getElem?, if_neg same]
    exact ⟨c, isSeeker, Keeps.refl c⟩

/-- A caller stays at its place and keeps what it keeps, while time goes on. -/
theorem Turn.kept (turn : Turn s action t) (isSeeker : s.seekers[caller]? = some c) :
    (∃ d, t.seekers[caller]? = some d ∧ Keeps c d) ∧ s.now ≤ t.now := by
  have pending {phase : Seeking} {other : Nat} {e : Seeker} (isOther : s.seekers[other]? = some e)
      (isPhase : e.phase = phase) (undone : ∀ result, phase ≠ .done result) :
      other = caller → c.IsPending := by
    intro same
    subst same
    obtain rfl := Option.some.inj (isOther.symm.trans isSeeker)
    intro result done
    exact undone result (isPhase.symm.trans done)
  cases turn with
  | readied | withdrawn | downgraded => exact ⟨⟨c, isSeeker, Keeps.refl c⟩, Nat.le_refl _⟩
  | arrived =>
    have inside := (List.getElem?_eq_some_iff.mp isSeeker).1
    exact ⟨⟨c, (List.getElem?_append_left inside).trans isSeeker, Keeps.refl c⟩, Nat.le_refl _⟩
  | canceled =>
    refine ⟨?_, Nat.le_refl _⟩
    rw [modify_getElem?, isSeeker]
    split
    · exact ⟨_, rfl, rfl, fun _ => rfl, fun _ => id⟩
    · exact ⟨c, rfl, Keeps.refl c⟩
  | advanced => exact ⟨⟨c, isSeeker, Keeps.refl c⟩, Nat.le_add_right _ _⟩
  | looked isOther arriving =>
    exact ⟨kept_setPhase isSeeker (pending isOther arriving nofun), Nat.le_refl _⟩
  | lookedAgain isOther waiting | dismissed isOther waiting | gaveUp isOther waiting =>
    exact ⟨kept_setPhase isSeeker (pending isOther waiting nofun), Nat.le_refl _⟩

/-- A caller that was there before has its phase from before unless the turn is its own, and one that
was not has just come. -/
theorem Turn.phase_cases (turn : Turn s action t) (isSeeker : t.seekers[caller]? = some d) :
    action ∈ system.moves s caller ∨ d.phase = .arriving ∨
      ∃ c, s.seekers[caller]? = some c ∧ d.phase = c.phase := by
  have others {other : Nat} {phase : Seeking}
      (isSeeker : (s.seekers.modify other fun c => { c with phase := phase })[caller]? = some d) :
      other = caller ∨ ∃ c, s.seekers[caller]? = some c ∧ d.phase = c.phase := by
    rw [modify_getElem?] at isSeeker
    split at isSeeker
    case isTrue same => exact .inl same
    case isFalse => exact .inr ⟨d, isSeeker, rfl⟩
  cases turn with
  | readied | withdrawn | downgraded | advanced => exact .inr (.inr ⟨d, isSeeker, rfl⟩)
  | arrived arriving =>
    simp only [List.getElem?_append] at isSeeker
    split at isSeeker
    case isTrue => exact .inr (.inr ⟨d, isSeeker, rfl⟩)
    case isFalse =>
      obtain rfl := List.mem_singleton.mp (List.mem_of_getElem? isSeeker)
      exact .inr (.inl arriving)
  | canceled =>
    rw [modify_getElem?] at isSeeker
    split at isSeeker
    case isTrue =>
      obtain ⟨before, isBefore, rfl⟩ := Option.map_eq_some_iff.mp isSeeker
      exact .inr (.inr ⟨before, isBefore, rfl⟩)
    case isFalse => exact .inr (.inr ⟨d, isSeeker, rfl⟩)
  | looked | lookedAgain | dismissed | gaveUp =>
    exact (others isSeeker).imp (fun same => by simp [system, same]) .inr

end Selection

end TelemetryStreams
