import TelemetryStreams.Proofs.Pool.Tickets

/-!
# Pools of controllers

In a pool of controllers nobody but the pool itself and its callers has a hand in what happens
(`Action.isManaged`): a stream is run by its controller and taken from the prioritizer by callers,
and the end is asked for by a shutdown or comes when nobody holds the pool any more. `Managed` pools
are the states of the runs of such actions.

What the controllers have come to is told by four numbers that belong together (`Governed`). Only
the turns of controllers change them (`Turn.rests`), and of these only giving up changes the count
of those that are active.
-/
namespace TelemetryStreams

namespace Pool

/-- Whether an action can happen in a pool that is reached through its callers and its owner only.
-/
def Action.isManaged : Action → Bool
  | .run _ | .cancel | .glance | .arrive _ _ (some _) => false
  | _ => true

variable {p q r : Pool} {action : Action} {stream count : Nat} {s t : Stream}

theorem Action.permits_of_isManaged (isManaged : action.isManaged = true) (p : Pool) :
    p.permits action = true := by
  cases action with
  | run => cases isManaged
  | _ => rfl

def Serves (p q : Pool) : Prop :=
  ∃ actions : List Action, actions.all Action.isManaged = true ∧ p.follow actions = some q

theorem Serves.refl (p : Pool) : Serves p p := ⟨[], rfl, rfl⟩

theorem Serves.head (isManaged : action.isManaged = true) (made : p.perform action = some q)
    (serves : Serves q r) : Serves p r := by
  obtain ⟨actions, all, follows⟩ := serves
  have permitted := action.permits_of_isManaged isManaged p
  refine ⟨action :: actions, ?_, by simp [follow, permitted, made, follows]⟩
  rw [List.all_cons, isManaged, all]
  rfl

theorem Serves.one (isManaged : action.isManaged = true) (made : p.perform action = some q) :
    Serves p q :=
  .head isManaged made (Serves.refl q)

theorem Serves.leads (serves : Serves p q) : Leads p q :=
  serves.imp fun _ => And.right

/-- An invariant of all such steps is one of all such runs. -/
theorem Serves.induction {P : Pool → Prop}
    (step : ∀ p q action, P p → action.isManaged = true → p.perform action = some q → P q)
    (serves : Serves p q) (holds : P p) : P q := by
  obtain ⟨actions, all, follows⟩ := serves
  -- On the actions, for all pools from which they may start.
  induction actions generalizing p with
  | nil =>
    cases follows
    exact holds
  | cons action actions ih =>
    obtain ⟨isManaged, all⟩ := Bool.and_eq_true_iff.mp (List.all_cons ▸ all)
    simp only [follow, action.permits_of_isManaged isManaged p, if_true] at follows
    obtain ⟨middle, made, follows⟩ := Option.bind_eq_some_iff.mp follows
    exact ih (step p middle action holds isManaged made) all follows

theorem Serves.trans (first : Serves p q) (second : Serves q r) : Serves p r := by
  refine first.induction (P := fun q => Serves q r → Serves p r) ?_ id second
  intro q q' action earlier isManaged made serves
  exact earlier (.head isManaged made serves)

/-- The states of all runs of a number of controllers. -/
def Managed (count : Nat) (p : Pool) : Prop :=
  ∃ setup script, Serves (ofControllers setup script count) p

theorem managed_ofControllers (setup : Setup) (script : List Opening) (count : Nat) :
    Managed count (ofControllers setup script count) :=
  ⟨setup, script, Serves.refl _⟩

theorem Managed.serves (managed : Managed count p) (serves : Serves p q) : Managed count q := by
  obtain ⟨setup, script, first⟩ := managed
  exact ⟨setup, script, first.trans serves⟩

theorem Managed.step (managed : Managed count p) (isManaged : action.isManaged = true)
    (made : p.perform action = some q) : Managed count q :=
  managed.serves (Serves.one isManaged made)

theorem Managed.reachable (managed : Managed count p) : Reachable p := by
  obtain ⟨setup, script, serves⟩ := managed
  exact ⟨_, .ofControllers setup script count, serves.leads⟩

theorem Managed.sound (managed : Managed count p) : Sound p := managed.reachable.sound

theorem Managed.keeps {P : Pool → Prop} (managed : Managed count p)
    (step : ∀ q r action, Managed count q → P q → action.isManaged = true →
      q.perform action = some r → P r)
    (serves : Serves p q) (holds : P p) : P q := by
  refine (serves.induction (P := fun q => Managed count q ∧ P q) ?_ ⟨managed, holds⟩).2
  intro q r action ⟨managed, holds⟩ isManaged made
  exact ⟨managed.step isManaged made, step q r action managed holds isManaged made⟩

theorem Managed.invariant {P : Pool → Prop}
    (origin : ∀ setup script, P (ofControllers setup script count))
    (step : ∀ p q action, Managed count p → P p → action.isManaged = true →
      p.perform action = some q → P q)
    (managed : Managed count p) : P p := by
  obtain ⟨setup, script, serves⟩ := managed
  exact (managed_ofControllers setup script count).keeps step serves (origin setup script)

/-- What holds of a stream that has just been started and is kept by every step holds of all
streams. -/
theorem Managed.each {P : Stream → Prop} (started : ∀ p : Pool, P p.startedStream)
    (step : ∀ s action events next, s.Sound → P s → Stream.Step s action events next →
      P (next.record events))
    (managed : Managed count p) (isStream : p.streams[stream]? = some s) : P s := by
  obtain ⟨setup, script, serves⟩ := managed
  have origin := Origin.ofControllers setup script count
  exact serves.leads.each started step origin.healthy (fun _ _ none => nomatch none) stream s isStream

/-! ### What other turns leave alone -/

/-- The controllers stand where they stood, and no stream has been started. -/
structure Rests (p q : Pool) : Prop where
  controllers : q.controllers = p.controllers
  active : q.active = p.active
  downgraded : q.prioritizer.downgraded = p.prioritizer.downgraded
  streams : q.streams.length = p.streams.length

theorem Rests.trans (first : Rests p q) (second : Rests q r) : Rests p r where
  controllers := second.controllers.trans first.controllers
  active := second.active.trans first.active
  downgraded := second.downgraded.trans first.downgraded
  streams := second.streams.trans first.streams

theorem rests_afterMove (p : Pool) (stream : Nat) (next : Stream) (events : List Event) :
    Rests p (p.afterMove stream next events) := by
  have still := view_afterMove
    (fun p => (p.controllers, p.active, p.prioritizer.downgraded, p.streams.length)) ?_
    p stream next events
  · simp only [List.length_set, Prod.mk.injEq] at still
    exact ⟨still.1, still.2.1, still.2.2.1, still.2.2.2⟩
  · intro p stream event
    unfold notice
    split
    case h_1 => simp only [Prioritizer.downgraded_setReady]
    all_goals rfl

theorem rests_cancel (p : Pool) : Rests p p.cancel :=
  ⟨rfl, rfl, rfl, List.length_map _⟩

theorem rests_endIfAbandoned (p : Pool) : Rests p p.endIfAbandoned := by
  unfold endIfAbandoned
  split
  · exact rests_cancel p
  · exact ⟨rfl, rfl, rfl, rfl⟩

theorem Acts.rests {caller : Nat} {c : Caller} (acts : Acts p caller c q) : Rests p q := by
  cases acts with
  | moves _ _ same => exact ⟨rfl, rfl, same.downgraded, rfl⟩
  | returns _ same => exact ⟨rfl, rfl, same.downgraded, rfl⟩
  | takes _ _ _ downgraded => exact ⟨rfl, rfl, downgraded, rfl⟩
  | hands | withdraws => exact ⟨rfl, rfl, rfl, List.length_set⟩

/-- Only the turn of a controller moves controllers and starts streams. -/
theorem Turn.rests (turn : Turn p action q) (isManaged : action.isManaged = true)
    (other : ∀ controller, action ≠ .proceed controller) : Rests p q := by
  cases turn with
  | moved => exact (rests_afterMove ..).trans ⟨rfl, rfl, rfl, rfl⟩
  | started | restarted | glanced | canceled => cases isManaged
  | delivered | modeSet => exact rests_afterMove ..
  | undelivered | modeUnset | arrived | contextEnded | asked | returned | advanced =>
    exact ⟨rfl, rfl, rfl, rfl⟩
  | acts own isCaller acts => exact acts.rests
  | proceeds => exact absurd rfl (other _)
  | began => exact (rests_cancel p).trans ⟨rfl, rfl, rfl, rfl⟩
  | parted | dropped | letGo =>
    refine Rests.trans ?_ (rests_endIfAbandoned _)
    exact ⟨rfl, rfl, rfl, rfl⟩

theorem proceeds_or_rests (isManaged : action.isManaged = true)
    (made : p.perform action = some q) :
    (∃ controller, action = .proceed controller ∧ Proceeds p controller q) ∨
      (∀ controller, action ≠ .proceed controller) ∧ Rests p q := by
  by_cases own : ∃ controller, action = .proceed controller
  · obtain ⟨controller, rfl⟩ := own
    exact .inl ⟨controller, rfl, proceed_cases made⟩
  · have other : ∀ controller, action ≠ .proceed controller :=
      fun controller same => own ⟨controller, same⟩
    exact .inr ⟨other, (perform_turn made).rests isManaged other⟩

/-! ### What the controllers have come to -/

theorem brokeDown_becomes (becomes : Stream.Becomes s t) (broke : s.run = .brokeDown) :
    t.run = .brokeDown := by
  induction becomes with
  | refl => exact broke
  | @step t action events next earlier step ih =>
    change next.run = .brokeDown
    cases step with
    | started phase | refused phase | stalled phase | opened phase | readCanceled phase
    | unrecognized phase | unexpected phase | readEnded phase | joined phase | swept phase
    | finished phase => rw [ih] at phase; cases phase
    | openingCanceled early =>
      obtain ⟨phase, -⟩ | ⟨phase, -⟩ := early
      · rw [ih] at phase; cases phase
      · rw [ih] at phase; cases phase
    | sourceBroke => rfl
    | _ => exact ih

theorem countP_set {α : Type} (kind : α → Bool) {l : List α} {i : Nat} {a b : α}
    (isOld : l[i]? = some a) :
    (l.set i b).countP kind + (if kind a then 1 else 0) =
      l.countP kind + if kind b then 1 else 0 := by
  obtain ⟨inside, rfl⟩ := List.getElem?_eq_some_iff.mp isOld
  have least : (if kind l[i] then 1 else 0) ≤ l.countP kind := by
    split
    case isTrue same => exact List.countP_pos_iff.mpr ⟨_, List.getElem_mem inside, same⟩
    case isFalse => exact Nat.zero_le _
  rw [List.countP_set inside]
  omega

/-- The controllers, their streams and their counts belong together. A stream that is not done is
run by a controller, unless it broke down and its controller with it. -/
structure Governed (count : Nat) (p : Pool) : Prop where
  number : p.controllers.length = count
  tally : p.active + p.controllers.count .gaveUp = count
  downgraded : p.prioritizer.downgraded = true ↔ 0 < count ∧ p.active = 0
  led : ∀ (stream : Nat) (s : Stream), p.streams[stream]? = some s → s.run ≠ .done →
    ∃ controller : Nat, p.controllers[controller]? = some (.running stream) ∨
      s.run = .brokeDown ∧ p.controllers[controller]? = some .brokeDown
  busy : ∀ controller stream : Nat, p.controllers[controller]? = some (.running stream) →
    ∃ s, p.streams[stream]? = some s

theorem governed_ofControllers (setup : Setup) (script : List Opening) (count : Nat) :
    Governed count (ofControllers setup script count) := by
  refine ⟨List.length_replicate, ?_, ?_, ?_, ?_⟩
  · have none : (List.replicate count ControllerPhase.starting).count .gaveUp = 0 := by
      simp [List.count_replicate]
    exact congrArg (count + ·) none
  · have some : 0 < count → count ≠ 0 := Nat.ne_of_gt
    simpa [ofControllers] using some
  · intro stream s isStream
    cases isStream
  · intro controller stream running
    obtain ⟨_, same⟩ := List.getElem?_eq_some_iff.mp running
    simp [ofControllers] at same

section
variable {controller : Nat} {phase : ControllerPhase}

theorem Governed.rest (governed : Governed count p) (rests : Rests p q) (healthy : Healthy p)
    (leads : Leads p q) : Governed count q := by
  have old {stream : Nat} {t : Stream} (isStream : q.streams[stream]? = some t) :
      ∃ s, p.streams[stream]? = some s ∧ Stream.Becomes s t := by
    have inside := (List.getElem?_eq_some_iff.mp isStream).1
    rw [rests.streams] at inside
    obtain ⟨u, isStream', becomes⟩ := leads.becomes (List.getElem?_eq_getElem inside)
    obtain rfl := Option.some.inj (isStream.symm.trans isStream')
    exact ⟨_, List.getElem?_eq_getElem inside, becomes⟩
  refine ⟨by rw [rests.controllers, governed.number], ?_, ?_, ?_, ?_⟩
  · rw [rests.active, rests.controllers, governed.tally]
  · rw [rests.downgraded, rests.active, governed.downgraded]
  · intro stream t isStream undone
    obtain ⟨s, before, becomes⟩ := old isStream
    have undone' : s.run ≠ .done := fun done =>
      undone (becomes.done (healthy stream s before) done).1
    obtain ⟨controller, running | ⟨broke, gone⟩⟩ := governed.led stream s before undone'
    · exact ⟨controller, .inl (rests.controllers ▸ running)⟩
    · exact ⟨controller, .inr ⟨brokeDown_becomes becomes broke, rests.controllers ▸ gone⟩⟩
  · intro controller stream running
    rw [rests.controllers] at running
    obtain ⟨s, before⟩ := governed.busy controller stream running
    obtain ⟨t, isStream, -⟩ := leads.becomes before
    exact ⟨t, isStream⟩

/-- A controller goes on from one phase to another one and leaves no stream that is not done. -/
theorem Governed.goes (governed : Governed count p) {old : ControllerPhase}
    (isOld : p.controllers[controller]? = some old)
    (controllers : q.controllers = p.controllers.set controller phase)
    (streams : q.streams = p.streams) (idle : ∀ stream, phase ≠ .running stream)
    (tally : q.active + q.controllers.count .gaveUp = count)
    (downgraded : q.prioritizer.downgraded = true ↔ 0 < count ∧ q.active = 0)
    (broken : old ≠ .brokeDown)
    (allDone : ∀ stream s, old = .running stream → p.streams[stream]? = some s →
      s.run = .done ∨ s.run = .brokeDown ∧ phase = .brokeDown) : Governed count q := by
  have inside := (List.getElem?_eq_some_iff.mp isOld).1
  refine ⟨by rw [controllers, List.length_set, governed.number], tally, downgraded, ?_, ?_⟩
  · intro stream s isStream undone
    rw [streams] at isStream
    obtain ⟨other, place⟩ := governed.led stream s isStream undone
    rw [controllers]
    by_cases same : controller = other
    · subst same
      rw [isOld] at place
      obtain running | ⟨-, gone⟩ := place
      · obtain done | ⟨broke, rfl⟩ := allDone stream s (Option.some.inj running) isStream
        · exact absurd done undone
        · exact ⟨controller, .inr ⟨broke, List.getElem?_set_self inside⟩⟩
      · exact absurd (Option.some.inj gone) broken
    · exact ⟨other, by rwa [List.getElem?_set_ne same]⟩
  · intro other stream running
    rw [controllers] at running
    obtain ⟨-, same⟩ | ⟨-, running⟩ := getElem?_set_cases running
    · exact absurd same.symm (idle stream)
    · rw [streams]
      exact governed.busy other stream running

theorem Governed.tally_set (governed : Governed count p) {old : ControllerPhase}
    (isOld : p.controllers[controller]? = some old) (kept : old ≠ .gaveUp)
    (keeps : phase ≠ .gaveUp) :
    p.active + (p.controllers.set controller phase).count .gaveUp = count := by
  have same := countP_set (· == .gaveUp) (b := phase) isOld
  rw [if_neg (by simpa using kept), if_neg (by simpa using keeps)] at same
  have tally := governed.tally
  rw [List.count_eq_countP] at tally ⊢
  omega

theorem Governed.tally_giveUp (governed : Governed count p) {old : ControllerPhase}
    (isOld : p.controllers[controller]? = some old) (kept : old ≠ .gaveUp) :
    0 < p.active ∧
      (p.active - 1) + (p.controllers.set controller .gaveUp).count .gaveUp = count := by
  have more := countP_set (· == .gaveUp) (b := .gaveUp) isOld
  rw [if_neg (by simpa using kept), if_pos (by simp)] at more
  have tally := governed.tally
  have most := List.count_le_length (a := ControllerPhase.gaveUp)
    (l := p.controllers.set controller .gaveUp)
  rw [List.length_set, governed.number] at most
  rw [List.count_eq_countP] at tally most ⊢
  omega

theorem giveUp_controllers (p : Pool) (controller : Nat) :
    (p.giveUp controller).controllers = p.controllers.set controller .gaveUp ∧
      (p.giveUp controller).active = p.active - 1 ∧
      (p.giveUp controller).streams = p.streams := by
  unfold giveUp
  simp only
  split
  · exact ⟨rfl, rfl, rfl⟩
  · exact ⟨rfl, rfl, rfl⟩

/-- A controller that takes its turn has not exited, and only its own phase changes. -/
theorem Proceeds.controllers (proceeds : Proceeds p controller q) :
    ∃ old new, p.controllers[controller]? = some old ∧ old.hasExited = false ∧
      q.controllers = p.controllers.set controller new := by
  cases proceeds with
  | stops isOld | starts isOld | resumes isOld | retires isOld | breaks isOld =>
    exact ⟨_, _, isOld, rfl, rfl⟩
  | givesUp isOld => exact ⟨_, _, isOld, rfl, (giveUp_controllers p controller).1⟩

theorem giveUp_downgraded (p : Pool) (controller : Nat) :
    (p.giveUp controller).prioritizer.downgraded = true ↔
      p.prioritizer.downgraded = true ∨ p.active - 1 = 0 := by
  unfold giveUp
  simp only
  split
  case isTrue last => exact iff_of_true rfl (.inr last)
  case isFalse more => exact ⟨.inl, fun either => either.resolve_right more⟩

theorem Governed.starts (governed : Governed count p)
    (starting : p.controllers[controller]? = some .starting) :
    Governed count (p.startStream controller) := by
  have inside := (List.getElem?_eq_some_iff.mp starting).1
  refine ⟨?_, governed.tally_set starting nofun nofun, governed.downgraded, ?_, ?_⟩
  · exact List.length_set.trans governed.number
  · intro stream s isStream undone
    by_cases old : stream < p.streams.length
    · have isStream := (List.getElem?_append_left old).symm.trans isStream
      obtain ⟨other, place⟩ := governed.led stream s isStream undone
      have differ : controller ≠ other := by
        rintro rfl
        rw [starting] at place
        obtain running | ⟨-, gone⟩ := place
        · cases running
        · cases gone
      exact ⟨other, by rwa [startStream, setController, List.getElem?_set_ne differ]⟩
    · have new := (List.getElem?_eq_some_iff.mp isStream).1
      simp only [startStream, setController, List.length_append, List.length_singleton] at new
      obtain rfl : stream = p.streams.length := by omega
      exact ⟨controller, .inl (List.getElem?_set_self inside)⟩
  · intro other stream running
    obtain ⟨-, same⟩ | ⟨-, running⟩ := getElem?_set_cases running
    · cases same
      exact ⟨_, List.getElem?_concat_length⟩
    · obtain ⟨s, isStream⟩ := governed.busy other stream running
      have old := (List.getElem?_eq_some_iff.mp isStream).1
      exact ⟨s, (List.getElem?_append_left old).trans isStream⟩

theorem Governed.proceeds (governed : Governed count p) (proceeds : Proceeds p controller q) :
    Governed count q := by
  cases proceeds with
  | stops starting =>
    refine governed.goes starting rfl rfl nofun (governed.tally_set starting nofun nofun)
      governed.downgraded nofun fun other t same => ?_
    cases same
  | resumes running isStream done | retires running isStream done =>
    refine governed.goes running rfl rfl nofun (governed.tally_set running nofun nofun)
      governed.downgraded nofun fun other t same isOther => .inl ?_
    cases same
    obtain rfl := Option.some.inj (isStream.symm.trans isOther)
    exact done
  | breaks running isStream broken =>
    refine governed.goes running rfl rfl nofun (governed.tally_set running nofun nofun)
      governed.downgraded nofun fun other t same isOther => .inr ⟨?_, rfl⟩
    cases same
    obtain rfl := Option.some.inj (isStream.symm.trans isOther)
    exact broken
  | givesUp running isStream done =>
    obtain ⟨controllers, active, streams⟩ := giveUp_controllers p controller
    obtain ⟨some, tally⟩ := governed.tally_giveUp running nofun
    refine governed.goes running controllers streams nofun ?_ ?_ nofun
      fun other t same isOther => .inl ?_
    · rw [controllers, active]
      exact tally
    · rw [giveUp_downgraded, governed.downgraded, active]
      have number : p.active ≤ count := by have := governed.tally; omega
      omega
    · cases same
      obtain rfl := Option.some.inj (isStream.symm.trans isOther)
      exact done
  | starts starting => exact governed.starts starting

end

theorem Managed.governed (managed : Managed count p) : Governed count p := by
  refine managed.invariant (governed_ofControllers · · count) ?_
  intro p q action managed governed isManaged made
  obtain ⟨controller, -, proceeds⟩ | ⟨-, rests⟩ := proceeds_or_rests isManaged made
  · exact governed.proceeds proceeds
  · exact governed.rest rests managed.sound.healthy (Serves.one isManaged made).leads

/-- In a downgraded pool every controller has given up, and every stream is done. -/
theorem Managed.over_of_downgraded (managed : Managed count p)
    (downgraded : p.prioritizer.downgraded = true) :
    (∀ phase ∈ p.controllers, phase = .gaveUp) ∧
      ∀ (stream : Nat) (s : Stream), p.streams[stream]? = some s → s.run = .done := by
  have governed := managed.governed
  obtain ⟨-, none⟩ := governed.downgraded.mp downgraded
  have all : p.controllers.count .gaveUp = p.controllers.length := by
    have tally := governed.tally
    rw [governed.number]
    omega
  have gaveUp : ∀ phase ∈ p.controllers, phase = .gaveUp :=
    fun phase isPhase => (List.count_eq_length.mp all phase isPhase).symm
  refine ⟨gaveUp, fun stream s isStream => ?_⟩
  by_contra undone
  obtain ⟨controller, running | ⟨-, broke⟩⟩ := governed.led stream s isStream undone
  · exact absurd (gaveUp _ (List.mem_of_getElem? running)) nofun
  · exact absurd (gaveUp _ (List.mem_of_getElem? broke)) nofun

/-- While a stream is not done the pool is not downgraded, and the prioritizer takes what is
offered. -/
theorem Managed.takesOffers (managed : Managed count p) (isStream : p.streams[stream]? = some s)
    (undone : s.run ≠ .done) : p.prioritizer.downgraded = false := by
  by_contra downgraded
  have downgraded : p.prioritizer.downgraded = true := by simpa using downgraded
  exact undone ((managed.over_of_downgraded downgraded).2 stream s isStream)

end Pool

end TelemetryStreams
