import TelemetryStreams.Proofs.Pool.Stranded

/-!
# Which controllers a shutdown waits for

A shutdown waits for the controllers that it has taken, and the first one that begins takes them all
(`Managed.untaken_eq_nil`). So if no shutdown has begun before it, all controllers have exited when
it returns, and no stream is started after that. One that begins later waits for none: it may return
while controllers run (`first_shutdown_joins`).
-/
namespace TelemetryStreams

def Shutdown.hasBegun : Shutdown → Bool
  | .asked => false
  | .joining _ | .done => true
  | .dropped begun => begun

/-- Whether a shutdown has taken a controller, as far as others can tell. -/
def Shutdown.takes (controller : Nat) : Shutdown → Bool
  | .joining taken => taken.contains controller
  | .done => true
  | .asked => false
  | .dropped begun => begun

namespace Pool

variable {p q r : Pool} {action : Action} {controller shutdown count : Nat} {old new : Shutdown}

theorem mem_untaken : controller ∈ p.untaken ↔
    controller < p.controllers.length ∧ ∀ other ∈ p.shutdowns, other.takes controller = false := by
  have same : p.untaken = (List.range p.controllers.length).filter fun controller =>
      !p.shutdowns.any (Shutdown.takes controller) := rfl
  rw [same, List.mem_filter, List.mem_range]
  simp

/-! ### How shutdowns go -/

/-- What becomes of a shutdown in a step. -/
inductive Evolves (p : Pool) : Shutdown → Shutdown → Prop
  | begins : Evolves p .asked (.joining p.untaken)
  | returns {taken} (exited : ∀ controller ∈ taken, ∀ phase,
      p.controllers[controller]? = some phase → phase.hasExited = true) :
      Evolves p (.joining taken) .done
  | withdrawn : Evolves p .asked (.dropped false)
  | abandoned {taken} : Evolves p (.joining taken) (.dropped true)

theorem endIfAbandoned_shutdowns (p : Pool) : p.endIfAbandoned.shutdowns = p.shutdowns :=
  view_endIfAbandoned Pool.shutdowns (fun _ => rfl) p

theorem afterMove_shutdowns (p : Pool) (stream : Nat) (next : Stream) (events : List Event) :
    (p.afterMove stream next events).shutdowns = p.shutdowns :=
  view_afterMove Pool.shutdowns (view_notice _ fun _ _ _ _ _ => rfl) p stream next events

theorem Acts.shutdowns {caller : Nat} {c : Caller} (acts : Acts p caller c q) :
    q.shutdowns = p.shutdowns := by
  cases acts <;> rfl

theorem Proceeds.shutdowns (proceeds : Proceeds p controller q) : q.shutdowns = p.shutdowns := by
  cases proceeds with
  | givesUp =>
    unfold giveUp
    simp only
    split <;> rfl
  | stops | starts | resumes | retires | breaks => rfl

theorem Turn.shutdowns_cases (turn : Turn p action q) :
    q.shutdowns = p.shutdowns ∨ q.shutdowns = p.shutdowns ++ [.asked] ∨
      ∃ shutdown old new, p.shutdowns[shutdown]? = some old ∧ Evolves p old new ∧
        q.shutdowns = p.shutdowns.set shutdown new := by
  cases turn with
  | moved | started | delivered | modeSet => exact .inl (afterMove_shutdowns _ _ _ _)
  | acts own isCaller acts => exact .inl acts.shutdowns
  | proceeds proceeds => exact .inl proceeds.shutdowns
  | asked => exact .inr (.inl rfl)
  | began asked => exact .inr (.inr ⟨_, _, _, asked, .begins, rfl⟩)
  | returned joining exited => exact .inr (.inr ⟨_, _, _, joining, .returns exited, rfl⟩)
  | dropped isRequest sort =>
    obtain ⟨rfl, rfl⟩ | ⟨taken, rfl, rfl⟩ := sort
    · exact .inr (.inr ⟨_, _, _, isRequest, .withdrawn, endIfAbandoned_shutdowns _⟩)
    · exact .inr (.inr ⟨_, _, _, isRequest, .abandoned, endIfAbandoned_shutdowns _⟩)
  | parted | letGo => exact .inl (endIfAbandoned_shutdowns _)
  | _ => exact .inl rfl

theorem stays_exited (isManaged : action.isManaged = true) (made : p.perform action = some q)
    {phase : ControllerPhase} (isPhase : p.controllers[controller]? = some phase)
    (exited : phase.hasExited = true) : q.controllers[controller]? = some phase := by
  obtain ⟨other, -, proceeds⟩ | ⟨-, rests⟩ := proceeds_or_rests isManaged made
  · obtain ⟨old, new, isOld, goesOn, controllers⟩ := proceeds.controllers
    have apart : other ≠ controller := by
      rintro rfl
      obtain rfl := Option.some.inj (isOld.symm.trans isPhase)
      rw [exited] at goesOn
      cases goesOn
    rw [controllers, List.getElem?_set_ne apart, isPhase]
  · rw [rests.controllers, isPhase]

/-! ### The first shutdown -/

theorem Evolves.takes (evolves : Evolves p old new) (takes : old.takes controller = true) :
    new.takes controller = true := by
  cases evolves with
  | begins | withdrawn => cases takes
  | returns | abandoned => rfl

/-- A shutdown has begun if it had before, or it has just taken what the others had left. -/
theorem Evolves.begun (evolves : Evolves p old new) (begun : new.hasBegun = true) :
    old.hasBegun = true ∨ new = .joining p.untaken := by
  cases evolves with
  | begins => exact .inr rfl
  | returns | abandoned => exact .inl rfl
  | withdrawn => cases begun

def Taken (p : Pool) (controller : Nat) : Prop :=
  ∃ request ∈ p.shutdowns, request.takes controller = true

theorem taken_of_not_mem_untaken (inside : controller < p.controllers.length)
    (gone : controller ∉ p.untaken) : Taken p controller := by
  by_contra free
  refine gone (mem_untaken.mpr ⟨inside, fun request isRequest => ?_⟩)
  by_contra takes
  exact free ⟨request, isRequest, by simpa using takes⟩

theorem Taken.step (taken : Taken p controller) (turn : Turn p action q) : Taken q controller := by
  obtain ⟨request, isRequest, takes⟩ := taken
  obtain same | more | ⟨shutdown, old, new, isOld, evolves, changed⟩ := turn.shutdowns_cases
  · exact ⟨request, same ▸ isRequest, takes⟩
  · exact ⟨request, more ▸ List.mem_append_left _ isRequest, takes⟩
  · have place := (List.getElem?_eq_some_iff.mp isOld).1
    obtain ⟨index, isRequest⟩ := List.mem_iff_getElem?.mp isRequest
    by_cases own : shutdown = index
    · subst own
      obtain rfl := Option.some.inj (isOld.symm.trans isRequest)
      refine ⟨new, ?_, evolves.takes takes⟩
      rw [changed]
      exact List.mem_of_getElem? (List.getElem?_set_self place)
    · refine ⟨request, ?_, takes⟩
      rw [changed]
      exact List.mem_of_getElem? ((List.getElem?_set_ne own).trans isRequest)

/-- A shutdown that has begun after a step had begun before it, or takes what was left. -/
theorem Turn.begun_cases (turn : Turn p action q) {request : Shutdown}
    (isRequest : request ∈ q.shutdowns) (begun : request.hasBegun = true) :
    (∃ earlier ∈ p.shutdowns, earlier.hasBegun = true) ∨ request = .joining p.untaken := by
  obtain same | more | ⟨shutdown, old, new, isOld, evolves, changed⟩ := turn.shutdowns_cases
  · exact .inl ⟨request, same ▸ isRequest, begun⟩
  · rw [more] at isRequest
    obtain isOld | isNew := List.mem_append.mp isRequest
    · exact .inl ⟨request, isOld, begun⟩
    · obtain rfl := List.mem_singleton.mp isNew
      cases begun
  · rw [changed] at isRequest
    obtain isEarlier | rfl := List.mem_or_eq_of_mem_set isRequest
    · exact .inl ⟨request, isEarlier, begun⟩
    · exact (evolves.begun begun).imp_left fun begun => ⟨old, List.mem_of_getElem? isOld, begun⟩

theorem Managed.taken (managed : Managed count p) {request : Shutdown}
    (isRequest : request ∈ p.shutdowns) (begun : request.hasBegun = true)
    (inside : controller < count) : Taken p controller := by
  refine managed.invariant (P := fun p => ∀ request ∈ p.shutdowns, request.hasBegun = true →
    Taken p controller) ?_ ?_ request isRequest begun
  · intro setup script request isRequest
    cases isRequest
  · intro p q action managed taken isManaged made request isRequest begun
    have turn := perform_turn made
    obtain ⟨earlier, isEarlier, begun⟩ | rfl := turn.begun_cases isRequest begun
    · exact (taken earlier isEarlier begun).step turn
    · by_cases free : controller ∈ p.untaken
      · exact ⟨_, isRequest, by simpa [Shutdown.takes] using free⟩
      · rw [← managed.governed.number] at inside
        exact (taken_of_not_mem_untaken inside free).step turn

theorem Managed.untaken_eq_nil (managed : Managed count p) {request : Shutdown}
    (isRequest : request ∈ p.shutdowns) (begun : request.hasBegun = true) : p.untaken = [] := by
  refine List.eq_nil_iff_forall_not_mem.mpr fun controller free => ?_
  obtain ⟨inside, none⟩ := mem_untaken.mp free
  rw [managed.governed.number] at inside
  obtain ⟨other, isOther, takes⟩ := managed.taken isRequest begun inside
  rw [none other isOther] at takes
  cases takes

theorem mem_untaken_of_first (first : ∀ request ∈ p.shutdowns, request.hasBegun = false) :
    controller ∈ p.untaken ↔ controller < p.controllers.length := by
  rw [mem_untaken, and_iff_left]
  intro other isOther
  have asked := first other isOther
  cases other with
  | asked => rfl
  | joining | done => cases asked
  | dropped begun => exact asked

def AllExited (p : Pool) : Prop := ∀ phase ∈ p.controllers, phase.hasExited = true

theorem Managed.allExited (managed : Managed count p) (exited : AllExited p) (serves : Serves p q) :
    q.controllers = p.controllers ∧ q.streams.length = p.streams.length := by
  refine managed.keeps (P := fun q => q.controllers = p.controllers ∧
    q.streams.length = p.streams.length) ?_ serves ⟨rfl, rfl⟩
  intro q r action managed ⟨controllers, streams⟩ isManaged made
  obtain ⟨other, -, proceeds⟩ | ⟨-, rests⟩ := proceeds_or_rests isManaged made
  · obtain ⟨old, -, isOld, goesOn, -⟩ := proceeds.controllers
    rw [controllers] at isOld
    rw [exited old (List.mem_of_getElem? isOld)] at goesOn
    cases goesOn
  · exact ⟨rests.controllers.trans controllers, rests.streams.trans streams⟩

/-- What becomes of a shutdown that has taken all controllers. -/
def Awaited (p : Pool) (shutdown : Nat) : Prop :=
  (∃ taken, p.shutdowns[shutdown]? = some (.joining taken) ∧
    ∀ controller < p.controllers.length, controller ∈ taken) ∨
  p.shutdowns[shutdown]? = some .done ∧ AllExited p ∨
  p.shutdowns[shutdown]? = some (.dropped true)

theorem AllExited.step (exited : AllExited p) (number : q.controllers.length = p.controllers.length)
    (isManaged : action.isManaged = true) (made : p.perform action = some q) : AllExited q := by
  intro phase isPhase
  obtain ⟨controller, isPhase⟩ := List.mem_iff_getElem?.mp isPhase
  have inside := (List.getElem?_eq_some_iff.mp isPhase).1
  rw [number] at inside
  have before := List.getElem?_eq_getElem inside
  have gone := exited _ (List.getElem_mem inside)
  have after := stays_exited isManaged made before gone
  obtain rfl := Option.some.inj (isPhase.symm.trans after)
  exact gone

theorem Awaited.step (managed : Managed count p) (awaited : Awaited p shutdown)
    (isManaged : action.isManaged = true) (made : p.perform action = some q) :
    Awaited q shutdown := by
  have number : q.controllers.length = p.controllers.length := by
    rw [(managed.step isManaged made).governed.number, managed.governed.number]
  have stays (same : q.shutdowns[shutdown]? = p.shutdowns[shutdown]?) : Awaited q shutdown := by
    obtain ⟨taken, joining, all⟩ | ⟨done, exited⟩ | dropped := awaited
    · exact .inl ⟨taken, same.trans joining, number ▸ all⟩
    · exact .inr (.inl ⟨same.trans done, exited.step number isManaged made⟩)
    · exact .inr (.inr (same.trans dropped))
  have inside : shutdown < p.shutdowns.length := by
    obtain ⟨_, isRequest, -⟩ | ⟨isRequest, -⟩ | isRequest := awaited
    all_goals exact (List.getElem?_eq_some_iff.mp isRequest).1
  obtain same | more | ⟨other, old, new, isOld, evolves, changed⟩ :=
    (perform_turn made).shutdowns_cases
  · exact stays (by rw [same])
  · exact stays (by rw [more, List.getElem?_append_left inside])
  · by_cases own : other = shutdown
    · subst own
      have isNew : q.shutdowns[other]? = some new := by
        rw [changed, List.getElem?_set_self inside]
      obtain ⟨taken, joining, all⟩ | ⟨done, -⟩ | dropped := awaited
      · obtain rfl := Option.some.inj (isOld.symm.trans joining)
        cases evolves with
        | returns exited =>
          refine .inr (.inl ⟨isNew, AllExited.step ?_ number isManaged made⟩)
          intro phase isPhase
          obtain ⟨controller, isPhase⟩ := List.mem_iff_getElem?.mp isPhase
          have taken := all controller (List.getElem?_eq_some_iff.mp isPhase).1
          exact exited controller taken phase isPhase
        | abandoned => exact .inr (.inr isNew)
      · obtain rfl := Option.some.inj (isOld.symm.trans done)
        cases evolves
      · obtain rfl := Option.some.inj (isOld.symm.trans dropped)
        cases evolves
    · exact stays (by rw [changed, List.getElem?_set_ne own])

theorem beginShutdown_eq (began : p.perform (.beginShutdown shutdown) = some q) :
    p.shutdowns[shutdown]? = some .asked ∧
      q = { p.cancel with shutdowns := p.shutdowns.set shutdown (.joining p.untaken) } := by
  obtain ⟨request, isRequest, made⟩ := Option.bind_eq_some_iff.mp began
  split at made
  case h_1 =>
    cases made
    exact ⟨isRequest, rfl⟩
  case h_2 => cases made

theorem ends_shutdown (joining : p.shutdowns[shutdown]? = some (.joining [])) :
    ∃ q, p.perform (.endShutdown shutdown) = some q ∧ q.shutdowns[shutdown]? = some .done ∧
      q.controllers = p.controllers := by
  have inside := (List.getElem?_eq_some_iff.mp joining).1
  have returns : p.perform (.endShutdown shutdown) =
      some { p with shutdowns := p.shutdowns.set shutdown .done } := by
    rw [perform, endShutdown, joining]
    simp
  exact ⟨_, returns, List.getElem?_set_self inside, rfl⟩

/-- A shutdown that begins first waits for all controllers: when it returns they have exited, and
they stay so, and no stream is started after that. One that begins after another one waits for none:
it may return at once, whatever the controllers do. -/
theorem first_shutdown_joins (managed : Managed count p)
    (began : p.perform (.beginShutdown shutdown) = some q) :
    ((∀ request ∈ p.shutdowns, request.hasBegun = false) →
      ∀ r, Serves q r → r.shutdowns[shutdown]? = some .done → AllExited r ∧
        ∀ t, Serves r t → t.controllers = r.controllers ∧
          t.streams.length = r.streams.length) ∧
    ((∃ request ∈ p.shutdowns, request.hasBegun = true) →
      q.controllers = p.controllers ∧ ∃ r, q.perform (.endShutdown shutdown) = some r ∧
        r.shutdowns[shutdown]? = some .done ∧ r.controllers = p.controllers) := by
  have managed' : Managed count q := managed.step (by rfl) began
  obtain ⟨asked, same⟩ := beginShutdown_eq began
  have controllers : q.controllers = p.controllers := by rw [same]; rfl
  have joining : q.shutdowns[shutdown]? = some (.joining p.untaken) := by
    rw [same]
    exact List.getElem?_set_self (List.getElem?_eq_some_iff.mp asked).1
  constructor
  · intro first r serves done
    have begins : Awaited q shutdown := by
      refine .inl ⟨p.untaken, joining, fun controller among => ?_⟩
      rw [controllers] at among
      exact (mem_untaken_of_first first).mpr among
    have awaited : Awaited r shutdown :=
      managed'.keeps (P := fun q => Awaited q shutdown)
        (fun q r action managed awaited => awaited.step managed) serves begins
    have exited : AllExited r := by
      obtain ⟨taken, joining, -⟩ | ⟨-, exited⟩ | dropped := awaited
      · rw [done] at joining
        cases joining
      · exact exited
      · rw [done] at dropped
        cases dropped
    exact ⟨exited, fun t serves' => (managed'.serves serves).allExited exited serves'⟩
  · rintro ⟨request, isRequest, begun⟩
    rw [managed.untaken_eq_nil isRequest begun] at joining
    obtain ⟨r, ends, done, rests⟩ := ends_shutdown joining
    exact ⟨controllers, r, ends, done, rests.trans controllers⟩

/-- Two shutdowns of one controller that overlap: the first one waits for the controller. -/
theorem first_shutdown_joins_overlapping :
    ∃ p q r, Managed 1 p ∧ p.perform (.beginShutdown 0) = some q ∧ Serves q r ∧
      r.shutdowns = [.done, .done] ∧ AllExited r := by
  have facts : (((ofControllers {} [] 1).follow [.proceed 0, .askShutdown, .askShutdown]).bind
      fun p => (p.perform (.beginShutdown 0)).bind fun q =>
        (q.follow [.beginShutdown 1, .stream 0 .establish, .endShutdown 1, .stream 0 .finish,
          .proceed 0, .endShutdown 0]).map fun r => (p.shutdowns, r.shutdowns)) =
      some ([.asked, .asked], [.done, .done]) := by decide +kernel
  obtain ⟨p, begins, facts⟩ := Option.bind_eq_some_iff.mp facts
  obtain ⟨q, began, facts⟩ := Option.bind_eq_some_iff.mp facts
  obtain ⟨r, ends, facts⟩ := Option.map_eq_some_iff.mp facts
  simp only [Prod.mk.injEq] at facts
  have managed : Managed 1 p := ⟨_, _, _, rfl, begins⟩
  have serves : Serves q r := ⟨_, rfl, ends⟩
  have first : ∀ request ∈ p.shutdowns, request.hasBegun = false := by
    rw [facts.1]
    decide
  have done : r.shutdowns[0]? = some .done := by rw [facts.2]; rfl
  have exited := ((first_shutdown_joins managed began).1 first r serves done).1
  exact ⟨p, q, r, managed, began, serves, facts.2, exited⟩

/-- The second one does not: it has returned while the controller runs its stream. -/
theorem second_shutdown_returns_early :
    ∃ p, Managed 1 p ∧ p.shutdowns = [.joining [0], .done] ∧ p.controllers = [.running 0] := by
  have facts : ((ofControllers {} [] 1).follow [.proceed 0, .askShutdown, .askShutdown,
      .beginShutdown 0, .beginShutdown 1, .endShutdown 1]).map
        (fun p => (p.shutdowns, p.controllers)) =
      some ([.joining [0], .done], [.running 0]) := by decide +kernel
  obtain ⟨p, follows, facts⟩ := Option.map_eq_some_iff.mp facts
  simp only [Prod.mk.injEq] at facts
  exact ⟨p, ⟨_, _, _, rfl, follows⟩, facts⟩

/-- Nor does one that is made after another one was dropped. -/
example : ((ofControllers {} [] 1).follow [.proceed 0, .askShutdown, .beginShutdown 0,
    .dropShutdown 0, .askShutdown, .beginShutdown 1, .endShutdown 1]).map
      (fun p => (p.shutdowns, p.controllers)) =
    some ([.dropped true, .done], [.running 0]) := by decide +kernel

end Pool

end TelemetryStreams
