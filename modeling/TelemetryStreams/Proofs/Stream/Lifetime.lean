import TelemetryStreams.Proofs.Stream.Endings
import TelemetryStreams.Proofs.Stream.Rest

/-!
# Lifetimes

The end of its lifetime closes the send direction of a stream and changes nothing else about it
(`Step.expire_cases`). The reader goes on until somebody asks for the end, or the peer ends the call or
breaks the protocol (`Driven.cause_after_expiry`). A stream without a lifetime does not know the time: it
does the same whatever the clock shows (`Timeless.follow_retimed`).
-/
namespace TelemetryStreams.Stream

def afterLifetime (s : Stream) : Stream :=
  record { s with writer := .ended (.ok ()) }
    [.withdrawn, .logged (.lifetimeReached s.lifetime), .closed s.callNumber]

/-- A stream without a lifetime. -/
structure Timeless (s : Stream) : Prop where
  lifetime : s.lifetime = .zero
  expiry : s.expiry = none

/-- An action as it is when the clock shows another time. -/
def Action.retimed (clock : Nat → Nat) : Action → Action
  | .move made env => .move made { env with now := clock env.now }
  | action => action

variable {s t next : Stream} {action : Action} {events : List Event} {env : Surroundings}

theorem Step.expire_cases (step : Step s (.move .expire env) events next) :
    next.record events = s.afterLifetime ∧
      events = [.withdrawn, .logged (.lifetimeReached s.lifetime), .closed s.callNumber] ∧
      s.expiry ≠ none := by
  cases step with
  | openingCanceled early => simp at early
  | expired waiting limited => exact ⟨rfl, rfl, by rw [limited]; exact fun none => by cases none⟩

/-- Why a stream ends, or its call is canceled, whose writer has ended without an error. -/
theorem Driven.cause_after_expiry (driven : s.Driven) (coherent : s.Coherent)
    (ended : s.writer = .ended (.ok ())) (ends : s.run ≠ .reading ∨ s.isCanceled = true) :
    s.parentCanceled = true ∨ s.HungUp ∨ Ledger.all Ledger.isAnswer {} s.history = false := by
  have cause : s.HasCause := by
    obtain past | canceled := ends
    · refine driven.caused (.inr ?_)
      have late : ¬ s.run.IsEarly := by
        intro early
        rw [(coherent.early early).1] at ended
        cases ended
      cases phase : s.run <;> simp_all [RunPhase.IsEarly, RunPhase.HasPassed]
    · exact driven.cause_of_isCanceled canceled
  cases cause with
  | unopened uncalled =>
    obtain ⟨call, called⟩ := driven.called coherent (by rw [ended]; exact fun absent => by cases absent)
    rw [uncalled] at called
    cases called
  | asked asked => exact .inl asked
  | hungUp hungUp => exact .inr (.inl hungUp)
  | violated violation => exact .inr (.inr violation)
  | unencoded failed | unsent failed => rw [ended] at failed; cases failed

/-! ### Without a lifetime -/

theorem Timeless.step (timeless : s.Timeless) (step : Step s action events next) :
    (next.record events).Timeless := by
  obtain ⟨lifetime, expiry⟩ := timeless
  cases step with
  | opened => exact ⟨lifetime, rfl⟩
  | offered => exact ⟨lifetime, by simp [record, expiryFrom, lifetime, expiry]⟩
  | _ => exact ⟨lifetime, expiry⟩

theorem Timeless.becomes (timeless : s.Timeless) (becomes : Becomes s t) : t.Timeless := by
  induction becomes with
  | refl => exact timeless
  | step _ step ih => exact ih.step step

theorem Timeless.makeMove_now (timeless : s.Timeless) (now : Nat) (move : Move) :
    s.makeMove { env with now := now } move = s.makeMove env move := by
  obtain ⟨lifetime, expiry⟩ := timeless
  cases move with
  | offer => simp only [makeMove, offer, expiry, lifetime, if_pos]
  | expire =>
    simp only [makeMove, expire, expiry]
    cases s.writer <;> rfl
  | _ => rfl

theorem Timeless.step_retimed (timeless : s.Timeless) (clock : Nat → Nat) (action : Action) :
    s.step (action.retimed clock) = s.step action := by
  cases action with
  | move move env => exact timeless.makeMove_now _ move
  | _ => rfl

/-- A run of a stream without a lifetime is the same whatever the clock shows. -/
theorem Timeless.follow_retimed (timeless : s.Timeless) (clock : Nat → Nat) (actions : List Action) :
    s.follow (actions.map (Action.retimed clock)) = s.follow actions := by
  induction actions generalizing s with
  | nil => rfl
  | cons action actions ih =>
    simp only [List.map_cons, follow, perform, timeless.step_retimed]
    cases made : s.step action with
    | none => rfl
    | some outcome => exact ih (timeless.step (step_cases made))

end TelemetryStreams.Stream
