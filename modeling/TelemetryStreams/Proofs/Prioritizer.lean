import TelemetryStreams.Prioritizer

/-!
# Operations of the prioritizer

What each operation does to the ready streams and to the switch for the downgrade, whoever waits. A
look takes the oldest stream or finds that there is none (`look_cases`).
-/
namespace TelemetryStreams.Prioritizer

/-- A prioritizer with other callers, but the same streams. -/
structure Agrees (a b : Prioritizer) : Prop where
  ready : a.ready = b.ready
  downgraded : a.downgraded = b.downgraded

variable {prioritizer : Prioritizer} {caller stream other : Nat}

theorem notifyOne_ready (prioritizer : Prioritizer) :
    prioritizer.notifyOne.ready = prioritizer.ready := by
  unfold Prioritizer.notifyOne
  split <;> rfl

theorem ready_setReady (prioritizer : Prioritizer) (stream : Nat) :
    (prioritizer.setReady stream).ready =
      if prioritizer.downgraded = true ∨ stream ∈ prioritizer.ready then prioritizer.ready
      else prioritizer.ready ++ [stream] := by
  unfold Prioritizer.setReady
  split
  · rfl
  · exact notifyOne_ready _

theorem mem_setReady (ready : stream ∈ (prioritizer.setReady other).ready) :
    stream ∈ prioritizer.ready ∨ stream = other := by
  unfold Prioritizer.setReady at ready
  split at ready
  · exact .inl ready
  · rw [notifyOne_ready] at ready
    exact (List.mem_append.mp ready).imp_right List.mem_singleton.mp

theorem mem_removeReady : stream ∈ (prioritizer.removeReady other).ready ↔
    stream ∈ prioritizer.ready ∧ stream ≠ other := by
  simp [Prioritizer.removeReady]

theorem downgraded_setReady (prioritizer : Prioritizer) (stream : Nat) :
    (prioritizer.setReady stream).downgraded = prioritizer.downgraded := by
  unfold Prioritizer.setReady Prioritizer.notifyOne
  split
  · rfl
  · split <;> rfl

theorem agrees_leave (prioritizer : Prioritizer) (caller : Nat) :
    (prioritizer.leave caller).Agrees prioritizer := by
  unfold Prioritizer.leave Prioritizer.notifyOne
  split
  · split <;> exact ⟨rfl, rfl⟩
  · exact ⟨rfl, rfl⟩

theorem downgraded_look (prioritizer : Prioritizer) (caller : Nat) :
    (prioritizer.look caller).2.downgraded = prioritizer.downgraded := by
  unfold Prioritizer.look
  split
  · rfl
  · split <;> rfl

/-- What a caller finds, and what is left for others. -/
theorem look_cases (prioritizer : Prioritizer) (caller : Nat) :
    (∃ stream, (prioritizer.look caller).1 = .stream stream ∧
      prioritizer.ready = stream :: (prioritizer.look caller).2.ready) ∨
    ((prioritizer.look caller).1 = .downgraded ∨ (prioritizer.look caller).1 = .nothing) ∧
      prioritizer.ready = [] ∧ (prioritizer.look caller).2.ready = [] := by
  unfold Prioritizer.look
  split
  case h_1 stream others isReady => exact .inl ⟨stream, rfl, isReady⟩
  case h_2 isReady =>
    split
    case isTrue => exact .inr ⟨.inl rfl, isReady, isReady⟩
    case isFalse => exact .inr ⟨.inr rfl, isReady, isReady⟩

theorem downgraded_of_look (found : (prioritizer.look caller).1 = .downgraded) :
    prioritizer.downgraded = true := by
  unfold Prioritizer.look at found
  split at found
  · cases found
  · split at found
    · assumption
    · cases found

end TelemetryStreams.Prioritizer
