/-!
# Time and the timer

Time is counted in nanoseconds. Whoever asks whether a time has come compares it with the clock.
Whoever waits for a time is woken by the timer, which counts whole milliseconds and serves a time
between two ticks at the later one. Its ticks are counted in 64 bits, of which the two greatest
numbers do not stand for ticks; a time beyond the last tick is served at that.
-/
namespace TelemetryStreams.Clock

/-- The nanoseconds between two ticks of the timer. -/
def tick : Nat := 1000000

def lastTick : Nat := 18446744073709551613

/-- When the timer wakes those who wait for a time. -/
def servedAt (time : Nat) : Nat := min ((time + (tick - 1)) / tick) lastTick * tick

variable {time : Nat}

/-- Nobody is woken too late by a whole tick. -/
theorem servedAt_lt (time : Nat) : servedAt time < time + tick := by
  have rounded : (time + (tick - 1)) / tick * tick < time + tick := by
    unfold tick
    omega
  exact Nat.lt_of_le_of_lt (Nat.mul_le_mul_right _ (Nat.min_le_left _ _)) rounded

theorem servedAt_of_dvd (inRange : time ≤ lastTick * tick) (whole : tick ∣ time) :
    servedAt time = time := by
  obtain ⟨ticks, rfl⟩ := whole
  have rounded : (tick * ticks + (tick - 1)) / tick = ticks := by
    rw [Nat.mul_add_div (by decide), Nat.div_eq_of_lt (by decide), Nat.add_zero]
  rw [Nat.mul_comm] at inRange
  rw [servedAt, rounded, Nat.min_eq_left (Nat.le_of_mul_le_mul_right inRange (by decide)), Nat.mul_comm]

theorem le_servedAt (inRange : time ≤ lastTick * tick) : time ≤ servedAt time := by
  have rounded : time ≤ (time + (tick - 1)) / tick * tick := by
    unfold tick
    omega
  rw [servedAt, ← Nat.mul_min_mul_right]
  exact Nat.le_min.mpr ⟨rounded, inRange⟩

end TelemetryStreams.Clock
