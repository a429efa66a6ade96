import TelemetryStreams.Duration.Human
import TelemetryStreams.Json.Reader

/-!
# Numbers in texts

The readers of durations and of JSON texts take decimal digits from the left and add each to ten times
what they have. That is `Nat.ofDigitChars`, which gives a number back from its digits, and it never
passes the number on the way. The digits of a number begin with a zero for zero alone.
-/
namespace TelemetryStreams.Text

theorem toList_toString (n : Nat) : (toString n).toList = Nat.toDigits 10 n := Nat.toList_repr

theorem isDigit_of_mem_toString {n : Nat} {c : Char} (mem : c ∈ (toString n).toList) :
    c.isDigit = true := by
  rw [toList_toString] at mem
  exact Nat.isDigit_of_mem_toDigits (by decide) (by decide) mem

theorem ofDigitChars_toString (n : Nat) : Nat.ofDigitChars 10 (toString n).toList 0 = n := by
  rw [toList_toString]
  exact Nat.ofDigitChars_ten_toDigits

theorem le_ofDigitChars (digits : List Char) (n : Nat) : n ≤ Nat.ofDigitChars 10 digits n := by
  induction digits generalizing n with
  | nil => exact Nat.le_refl n
  | cons digit digits ih =>
    rw [Nat.ofDigitChars_cons]
    have more := ih (10 * n + (digit.toNat - '0'.toNat))
    omega

theorem exists_toString_eq_cons (n : Nat) :
    ∃ digit digits, (toString n).toList = digit :: digits ∧ (0 < n → digit ≠ '0') := by
  rw [toList_toString]
  induction n using Nat.strongRecOn with
  | ind n ih =>
    by_cases short : n < 10
    · refine ⟨n.digitChar, [], Nat.toDigits_of_lt_base short, ?_⟩
      intro positive zero
      have value := Nat.toNat_digitChar_of_lt_ten short
      rw [zero, show '0'.toNat = 48 from rfl] at value
      omega
    · obtain ⟨digit, digits, begins, leads⟩ := ih (n / 10) (by omega)
      refine ⟨digit, digits ++ [(n % 10).digitChar], ?_, fun _ => leads (by omega)⟩
      rw [Nat.toDigits_of_base_le (by decide) (by omega), begins, List.cons_append]

end TelemetryStreams.Text

namespace TelemetryStreams.Human

theorem digit?_of_isDigit {c : Char} (isDigit : c.isDigit = true) :
    digit? c = some (c.toNat - '0'.toNat) := by
  obtain ⟨low, high⟩ := Char.isDigit_iff_toNat.mp isDigit
  exact if_pos ⟨low, high⟩

end TelemetryStreams.Human

namespace TelemetryStreams.Json.Reader

theorem digit?_of_isDigit {c : Char} (isDigit : c.isDigit = true) :
    digit? c = some (c.toNat - '0'.toNat) :=
  Human.digit?_of_isDigit isDigit

end TelemetryStreams.Json.Reader
