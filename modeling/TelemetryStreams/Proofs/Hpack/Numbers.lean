import TelemetryStreams.Hpack.Decoder
import TelemetryStreams.Hpack.Encoder
import Mathlib.Algebra.Group.Nat.Defs

/-!
# Numbers and texts read back

A number below 2^28 takes five octets at most, so a reader takes it whole and leaves what follows
(`takeInteger_integer`). A text whose length is such a number is read back too: its first octet is below
128, so nothing takes it for a coded one (`takeString_string`).
-/
namespace TelemetryStreams.Hpack

/-! ### Numbers -/

/-- A reader that takes one group more than the number has digits to the base 128 takes it whole. -/
theorem takeGroups_groups (left n weight : Nat) (rest : Octets) (small : n < 128 ^ (left + 1)) :
    takeGroups (left + 1) weight (groups n ++ rest) = .ok (n * weight, rest) := by
  induction left generalizing n weight with
  | zero =>
    have last : n < 128 := by omega
    rw [groups, if_pos last, List.singleton_append]
    simp [takeGroups, Nat.mod_eq_of_lt (show n < 256 by omega), last]
  | succ left ih =>
    rw [groups]
    split
    case isTrue last => simp [takeGroups, Nat.mod_eq_of_lt (show n < 256 by omega), last]
    case isFalse more =>
      have fewer : n / 128 < 128 ^ (left + 1) := by
        rw [Nat.div_lt_iff_lt_mul (by omega), ← Nat.pow_succ]
        exact small
      have parts := Octets.mod_mul_add_div_mul n weight
      rw [List.cons_append, takeGroups, Octets.toNat_marked, if_neg (by omega), ih _ _ fewer,
        Nat.add_sub_cancel]
      exact congrArg (fun total => Except.ok (total, rest)) parts

theorem exists_first (lead width n : Nat) (fits : lead + 2 ^ width ≤ 256) :
    ∃ first more, integer lead width n = first :: more ∧ lead ≤ first.toNat ∧
      first.toNat < lead + 2 ^ width := by
  have some : 0 < 2 ^ width := Nat.two_pow_pos width
  unfold integer
  simp only [Nat.pow_eq]
  split
  case isTrue inside =>
    refine ⟨_, [], rfl, ?_⟩
    rw [UInt8.toNat_ofNat']
    omega
  case isFalse =>
    refine ⟨_, _, rfl, ?_⟩
    rw [UInt8.toNat_ofNat']
    omega

/-- A number below 2^28 is read back, whatever the bits above it say. -/
theorem takeInteger_integer {lead width n : Nat} (above : lead % 2 ^ width = 0)
    (fits : lead + 2 ^ width ≤ 256) (small : n < 2 ^ 28) (rest : Octets) :
    takeInteger width (integer lead width n ++ rest) = .ok (n, rest) := by
  have some : 0 < 2 ^ width := Nat.two_pow_pos width
  have low {m : Nat} (inside : m < 2 ^ width) : (UInt8.ofNat (lead + m)).toNat % 2 ^ width = m := by
    rw [UInt8.toNat_ofNat', Nat.mod_eq_of_lt (show lead + m < 2 ^ 8 by omega), Nat.add_mod, above,
      Nat.zero_add, Nat.mod_mod, Nat.mod_eq_of_lt inside]
  unfold integer
  simp only [Nat.pow_eq]
  split
  case isTrue inside =>
    simp only [List.singleton_append, takeInteger, Nat.pow_eq, low (show n < 2 ^ width by omega),
      inside, if_true]
  case isFalse large =>
    have total : 2 ^ width - 1 + (n - (2 ^ width - 1)) * 1 = n := by omega
    simp only [List.cons_append, takeInteger, Nat.pow_eq, low (Nat.sub_one_lt_of_lt some),
      Nat.lt_irrefl, if_false]
    rw [takeGroups_groups 3 _ 1 rest (by omega)]
    exact congrArg (fun total => Except.ok (total, rest)) total

theorem takeNumber_integer (lead width : Nat) {n : Nat} (above : lead % 2 ^ width = 0)
    (fits : lead + 2 ^ width ≤ 256) (small : n < 2 ^ 28) (rest : Octets) :
    takeNumber width (integer lead width n ++ rest) = .ok (n, rest) := by
  rw [takeNumber, takeInteger_integer above fits small]
  rfl

/-! ### Texts -/

theorem takeString_string {octets : Octets} (short : octets.length < 2 ^ 28) (rest : Octets) :
    takeString (string octets ++ rest) = .ok (octets, rest) := by
  have number : takeNumber 7 (string octets ++ rest) = .ok (octets.length, octets ++ rest) := by
    rw [string, List.append_assoc, takeNumber_integer 0 7 (by omega) (by omega) short]
  have uncoded : (((string octets ++ rest).head?).getD 0).toNat < 128 := by
    obtain ⟨first, more, begins, -, low⟩ :=
      exists_first 0 7 octets.length (by omega)
    rw [string, begins]
    simpa using low
  have enough : ¬ (octets ++ rest).length < octets.length := by simp
  simp only [takeString, number, bind, Except.bind, enough, uncoded, if_true, if_false,
    List.take_left, List.drop_left, pure, Except.pure]

end TelemetryStreams.Hpack
