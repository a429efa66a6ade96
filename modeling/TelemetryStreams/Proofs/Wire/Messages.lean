import TelemetryStreams.Wire.Message
import TelemetryStreams.Wire.Reader
import Mathlib.Algebra.Group.Nat.Defs

/-!
# Messages read back

A reader merges one field after the other, so what a message does to a value is a chain of what its
fields do (`Absorbs`), and a reader follows the chain and leaves what comes after the message
(`mergeFields_encode`). A field that is left out because it holds nothing does nothing, which is right
as long as the value holds nothing there yet. Numbers take ten octets at most, so a message can be read
back if no length that is written in it needs more than 64 bits.
-/
namespace TelemetryStreams.Wire

variable {α : Type} {merge : Merge α} {empty value between result : α} {depth tag n : Nat} {field : Field}
  {message : Message} {octets rest : Octets}

/-! ### Numbers and keys -/

/-- A reader that may take one group more than the number has digits to the base 128 takes it whole. -/
theorem varintFrom?_varint (left n weight : Nat) (rest : Octets) (small : n < 128 ^ (left + 1))
    (fits : n * weight < UInt64.size) :
    varintFrom? (left + 1) weight (varint n ++ rest) = some (n * weight, rest) := by
  induction left generalizing n weight with
  | zero =>
    have last : n < 128 := by omega
    rw [varint, if_pos last, List.singleton_append]
    simp [varintFrom?, Nat.mod_eq_of_lt (show n < 256 by omega), last, fits]
  | succ left ih =>
    rw [varint]
    split
    case isTrue last => simp [varintFrom?, Nat.mod_eq_of_lt (show n < 256 by omega), last, fits]
    case isFalse more =>
      have parts := Octets.mod_mul_add_div_mul n weight
      have fewer : n / 128 < 128 ^ (left + 1) := by
        rw [Nat.div_lt_iff_lt_mul (by omega), ← Nat.pow_succ]
        exact small
      have others : varintFrom? (left + 1) (weight * 128) (varint (n / 128) ++ rest) =
          some (n / 128 * (weight * 128), rest) :=
        ih _ _ fewer (by omega)
      rw [List.cons_append, varintFrom?, Octets.toNat_marked, if_neg (by omega), others]
      simp only [Nat.add_sub_cancel, parts]

theorem takeVarint_varint (fits : n < UInt64.size) (rest : Octets) :
    takeVarint (varint n ++ rest) = .ok (n, rest) := by
  have small : n < 128 ^ (9 + 1) := Nat.lt_of_lt_of_le fits (by decide)
  have read := varintFrom?_varint 9 n 1 rest small (by rwa [Nat.mul_one])
  rw [takeVarint, varint?, read, Nat.mul_one]

theorem takeKey_key {type : Nat} {layout : Layout} (known : Layout.ofNumber? type = some layout)
    (some : 0 < tag) (small : tag < 2 ^ 29) (rest : Octets) :
    takeKey (key tag type ++ rest) = .ok ((tag, layout), rest) := by
  have short : type < 8 := by
    unfold Layout.ofNumber? at known
    split at known <;> first | omega | cases known
  have fits : 8 * tag + type < UInt32.size := by
    change 8 * tag + type < 2 ^ 32
    omega
  have wide : UInt32.size ≤ UInt64.size := by decide
  have number := takeVarint_varint (Nat.lt_of_lt_of_le fits wide) rest
  have ofType : (8 * tag + type) % 8 = type := by omega
  have ofTag : (8 * tag + type) / 8 = tag := by omega
  unfold takeKey key
  rw [number]
  simp only [bind, Except.bind, Nat.not_le_of_lt fits, if_false, ofType, known, ofTag,
    Nat.ne_of_gt some, pure, Except.pure]

/-! ### What a message does to a value -/

/-- A reader merges a field into a value, whatever follows the field. -/
def Takes (merge : Merge α) (depth : Nat) (field : Field) (value result : α) : Prop :=
  ∀ rest, ∃ tag layout octets, takeKey (field.encode ++ rest) = .ok ((tag, layout), octets) ∧
    merge depth value tag layout octets = .ok (result, rest)

/-- A reader merges the fields of a message into a value, one after the other. -/
inductive Absorbs (merge : Merge α) (depth : Nat) : Message → (value result : α) → Prop
  | nil (value : α) : Absorbs merge depth [] value value
  | cons {field : Field} {message : Message} {value between result : α}
      (takes : Takes merge depth field value between)
      (later : Absorbs merge depth message between result) :
      Absorbs merge depth (field :: message) value result

theorem Takes.encode_ne_nil (takes : Takes merge depth field value result) : field.encode ≠ [] := by
  intro none
  obtain ⟨tag, layout, octets, taken, -⟩ := takes []
  rw [none] at taken
  cases taken

theorem Takes.absorbs (takes : Takes merge depth field value result) :
    Absorbs merge depth [field] value result :=
  .cons takes (.nil result)

theorem Absorbs.append {more : Message} (first : Absorbs merge depth message value between)
    (behind : Absorbs merge depth more between result) :
    Absorbs merge depth (message ++ more) value result := by
  induction first with
  | nil => exact behind
  | cons takes later ih => exact .cons takes (ih behind)

/-- A reader that stops at the end of a message has merged all of its fields. -/
theorem mergeFields_encode (absorbs : Absorbs merge depth message value result) (rest : Octets)
    {fuel : Nat} (enough : (encode message).length ≤ fuel) :
    mergeFields merge depth rest.length fuel value (encode message ++ rest) = .ok (result, rest) := by
  induction absorbs generalizing fuel with
  | nil value =>
    cases fuel with
    | zero => rfl
    | succ fuel => rw [mergeFields]; exact if_pos (Nat.le_refl _)
  | @cons field message value between result takes later ih =>
    have some : 0 < field.encode.length := List.length_pos_iff.mpr takes.encode_ne_nil
    rw [encode, List.length_append] at enough
    cases fuel with
    | zero => omega
    | succ fuel =>
      obtain ⟨tag, layout, octets, taken, merged⟩ := takes (encode message ++ rest)
      have before : ¬ (encode (field :: message) ++ rest).length ≤ rest.length := by
        rw [encode, List.length_append, List.length_append]
        omega
      have same : encode (field :: message) ++ rest = field.encode ++ (encode message ++ rest) := by
        rw [encode, List.append_assoc]
      rw [mergeFields, if_neg before, same, taken]
      simp only [bind, Except.bind, merged]
      exact ih (by omega)

theorem decode_encode (absorbs : Absorbs merge depthLimit message empty value) :
    decode merge empty (encode message) = .ok value := by
  have merged := mergeFields_encode absorbs [] (Nat.le_refl _)
  rw [List.append_nil] at merged
  unfold decode
  rw [show (0 : Nat) = ([] : Octets).length from rfl, merged]
  rfl

/-- A message inside another one is read back, and what follows it is left. -/
theorem takeMessage_encode (absorbs : Absorbs merge depth message empty value)
    (fits : (encode message).length < UInt64.size) (rest : Octets) :
    takeMessage merge empty (depth + 1) .lengthDelimited
      (varint (encode message).length ++ (encode message ++ rest)) = .ok (value, rest) := by
  have number := takeVarint_varint fits (encode message ++ rest)
  have enough : (encode message).length ≤ (encode message ++ rest).length := by simp
  have limit : (encode message ++ rest).length - (encode message).length = rest.length := by simp
  have merged := mergeFields_encode absorbs rest enough
  simp only [takeMessage, expect, number, bind, Except.bind, Nat.not_lt.mpr enough, if_true, if_false,
    limit, merged, pure, Except.pure]

/-! ### What a field does -/

theorem Takes.ofNumber (some : 0 < tag) (small : tag < 2 ^ 29)
    (merges : ∀ rest, merge depth value tag .varint (Wire.varint n ++ rest) = .ok (result, rest)) :
    Takes merge depth (.varint tag n) value result := by
  intro rest
  refine ⟨tag, .varint, Wire.varint n ++ rest, ?_, merges rest⟩
  rw [Field.encode, List.append_assoc]
  exact takeKey_key rfl some small _

theorem Takes.ofOctets (some : 0 < tag) (small : tag < 2 ^ 29)
    (merges : ∀ rest, merge depth value tag .lengthDelimited
      (Wire.varint octets.length ++ (octets ++ rest)) = .ok (result, rest)) :
    Takes merge depth (.octets tag octets) value result := by
  intro rest
  refine ⟨tag, .lengthDelimited, Wire.varint octets.length ++ (octets ++ rest), ?_, merges rest⟩
  rw [Field.encode, List.append_assoc, List.append_assoc]
  exact takeKey_key rfl some small _

/-- A field of an inner message is laid out as one with the octets of the message. -/
theorem Takes.ofMessage (some : 0 < tag) (small : tag < 2 ^ 29)
    (merges : ∀ rest, merge depth value tag .lengthDelimited
      (Wire.varint (encode message).length ++ (encode message ++ rest)) = .ok (result, rest)) :
    Takes merge depth (.message tag message) value result := by
  have laid := Takes.ofOctets some small merges
  unfold Takes at laid ⊢
  simpa only [Field.encode] using laid

theorem eq_zero_of_toNat {m : Int64} (zero : m.toUInt64.toNat = 0) : m = 0 := by
  have bits : m.toUInt64 = 0 := UInt64.toNat_inj.mp zero
  rw [← Int64.toInt64_toUInt64 m, bits]
  rfl

theorem takeInt64_varint (m : Int64) (rest : Octets) :
    takeInt64 .varint (varint m.toUInt64.toNat ++ rest) = .ok (m, rest) := by
  unfold takeInt64
  rw [takeVarint_varint m.toUInt64.toNat_lt rest]
  simp [expect, bind, Except.bind, pure, Except.pure]

theorem takeInt32_varint (m : Int32) (rest : Octets) :
    takeInt32 .varint (varint m.toInt64.toUInt64.toNat ++ rest) = .ok (m, rest) := by
  unfold takeInt32
  rw [takeInt64_varint]
  simp [bind, Except.bind, pure, Except.pure]

theorem takeBytes_octets (fits : octets.length < UInt64.size) (rest : Octets) :
    takeBytes .lengthDelimited (varint octets.length ++ (octets ++ rest)) = .ok (octets, rest) := by
  have enough : ¬ (octets ++ rest).length < octets.length := by simp
  unfold takeBytes
  rw [takeVarint_varint fits]
  simp only [expect, bind, Except.bind, enough, if_true, if_false, List.take_left, List.drop_left, pure,
    Except.pure]

theorem takeText_octets {text : String} (fits : (Utf8.encode text).length < UInt64.size)
    (rest : Octets) :
    takeText .lengthDelimited (varint (Utf8.encode text).length ++ (Utf8.encode text ++ rest)) =
      .ok (text, rest) := by
  unfold takeText
  rw [takeBytes_octets fits]
  simp only [bind, Except.bind, Utf8.decode_encode, pure, Except.pure]

/-! ### What a field does that may be left out

A reader that takes what a field holds and sets it in the value comes to the value with the content of
the field set in it, if the value is as good as one with nothing set in it. -/

theorem within_of_ok {β : Type} {taken : Except Fault (β × Octets)} {content : β} (set : β → α)
    (message name : String) (reads : taken = .ok (content, rest)) :
    within message name (taken >>= fun made => pure (set made.1, made.2)) = .ok (set content, rest) := by
  rw [reads]
  rfl

section
variable {name part : String} (some : 0 < tag) (small : tag < 2 ^ 29)
include some small

theorem Absorbs.number (absent : n = 0 → value = result)
    (merges : ∀ rest, merge depth value tag .varint (Wire.varint n ++ rest) = .ok (result, rest)) :
    Absorbs merge depth (number tag n) value result := by
  unfold Wire.number
  split
  case isTrue zero =>
    rw [absent zero]
    exact .nil result
  case isFalse => exact (Takes.ofNumber some small merges).absorbs

theorem Absorbs.signed {m : Int64} (set : Int64 → α) (absent : value = set 0) (present : result = set m)
    (merges : ∀ octets, merge depth value tag .varint octets =
      within name part (takeInt64 .varint octets >>= fun taken => pure (set taken.1, taken.2))) :
    Absorbs merge depth (signed tag m) value result := by
  subst present
  apply Absorbs.number some small
  · intro zero
    rw [absent, eq_zero_of_toNat zero]
  · intro rest
    rw [merges]
    exact within_of_ok set name part (takeInt64_varint m rest)

theorem Absorbs.signed32 {m : Int32} (set : Int32 → α) (absent : value = set 0) (present : result = set m)
    (merges : ∀ octets, merge depth value tag .varint octets =
      within name part (takeInt32 .varint octets >>= fun taken => pure (set taken.1, taken.2))) :
    Absorbs merge depth (signed32 tag m) value result := by
  subst present
  apply Absorbs.number some small
  · intro zero
    have wide : m.toInt64 = 0 := eq_zero_of_toNat zero
    have none : m = 0 := by
      rw [← Int32.toInt32_toInt64 m, wide]
      rfl
    rw [absent, none]
  · intro rest
    rw [merges]
    exact within_of_ok set name part (takeInt32_varint m rest)

theorem Absorbs.delimited {content : Octets} (absent : content = [] → value = result)
    (merges : ∀ rest, merge depth value tag .lengthDelimited
      (Wire.varint content.length ++ (content ++ rest)) = .ok (result, rest)) :
    Absorbs merge depth (bytes tag content) value result := by
  unfold Wire.bytes
  split
  case isTrue none =>
    rw [absent none]
    exact .nil result
  case isFalse => exact (Takes.ofOctets some small merges).absorbs

theorem Absorbs.bytes {content : Octets} (set : Octets → α) (fits : content.length < UInt64.size)
    (absent : value = set []) (present : result = set content)
    (merges : ∀ octets, merge depth value tag .lengthDelimited octets =
      within name part (takeBytes .lengthDelimited octets >>= fun taken =>
        pure (set taken.1, taken.2))) :
    Absorbs merge depth (bytes tag content) value result := by
  subst present
  apply Absorbs.delimited some small
  · intro none
    rw [absent, none]
  · intro rest
    rw [merges]
    exact within_of_ok set name part (takeBytes_octets fits rest)

theorem Absorbs.text {content : String} (set : String → α)
    (fits : (Utf8.encode content).length < UInt64.size) (absent : value = set "")
    (present : result = set content)
    (merges : ∀ octets, merge depth value tag .lengthDelimited octets =
      within name part (takeText .lengthDelimited octets >>= fun taken =>
        pure (set taken.1, taken.2))) :
    Absorbs merge depth (text tag content) value result := by
  subst present
  apply Absorbs.delimited some small
  · intro none
    have read := Utf8.decode_encode content
    rw [none] at read
    cases read
    exact absent
  · intro rest
    rw [merges]
    exact within_of_ok set name part (takeText_octets fits rest)

end

/-! ### Lengths -/

theorem encode_append (first second : Message) :
    encode (first ++ second) = encode first ++ encode second := by
  induction first with
  | nil => rfl
  | cons field fields ih => rw [List.cons_append, encode, encode, ih, List.append_assoc]

/-- The octets of a field are not more than those of its message. -/
theorem length_le_encode_bytes (tag : Nat) (octets : Octets) :
    octets.length ≤ (encode (bytes tag octets)).length := by
  unfold bytes
  split
  case isTrue none => simp [none]
  case isFalse =>
    simp only [encode, Field.encode, List.length_append]
    omega

end TelemetryStreams.Wire
