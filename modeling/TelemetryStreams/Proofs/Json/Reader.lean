import TelemetryStreams.Proofs.Text.Numerals

/-!
# Values of JSON texts read back

What a reader takes off the front of a text that begins with a value, whatever follows the value: a
number in digits that fits 64 bits, a text without escapes, a truth value. Readers that follow each
other read one after the other (`bind_of_reads`).
-/
namespace TelemetryStreams.Json.Reader

variable {α β : Type} {value : α} {text rest : List Char} {c : Char}

theorem bind_of_reads {reader : Reader α} {next : α → Reader β} (reads : reader text = .ok (value, rest)) :
    (reader >>= next) text = next value rest := by
  change (reader text >>= fun taken => next taken.1 taken.2) = _
  rw [reads]
  rfl

theorem front_cons (solid : isBlank c = false) : front (c :: rest) = .ok (c, c :: rest) := by
  have peeked : peek (c :: rest) = .ok (some c, c :: rest) := by
    rw [peek, List.dropWhile_cons_of_neg (by rw [solid]; decide), List.head?_cons]
  exact bind_of_reads peeked

/-! ### Numbers -/

theorem isBlank_of_isDigit (isDigit : c.isDigit = true) : isBlank c = false := by
  cases blank : isBlank c with
  | false => rfl
  | true =>
    simp only [isBlank, Bool.or_eq_true, beq_iff_eq] at blank
    rcases blank with ((rfl | rfl) | rfl) | rfl <;> cases isDigit

theorem digits_append {ds : List Char} (areDigits : ∀ c ∈ ds, c.isDigit = true)
    (ends : ∀ c ∈ rest.head?, digit? c = none) :
    digits (ds ++ rest) = (ds.map fun c => c.toNat - '0'.toNat, rest) := by
  induction ds with
  | nil =>
    cases rest with
    | nil => rfl
    | cons c rest => rw [List.nil_append, digits, ends c rfl]; rfl
  | cons d ds ih =>
    have others := ih fun c mem => areDigits c (List.mem_cons_of_mem d mem)
    rw [List.cons_append, digits, digit?_of_isDigit (areDigits d List.mem_cons_self), others]
    rfl

theorem gather_map {ds : List Char} {n : Nat} (fits : Nat.ofDigitChars 10 ds n < UInt64.size) :
    gather n (ds.map fun c => c.toNat - '0'.toNat) = (Nat.ofDigitChars 10 ds n, 0) := by
  induction ds generalizing n with
  | nil => rfl
  | cons d ds ih =>
    rw [Nat.ofDigitChars_cons] at fits ⊢
    have small := Nat.lt_of_le_of_lt (Text.le_ofDigitChars ds _) fits
    rw [List.map_cons, gather, if_pos small, ih fits]

theorem leading_digit {n : Nat} {d : Char} {ds : List Char} (begins : (toString n).toList = d :: ds) :
    ds = [] ∨ d.toNat - '0'.toNat ≠ 0 := by
  obtain ⟨first, others, begins', leads⟩ := Text.exists_toString_eq_cons n
  rw [begins] at begins'
  cases begins'
  rcases Nat.eq_zero_or_pos n with rfl | positive
  · cases begins
    exact .inl rfl
  · right
    intro zero
    have isDigit := Text.isDigit_of_mem_toString (n := n) (begins ▸ List.mem_cons_self)
    have bounds := Char.isDigit_iff_toNat.mp isDigit
    apply leads positive
    apply Char.toNat_inj.mp
    omega

/-- A number in digits is taken whole if it fits 64 bits and a comma ends it. -/
theorem unsigned_toString {n : Nat} (fits : n < UInt64.size) (rest : List Char) :
    unsigned false ((toString n).toList ++ ',' :: rest) = .ok (.natural n, ',' :: rest) := by
  have value := Text.ofDigitChars_toString n
  have gathered : gather 0 ((toString n).toList.map fun c => c.toNat - '0'.toNat) =
      (Nat.ofDigitChars 10 (toString n).toList 0, 0) :=
    gather_map (by rwa [value])
  have taken : digits ((toString n).toList ++ ',' :: rest) =
      ((toString n).toList.map fun c => c.toNat - '0'.toNat, ',' :: rest) := by
    apply digits_append
    · intro c mem
      exact Text.isDigit_of_mem_toString mem
    · rintro c ⟨⟩
      rfl
  rw [value] at gathered
  unfold unsigned
  rw [taken]
  obtain ⟨d, ds, begins, -⟩ := Text.exists_toString_eq_cons n
  have leads := leading_digit begins
  rw [begins, List.map_cons] at gathered ⊢
  generalize d.toNat - '0'.toNat = first at leads gathered ⊢
  have after : afterInteger false n 0 (',' :: rest) = .ok (.natural n, ',' :: rest) := rfl
  cases first with
  | zero =>
    obtain rfl := leads.resolve_right (fun nonzero => nonzero rfl)
    simp only [List.map_nil] at gathered ⊢
    rw [gathered, after]
  | succ first => simp only [gathered, after]

theorem number_toString {n : Nat} (fits : n < UInt64.size) (rest : List Char) :
    number ((toString n).toList ++ ',' :: rest) = .ok (.natural n, ',' :: rest) := by
  obtain ⟨d, ds, begins, -⟩ := Text.exists_toString_eq_cons n
  have isDigit := Text.isDigit_of_mem_toString (n := n) (begins ▸ List.mem_cons_self)
  have read := unsigned_toString fits rest
  rw [begins, List.cons_append] at read ⊢
  unfold number
  split
  case h_1 _ _ sign =>
    cases sign
    cases isDigit
  case h_2 => exact read

theorem natural_toString {n : Nat} (fits : n < UInt64.size) (expected : String) (rest : List Char) :
    natural expected ((toString n).toList ++ ',' :: rest) = .ok (UInt64.ofNat n, ',' :: rest) := by
  have read := number_toString fits rest
  obtain ⟨d, ds, begins, -⟩ := Text.exists_toString_eq_cons n
  have isDigit := Text.isDigit_of_mem_toString (n := n) (begins ▸ List.mem_cons_self)
  have solid := isBlank_of_isDigit isDigit
  rw [begins, List.cons_append] at read ⊢
  unfold natural
  rw [bind_of_reads (front_cons solid), digit?_of_isDigit isDigit]
  rw [if_pos (.inr rfl), bind_of_reads read]
  rfl

/-! ### Texts and truth values -/

def isPlain (c : Char) : Bool := c ≠ '"' && c ≠ '\\' && 0x20 ≤ c.toNat

theorem isPlain_iff : isPlain c = true ↔ c ≠ '"' ∧ c ≠ '\\' ∧ 0x20 ≤ c.toNat := by
  simp [isPlain, and_assoc]

theorem stringBody_plain {cs : List Char} (arePlain : cs.all isPlain = true) (rest : List Char) {fuel : Nat}
    (enough : cs.length < fuel) : stringBody fuel (cs ++ '"' :: rest) = .ok (cs, rest) := by
  induction cs generalizing fuel with
  | nil =>
    cases fuel with
    | zero => cases enough
    | succ fuel => rfl
  | cons c cs ih =>
    cases fuel with
    | zero => cases enough
    | succ fuel =>
      rw [List.all_cons, Bool.and_eq_true] at arePlain
      obtain ⟨noQuote, noEscape, noControl⟩ := isPlain_iff.mp arePlain.1
      have others := ih arePlain.2 (Nat.lt_of_succ_lt_succ enough)
      rw [List.cons_append, stringBody, if_neg noQuote, if_neg noEscape,
        if_neg (Nat.not_lt.mpr noControl), others]
      rfl

/-- A text in quotes is taken whole if its characters stand for themselves. -/
theorem text_plain {cs : List Char} (arePlain : cs.all isPlain = true) (expected : String)
    (rest : List Char) :
    Reader.text expected ('"' :: (cs ++ '"' :: rest)) = .ok (String.ofList cs, rest) := by
  have body : stringBody ((cs ++ '"' :: rest).length + 1) (cs ++ '"' :: rest) = .ok (cs, rest) := by
    apply stringBody_plain arePlain
    rw [List.length_append]
    omega
  unfold Reader.text
  rw [bind_of_reads (front_cons rfl)]
  change (string (cs ++ '"' :: rest)) = _
  rw [string, body]
  rfl

theorem boolean_true (rest : List Char) :
    boolean ("true".toList ++ rest) = .ok (true, rest) := rfl

theorem boolean_false (rest : List Char) :
    boolean ("false".toList ++ rest) = .ok (false, rest) := rfl

theorem colon_cons (rest : List Char) : colon (':' :: rest) = .ok ((), rest) := rfl

end TelemetryStreams.Json.Reader
