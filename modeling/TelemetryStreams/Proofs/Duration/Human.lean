import TelemetryStreams.Proofs.Text.Numerals

/-!
# Durations read back

A duration is written as parts, each a count and the name of a unit (`written`). A part is read in one
round, whatever parts follow it (`exists_round`), and what a round adds is the count times the size of
the unit. The parts of a duration come to its seconds and to its nanoseconds, so no sum on the way is
more than 64 bits or a second of nanoseconds, and nothing is ever carried (`read_render`).
-/
namespace TelemetryStreams.Human

/-! ### Parts -/

def isUnitLetter (c : Char) : Bool := isLetter c && (digit? c).isNone && !Text.isBlank c

theorem isUnitLetter_iff {c : Char} :
    isUnitLetter c = true ↔ isLetter c = true ∧ digit? c = none ∧ Text.isBlank c = false := by
  simp [isUnitLetter, and_assoc]

/-- A name is letters and stands for a unit. -/
def Means (name : String) (unit : TimeUnit) : Prop :=
  name.toList.all isUnitLetter = true ∧ TimeUnit.ofName? name = some unit

/-- A count of a unit under one of its names. -/
structure Part where
  count : Nat
  name : String
  unit : TimeUnit
  means : Means name unit

namespace Part

def text (part : Part) : String := toString part.count ++ part.name

def seconds (part : Part) : Nat := part.count * part.unit.size.1

def nanoseconds (part : Part) : Nat := part.count * part.unit.size.2

end Part

/-- The name of a count of one of the three largest units. -/
def plural (count : Nat) (name : String) : String := name ++ (if 1 < count then "s" else "")

theorem Means.plural {name : String} {unit : TimeUnit} (one : Means name unit)
    (more : Means (name ++ "s") unit) (count : Nat) : Means (plural count name) unit := by
  unfold Human.plural
  split
  · exact more
  · rwa [String.append_empty]

/-- How often each unit goes into a duration, from the largest down. -/
def breakdown (d : Duration) : List Part :=
  let s := d.seconds.toNat
  let n := d.nanoseconds.val
  let inYear := s % 31557600
  let inMonth := inYear % 2630016
  let inDay := inMonth % 86400
  [⟨s / 31557600, plural (s / 31557600) "year", .year, Means.plural ⟨rfl, rfl⟩ ⟨rfl, rfl⟩ _⟩,
   ⟨inYear / 2630016, plural (inYear / 2630016) "month", .month,
     Means.plural ⟨rfl, rfl⟩ ⟨rfl, rfl⟩ _⟩,
   ⟨inMonth / 86400, plural (inMonth / 86400) "day", .day, Means.plural ⟨rfl, rfl⟩ ⟨rfl, rfl⟩ _⟩,
   ⟨inDay / 3600, "h", .hour, rfl, rfl⟩, ⟨inDay % 3600 / 60, "m", .minute, rfl, rfl⟩,
   ⟨inDay % 60, "s", .second, rfl, rfl⟩, ⟨n / 1000000, "ms", .millisecond, rfl, rfl⟩,
   ⟨n / 1000 % 1000, "us", .microsecond, rfl, rfl⟩, ⟨n % 1000, "ns", .nanosecond, rfl, rfl⟩]

/-- The parts that are written: those that count something, or no seconds. -/
def written (d : Duration) : List Part :=
  match (breakdown d).filter fun part => part.count ≠ 0 with
  | [] => [⟨0, "s", .second, rfl, rfl⟩]
  | first :: others => first :: others

def Part.text? (part : Part) : Option String := if part.count = 0 then none else some part.text

theorem filterMap_text? (parts : List Part) :
    (parts.map Part.text?).filterMap id =
      (parts.filter fun part => part.count ≠ 0).map Part.text := by
  induction parts with
  | nil => rfl
  | cons part parts ih =>
    rw [List.map_cons, List.filterMap_cons, List.filter_cons, ih]
    by_cases zero : part.count = 0
    · simp [Part.text?, zero]
    · simp [Part.text?, zero]

theorem items_eq (d : Duration) :
    items d = ((breakdown d).filter fun part => part.count ≠ 0).map Part.text := by
  rw [← filterMap_text?]
  apply congrArg (List.filterMap id)
  simp only [breakdown, List.map_cons, List.map_nil, Part.text?, Part.text, plural, String.append_assoc]

theorem render_eq (d : Duration) : render d = " ".intercalate ((written d).map Part.text) := by
  unfold render written
  rw [items_eq]
  cases (breakdown d).filter fun part => part.count ≠ 0 with
  | nil => rfl
  | cons first others => rfl

/-! ### What is read of a part -/

/-- Digits are taken as long as the number fits 64 bits. -/
theorem count_digits {digits rest : List Char} {n : Nat} (areDigits : ∀ c ∈ digits, c.isDigit = true)
    (fits : Nat.ofDigitChars 10 digits n < UInt64.size) :
    count n (digits ++ rest) = count (Nat.ofDigitChars 10 digits n) rest := by
  induction digits generalizing n with
  | nil => rfl
  | cons digit digits ih =>
    rw [Nat.ofDigitChars_cons] at fits ⊢
    have small := Nat.lt_of_le_of_lt (Text.le_ofDigitChars digits _) fits
    have first := digit?_of_isDigit (areDigits digit List.mem_cons_self)
    rw [List.cons_append, count, first]
    simp only [word, small, if_true, bind, Except.bind]
    exact ih (fun c mem => areDigits c (List.mem_cons_of_mem digit mem)) fits

/-- What follows a part, if anything does: a blank, and then the other parts. -/
def Follows (tail : List Char) : Prop := tail = [] ∨ ∃ others, tail = ' ' :: others

/-- The letters of a name end where the blank or the text does. -/
theorem unitName_letters {letters tail : List Char}
    (areLetters : letters.all isUnitLetter = true)
    (follows : Follows tail) : unitName (letters ++ tail) = .ok (letters, tail.drop 1) := by
  induction letters with
  | nil =>
    rcases follows with rfl | ⟨others, rfl⟩
    · rfl
    · rfl
  | cons letter letters ih =>
    rw [List.all_cons, Bool.and_eq_true] at areLetters
    obtain ⟨isLetter, noDigit, noBlank⟩ := isUnitLetter_iff.mp areLetters.1
    have others := ih areLetters.2
    rw [List.cons_append, unitName]
    simp [noDigit, noBlank, isLetter, others, bind, Except.bind, pure, Except.pure]

/-- What is added is added to seconds and to nanoseconds, if no sum passes its range. -/
theorem add_ofParts {seconds nanoseconds s n : Nat} (fits : seconds + s < UInt64.size)
    (below : nanoseconds + n < 1000000000) :
    add (.ofParts seconds nanoseconds) s n = .ok (.ofParts (seconds + s) (nanoseconds + n)) := by
  have whole : (Duration.ofParts seconds nanoseconds).seconds.toNat = seconds := by
    exact UInt64.toNat_ofNat_of_lt (by omega)
  have part : (Duration.ofParts seconds nanoseconds).nanoseconds.val = nanoseconds :=
    Nat.mod_eq_of_lt (by omega)
  have inWord : nanoseconds + n < UInt64.size := by
    change _ < 18446744073709551616
    omega
  have noCarry : ¬ 1000000000 < nanoseconds + n := by omega
  simp only [add, whole, part, word, inWord, noCarry, fits, below, if_true, if_false, bind, Except.bind,
    pure, Except.pure]

theorem addPart_ofParts (part : Part) {seconds nanoseconds : Nat}
    (fits : seconds + part.seconds < UInt64.size) (below : nanoseconds + part.nanoseconds < 1000000000) :
    addPart (.ofParts seconds nanoseconds) part.count none part.unit =
      .ok (.ofParts (seconds + part.seconds) (nanoseconds + part.nanoseconds)) := by
  have second : part.count * part.unit.size.1 < UInt64.size := by
    unfold Part.seconds at fits
    omega
  have nanosecond : part.count * part.unit.size.2 < UInt64.size := by
    unfold Part.nanoseconds at below
    change _ < 18446744073709551616
    omega
  simp only [addPart, word, second, nanosecond, if_true, bind, Except.bind]
  rw [show part.count * part.unit.size.1 = part.seconds from rfl,
    show part.count * part.unit.size.2 = part.nanoseconds from rfl, add_ofParts fits below]
  rfl

/-! ### What is read of all parts -/

/-- Goes on with the part whose first digit comes next, or ends with the text. -/
def goOn (fuel : Nat) (text : List Char) (total : Duration) : Except Fault Duration := do
  match ← nextDigit text with
  | none => pure total
  | some (digit, rest) => parts fuel digit rest total

theorem Means.exists_letter {name : String} {unit : TimeUnit} (means : Means name unit) :
    ∃ letter letters, name.toList = letter :: letters ∧ isUnitLetter letter = true := by
  cases begins : name.toList with
  | nil =>
    obtain rfl := String.toList_eq_nil_iff.mp begins
    cases means.2
  | cons letter letters =>
    have isOne := List.all_eq_true.mp means.1 letter (begins ▸ List.mem_cons_self)
    exact ⟨letter, letters, rfl, isOne⟩

theorem exists_nextDigit (part : Part) (tail : List Char) :
    ∃ digit digits, (toString part.count).toList = digit :: digits ∧
      nextDigit (part.text.toList ++ tail) =
        .ok (some (digit.toNat - '0'.toNat, digits ++ (part.name.toList ++ tail))) := by
  obtain ⟨digit, digits, begins, -⟩ := Text.exists_toString_eq_cons part.count
  have isDigit : digit.isDigit = true := Text.isDigit_of_mem_toString (begins ▸ List.mem_cons_self)
  refine ⟨digit, digits, begins, ?_⟩
  rw [Part.text, String.toList_append, begins, List.cons_append, List.cons_append, List.append_assoc,
    nextDigit, digit?_of_isDigit isDigit]

/-- A part is read in one round, and the next one goes on behind it. -/
theorem exists_round (part : Part) {tail : List Char} (fits : part.count < UInt64.size)
    (follows : Follows tail) :
    ∃ digit rest, nextDigit (part.text.toList ++ tail) = .ok (some (digit, rest)) ∧
      ∀ fuel total, parts (fuel + 1) digit rest total =
        (addPart total part.count none part.unit >>= goOn fuel (tail.drop 1)) := by
  obtain ⟨digit, digits, begins, first⟩ := exists_nextDigit part tail
  refine ⟨_, _, first, ?_⟩
  intro fuel total
  have areDigits : ∀ c ∈ digits, c.isDigit = true := by
    intro c mem
    exact Text.isDigit_of_mem_toString (begins ▸ List.mem_cons_of_mem digit mem)
  have value := Text.ofDigitChars_toString part.count
  rw [begins, Nat.ofDigitChars_cons, Nat.mul_zero, Nat.zero_add] at value
  obtain ⟨letter, letters, named, isOne⟩ := part.means.exists_letter
  obtain ⟨isLetter, noDigit, noBlank⟩ := isUnitLetter_iff.mp isOne
  have counted : count (digit.toNat - '0'.toNat) (digits ++ (part.name.toList ++ tail)) =
      .ok (part.count, none, part.name.toList ++ tail) := by
    rw [count_digits areDigits (by rwa [value]), value, named, List.cons_append, count]
    simp [noDigit, noBlank, isLetter]
  have name := unitName_letters part.means.1 follows
  rw [parts, counted]
  simp only [bind, Except.bind, name, String.ofList_toList, part.means.2]
  rfl

/-- Every unit comes to a second or to a nanosecond at least. -/
theorem Part.count_le (part : Part) : part.count ≤ part.seconds ∨ part.count ≤ part.nanoseconds := by
  unfold Part.seconds Part.nanoseconds
  cases part.unit <;> simp only [TimeUnit.size] <;> omega

def texts : List Part → List Char
  | [] => []
  | [part] => part.text.toList
  | part :: next :: others => part.text.toList ++ ' ' :: texts (next :: others)

theorem toList_intercalate_text (ps : List Part) :
    (" ".intercalate (ps.map Part.text)).toList = texts ps := by
  rw [String.toList_intercalate]
  induction ps with
  | nil => rfl
  | cons part others ih =>
    cases others with
    | nil => simp [texts]
    | cons next others =>
      rw [texts, ← ih]
      simp only [List.map_cons, List.intercalate_cons_cons, List.append_assoc]
      rfl

theorem texts_cons (part : Part) (others : List Part) :
    ∃ tail, texts (part :: others) = part.text.toList ++ tail ∧ Follows tail ∧
      tail.drop 1 = texts others := by
  cases others with
  | nil => exact ⟨[], (List.append_nil _).symm, .inl rfl, rfl⟩
  | cons next others => exact ⟨' ' :: texts (next :: others), rfl, .inr ⟨_, rfl⟩, rfl⟩

theorem mem_texts {ps : List Part} {c : Char} (mem : c ∈ texts ps) :
    c.isDigit = true ∨ isLetter c = true ∨ c = ' ' := by
  have ofPart {part : Part} (inside : c ∈ part.text.toList) : c.isDigit = true ∨ isLetter c = true := by
    rw [Part.text, String.toList_append] at inside
    rcases List.mem_append.mp inside with digit | letter
    · exact .inl (Text.isDigit_of_mem_toString digit)
    · exact .inr (isUnitLetter_iff.mp (List.all_eq_true.mp part.means.1 c letter)).1
  induction ps with
  | nil => cases mem
  | cons part others ih =>
    obtain ⟨tail, laid, follows, behind⟩ := texts_cons part others
    rw [laid] at mem
    rcases List.mem_append.mp mem with inside | after
    · exact (ofPart inside).imp_right .inl
    · rcases follows with rfl | ⟨more, rfl⟩
      · cases after
      · rcases List.mem_cons.mp after with blank | later
        · exact .inr (.inr blank)
        · exact ih (behind ▸ later)

theorem length_le_texts (ps : List Part) : ps.length ≤ (texts ps).length + 1 := by
  induction ps with
  | nil => exact Nat.zero_le _
  | cons part others ih =>
    cases others with
    | nil => exact Nat.succ_le_succ (Nat.zero_le _)
    | cons next others =>
      simp only [texts, List.length_append, List.length_cons] at ih ⊢
      omega

/-- What parts come to, each of them to what `f` says. -/
def total (f : Part → Nat) : List Part → Nat
  | [] => 0
  | part :: others => f part + total f others

/-- All parts are read, and come to the sum of what each comes to. -/
theorem goOn_texts (ps : List Part) (seconds nanoseconds : Nat) {fuel : Nat} (enough : ps.length ≤ fuel)
    (fits : seconds + total Part.seconds ps < UInt64.size)
    (below : nanoseconds + total Part.nanoseconds ps < 1000000000) :
    goOn fuel (texts ps) (.ofParts seconds nanoseconds) =
      .ok (.ofParts (seconds + total Part.seconds ps) (nanoseconds + total Part.nanoseconds ps)) := by
  -- On the parts that are still to come: a round hands its sums to the next one.
  induction ps generalizing seconds nanoseconds fuel with
  | nil => rfl
  | cons part others ih =>
    simp only [total, ← Nat.add_assoc] at fits below ⊢
    have counted : part.count < UInt64.size := by
      have small : 1000000000 ≤ UInt64.size := by decide
      have bound := part.count_le
      omega
    cases fuel with
    | zero => cases enough
    | succ fuel =>
      obtain ⟨tail, laid, follows, behind⟩ := texts_cons part others
      obtain ⟨digit, rest, begins, round⟩ := exists_round part counted follows
      have added : addPart (.ofParts seconds nanoseconds) part.count none part.unit =
          .ok (.ofParts (seconds + part.seconds) (nanoseconds + part.nanoseconds)) :=
        addPart_ofParts part (by omega) (by omega)
      rw [laid, goOn, begins]
      refine (round fuel _).trans ?_
      rw [added, behind]
      exact ih _ _ (Nat.le_of_succ_le_succ enough) fits below

/-! ### What a duration comes to -/

theorem total_filter (f : Part → Nat) (ps : List Part) (nothing : ∀ part, part.count = 0 → f part = 0) :
    total f (ps.filter fun part => part.count ≠ 0) = total f ps := by
  induction ps with
  | nil => rfl
  | cons part ps ih =>
    rw [List.filter_cons, total]
    by_cases zero : part.count = 0
    · rw [if_neg (by simp [zero]), ih, nothing part zero, Nat.zero_add]
    · rw [if_pos (by simp [zero]), total, ih]

theorem total_written (f : Part → Nat) (d : Duration) (nothing : ∀ part, part.count = 0 → f part = 0) :
    total f (written d) = total f (breakdown d) := by
  rw [← total_filter f (breakdown d) nothing]
  unfold written
  cases (breakdown d).filter fun part => part.count ≠ 0 with
  | nil => exact nothing _ rfl
  | cons first others => rfl

theorem seconds_written (d : Duration) : total Part.seconds (written d) = d.seconds.toNat := by
  -- What is left out counts nothing, so it comes to nothing.
  rw [total_written Part.seconds d (fun part zero => by rw [Part.seconds, zero, Nat.zero_mul])]
  simp only [breakdown, total, Part.seconds, TimeUnit.size]
  omega

theorem nanoseconds_written (d : Duration) : total Part.nanoseconds (written d) = d.nanoseconds.val := by
  rw [total_written Part.nanoseconds d (fun part zero => by rw [Part.nanoseconds, zero, Nat.zero_mul])]
  simp only [breakdown, total, Part.nanoseconds, TimeUnit.size]
  omega

theorem written_ne_nil (d : Duration) : written d ≠ [] := by
  unfold written
  cases (breakdown d).filter fun part => part.count ≠ 0 <;> simp

/-- What is written of a duration is read as the duration, without an overflow. -/
theorem read_render (d : Duration) : read (render d) = .ok d := by
  have laid : (render d).toList = texts (written d) := by
    rw [render_eq, toList_intercalate_text]
  have goesOn := goOn_texts (written d) 0 0 (length_le_texts (written d))
    (by rw [seconds_written, Nat.zero_add]; exact d.seconds.toNat_lt)
    (by rw [nanoseconds_written, Nat.zero_add]; exact d.nanoseconds.isLt)
  have same : Duration.ofParts d.seconds.toNat d.nanoseconds.val = d := by
    have whole : UInt64.ofNat d.seconds.toNat = d.seconds := UInt64.ofNat_toNat
    have part : Fin.ofNat 1000000000 d.nanoseconds.val = d.nanoseconds := Fin.ofNat_val_eq_self _
    rw [Duration.ofParts, whole, part]
  rw [seconds_written, nanoseconds_written, Nat.zero_add, Nat.zero_add, same] at goesOn
  rw [read, laid]
  cases some : written d with
  | nil => exact absurd some (written_ne_nil d)
  | cons first others =>
    obtain ⟨tail, begins, -⟩ := texts_cons first others
    obtain ⟨digit, digits, -, next⟩ := exists_nextDigit first tail
    rw [some, goOn, begins, next] at goesOn
    rw [begins, next]
    exact goesOn

end TelemetryStreams.Human
