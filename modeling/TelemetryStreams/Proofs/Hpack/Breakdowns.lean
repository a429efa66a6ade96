import TelemetryStreams.Proofs.Metadata

/-!
# What a reader makes of any octets

A block is whatever the peer has sent, so the reader must have an answer to all octets. It reads
instructions until the block ends or one of them cannot be read (`Table.Reads`), and whatever is wrong
with an instruction is a fault with a wording, for every table, with one exception: a new size whose
number cannot be read. That is the octet 0x3f with fewer than four octets behind it, or with four that do
not end the number (`takeInstruction_breaks_down_iff`). So a reader breaks down if and only if it comes to
such a place, and otherwise it returns a map or a fault with a wording (`outcomes_of_decode`).
-/
namespace TelemetryStreams.Hpack

variable {table final : Table} {fault : Fault} {octets rest left : Octets}

/-! ### Numbers that cannot be read -/

/-- Groups cannot be read if none of the octets that may be taken is the last one. -/
theorem takeGroups_fails_iff (left weight : Nat) (octets : Octets) :
    (∃ fault, takeGroups left weight octets = .error fault) ↔
      ∀ octet ∈ octets.take left, 128 ≤ octet.toNat := by
  induction left generalizing weight octets with
  | zero => simp [takeGroups]
  | succ left ih =>
    cases octets with
    | nil => simp [takeGroups]
    | cons octet octets =>
      rw [takeGroups, List.take_succ_cons, List.forall_mem_cons, ← ih (weight * 128)]
      split
      case isTrue last => simp; omega
      case isFalse more =>
        cases takeGroups left (weight * 128) octets with
        | error fault => simp [bind, Except.bind]; omega
        | ok taken => simp [bind, Except.bind, pure, Except.pure]

/-- A number cannot be read if the bits of its first octet are all set and none of the next four octets
is the last one. -/
theorem takeInteger_fails_iff (width : Nat) (first : UInt8) (rest : Octets) :
    (∃ fault, takeInteger width (first :: rest) = .error fault) ↔
      first.toNat % 2 ^ width = 2 ^ width - 1 ∧ ∀ octet ∈ rest.take 4, 128 ≤ octet.toNat := by
  have some : 0 < 2 ^ width := Nat.two_pow_pos width
  have low : first.toNat % 2 ^ width < 2 ^ width := Nat.mod_lt _ some
  rw [← takeGroups_fails_iff 4 1 rest]
  simp only [takeInteger, Nat.pow_eq]
  split
  case isTrue inside => simp; omega
  case isFalse =>
    have full : first.toNat % 2 ^ width = 2 ^ width - 1 := by omega
    cases takeGroups 4 1 rest with
    | error fault => simp [bind, Except.bind, full]
    | ok taken => simp [bind, Except.bind, pure, Except.pure]

/-! ### What instructions take, and how they fail -/

theorem ok_of_bind {ε α β : Type} {first : Except ε α} {next : α → Except ε β} {result : β}
    (works : (first >>= next) = .ok result) : ∃ made, first = .ok made ∧ next made = .ok result := by
  cases first with
  | error fault => cases works
  | ok made => exact ⟨made, rfl, works⟩

theorem bind_ne_error {α β : Type} {first : Except Fault α} {next : α → Except Fault β}
    (firstNot : first ≠ .error fault) (nextNot : ∀ made, next made ≠ .error fault) :
    (first >>= next) ≠ .error fault := by
  cases first with
  | error other => exact fun fails => firstNot (by cases fails; rfl)
  | ok made => exact nextNot made

theorem length_of_takeGroups {count weight n : Nat}
    (taken : takeGroups count weight octets = .ok (n, rest)) : rest.length < octets.length := by
  induction count generalizing weight octets n with
  | zero => cases taken
  | succ count ih =>
    cases octets with
    | nil => cases taken
    | cons octet octets =>
      rw [takeGroups] at taken
      split at taken
      case isTrue => cases taken; exact Nat.lt_succ_self _
      case isFalse =>
        obtain ⟨⟨number, left⟩, more, taken⟩ := ok_of_bind taken
        cases taken
        exact Nat.lt_succ_of_lt (ih more)

theorem length_of_takeInteger {width n : Nat} (taken : takeInteger width octets = .ok (n, rest)) :
    rest.length < octets.length := by
  cases octets with
  | nil => cases taken
  | cons octet octets =>
    simp only [takeInteger] at taken
    split at taken
    case isTrue => cases taken; exact Nat.lt_succ_self _
    case isFalse =>
      obtain ⟨⟨number, left⟩, more, taken⟩ := ok_of_bind taken
      cases taken
      exact Nat.lt_succ_of_lt (length_of_takeGroups more)

theorem length_of_takeNumber {width n : Nat} (taken : takeNumber width octets = .ok (n, rest)) :
    rest.length < octets.length := by
  unfold takeNumber at taken
  cases more : takeInteger width octets with
  | error fault => rw [more] at taken; cases taken
  | ok made =>
    rw [more] at taken
    cases taken
    exact length_of_takeInteger more

theorem takeNumber_ne_breakdown (width : Nat) (octets : Octets) :
    takeNumber width octets ≠ .error .breakdown := by
  unfold takeNumber
  cases takeInteger width octets <;> exact fun fails => by cases fails

theorem length_of_takeString {text : Octets} (taken : takeString octets = .ok (text, rest)) :
    rest.length < octets.length := by
  obtain ⟨⟨n, more⟩, number, taken⟩ := ok_of_bind taken
  have shorter := length_of_takeNumber number
  have dropped : (more.drop n).length ≤ more.length := by simp
  simp only at taken
  split at taken
  · cases taken
  · split at taken
    · cases taken
      omega
    · split at taken
      · cases taken
        omega
      · cases taken

theorem takeString_ne_breakdown (octets : Octets) : takeString octets ≠ .error .breakdown := by
  refine bind_ne_error (takeNumber_ne_breakdown 7 octets) fun made fails => ?_
  simp only at fails
  split at fails
  · cases fails
  · split at fails
    · cases fails
    · split at fails <;> cases fails

theorem takeField_ne_breakdown (table : Table) (place : Nat) :
    table.takeField place ≠ .error .breakdown := by
  unfold Table.takeField
  split <;> exact fun fails => by cases fails

theorem length_of_takeLiteral {width : Nat} {field : Field}
    (taken : table.takeLiteral width octets = .ok (field, rest)) : rest.length < octets.length := by
  obtain ⟨⟨place, more⟩, number, taken⟩ := ok_of_bind taken
  have afterNumber := length_of_takeNumber number
  simp only at taken
  split at taken
  case isTrue written =>
    obtain ⟨⟨name, more'⟩, named, taken⟩ := ok_of_bind taken
    obtain ⟨⟨value, more''⟩, valued, taken⟩ := ok_of_bind taken
    cases taken
    have afterName : more'.length < more.length := length_of_takeString named
    have afterValue : more''.length < more'.length := length_of_takeString valued
    exact Nat.lt_trans afterValue (Nat.lt_trans afterName afterNumber)
  case isFalse inTable =>
    obtain ⟨entry, -, taken⟩ := ok_of_bind taken
    obtain ⟨⟨name, more'⟩, named, taken⟩ := ok_of_bind taken
    cases named
    obtain ⟨⟨value, more''⟩, valued, taken⟩ := ok_of_bind taken
    cases taken
    have afterValue : more''.length < more.length := length_of_takeString valued
    exact Nat.lt_trans afterValue afterNumber

theorem takeLiteral_ne_breakdown (table : Table) (width : Nat) (octets : Octets) :
    table.takeLiteral width octets ≠ .error .breakdown := by
  have value (name : Octets) (octets : Octets) :
      (takeString octets >>= fun taken => pure ((⟨name, taken.1⟩ : Field), taken.2)) ≠
        Except.error Fault.breakdown :=
    bind_ne_error (takeString_ne_breakdown octets) fun taken fails => by cases fails
  refine bind_ne_error (takeNumber_ne_breakdown width octets) fun taken => ?_
  simp only
  split
  case isTrue written =>
    exact bind_ne_error (takeString_ne_breakdown taken.2) fun named => value named.1 named.2
  case isFalse inTable =>
    exact bind_ne_error (takeField_ne_breakdown table taken.1) fun entry => value entry.name taken.2

theorem length_of_takeInstruction {first : UInt8} {instruction : Instruction}
    (taken : table.takeInstruction first octets = .ok (instruction, rest)) :
    rest.length < octets.length := by
  unfold Table.takeInstruction at taken
  split at taken
  · obtain ⟨⟨place, more⟩, number, taken⟩ := ok_of_bind taken
    obtain ⟨field, -, taken⟩ := ok_of_bind taken
    cases taken
    exact length_of_takeNumber number
  · split at taken
    · obtain ⟨⟨field, more⟩, literal, taken⟩ := ok_of_bind taken
      cases taken
      exact length_of_takeLiteral literal
    · split at taken
      · split at taken
        case h_1 capacity more number =>
          cases taken
          exact length_of_takeInteger number
        case h_2 => cases taken
      · obtain ⟨⟨field, more⟩, literal, taken⟩ := ok_of_bind taken
        cases taken
        exact length_of_takeLiteral literal

/-- An instruction breaks the reader down if it is a new size whose number cannot be read. -/
theorem takeInstruction_breaks_down_iff (table : Table) (first : UInt8) (rest : Octets) :
    table.takeInstruction first (first :: rest) = .error .breakdown ↔
      first = 0x3f ∧ ∀ octet ∈ rest.take 4, 128 ≤ octet.toNat := by
  have other : first.toNat ≠ 63 → ¬ (first = 0x3f ∧ ∀ octet ∈ rest.take 4, 128 ≤ octet.toNat) := by
    rintro differ ⟨rfl, -⟩
    exact differ rfl
  unfold Table.takeInstruction
  split_ifs with indexed added resized
  · refine iff_of_false (bind_ne_error (takeNumber_ne_breakdown 7 _) fun place => ?_)
      (other (by omega))
    exact bind_ne_error (takeField_ne_breakdown table _) fun field fails => by cases fails
  · refine iff_of_false (bind_ne_error (takeLiteral_ne_breakdown table 6 _) ?_) (other (by omega))
    exact fun field fails => by cases fails
  · have full : first.toNat % 2 ^ 5 = 2 ^ 5 - 1 ↔ first = 0x3f := by
      rw [← UInt8.toNat_inj]
      change _ ↔ first.toNat = 63
      omega
    rw [← full, ← takeInteger_fails_iff 5 first rest]
    cases takeInteger 5 (first :: rest) <;> simp
  · refine iff_of_false (bind_ne_error (takeLiteral_ne_breakdown table 4 _) ?_) (other (by omega))
    exact fun field fails => by cases fails

/-! ### What a reader comes to -/

/-- A reader with a table reads some instructions in front of some octets, and is left with the final
table and the rest. -/
inductive Table.Reads :
    (table : Table) → Octets → List Instruction → (rest : Octets) → (final : Table) → Prop
  | done (table : Table) (octets : Octets) : Reads table octets [] octets table
  | next {table final : Table} {first : UInt8} {more rest left : Octets} {instruction : Instruction}
      {instructions : List Instruction}
      (taken : table.takeInstruction first (first :: more) = .ok (instruction, rest))
      (later : Reads (table.afterInstruction instruction) rest instructions left final) :
      Reads table (first :: more) (instruction :: instructions) left final

/-- Fuel for each octet is enough, so it does not matter how much there is. -/
theorem decodeFrom_congr {fuel fuel' : Nat} (enough : octets.length ≤ fuel)
    (enough' : octets.length ≤ fuel') : decodeFrom fuel table octets = decodeFrom fuel' table octets := by
  induction fuel generalizing fuel' table octets with
  | zero =>
    obtain rfl := List.length_eq_zero_iff.mp (Nat.le_zero.mp enough)
    cases fuel' <;> rfl
  | succ fuel ih =>
    cases octets with
    | nil => cases fuel' <;> rfl
    | cons first more =>
      cases fuel' with
      | zero => cases enough'
      | succ fuel' =>
        rw [decodeFrom, decodeFrom]
        cases taken : table.takeInstruction first (first :: more) with
        | error fault => rfl
        | ok made =>
          obtain ⟨instruction, rest⟩ := made
          have shorter : rest.length < more.length + 1 := length_of_takeInstruction taken
          have less : more.length + 1 ≤ fuel + 1 := enough
          have less' : more.length + 1 ≤ fuel' + 1 := enough'
          have same : decodeFrom fuel (table.afterInstruction instruction) rest =
              decodeFrom fuel' (table.afterInstruction instruction) rest :=
            ih (by omega) (by omega)
          simp only [same]

theorem decode_of_ok {first : UInt8} {instruction : Instruction}
    (taken : table.takeInstruction first (first :: octets) = .ok (instruction, rest)) :
    decode table (first :: octets) =
      ((decode (table.afterInstruction instruction) rest).1.map (instruction.field?.toList ++ ·),
        (decode (table.afterInstruction instruction) rest).2) := by
  have shorter : rest.length < octets.length + 1 := length_of_takeInstruction taken
  have same : decodeFrom octets.length (table.afterInstruction instruction) rest =
      decode (table.afterInstruction instruction) rest :=
    decodeFrom_congr (Nat.le_of_lt_succ shorter) (Nat.le_refl _)
  rw [← same, decode, List.length_cons, decodeFrom, taken]

theorem decode_of_error {first : UInt8}
    (fails : table.takeInstruction first (first :: octets) = .error fault) :
    decode table (first :: octets) = (.error fault, table) := by
  rw [decode, List.length_cons, decodeFrom, fails]

/-- What is read in front comes in front of what is read behind it. -/
theorem Table.Reads.decode_eq {instructions : List Instruction}
    (reads : table.Reads octets instructions left final) :
    decode table octets = ((decode final left).1.map (instructions.filterMap Instruction.field? ++ ·),
      (decode final left).2) := by
  induction reads with
  | done table octets =>
    cases decode table octets with
    | mk result final => cases result <;> rfl
  | @next table final first more rest left instruction instructions taken _ ih =>
    rw [decode_of_ok taken, ih]
    cases (decode final left).1 with
    | error fault => rfl
    | ok fields => cases instruction <;> rfl

/-- A reader comes to the end of the block, or to an instruction that it cannot read. -/
theorem exists_reads (table : Table) (octets : Octets) :
    ∃ (instructions : List Instruction) (left : Octets) (final : Table),
      table.Reads octets instructions left final ∧ (left = [] ∨ ∃ first more fault, left = first :: more ∧
        final.takeInstruction first (first :: more) = .error fault) := by
  induction length : octets.length using Nat.strongRecOn generalizing table octets with
  | ind n ih =>
    cases octets with
    | nil => exact ⟨[], [], table, .done table [], .inl rfl⟩
    | cons first more =>
      cases taken : table.takeInstruction first (first :: more) with
      | error fault => exact ⟨[], _, table, .done table _, .inr ⟨first, more, fault, rfl, taken⟩⟩
      | ok made =>
        have shorter := length_of_takeInstruction taken
        obtain ⟨instructions, left, final, reads, comes⟩ :=
          ih made.2.length (length ▸ shorter) (table.afterInstruction made.1) made.2 rfl
        exact ⟨made.1 :: instructions, left, final, .next taken reads, comes⟩

/-- The reader comes to a new size whose number cannot be read: no octet ends it, or too many octets
belong to it. -/
def Table.StumblesOver (table : Table) (block : Octets) : Prop :=
  ∃ (instructions : List Instruction) (rest : Octets) (final : Table),
    table.Reads block instructions (0x3f :: rest) final ∧ ∀ octet ∈ rest.take 4, 128 ≤ octet.toNat

/-- A reader breaks down exactly if it comes to such a place. -/
theorem breaks_down_iff (table : Table) (block : Octets) :
    (decode table block).1 = .error .breakdown ↔ table.StumblesOver block := by
  constructor
  · intro breaks
    obtain ⟨instructions, left, final, reads, comes⟩ := exists_reads table block
    rw [reads.decode_eq] at breaks
    rcases comes with rfl | ⟨first, more, fault, rfl, fails⟩
    · cases breaks
    · rw [decode_of_error fails] at breaks
      cases breaks
      obtain ⟨rfl, unended⟩ := (takeInstruction_breaks_down_iff final first more).mp fails
      exact ⟨instructions, more, final, reads, unended⟩
  · rintro ⟨instructions, rest, final, reads, unended⟩
    have fails := (takeInstruction_breaks_down_iff final 0x3f rest).mpr ⟨rfl, unended⟩
    rw [reads.decode_eq, decode_of_error fails]
    rfl

theorem Fault.message?_eq_none_iff (fault : Fault) : fault.message? = none ↔ fault = .breakdown := by
  cases fault <;> simp [Fault.message?]

end TelemetryStreams.Hpack

namespace TelemetryStreams.Metadata

variable {metadata read : Metadata}

theorem IsMap.ofFields {fields : List Hpack.Field} (isMap : metadata.IsMap)
    (reads : ofFields metadata fields = .ok read) : read.IsMap := by
  induction fields generalizing metadata with
  | nil => cases reads; exact isMap
  | cons field fields ih =>
    rw [Metadata.ofFields] at reads
    cases made : texts field with
    | error fault => rw [made] at reads; cases reads
    | ok row =>
      rw [made] at reads
      exact ih (isMap.put row.1 row.2) reads

theorem decode_of_fault {table : Hpack.Table} {block : Octets} {fault : Hpack.Fault}
    (fails : (Hpack.decode table block).1 = .error fault) :
    (decode table block).1 = .error (.block fault) := by
  unfold decode
  cases read : Hpack.decode table block with
  | mk result final =>
    rw [read] at fails
    cases fails
    rfl

theorem decode_of_fields {table : Hpack.Table} {block : Octets} {fields : List Hpack.Field}
    (reads : (Hpack.decode table block).1 = .ok fields) :
    (decode table block).1 = (ofFields [] fields).mapError .notText := by
  unfold decode
  cases read : Hpack.decode table block with
  | mk result final =>
    rw [read] at reads
    cases reads
    rfl

/-- Whatever the table and whatever the octets: a reader returns a map or a fault with a wording, unless
it comes to a new size of the table whose number cannot be read. There, and nowhere else, it breaks
down. -/
theorem outcomes_of_decode (table : Hpack.Table) (block : Octets) :
    ((decode table block).1 = .error (.block .breakdown) ↔ table.StumblesOver block) ∧
      (table.StumblesOver block ∨
        (∃ metadata, (decode table block).1 = .ok metadata ∧ metadata.IsMap) ∨
        ∃ fault text, (decode table block).1 = .error fault ∧ fault.message? = some text) := by
  rw [← Hpack.breaks_down_iff]
  cases result : (Hpack.decode table block).1 with
  | error fault =>
    rw [decode_of_fault result]
    refine ⟨by simp, ?_⟩
    by_cases breaks : fault = .breakdown
    · exact .inl (by rw [breaks])
    · have worded := mt (Hpack.Fault.message?_eq_none_iff fault).mp breaks
      obtain ⟨text, wording⟩ := Option.ne_none_iff_exists'.mp worded
      exact .inr (.inr ⟨.block fault, text, rfl, wording⟩)
  | ok fields =>
    rw [decode_of_fields result]
    have returns : (Except.ok fields : Except Hpack.Fault (List Hpack.Field)) ≠ .error .breakdown :=
      fun same => by cases same
    cases reads : ofFields [] fields with
    | error fault =>
      exact ⟨iff_of_false (fun same => by cases same) returns,
        .inr (.inr ⟨.notText fault, fault.message, rfl, rfl⟩)⟩
    | ok metadata =>
      have isMap : IsMap [] := List.nodup_nil
      exact ⟨iff_of_false (fun same => by cases same) returns,
        .inr (.inl ⟨metadata, rfl, isMap.ofFields reads⟩)⟩

/-- A reader does not always return: one octet is enough to break it down. -/
theorem lone_size_breaks_down :
    ¬ ∀ (table : Hpack.Table) (block : Octets),
      (∃ metadata, (decode table block).1 = .ok metadata) ∨
        ∃ fault text, (decode table block).1 = .error fault ∧ fault.message? = some text := by
  intro returns
  have breaks : (decode {} [0x3f]).1 = .error (.block .breakdown) := rfl
  rcases returns {} [0x3f] with ⟨metadata, reads⟩ | ⟨fault, text, fails, wording⟩
  · rw [breaks] at reads
    cases reads
  · rw [breaks] at fails
    cases fails
    cases wording

end TelemetryStreams.Metadata
