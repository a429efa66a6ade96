import TelemetryStreams.Proofs.Hpack.Numbers

/-!
# Blocks read back

A field is written in one of three forms, each of which says something true of the table
(`Table.Writes`), and a reader with the same table takes the field out of any of them
(`Table.takeInstruction_encode`). What the reader then does to its table is what the writer has done to
its own. So writer and reader agree on the table from field to field and from block to block
(`decode_encode`), whatever is added to it and whatever leaves it.
-/
namespace TelemetryStreams.Hpack

variable {table : Table} {field : Field} {fields : List Field} {form : Form}

/-! ### Tables -/

/-- Whether a table has the room that it has from the start, and what was added fits there. -/
structure Table.IsDefault (table : Table) : Prop where
  capacity : table.capacity = 4096
  fits : totalSize table.added ≤ 4096

theorem isDefault_start : Table.IsDefault {} := ⟨rfl, Nat.zero_le _⟩

theorem Table.IsDefault.add (isDefault : table.IsDefault) (field : Field) :
    (table.add field).IsDefault :=
  ⟨isDefault.capacity, Nat.le_trans (size_fit _ _) (Nat.le_of_eq isDefault.capacity)⟩

theorem length_le_totalSize (fields : List Field) : fields.length ≤ totalSize fields := by
  induction fields with
  | nil => exact Nat.le_refl _
  | cons field older ih =>
    simp only [List.length_cons, totalSize, Field.size]
    omega

/-- The places of a table are numbers that are read back. -/
theorem Table.IsDefault.place_lt (isDefault : table.IsDefault) {place : Nat}
    (found : table.field? place = some field) : place ≠ 0 ∧ place < 2 ^ 28 := by
  cases place with
  | zero => cases found
  | succ place =>
    have inside : place < table.fields.length := (List.getElem?_eq_some_iff.mp found).1
    have added := Nat.le_trans (length_le_totalSize table.added) isDefault.fits
    have known : staticFields.length = 61 := by simp [staticFields, staticTexts]
    rw [Table.fields, List.length_append, known] at inside
    omega

/-! ### Forms -/

/-- The places of a test are those of the entries that satisfy it. -/
theorem field?_of_mem_places {test : Field → Bool} {place : Nat}
    (isPlace : place ∈ places test table.fields) :
    ∃ entry, table.field? place = some entry ∧ test entry = true := by
  obtain ⟨⟨entry, number⟩, isRow, found⟩ := List.mem_filterMap.mp isPlace
  split at found
  case isTrue passes =>
    cases found
    obtain ⟨least, isEntry⟩ := List.mem_zipIdx_iff_le_and_getElem?_sub.mp isRow
    obtain ⟨place, rfl⟩ : ∃ place, number = place + 1 := ⟨number - 1, by omega⟩
    exact ⟨entry, isEntry, passes⟩
  case isFalse => cases found

/-- What a form says of the table, for a field that it writes. -/
inductive Table.Writes (table : Table) (field : Field) : Form → Prop
  | place {place} (found : table.field? place = some field) : Writes table field (.place place)
  | namePlace {place entry} (found : table.field? place = some entry)
      (named : entry.name = field.name) : Writes table field (.namePlace place field.value)
  | full : Writes table field (.full field)

theorem Table.form_writes (table : Table) (field : Field) :
    table.Writes field (table.form field) := by
  unfold Table.form
  split
  case h_1 place first =>
    obtain ⟨entry, found, same⟩ := field?_of_mem_places (List.mem_of_mem_head? first)
    obtain rfl : entry = field := by simpa using same
    exact .place found
  case h_2 =>
    split
    case h_1 place last =>
      obtain ⟨entry, found, named⟩ := field?_of_mem_places (List.mem_of_mem_getLast? last)
      exact .namePlace found (by simpa using named)
    case h_2 => exact .full

def Form.instruction (field : Field) : Form → Instruction
  | .full _ => .added field
  | _ => .plain field

@[simp] theorem Form.field?_instruction (field : Field) (form : Form) :
    (form.instruction field).field? = some field := by
  cases form <;> rfl

/-- The reader's table follows the writer's. -/
theorem Table.Writes.afterInstruction (writes : table.Writes field form) :
    table.afterInstruction (form.instruction field) = table.afterForm form := by
  cases writes <;> rfl

theorem Table.IsDefault.afterForm (isDefault : table.IsDefault) (form : Form) :
    (table.afterForm form).IsDefault := by
  cases form with
  | full field => exact isDefault.add field
  | place | namePlace => exact isDefault

def Field.IsShort (field : Field) : Prop :=
  field.name.length < 2 ^ 28 ∧ field.value.length < 2 ^ 28

/-! ### Instructions -/

theorem Table.IsDefault.takeLiteral_place (isDefault : table.IsDefault) (lead width : Nat)
    {place : Nat} {entry : Field} {value : Octets} (above : lead % 2 ^ width = 0) (fits : lead + 2 ^ width ≤ 256)
    (found : table.field? place = some entry) (short : value.length < 2 ^ 28) (rest : Octets) :
    table.takeLiteral width (integer lead width place ++ (string value ++ rest)) =
      .ok (⟨entry.name, value⟩, rest) := by
  obtain ⟨some, small⟩ := isDefault.place_lt found
  simp only [Table.takeLiteral, takeNumber_integer lead width above fits small, bind, Except.bind, some,
    if_false, Table.takeField, found, takeString_string short, pure, Except.pure]

theorem Table.takeLiteral_full (table : Table) (lead width : Nat) (above : lead % 2 ^ width = 0)
    (fits : lead + 2 ^ width ≤ 256) (short : field.IsShort) (rest : Octets) :
    table.takeLiteral width
        (integer lead width 0 ++ (string field.name ++ (string field.value ++ rest))) =
      .ok (field, rest) := by
  simp only [Table.takeLiteral, takeNumber_integer lead width above fits (by omega : 0 < 2 ^ 28), bind,
    Except.bind, if_true, takeString_string short.1, takeString_string short.2, pure, Except.pure]

/-- A reader with the writer's table takes out of a form the field that was written. -/
theorem Table.Writes.takeInstruction (writes : table.Writes field form)
    (isDefault : table.IsDefault) (short : field.IsShort) (rest : Octets) :
    ∃ first more, form.encode = first :: more ∧
      table.takeInstruction first (first :: (more ++ rest)) =
        .ok (form.instruction field, rest) := by
  cases writes with
  | @place place found =>
    obtain ⟨first, more, begins, least, -⟩ :=
      exists_first 0x80 7 place (by omega)
    have number := takeNumber_integer 0x80 7 (by omega) (by omega)
      (isDefault.place_lt found).2 rest
    rw [begins, List.cons_append] at number
    refine ⟨first, more, begins, ?_⟩
    rw [Table.takeInstruction, if_pos least, number]
    simp only [bind, Except.bind, Table.takeField, found]
    rfl
  | @namePlace place entry found named =>
    obtain ⟨first, more, begins, -, low⟩ :=
      exists_first 0 4 place (by omega)
    have literal := isDefault.takeLiteral_place 0 4 (by omega) (by omega)
      found short.2 rest
    rw [begins, List.cons_append, named] at literal
    refine ⟨first, more ++ string field.value, by rw [Form.encode, begins, List.cons_append], ?_⟩
    rw [Table.takeInstruction, if_neg (by omega), if_neg (by omega), if_neg (by omega),
      List.append_assoc, literal]
    rfl
  | full =>
    have literal := table.takeLiteral_full 0x40 6 (by omega) (by omega)
      short rest
    have begins : integer 0x40 6 0 = [0x40] := rfl
    rw [begins, List.singleton_append] at literal
    refine ⟨0x40, string field.name ++ string field.value, rfl, ?_⟩
    rw [Table.takeInstruction, if_neg (by decide), if_pos (by decide), List.append_assoc, literal]
    rfl

/-! ### Blocks -/

theorem encode_cons (table : Table) (field : Field) (fields : List Field) :
    encode table (field :: fields) =
      ((table.form field).encode ++ (encode (table.afterForm (table.form field)) fields).1,
        (encode (table.afterForm (table.form field)) fields).2) := rfl

theorem Table.IsDefault.encode (isDefault : table.IsDefault) (fields : List Field) :
    (encode table fields).2.IsDefault := by
  induction fields generalizing table with
  | nil => exact isDefault
  | cons field fields ih => exact ih (isDefault.afterForm _)

theorem encode_eq_nil (isDefault : table.IsDefault) (short : ∀ field ∈ fields, field.IsShort) :
    (encode table fields).1 = [] ↔ fields = [] := by
  cases fields with
  | nil => simp [encode]
  | cons field fields =>
    obtain ⟨first, more, begins, -⟩ := (table.form_writes field).takeInstruction isDefault
      (short field List.mem_cons_self) []
    simp [encode_cons, begins]

/-- Reading undoes writing, with fuel for each octet, and leaves the reader with the writer's table. -/
theorem decodeFrom_encode {fuel : Nat} (isDefault : table.IsDefault)
    (short : ∀ field ∈ fields, field.IsShort) (enough : (encode table fields).1.length ≤ fuel) :
    decodeFrom fuel table (encode table fields).1 = (.ok fields, (encode table fields).2) := by
  induction fields generalizing table fuel with
  | nil => cases fuel <;> rfl
  | cons field fields ih =>
    obtain ⟨first, more, begins, taken⟩ := (table.form_writes field).takeInstruction isDefault
      (short field List.mem_cons_self) (encode (table.afterForm (table.form field)) fields).1
    rw [encode_cons, begins, List.cons_append] at enough ⊢
    obtain ⟨fuel, rfl⟩ : ∃ less, fuel = less + 1 :=
      ⟨fuel - 1, by rw [List.length_cons] at enough; omega⟩
    rw [decodeFrom, taken]
    simp only [(table.form_writes field).afterInstruction, Form.field?_instruction]
    rw [ih (isDefault.afterForm _) (fun other isOther => short other (List.mem_cons_of_mem _ isOther))
      (by simp only [List.length_cons, List.length_append] at enough; omega)]
    rfl

theorem decode_encode (isDefault : table.IsDefault) (short : ∀ field ∈ fields, field.IsShort) :
    decode table (encode table fields).1 = (.ok fields, (encode table fields).2) :=
  decodeFrom_encode isDefault short (Nat.le_refl _)

end TelemetryStreams.Hpack
