import TelemetryStreams.Metadata
import TelemetryStreams.Proofs.Hpack.Blocks
import Mathlib.Data.List.Forall2
import Mathlib.Data.List.Nodup
import Mathlib.Data.List.Perm.Basic

/-!
# Header blocks carry metadata

Metadata stands for a map: each key has one value, and the order of the pairs says nothing
(`Metadata.IsMap`). A block is written by key, so it depends on the map alone, and a reader that has
read the same blocks before gets the map back, sorted by key (`decode_encode`). The same holds of all
blocks of a sequence, written one after the other and read in the same order (`blocks_round_trip`).
-/
namespace TelemetryStreams.Metadata

variable {metadata extra rows : Metadata} {table : Hpack.Table} {maps : List Metadata}
  {key other value : String}

/-! ### Maps -/

def keys (metadata : Metadata) : List String := metadata.map Prod.fst

def IsMap (metadata : Metadata) : Prop := metadata.keys.Nodup

instance : Decidable metadata.IsMap := inferInstanceAs (Decidable (List.Nodup _))

theorem value?_cons (row : String × String) (rows : Metadata) (key : String) :
    Metadata.value? (row :: rows) key = if row.1 = key then some row.2 else rows.value? key := by
  unfold Metadata.value?
  rw [List.find?_cons]
  by_cases same : row.1 = key <;> simp [same]

theorem value?_put (metadata : Metadata) (key value other : String) :
    (metadata.put key value).value? other =
      if key = other then some value else metadata.value? other := by
  induction metadata with
  | nil => simp [put, value?_cons]
  | cons row rows ih =>
    unfold put
    split
    case isTrue same =>
      subst same
      simp only [value?_cons]
      split <;> rfl
    case isFalse differ =>
      simp only [value?_cons, ih]
      by_cases same : key = other
      · subst same
        simp [differ]
      · simp [same]

/-- A key keeps its place, and a new one goes behind the others. -/
theorem keys_put (metadata : Metadata) (key value : String) :
    (metadata.put key value).keys =
      if key ∈ metadata.keys then metadata.keys else metadata.keys ++ [key] := by
  induction metadata with
  | nil => rfl
  | cons row rows ih =>
    unfold put
    by_cases same : row.1 = key
    · subst same
      simp [keys]
    · have differ : key ≠ row.1 := Ne.symm same
      simp only [same, if_false, keys, List.map_cons, List.mem_cons, differ, false_or]
      rw [show List.map Prod.fst (put rows key value) = _ from ih]
      split <;> simp_all [keys]

theorem IsMap.put (isMap : metadata.IsMap) (key value : String) : (metadata.put key value).IsMap := by
  unfold IsMap
  rw [keys_put]
  split
  case isTrue => exact isMap
  case isFalse fresh =>
    refine List.nodup_append.mpr ⟨isMap, List.pairwise_singleton _ key, fun known isKnown new isNew => ?_⟩
    obtain rfl := List.mem_singleton.mp isNew
    exact fun same => fresh (same ▸ isKnown)

theorem IsMap.overlay (isMap : metadata.IsMap) (extra : Metadata) : (metadata.overlay extra).IsMap := by
  induction extra generalizing metadata with
  | nil => exact isMap
  | cons row rows ih => exact ih (isMap.put row.1 row.2)

/-- On top of metadata the last value of a key counts. -/
theorem value?_overlay (metadata extra : Metadata) (key : String) :
    (metadata.overlay extra).value? key =
      (Metadata.value? extra.reverse key).or (metadata.value? key) := by
  induction extra generalizing metadata with
  | nil => rfl
  | cons row rows ih =>
    have last : Metadata.value? (rows.reverse ++ [row]) key =
        (Metadata.value? rows.reverse key).or (Metadata.value? [row] key) := by
      simp only [Metadata.value?, List.find?_append, Option.map_or]
    refine (ih _).trans ?_
    rw [value?_put, List.reverse_cons, last, Option.or_assoc, value?_cons]
    split <;> simp [Metadata.value?]

theorem overlay_eq_nil_iff : metadata.overlay extra = [] ↔ metadata = [] ∧ extra = [] := by
  induction extra generalizing metadata with
  | nil => simp [overlay]
  | cons row rows ih =>
    have some : metadata.put row.1 row.2 ≠ [] := by
      cases metadata with
      | nil => simp [put]
      | cons first others =>
        unfold put
        split <;> simp
    exact iff_of_false (fun none => some (ih.mp none).1) (by simp)

theorem put_of_not_mem (fresh : key ∉ metadata.keys) :
    metadata.put key value = metadata ++ [(key, value)] := by
  induction metadata with
  | nil => rfl
  | cons row rows ih =>
    simp only [keys, List.map_cons, List.mem_cons, not_or] at fresh
    rw [put, if_neg (Ne.symm fresh.1), ih fresh.2, List.cons_append]

theorem overlay_eq_append (isMap : IsMap (metadata ++ rows)) :
    metadata.overlay rows = metadata ++ rows := by
  induction rows generalizing metadata with
  | nil => simp [overlay]
  | cons row rows ih =>
    have fresh : row.1 ∉ metadata.keys := by
      intro known
      unfold IsMap keys at isMap
      rw [List.map_append] at isMap
      exact (List.nodup_append.mp isMap).2.2 _ known _ List.mem_cons_self rfl
    have more : (metadata.put row.1 row.2).overlay rows = metadata ++ [row] ++ rows := by
      rw [put_of_not_mem fresh]
      exact ih (by simpa using isMap)
    exact more.trans (by simp)

/-- Whether all pairs with one key have one value. -/
def Agrees (rows : Metadata) : Prop := ∀ a ∈ rows, ∀ b ∈ rows, a.1 = b.1 → a.2 = b.2

theorem IsMap.agrees (isMap : metadata.IsMap) : metadata.Agrees :=
  fun _ isFirst _ isSecond same =>
    congrArg Prod.snd (List.inj_on_of_nodup_map isMap isFirst isSecond same)

theorem Agrees.perm (agrees : rows.Agrees) (same : extra.Perm rows) : extra.Agrees :=
  fun a isFirst b isSecond => agrees a (same.subset isFirst) b (same.subset isSecond)

theorem mem_of_value? (found : rows.value? key = some value) : (key, value) ∈ rows := by
  obtain ⟨row, isFirst, rfl⟩ := Option.map_eq_some_iff.mp found
  have same : row.1 = key := by simpa using List.find?_some isFirst
  rw [← same]
  exact List.mem_of_find?_eq_some isFirst

/-- A pair among others that agree is what they say of its key. -/
theorem Agrees.value?_eq_some_iff (agrees : rows.Agrees) :
    rows.value? key = some value ↔ (key, value) ∈ rows := by
  constructor
  · exact mem_of_value?
  · intro isRow
    cases found : rows.value? key with
    | none =>
      have absent := List.find?_eq_none.mp (Option.map_eq_none_iff.mp found) _ isRow
      simp at absent
    | some other =>
      have same : other = value := agrees (key, other) (mem_of_value? found) (key, value) isRow rfl
      rw [same]

/-- Pairs that agree say the same in every order. -/
theorem Agrees.value?_perm (agrees : rows.Agrees) (same : extra.Perm rows) (key : String) :
    extra.value? key = rows.value? key := by
  refine Option.ext fun value => ?_
  rw [(agrees.perm same).value?_eq_some_iff, agrees.value?_eq_some_iff, same.mem_iff]

/-- Maps that say the same have the same pairs. -/
theorem IsMap.perm_of_value? (isMap : metadata.IsMap) (isMap' : extra.IsMap)
    (same : ∀ key, extra.value? key = metadata.value? key) : extra.Perm metadata := by
  rw [List.perm_ext_iff_of_nodup (List.Nodup.of_map _ isMap') (List.Nodup.of_map _ isMap)]
  intro row
  rw [← isMap'.agrees.value?_eq_some_iff, ← isMap.agrees.value?_eq_some_iff, same]

theorem isMap_overlay (rows : Metadata) : (overlay [] rows).IsMap := by
  have isMap : IsMap [] := List.nodup_nil
  exact isMap.overlay rows

/-- Of pairs that are put one after the other, the last one with a key counts. -/
theorem value?_overlay_nil (rows : Metadata) (key : String) :
    (overlay [] rows).value? key = value? rows.reverse key :=
  (value?_overlay [] rows key).trans Option.or_none

theorem Agrees.overlay_perm (agrees : rows.Agrees) (same : extra.Perm rows) :
    (overlay [] extra).Perm (overlay [] rows) := by
  apply IsMap.perm_of_value? (isMap_overlay rows) (isMap_overlay extra)
  intro key
  rw [value?_overlay_nil, value?_overlay_nil, agrees.value?_perm rows.reverse_perm,
    agrees.value?_perm (extra.reverse_perm.trans same)]

/-! ### Order -/

theorem sorted_perm (metadata : Metadata) : metadata.sorted.Perm metadata :=
  List.mergeSort_perm _ _

theorem IsMap.sorted (isMap : metadata.IsMap) : metadata.sorted.IsMap :=
  ((metadata.sorted_perm.map Prod.fst).nodup_iff).mpr isMap

theorem pairwise_sorted (metadata : Metadata) :
    metadata.sorted.Pairwise fun a b => a.1 ≤ b.1 := by
  have ordered := @List.pairwise_mergeSort _ (fun a b : String × String => decide (a.1 ≤ b.1))
    (fun a b c first second => by
      simp only [decide_eq_true_eq] at first second ⊢
      exact String.le_trans first second)
    (fun a b => by simpa using String.le_total a.1 b.1) metadata
  exact ordered.imp fun before => of_decide_eq_true before

theorem IsMap.sorted_eq_of_perm (isMap : metadata.IsMap) (same : extra.Perm metadata) :
    extra.sorted = metadata.sorted := by
  have both : extra.sorted.Perm metadata.sorted :=
    extra.sorted_perm.trans (same.trans metadata.sorted_perm.symm)
  refine List.Perm.eq_of_pairwise (fun a b inFirst inSecond before after => ?_)
    extra.pairwise_sorted metadata.pairwise_sorted both
  have sameKey : a.1 = b.1 := String.le_antisymm before after
  exact Prod.ext sameKey (isMap.sorted.agrees a (both.subset inFirst) b inSecond sameKey)

/-! ### One block -/

/-- Whether all texts have lengths that are read back. -/
def IsShort (metadata : Metadata) : Prop :=
  ∀ row ∈ metadata, row.1.utf8ByteSize < 2 ^ 28 ∧ row.2.utf8ByteSize < 2 ^ 28

theorem IsShort.fields (isShort : metadata.IsShort) : ∀ field ∈ metadata.fields, field.IsShort := by
  intro field isField
  obtain ⟨row, isRow, rfl⟩ := List.mem_map.mp isField
  obtain ⟨name, value⟩ := isShort row (metadata.sorted_perm.subset isRow)
  simpa [Hpack.Field.IsShort, Hpack.Field.ofTexts, Utf8.encode] using ⟨name, value⟩

theorem ofFields_ofTexts (metadata rows : Metadata) :
    ofFields metadata (rows.map fun row => .ofTexts row.1 row.2) = .ok (metadata.overlay rows) := by
  induction rows generalizing metadata with
  | nil => rfl
  | cons row rows ih =>
    simp only [List.map_cons, ofFields, texts, Hpack.Field.ofTexts, Utf8.decode_encode]
    exact ih _

/-- A reader with the writer's table gets the map back, sorted by key, and stays in step. -/
theorem decode_encode (isDefault : table.IsDefault) (isMap : metadata.IsMap)
    (isShort : metadata.IsShort) :
    decode table (encode table metadata).1 = (.ok metadata.sorted, (encode table metadata).2) := by
  have texts : ofFields [] metadata.fields = .ok metadata.sorted := by
    refine (ofFields_ofTexts [] metadata.sorted).trans (congrArg Except.ok ?_)
    exact overlay_eq_append (show IsMap ([] ++ metadata.sorted) from isMap.sorted)
  rw [decode, encode, Hpack.decode_encode isDefault isShort.fields]
  simp only [texts]
  rfl

theorem encode_eq_nil (isDefault : table.IsDefault) (isShort : metadata.IsShort) :
    (encode table metadata).1 = [] ↔ metadata = [] := by
  have none : metadata.sorted = [] ↔ metadata = [] := by
    rw [← List.length_eq_zero_iff, metadata.sorted_perm.length_eq, List.length_eq_zero_iff]
  rw [encode, Hpack.encode_eq_nil isDefault isShort.fields, fields, List.map_eq_nil_iff, none]

theorem IsMap.encode_eq_of_perm (isMap : metadata.IsMap) (same : extra.Perm metadata)
    (table : Hpack.Table) : encode table extra = encode table metadata := by
  rw [encode, encode, fields, fields, isMap.sorted_eq_of_perm same]

/-! ### Sequences of blocks -/

def blocks : Hpack.Table → List Metadata → List Octets
  | _, [] => []
  | table, metadata :: maps => (encode table metadata).1 :: blocks (encode table metadata).2 maps

/-- What a reader gets from blocks, read one after the other. -/
def readAll : Hpack.Table → List Octets → List (Except Fault Metadata)
  | _, [] => []
  | table, block :: more => (decode table block).1 :: readAll (decode table block).2 more

theorem readAll_blocks (isDefault : table.IsDefault) (isMap : ∀ metadata ∈ maps, metadata.IsMap)
    (isShort : ∀ metadata ∈ maps, metadata.IsShort) :
    readAll table (blocks table maps) = maps.map fun metadata => .ok metadata.sorted := by
  induction maps generalizing table with
  | nil => rfl
  | cons metadata maps ih =>
    simp only [List.forall_mem_cons] at isMap isShort
    simp only [blocks, readAll, List.map_cons, decode_encode isDefault isMap.1 isShort.1]
    exact congrArg _ (ih (isDefault.encode _) isMap.2 isShort.2)

theorem take_blocks (table : Hpack.Table) (maps : List Metadata) (count : Nat) :
    (blocks table maps).take count = blocks table (maps.take count) := by
  induction maps generalizing table count with
  | nil => simp [blocks]
  | cons metadata maps ih =>
    cases count with
    | zero => rfl
    | succ count => exact congrArg (_ :: ·) (ih _ count)

theorem blocks_eq_of_perm {others : List Metadata} (isMap : ∀ metadata ∈ maps, metadata.IsMap)
    (same : List.Forall₂ List.Perm others maps) : blocks table others = blocks table maps := by
  induction same generalizing table with
  | nil => rfl
  | cons same _ ih =>
    simp only [List.forall_mem_cons] at isMap
    rw [blocks, blocks, isMap.1.encode_eq_of_perm same, ih isMap.2]

/-- The blocks of maps, written one after the other and read in the same order, give back exactly the
maps. The first of them depend on the first maps alone, and not on the order of their pairs. -/
theorem blocks_round_trip (maps : List Metadata) (isMap : ∀ metadata ∈ maps, metadata.IsMap)
    (isShort : ∀ metadata ∈ maps, metadata.IsShort) :
    List.Forall₂ (fun metadata result => ∃ read : Metadata, result = .ok read ∧ read.Perm metadata)
        maps (readAll {} (blocks {} maps)) ∧
      ∀ (others : List Metadata) (count : Nat),
        List.Forall₂ List.Perm (others.take count) (maps.take count) →
        (blocks {} others).take count = (blocks {} maps).take count := by
  refine ⟨?_, fun others count same => ?_⟩
  · rw [readAll_blocks Hpack.isDefault_start isMap isShort, List.forall₂_map_right_iff,
      List.forall₂_same]
    exact fun metadata _ => ⟨_, rfl, sorted_perm metadata⟩
  · rw [take_blocks, take_blocks]
    exact blocks_eq_of_perm (fun metadata isOne => isMap metadata (List.mem_of_mem_take isOne)) same

/-- A text that is larger than the room of a table. -/
def oversized : String := String.ofList (List.replicate 5000 'x')

theorem size_replicate (n : Nat) : (String.ofList (List.replicate n 'x')).utf8ByteSize = n := by
  induction n with
  | zero => rfl
  | succ n ih =>
    rw [List.replicate_succ, String.ofList_cons, String.utf8ByteSize_append, ih]
    exact Nat.add_comm 1 n

/-- Maps of which the third empties the table. -/
def samples : List Metadata :=
  [[("tenant", "a"), ("content-type", "b")], [("content-type", "b"), ("tenant", "a")],
    [("", ""), ("large", oversized)], [("tenant", "a")], []]

theorem blocks_round_trip_oversized :
    List.Forall₂ (fun metadata result => ∃ read : Metadata, result = .ok read ∧ read.Perm metadata)
        samples (readAll {} (blocks {} samples)) ∧
      (blocks {} (samples.map List.reverse)).take 4 = (blocks {} samples).take 4 := by
  have isMap : ∀ metadata ∈ samples, metadata.IsMap := by decide
  have isShort : ∀ metadata ∈ samples, metadata.IsShort := by
    have large : oversized.utf8ByteSize = 5000 := size_replicate 5000
    simp only [samples, IsShort, List.forall_mem_cons, large]
    decide
  obtain ⟨read, alone⟩ := blocks_round_trip samples isMap isShort
  refine ⟨read, alone _ 4 ?_⟩
  rw [← List.map_take, List.forall₂_map_left_iff, List.forall₂_same]
  exact fun metadata _ => metadata.reverse_perm

end TelemetryStreams.Metadata
