import TelemetryStreams.InFlight
import Mathlib.Data.List.Perm.Basic
import Mathlib.Data.List.Nodup

/-!
# Laws of the table of batches in flight

The table is a map: every operation keeps its ids distinct, so that an entry is found exactly by its
id. What leaves the table and what stays in it are together what was there before.
-/
namespace TelemetryStreams.InFlight

variable {table : InFlight} {id : Int64} {ticket : Nat}

def IsTable (table : InFlight) : Prop := (table.map (·.1)).Nodup

def tickets (table : InFlight) : List Nat := table.map (·.2)

@[simp] theorem tickets_nil : tickets [] = [] := rfl

theorem isTable_nil : IsTable [] := List.nodup_nil

theorem mem_erase {row : Int64 × Nat} : row ∈ table.erase id ↔ row ∈ table ∧ row.1 ≠ id := by
  simp [erase]

theorem IsTable.erase (distinct : table.IsTable) : (table.erase id).IsTable :=
  distinct.sublist (List.filter_sublist.map _)

theorem IsTable.register (distinct : table.IsTable) : (table.register id ticket).IsTable := by
  have absent : id ∉ (table.erase id).map (·.1) := by
    intro present
    obtain ⟨row, isRow, rfl⟩ := List.mem_map.mp present
    exact (mem_erase.mp isRow).2 rfl
  unfold IsTable InFlight.register
  rw [List.map_append, List.nodup_append]
  refine ⟨distinct.erase, List.nodup_singleton _, ?_⟩
  intro other isOther key isKey same
  simp only [List.map_cons, List.map_nil, List.mem_singleton] at isKey
  rw [same, isKey] at isOther
  exact absent isOther

theorem mem_of_ticket? (found : table.ticket? id = some ticket) : (id, ticket) ∈ table := by
  obtain ⟨row, isFound, rfl⟩ := Option.map_eq_some_iff.mp found
  have same : row.1 = id := by simpa using List.find?_some isFound
  exact same ▸ List.mem_of_find?_eq_some isFound

theorem ticket?_eq_none_iff : table.ticket? id = none ↔ ∀ row ∈ table, row.1 ≠ id := by
  simp [ticket?]

theorem ticket?_eq_some_iff (distinct : table.IsTable) :
    table.ticket? id = some ticket ↔ (id, ticket) ∈ table := by
  refine ⟨mem_of_ticket?, fun isRow => ?_⟩
  cases found : table.ticket? id with
  | none => exact absurd rfl (ticket?_eq_none_iff.mp found _ isRow)
  | some other =>
    have same := List.inj_on_of_nodup_map distinct isRow (mem_of_ticket? found) rfl
    simp only [Prod.mk.injEq, true_and] at same
    rw [same]

theorem erase_eq_self (absent : table.ticket? id = none) : table.erase id = table := by
  rw [erase, List.filter_eq_self]
  intro row isRow
  simpa using ticket?_eq_none_iff.mp absent row isRow

/-- Erasing takes one entry out of the table and leaves the others. -/
theorem perm_erase (distinct : table.IsTable) (found : table.ticket? id = some ticket) :
    table.Perm ((id, ticket) :: table.erase id) := by
  have isRow := mem_of_ticket? found
  refine (List.perm_cons_erase isRow).trans (List.Perm.of_eq ?_)
  congr 1
  rw [distinct.of_map.erase_eq_filter, erase]
  refine List.filter_congr fun row isRow' => ?_
  have : row = (id, ticket) ↔ row.1 = id :=
    ⟨fun same => same ▸ rfl, fun same => List.inj_on_of_nodup_map distinct isRow' isRow same⟩
  by_cases same : row.1 = id <;> simp [this, same]

/-- The ticket of an id and the tickets that stay when the id is erased are all there are. -/
theorem tickets_perm (id : Int64) (distinct : table.IsTable) :
    table.tickets.Perm ((table.ticket? id).toList ++ (table.erase id).tickets) := by
  cases found : table.ticket? id with
  | none => rw [erase_eq_self found]; exact List.Perm.refl _
  | some ticket => exact (perm_erase distinct found).map (·.2)

@[simp] theorem tickets_register :
    (table.register id ticket).tickets = (table.erase id).tickets ++ [ticket] := by
  simp [tickets, register]

theorem ticket?_erase_self : (table.erase id).ticket? id = none :=
  ticket?_eq_none_iff.mpr fun _ isRow => (mem_erase.mp isRow).2

theorem ticket?_erase_of_ne {other : Int64} (differ : other ≠ id) :
    (table.erase id).ticket? other = table.ticket? other := by
  unfold ticket? erase
  rw [List.find?_filter]
  congr 1
  refine congrArg₂ _ (funext fun row => ?_) rfl
  by_cases same : row.1 = other <;> simp [same, differ]

theorem ticket?_register_of_ne {other : Int64} (differ : other ≠ id) :
    (table.register id ticket).ticket? other = table.ticket? other := by
  have skipped : [(id, ticket)].find? (·.1 = other) = none := by simp [Ne.symm differ]
  have erased : (table.erase id).ticket? other = table.ticket? other := ticket?_erase_of_ne differ
  rw [← erased]
  unfold register ticket?
  rw [List.find?_append, skipped, Option.or_none]

theorem byId_perm (table : InFlight) : table.byId.Perm table := List.mergeSort_perm table _

end TelemetryStreams.InFlight

namespace TelemetryStreams

/-- The verdicts that answer a batch. -/
def Verdict.answers : List Verdict := [.ok, .unavailable, .invalidArgument, .resourceExhausted]

theorem Verdict.ofNumber_eq_ok_iff {number : Int32} {verdict : Verdict} :
    Verdict.ofNumber number = .ok verdict ↔ ∃ name, (verdict, number, name) ∈ Verdict.table := by
  unfold Verdict.ofNumber memberOf
  constructor
  · intro isMember
    split at isMember
    case h_1 row found =>
      have same : row.2.1 = number := by simpa using List.find?_some found
      cases isMember
      exact ⟨row.2.2, same ▸ List.mem_of_find?_eq_some found⟩
    case h_2 => cases isMember
  · rintro ⟨name, isRow⟩
    simp only [Verdict.table, List.mem_cons, List.not_mem_nil, or_false, Prod.mk.injEq] at isRow
    rcases isRow with ⟨rfl, rfl, -⟩ | ⟨rfl, rfl, -⟩ | ⟨rfl, rfl, -⟩ | ⟨rfl, rfl, -⟩ | ⟨rfl, rfl, -⟩ |
      ⟨rfl, rfl, -⟩ | ⟨rfl, rfl, -⟩ | ⟨rfl, rfl, -⟩ | ⟨rfl, rfl, -⟩ | ⟨rfl, rfl, -⟩
    all_goals rfl

namespace Acknowledgment

theorem exists_status_of_verdict {ack : Acknowledgment} {error : Error}
    (verdict : ack.verdict.1 = .error error) : ∃ status, error = .status status := by
  unfold Acknowledgment.verdict at verdict
  simp only at verdict
  split at verdict
  · cases verdict
  all_goals exact ⟨_, (Except.error.inj verdict).symm⟩

theorem verdict_eq_ok_iff (ack : Acknowledgment) : ack.verdict.1 = .ok () ↔ ack.code = 0 := by
  have number : Verdict.ofNumber ack.code = .ok .ok ↔ ack.code = 0 := by
    simp [Verdict.ofNumber_eq_ok_iff, Verdict.table]
  rw [← number]
  unfold verdict
  simp only
  split <;> simp_all

/-- Whether the code of an acknowledgment is one of those that answer a batch. -/
theorem verdict_isAnswer_iff (ack : Acknowledgment) :
    ack.verdict.2 = true ↔ ∃ verdict ∈ Verdict.answers, Verdict.ofNumber ack.code = .ok verdict := by
  unfold verdict Verdict.answers
  simp only
  split <;> simp_all

/-- What a retry policy does with the verdict on a batch. -/
theorem verdict_guidance (ack : Acknowledgment) {error : Error}
    (verdict : ack.verdict.1 = .error error) :
    error.guidance = if Verdict.ofNumber ack.code = .ok .unavailable then .retryable
      else if Verdict.ofNumber ack.code = .ok .resourceExhausted then .policyDependent
      else .notRetryable := by
  unfold Acknowledgment.verdict at verdict
  simp only at verdict
  split at verdict
  · cases verdict
  all_goals
    cases verdict
    simp_all [Error.guidance, Code.guidance, verdict.unexpected]

/-- Codes that say that a batch must not come again. -/
theorem code_of_notRetryable (ack : Acknowledgment) {error : Error}
    (verdict : ack.verdict.1 = .error error) (guidance : error.guidance = .notRetryable) :
    Verdict.ofNumber ack.code = .ok .invalidArgument ∨
      ∀ verdict ∈ Verdict.answers, Verdict.ofNumber ack.code ≠ .ok verdict := by
  have accepted : Verdict.ofNumber ack.code ≠ .ok .ok := by
    intro accepted
    unfold Acknowledgment.verdict at verdict
    simp [accepted] at verdict
  rw [ack.verdict_guidance verdict] at guidance
  by_cases invalid : Verdict.ofNumber ack.code = .ok .invalidArgument
  · exact .inl invalid
  · refine .inr fun verdict isAnswer => ?_
    simp only [Verdict.answers, List.mem_cons, List.not_mem_nil, or_false] at isAnswer
    split at guidance
    case isTrue => cases guidance
    case isFalse =>
      split at guidance
      case isTrue => cases guidance
      case isFalse => rcases isAnswer with rfl | rfl | rfl | rfl <;> assumption

end Acknowledgment

end TelemetryStreams
