import TelemetryStreams.Batch
import TelemetryStreams.Proofs.Wire.Messages

/-!
# Batches and acknowledgments read back

A batch and an acknowledgment are read back as they were, whatever numbers they hold, members of their
enumerations or not, and whatever octets (`envelopes_round_trip`). What a message does to an empty value
is shown field by field; the payloads of a batch go behind those that it has already.
-/
namespace TelemetryStreams

open Wire (Absorbs Takes)

namespace Payload

theorem length_le_encode (payload : Payload) :
    (Utf8.encode payload.schemaId).length ≤ payload.encode.length ∧
      payload.record.length ≤ payload.encode.length := by
  have schema := Wire.length_le_encode_bytes 1 (Utf8.encode payload.schemaId)
  have record := Wire.length_le_encode_bytes 3 payload.record
  unfold encode fields Wire.text
  rw [Wire.encode_append, Wire.encode_append, List.length_append, List.length_append]
  omega

/-- The fields of a payload fill an empty one, if its length can be written. -/
theorem absorbs (depth : Nat) (payload : Payload) (fits : payload.encode.length < UInt64.size) :
    Absorbs merge depth payload.fields {} payload := by
  obtain ⟨schemaId, type, record⟩ := payload
  obtain ⟨schemaShort, recordShort⟩ := length_le_encode ⟨schemaId, type, record⟩
  have schema : Absorbs merge depth (Wire.text 1 schemaId) {} ⟨schemaId, 0, []⟩ :=
    .text (by decide) (by decide) (⟨·, 0, []⟩) (Nat.lt_of_le_of_lt schemaShort fits) rfl rfl fun _ => rfl
  have kind : Absorbs merge depth (Wire.signed32 2 type) ⟨schemaId, 0, []⟩ ⟨schemaId, type, []⟩ :=
    .signed32 (by decide) (by decide) (⟨schemaId, ·, []⟩) rfl rfl fun _ => rfl
  have octets : Absorbs merge depth (Wire.bytes 3 record) ⟨schemaId, type, []⟩ ⟨schemaId, type, record⟩ :=
    .bytes (by decide) (by decide) (⟨schemaId, type, ·⟩) (Nat.lt_of_le_of_lt recordShort fits) rfl rfl
      fun _ => rfl
  exact (schema.append kind).append octets

end Payload

namespace Batch

theorem absorbs_payloads (depth : Nat) (batch : Batch) {payloads : List Payload}
    (fit : ∀ payload ∈ payloads, payload.encode.length < UInt64.size) :
    Absorbs merge (depth + 1) (Wire.messages 2 payloads Payload.fields) batch
      { batch with payloads := batch.payloads ++ payloads } := by
  induction payloads generalizing batch with
  | nil =>
    rw [List.append_nil]
    exact .nil batch
  | cons payload payloads ih =>
    have fits := fit payload List.mem_cons_self
    have others := ih { batch with payloads := batch.payloads ++ [payload] }
      (fun other isOther => fit other (List.mem_cons_of_mem payload isOther))
    rw [List.append_assoc] at others
    refine .cons (Takes.ofMessage (by decide) (by decide) ?_) others
    intro rest
    have taken := Wire.takeMessage_encode (payload.absorbs depth fits) fits rest
    simp only [merge, taken]
    rfl

/-- The fields of a batch fill an empty one. -/
theorem absorbs (depth : Nat) (batch : Batch)
    (payloadsFit : ∀ payload ∈ batch.payloads, payload.encode.length < UInt64.size)
    (headersFit : batch.headers.length < UInt64.size) :
    Absorbs merge (depth + 1) batch.fields {} batch := by
  obtain ⟨id, payloads, headers⟩ := batch
  have number : Absorbs merge (depth + 1) (Wire.signed 1 id) {} ⟨id, [], []⟩ :=
    .signed (by decide) (by decide) (⟨·, [], []⟩) rfl rfl fun _ => rfl
  have tables := absorbs_payloads depth ⟨id, [], []⟩ payloadsFit
  have block : Absorbs merge (depth + 1) (Wire.bytes 3 headers) ⟨id, payloads, []⟩
      ⟨id, payloads, headers⟩ :=
    .bytes (by decide) (by decide) (⟨id, payloads, ·⟩) headersFit rfl rfl fun _ => rfl
  exact (number.append tables).append block

end Batch

/-- The fields of an acknowledgment fill an empty one. -/
theorem Acknowledgment.absorbs (depth : Nat) (ack : Acknowledgment)
    (fits : (Utf8.encode ack.message).length < UInt64.size) :
    Absorbs merge depth ack.fields {} ack := by
  obtain ⟨id, code, message⟩ := ack
  have number : Absorbs merge depth (Wire.signed 1 id) {} ⟨id, 0, ""⟩ :=
    .signed (by decide) (by decide) (⟨·, 0, ""⟩) rfl rfl fun _ => rfl
  have verdict : Absorbs merge depth (Wire.signed32 2 code) ⟨id, 0, ""⟩ ⟨id, code, ""⟩ :=
    .signed32 (by decide) (by decide) (⟨id, ·, ""⟩) rfl rfl fun _ => rfl
  have wording : Absorbs merge depth (Wire.text 3 message) ⟨id, code, ""⟩ ⟨id, code, message⟩ :=
    .text (by decide) (by decide) (⟨id, code, ·⟩) fits rfl rfl fun _ => rfl
  exact (number.append verdict).append wording

/-- A batch and an acknowledgment are read back as they were, if the lengths that are written in them
need no more than 64 bits. -/
theorem envelopes_round_trip :
    (∀ batch : Batch, (∀ payload ∈ batch.payloads, payload.encode.length < UInt64.size) →
        batch.headers.length < UInt64.size → Batch.decode batch.encode = .ok batch) ∧
      ∀ ack : Acknowledgment, (Utf8.encode ack.message).length < UInt64.size →
        Acknowledgment.decode ack.encode = .ok ack := by
  constructor
  · intro batch payloadsFit headersFit
    -- The payloads are read one level deeper than the batch.
    exact Wire.decode_encode (batch.absorbs (Wire.depthLimit - 1) payloadsFit headersFit)
  · intro ack fits
    exact Wire.decode_encode (ack.absorbs Wire.depthLimit fits)

/-- A batch under a negative id with a payload of an unknown kind and an empty one, and an acknowledgment
with a negative code. -/
theorem envelopes_round_trip_unknown :
    Batch.decode (Batch.encode ⟨-1, [⟨"spans", 99, [0, 255]⟩, {}], [130]⟩) =
        .ok ⟨-1, [⟨"spans", 99, [0, 255]⟩, {}], [130]⟩ ∧
      Acknowledgment.decode (Acknowledgment.encode ⟨-9, -7, "später"⟩) = .ok ⟨-9, -7, "später"⟩ := by
  constructor
  · apply envelopes_round_trip.1
    · decide +kernel
    · decide
  · apply envelopes_round_trip.2
    decide +kernel

end TelemetryStreams
