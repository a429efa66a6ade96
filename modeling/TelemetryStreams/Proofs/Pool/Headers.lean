import TelemetryStreams.Proofs.Pool.Tickets
import TelemetryStreams.Proofs.Stream.Readings

/-!
# Metadata travels with its batch

A caller brings along what its credentials gave it, and its item carries that to the writer
(`Granted`). The writer puts on top what the propagator injects for the span of the batch, and the peer
reads both from the header blocks of the batches, one after the other (`headers_are_recovered`).
-/
namespace TelemetryStreams

theorem Setup.isMap_of_grants {setup : Setup} {caller : Nat} {given : Metadata}
    {granted : Option Metadata}
    (isMap : ∀ credentials, setup.credentials = some credentials → credentials.fixed.IsMap)
    (grants : setup.grants caller given = .ok granted) : (granted.getD []).IsMap := by
  unfold Setup.grants at grants
  split at grants
  case h_1 credentials equipped =>
    unfold Credentials.metadata at grants
    split at grants
    · cases grants
    · cases grants
      have fixed := isMap credentials equipped
      simp only [Option.getD_some]
      split
      · exact fixed.overlay given
      · exact fixed
  case h_2 =>
    cases grants
    exact List.nodup_nil

namespace Pool

variable {p q : Pool} {caller stream : Nat} {c d : Caller} {s t : Stream}

/-! ### What callers bring along -/

/-- Callers bring along what their credentials gave them, and so do their items. -/
structure Granted (p : Pool) : Prop where
  brought : ∀ caller c metadata, p.callers[caller]? = some c → c.phase.metadata? = some metadata →
    p.setup.grants caller c.metadata = .ok metadata
  carried : ∀ stream, ∀ item ∈ p.itemsOf stream, ∃ c, p.callers[item.ticket]? = some c ∧
    p.setup.grants item.ticket c.metadata = .ok item.metadata

/-- What a caller brings along after a step it has brought along before, or just got. -/
theorem Goes.brought {phase : CallPhase} {metadata : Option Metadata} (goes : Goes p q caller c phase)
    (brought : phase.metadata? = some metadata) :
    c.phase.metadata? = some metadata ∨ p.setup.grants caller c.metadata = .ok metadata := by
  cases goes with
  | stays => exact .inl brought
  | moves moves =>
    cases moves with
    | heads _ _ granted | looks _ _ granted =>
      cases brought
      exact .inr granted
    | waits _ _ _ earlier =>
      cases brought
      exact .inl earlier
    | fetches | accepted | returns => cases brought
  | takes _ _ _ earlier =>
    cases brought
    exact .inl earlier
  | hands => split at brought <;> cases brought
  | withdraws => cases brought

theorem Granted.change (granted : Granted p) (healthy : Healthy p) (change : Change p q) :
    Granted q := by
  -- An item that was there before still belongs to a caller who was given its metadata.
  have earlier : ∀ stream, ∀ item ∈ p.itemsOf stream, ∃ d, q.callers[item.ticket]? = some d ∧
      q.setup.grants item.ticket d.metadata = .ok item.metadata := by
    intro stream item isItem
    obtain ⟨c, isCaller, grants⟩ := granted.carried stream item isItem
    obtain ⟨d, isCaller', kept, -⟩ := change.goes isCaller
    exact ⟨d, isCaller', by rw [change.setup, kept.metadata, grants]⟩
  refine ⟨fun caller d metadata isCaller brought => ?_, fun stream item isItem => ?_⟩
  · obtain ⟨-, arriving, -⟩ | ⟨c, before, kept, goes⟩ := change.caller_cases isCaller
    · rw [arriving] at brought
      cases brought
    · rw [change.setup, kept.metadata]
      obtain was | now := goes.brought brought
      · exact granted.brought caller c metadata before was
      · exact now
  · obtain was | ⟨caller, c, bound, metadata, isCaller, submitting, rfl, -⟩ :=
      change.mem_itemsOf healthy isItem
    · exact earlier stream item was
    · have grants := granted.brought caller c metadata isCaller (by rw [submitting]; rfl)
      obtain ⟨d, isCaller', kept, -⟩ := change.goes isCaller
      exact ⟨d, isCaller', by rw [change.setup, kept.metadata]; exact grants⟩

theorem Granted.trails (granted : Granted p) (trails : Trails p q) : Granted q := by
  refine ⟨?_, fun stream item isItem => ?_⟩
  · rw [trails.callers, trails.setup]
    exact granted.brought
  · rw [trails.callers, trails.setup]
    exact granted.carried stream item (trails.itemsOf_eq stream ▸ isItem)

theorem Origin.granted (origin : Origin p) : Granted p := by
  refine ⟨fun caller c metadata isCaller => ?_, fun stream item isItem => ?_⟩
  · cases origin with
    | single => cases isCaller
    | ofControllers => cases isCaller
  · obtain ⟨c, isCaller, -⟩ := origin.placed.owned stream item isItem
    cases origin with
    | single => cases isCaller
    | ofControllers => cases isCaller

theorem Reachable.granted (reachable : Reachable p) : Granted p :=
  (reachable.invariant (P := fun p => Healthy p ∧ Granted p)
    (fun _ origin => ⟨origin.healthy, origin.granted⟩)
    (fun _ _ ⟨healthy, granted⟩ change => ⟨change.healthy healthy, granted.change healthy change⟩)
    (fun _ _ ⟨healthy, granted⟩ trails => ⟨trails.healthy healthy, granted.trails trails⟩)).2

/-! ### What peers read -/

/-- The streams of a pool have one call at most, and send what their benches make of their items. -/
theorem Reachable.wired (reachable : Reachable p) (isStream : p.streams[stream]? = some s) :
    s.OneCall ∧ ∃ first, first.headers = {} ∧ s.Wired first := by
  refine reachable.each (P := fun s => s.OneCall ∧ ∃ first, first.headers = {} ∧ s.Wired first)
    (fun p => ?_) (fun s action events next sound ⟨one, first, start, wired⟩ step => ?_) isStream
  · exact ⟨p.newStream_fresh.oneCall, _, rfl, p.newStream_fresh.wired⟩
  · exact ⟨one.step sound.coherent wired.manned step, first, start, wired.step step⟩

/-- What a peer has got is the batch of a caller, and it has read what the credentials gave that caller,
but for the keys under which the propagator has put something. -/
structure Reads (p : Pool) (s : Stream) (row : Item × SendSpan)
    (delivery : Nat × Batch × Option (Except Metadata.Fault Metadata)) (c : Caller)
    (granted : Option Metadata) (read : Metadata) : Prop where
  isCaller : p.callers[row.1.ticket]? = some c
  registered : (delivery.2.1.id, row.1.ticket) ∈ Event.registrations s.history
  payloads : delivery.2.1.payloads = [Codec.payload c.records]
  grants : p.setup.grants row.1.ticket c.metadata = .ok granted
  /-- There is no header block if and only if there is nothing to be read from one. -/
  block : delivery.2.1.headers = [] ↔
    granted.getD [] = [] ∧ s.telemetry.injected row = []
  reading : delivery.2.2 = if delivery.2.1.headers = [] then none else some (.ok read)
  isMap : read.IsMap
  values : ∀ key, read.value? key =
    (Metadata.value? (s.telemetry.injected row).reverse key).or ((granted.getD []).value? key)

/-- What the peer of a stream gets with its batches. -/
structure Conveys (p : Pool) (stream : Nat) (s : Stream) : Prop where
  /-- The batches are those of the first items that were taken, each with what its own caller was
  given. -/
  reads : List.Forall₂ (fun row delivery => ∃ c granted read, p.Reads s row delivery c granted read)
    ((Event.handled s.history).take (Event.deliveries s.history).length)
    (Event.deliveries s.history)
  /-- One more item was taken if the writer has it at hand or has ended with it, and otherwise none. -/
  lone : (Event.handled s.history).length = (Event.deliveries s.history).length + s.writer.surplus
  /-- The table of the writer is that of its peer once the peer has read the batch that is being sent. It
  may be ahead by one batch for good only when the writer is over. -/
  inStep : ∃ unsent, s.bench.headers =
      Batch.tableAfter {} ((Event.deliveries s.history).map (·.2.1) ++ unsent) ∧
    (unsent = [] ∨ ∃ batch, unsent = [batch] ∧
      ((∃ span, s.writer = .sending batch span) ∨ s.writer.HasEnded))
  /-- A writer that is over takes and sends nothing more. -/
  final : s.writer.HasEnded → ∀ q, Leads p q → ∃ t, q.streams[stream]? = some t ∧
    Event.handled t.history = Event.handled s.history ∧
    Event.deliveries t.history = Event.deliveries s.history

/-- What the peer reads of an item in terms of its caller. -/
theorem Granted.reads {row : Item × SendSpan} {number : Nat}
    {got : Batch × Option (Except Metadata.Fault Metadata)} (granted : Granted p) (placed : Placed p)
    (isMap : ∀ credentials, p.setup.credentials = some credentials → credentials.fixed.IsMap)
    (isItem : row.1 ∈ p.itemsOf stream) (recovers : s.telemetry.Recovers row got)
    (registered : (got.1.id, row.1.ticket) ∈ Event.registrations s.history) :
    ∃ c granted read, p.Reads s row (number, got) c granted read := by
  obtain ⟨c, isCaller, grants⟩ := granted.carried stream row.1 isItem
  obtain ⟨d, isOwner, records, -⟩ := placed.owned stream row.1 isItem
  obtain rfl := Option.some.inj (isCaller.symm.trans isOwner)
  have combined : (s.telemetry.combined row).IsMap :=
    (Setup.isMap_of_grants isMap grants).overlay _
  refine ⟨c, row.1.metadata, (s.telemetry.combined row).sorted, isCaller, registered, ?_, grants, ?_, ?_,
    combined.sorted, fun key => ?_⟩
  · rw [records]
    exact recovers.payloads
  · exact recovers.block.trans Metadata.overlay_eq_nil_iff
  · refine recovers.read.trans ?_
    simp only [recovers.block]
  · rw [combined.agrees.value?_perm (Metadata.sorted_perm _)]
    exact Metadata.value?_overlay _ _ key

/-- The peer of a stream reads from the header blocks, in the order of the batches and with one table,
what the credentials of the caller of each batch gave it and what was injected on top. A batch without
any of this has no block, and no block is written whose batch is not sent, but for one with which the
writer ends. -/
theorem headers_are_recovered (reachable : Reachable p) (isStream : p.streams[stream]? = some s)
    (isMap : ∀ credentials, p.setup.credentials = some credentials → credentials.fixed.IsMap)
    (isShort : ∀ row ∈ Event.handled s.history, (s.telemetry.combined row).IsShort) :
    Conveys p stream s := by
  obtain ⟨one, first, start, wired⟩ := reachable.wired isStream
  have granted := reachable.granted
  have placed := reachable.sound.placed
  have isItem : ∀ row ∈ Event.handled s.history, row.1 ∈ p.itemsOf stream := by
    intro row isRow
    rw [itemsOf_eq isStream, Stream.items, ← Event.map_fst_handled, List.append_assoc]
    exact List.mem_append_left _ (List.mem_map.mpr ⟨row, isRow, rfl⟩)
  have fits : ∀ row ∈ Event.handled s.history, s.telemetry.Fits row := by
    intro row isRow
    obtain ⟨c, -, grants⟩ := granted.carried stream row.1 (isItem row isRow)
    exact ⟨(Setup.isMap_of_grants isMap grants).overlay _, isShort row isRow⟩
  have count : (Event.deliveries s.history).length = (Event.sentBatches s.history).length := by
    rw [one.deliveries, List.length_map, Batch.length_readAll]
  have sent : (Event.deliveries s.history).map (·.2.1) = Event.sentBatches s.history := by
    rw [one.deliveries, List.map_map]
    exact Batch.map_fst_readAll _ _
  refine ⟨?_, ?_, ?_, fun ended q leads => ?_⟩
  · have recovers := wired.faithful.recovers start fits
    rw [count, one.deliveries, List.forall₂_map_right_iff]
    refine List.forall₂_iff_zip.mpr ⟨recovers.length_eq, fun both => ?_⟩
    obtain ⟨recovered, registered⟩ := (List.forall₂_iff_zip.mp recovers).2 both
    have isRow := List.mem_of_mem_take (List.of_mem_zip both).1
    exact granted.reads placed isMap (isItem _ isRow) recovered registered
  · rw [count, wired.faithful.length_handled]
  · rw [sent]
    exact wired.faithful.inStep start fits
  · obtain ⟨t, isLater, becomes⟩ := leads.becomes isStream
    obtain ⟨-, handled, same, -⟩ := becomes.silent wired.sound ended
    have later := ((reachable.leads leads).wired isLater).1
    exact ⟨t, isLater, handled, one.deliveries_eq later becomes same⟩

/-- Credentials that name a tenant unless the caller does, and a propagator that names another one for
callers without a span. -/
def tenants : Setup where
  credentials := some { fixed := [("tenant", "a"), ("key", "v")], forwards := true }
  telemetry :=
    { propagator := some
        { declared := ["Tenant"]
          rows := fun parent _ => if parent.isSome then [] else [("Tenant", "b")] } }

/-- The batches of two callers are sent, and that of a third one is not, since the pool is canceled. -/
def threeTenants : List Action :=
  let submission (caller : Nat) (spec : CallerSpec) : List Action :=
    [.arrive spec (.traces []) (some 0), .enter caller, .fetched caller, .submit caller false]
  let turn : List Action := [.stream 0 .offer, .stream 0 .take, .stream 0 .encode]
  [.run 0, .stream 0 .establish] ++ submission 0 {} ++ turn ++ [.stream 0 .send] ++
    submission 1 { parent := some ⟨1, 1⟩, metadata := [("key", "w"), ("user", "u")] } ++ turn ++
    [.stream 0 .send] ++ submission 2 {} ++ turn ++ [.cancel, .stream 0 .send]

theorem headers_are_recovered_overridden :
    ∃ p s, (single tenants []).follow threeTenants = some p ∧ p.streams[0]? = some s ∧
      Conveys p 0 s ∧ (Event.handled s.history).length = 3 ∧
      (Event.sentBatches s.history).length = 2 ∧ s.writer.HasEnded := by
  have facts : ((single tenants []).follow threeTenants).bind (fun p => p.streams[0]?.map fun s =>
      (p.setup.credentials, (Event.handled s.history).map s.telemetry.combined,
        (Event.sentBatches s.history).length, decide s.writer.HasEnded)) =
      some (tenants.credentials, [[("tenant", "b"), ("key", "v")],
        [("tenant", "a"), ("key", "w"), ("user", "u")], [("tenant", "b"), ("key", "v")]],
        2, true) := by decide +kernel
  obtain ⟨p, follows, facts⟩ := Option.bind_eq_some_iff.mp facts
  obtain ⟨s, isStream, facts⟩ := Option.map_eq_some_iff.mp facts
  simp only [Prod.mk.injEq, decide_eq_true_eq] at facts
  obtain ⟨setup, combined, sent, ended⟩ := facts
  have taken := congrArg List.length combined
  rw [List.length_map] at taken
  have reachable : Reachable p := ⟨_, .single _ _, _, follows⟩
  have isMap : ∀ credentials, p.setup.credentials = some credentials → credentials.fixed.IsMap := by
    intro credentials equipped
    obtain rfl := Option.some.inj (setup.symm.trans equipped)
    decide
  have isShort : ∀ row ∈ Event.handled s.history, (s.telemetry.combined row).IsShort := by
    intro row isRow
    have isOne : s.telemetry.combined row ∈ (Event.handled s.history).map s.telemetry.combined :=
      List.mem_map_of_mem isRow
    have all : ∀ metadata ∈ (Event.handled s.history).map s.telemetry.combined,
        metadata.IsShort := by
      simp only [combined, Metadata.IsShort, List.forall_mem_cons]
      decide
    exact all _ isOne
  exact ⟨p, s, follows, isStream, headers_are_recovered reachable isStream isMap isShort, taken,
    sent, ended⟩

end Pool

end TelemetryStreams
