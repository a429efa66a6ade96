import TelemetryStreams.Proofs.Pool.Prompts
import TelemetryStreams.Proofs.Pool.Results
import TelemetryStreams.Proofs.Stream.Outstanding

/-!
# Honest peers

The peer of a stream is honest in a run if it acknowledges only batches that it has received, each at
most once and with a code that answers it (`isHonestRun`). It may do so in any order and at any time,
an id may come back once its batch is settled, and callers may do whatever they like. No such peer
ever breaks a stream whose codec gives distinct ids to the batches in flight
(`honest_peer_is_served`).
-/
namespace TelemetryStreams.Pool

variable {p q o : Pool} {action : Action} {actions : List Action} {stream : Nat} {s t : Stream}

/-- Nothing arrives at the peer that was not registered. -/
theorem Sound.deliveries_le (sound : Sound p) (isStream : p.streams[stream]? = some s) (id : Int64) :
    s.deliveries id ≤ (Event.registrations s.history).countP (·.1 = id) := by
  let rows := s.dispatch.sends.map fun row => (row.2.id, row.1)
  have nodup : rows.Nodup := by
    refine List.Nodup.of_map Prod.snd ?_
    rw [List.map_map]
    exact sound.sends_nodup isStream
  have registered : rows ⊆ Event.registrations s.history := by
    intro row isRow
    obtain ⟨⟨ticket, batch⟩, isSent, rfl⟩ := List.mem_map.mp isRow
    exact (sound.carries isStream isSent).1
  have counted : s.deliveries id = rows.countP (·.1 = id) := by
    rw [Stream.deliveries, ← (sound.healthy stream s isStream).written.paired, List.countP_map,
      List.countP_map]
    rfl
  rw [counted]
  exact (List.subperm_of_subset nodup registered).countP_le _

theorem Reachable.unswept (reachable : Reachable p) (isStream : p.streams[stream]? = some s) :
    s.Unswept := by
  refine reachable.each (fun p id released => ?_)
    (fun _ _ _ _ _ unswept step => unswept.step step) isStream
  rw [p.newStream_fresh.history] at released
  cases released

/-- Whether the peer of a stream acknowledges, if it does, a batch that it has received and not
acknowledged yet, with a code that answers it. -/
def isHonest (p : Pool) (stream : Nat) : Action → Bool
  | .deliver call (.acknowledged ack) =>
    p.streamOf? call ≠ some stream ||
      (Verdict.answers.any (fun verdict => Verdict.ofNumber ack.code = .ok verdict) &&
        p.streams[stream]?.any fun s => s.acknowledgments ack.id < s.deliveries ack.id)
  | _ => true

def isHonestRun (p : Pool) (stream : Nat) : List Action → Bool
  | [] => true
  | action :: actions =>
    p.isHonest stream action && (p.perform action).all fun q => q.isHonestRun stream actions

theorem honest_delivers {ack : Acknowledgment} {prompted : Stream.Action}
    (honest : p.isHonest stream action = true) (prompts : Prompts p stream action prompted)
    (isStream : p.streams[stream]? = some s) (same : prompted = .deliver (.acknowledged ack)) :
    ack.verdict.2 = true ∧ s.acknowledgments ack.id < s.deliveries ack.id := by
  cases prompts with
  | delivered serves =>
    cases same
    simp only [isHonest, serves, isStream, ne_eq, not_true_eq_false, decide_false, Bool.false_or,
      Option.any_some, Bool.and_eq_true, List.any_eq_true, decide_eq_true_eq] at honest
    exact ⟨(Acknowledgment.verdict_isAnswer_iff ack).mpr honest.1, honest.2⟩
  | moved | started | modeSet | submitted | left => cases same

theorem served_of_silent (uncalled : s.call = none) (history : s.history = [])
    (begins : s.run = .idle ∨ s.run = .starting) : s.Served := by
  refine ⟨fun ack isAck => ?_, fun id => ?_, ?_, fun error joining => ?_⟩
  · rw [Stream.inbox, uncalled] at isAck
    cases isAck
  · simp [Stream.acknowledgments, uncalled, history, Event.acknowledgedIds]
  · rw [history]
    rfl
  · rw [joining] at begins
    simp at begins

/-- An honest peer that has been served is served after the next action. -/
theorem served_perform (reachable : Reachable p) (permitted : p.permits action = true)
    (made : p.perform action = some q) (honest : p.isHonest stream action = true)
    (served : ∀ s, p.streams[stream]? = some s →
      s.Served ∧ Ledger.all Ledger.isDistinct {} s.history = true)
    (isStream : q.streams[stream]? = some t) : t.Served := by
  obtain started | ⟨s, before, r, prompted, after⟩ := perform_stream_cases permitted made isStream
  · obtain rfl | rfl := started
    · exact served_of_silent rfl rfl (.inr rfl)
    · exact served_of_silent rfl rfl (.inr rfl)
  · obtain ⟨served, distinct⟩ := served s before
    have sound := reachable.sound
    have unswept := reachable.unswept before
    have streamSound := sound.healthy stream s before
    have served' : r.Served := by
      obtain rfl | ⟨prompted, events, next, prompts, step, rfl⟩ := prompted
      · exact served
      · exact served.step streamSound unswept (sound.deliveries_le before) step distinct
          fun ack same => honest_delivers honest prompts before same
    obtain rfl | ⟨rfl, -⟩ := after
    · exact served'
    · exact ⟨served'.answers, served'.once, served'.lawful, served'.reader⟩

theorem served_follow (reachable : Reachable p) (follows : p.follow actions = some q)
    (honest : p.isHonestRun stream actions = true)
    (served : ∀ s, p.streams[stream]? = some s → s.Served) (isStream : q.streams[stream]? = some t)
    (distinct : Ledger.all Ledger.isDistinct {} t.history = true) : t.Served := by
  -- On the actions, for all pools from which they may start.
  induction actions generalizing p with
  | nil =>
    cases follows
    exact served t isStream
  | cons action actions ih =>
    have leads : Leads p q := ⟨_, follows⟩
    simp only [follow] at follows
    split at follows
    case isFalse => cases follows
    case isTrue permitted =>
      obtain ⟨middle, made, follows⟩ := Option.bind_eq_some_iff.mp follows
      simp only [isHonestRun, made, Option.all_some, Bool.and_eq_true] at honest
      refine ih (reachable.leads (.head permitted made (.refl _))) follows honest.2 ?_
      refine fun u isMiddle => served_perform reachable permitted made honest.1 ?_ isMiddle
      refine fun s isStream' => ⟨served s isStream', ?_⟩
      -- What the stream has done by now is the first part of what it has done in the end.
      obtain ⟨t', isStream'', becomes⟩ := leads.becomes isStream'
      obtain rfl := Option.some.inj (isStream.symm.trans isStream'')
      obtain ⟨more, history⟩ := becomes.history
      rw [history, Ledger.all_append, Bool.and_eq_true] at distinct
      exact distinct.1

/-- If the ids are distinct among the batches in flight then, before the final sweep, the table is
what was registered and not acknowledged since, and every batch on the wire is in it or settled. And
if the peer is honest the reader has found an entry for all that it has taken, and has not ended for a
violation of the protocol. -/
theorem honest_peer_is_served (origin : Origin o) (follows : o.follow actions = some p)
    (isStream : p.streams[stream]? = some s)
    (distinct : Ledger.all Ledger.isDistinct {} s.history = true) :
    (s.run ≠ .finishing → s.run ≠ .done →
      s.inFlight = Event.outstanding s.history ∧
      s.load = (Event.outstanding s.history).length ∧
      ∀ ticket batch, (ticket, batch) ∈ s.dispatch.sends → (batch.id, ticket) ∈ s.inFlight ∨
        ∃ ack : Acknowledgment, ack.id = batch.id ∧ (ticket, .settled ack) ∈ s.ledger.fates) ∧
    (o.isHonestRun stream actions = true →
      Ledger.all Ledger.isAnswer {} s.history = true ∧
      ∀ error, s.run = .joining (.error error) → ∃ status, error = .status status) := by
  have reachable : Reachable p := ⟨o, origin, actions, follows⟩
  have sound := reachable.sound
  have table := (sound.healthy stream s isStream).accounted.table
  refine ⟨fun unfinished undone => ?_, fun honest => ?_⟩
  · have unreleased (id : Int64) : .logged (.releasing id) ∉ s.history := fun released =>
      (reachable.unswept isStream id released).elim unfinished undone
    have same : s.inFlight = Event.outstanding s.history :=
      table.symm.trans (Ledger.table_eq_outstanding distinct unreleased)
    refine ⟨same, congrArg List.length same, fun ticket batch isSent => ?_⟩
    rw [← table]
    exact Ledger.registered_cases distinct unreleased (sound.carries isStream isSent).1
  · have served := served_follow origin.reachable follows honest (fun s isFirst => ?_) isStream distinct
    · exact ⟨served.lawful, served.reader⟩
    · cases origin with
      | single setup script =>
        obtain rfl := List.mem_singleton.mp (List.mem_of_getElem? isFirst)
        exact served_of_silent rfl rfl (.inl rfl)
      | ofControllers => cases isFirst

/-- The peer acknowledges the second batch before the first one, whose caller has given up, and gets
the first id once more from a caller that gave up in the queue. -/
def reorderingRun : List Action :=
  [.run 0, .stream 0 .establish, .stream 0 .offer,
    .arrive {} (.traces []) (some 0), .enter 0, .submit 0 false,
    .stream 0 .take, .stream 0 .encode, .stream 0 .send, .stream 0 .offer,
    .cancelCaller 0, .collect 0 false,
    .arrive {} (.logs []) (some 0), .enter 1, .submit 1 false,
    .stream 0 .take, .stream 0 .encode, .stream 0 .send, .stream 0 .offer,
    .deliver 0 (.acknowledged { id := 2 }), .deliver 0 (.acknowledged { id := 1 }),
    .stream 0 .receive, .stream 0 .receive, .collect 1 false,
    .arrive {} (.metrics []) (some 0), .enter 2, .submit 2 false, .cancelCaller 2, .collect 2 false,
    .stream 0 .take, .stream 0 .encode, .stream 0 .send, .stream 0 .offer]

theorem honest_peer_is_served_reordering :
    ∃ p s, (single { codec := .ofScript [1, 2, 1] [] } []).follow reorderingRun = some p ∧
      p.streams[0]? = some s ∧ s.inFlight = [(1, 2)] ∧ s.inFlight = Event.outstanding s.history ∧
      Ledger.all Ledger.isAnswer {} s.history = true := by
  have facts : (((single { codec := .ofScript [1, 2, 1] [] } []).follow reorderingRun).bind fun p =>
      p.streams[0]?.map fun s =>
        (s.run, s.inFlight, Ledger.all Ledger.isDistinct {} s.history)) =
      some (.reading, [(1, 2)], true) := by decide +kernel
  have honest : (single { codec := .ofScript [1, 2, 1] [] } []).isHonestRun 0 reorderingRun = true := by
    decide +kernel
  obtain ⟨p, follows, facts⟩ := Option.bind_eq_some_iff.mp facts
  obtain ⟨s, isStream, facts⟩ := Option.map_eq_some_iff.mp facts
  simp only [Prod.mk.injEq] at facts
  obtain ⟨reading, table, distinct⟩ := facts
  obtain ⟨stands, served⟩ := honest_peer_is_served (.single _ _) follows isStream distinct
  refine ⟨p, s, follows, isStream, table, (stands ?_ ?_).1, (served honest).1⟩
  · rw [reading]
    exact nofun
  · rw [reading]
    exact nofun

end TelemetryStreams.Pool
