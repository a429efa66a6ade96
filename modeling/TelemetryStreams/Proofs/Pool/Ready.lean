import TelemetryStreams.Proofs.Pool.Tickets
import TelemetryStreams.Proofs.Stream.Offers

/-!
# Streams that have ended and are still ready

A writer that stops waiting withdraws its stream from the prioritizer, but one that ends with an item
at hand relies on the stream having been taken, and a caller may hand over an item without that. So a
stream whose writer has ended can be handed out exactly if it was ready while the writer had an item
at hand at the end (`ready_after_end`). A writer that has ended never makes its stream ready again.
-/
namespace TelemetryStreams.Pool

variable {p q r : Pool} {stream : Nat} {s t : Stream}

/-! ### What makes a stream ready -/

/-- What an event of a stream does to the prioritizer. -/
def noted (stream : Nat) (prioritizer : Prioritizer) : Event → Prioritizer
  | .offered => prioritizer.setReady stream
  | .withdrawn => prioritizer.removeReady stream
  | _ => prioritizer

/-- Only offers and withdrawals reach the prioritizer. -/
theorem afterMove_prioritizer (p : Pool) (stream : Nat) (next : Stream) (events : List Event) :
    (p.afterMove stream next events).prioritizer =
      (Event.offers events).foldl (noted stream) p.prioritizer := by
  have reached (events : List Event) (q : Pool) :
      (events.foldl (fun p event => p.notice stream event) q).prioritizer =
        (Event.offers events).foldl (noted stream) q.prioritizer := by
    induction events generalizing q with
    | nil => rfl
    | cons event events ih =>
      rw [List.foldl_cons, ih]
      cases event <;> rfl
  exact reached events _

theorem Change.mem_ready (change : Change p q) (ready : stream ∈ q.prioritizer.ready) :
    stream ∈ p.prioritizer.ready ∨
      ∃ s, p.streams[stream]? = some s ∧ s.writer = .offering := by
  cases change with
  | @moved other s action events next isStream unsubmitted stayed step =>
    rw [afterMove_prioritizer] at ready
    obtain ⟨offering, -, offers⟩ | ⟨-, -, offers⟩ | ⟨offers, -⟩ := step.offers_cases
    · rw [offers] at ready
      obtain ready | rfl := Prioritizer.mem_setReady ready
      · exact .inl ready
      · exact .inr ⟨s, isStream, offering⟩
    · rw [offers] at ready
      exact .inl (Prioritizer.mem_removeReady.mp ready).1
    · rw [offers] at ready
      exact .inl ready
  | took _ _ _ first | glanced first => exact .inl (by rw [first]; exact List.mem_cons_of_mem _ ready)
  | downgraded empty => rw [empty] at ready; cases ready
  | _ => exact .inl ready

theorem Trails.writer (trails : Trails p q) (isStream : q.streams[stream]? = some t) :
    ∃ s, p.streams[stream]? = some s ∧ s.writer = t.writer := by
  obtain same | all := trails.streams
  · exact ⟨t, by rw [← same, isStream], rfl⟩
  · rw [all, List.getElem?_map] at isStream
    obtain ⟨s, isStream', rfl⟩ := Option.map_eq_some_iff.mp isStream
    exact ⟨s, isStream', rfl⟩

theorem hasEnded_stays (stays : Stream.Stays s t) (coherent : s.Coherent)
    (ended : s.writer.HasEnded) : t.writer.HasEnded := by
  obtain rfl | ⟨action, events, next, step, rfl⟩ := stays
  · exact ended
  · have still := coherent.hasEnded_step ended step
    exact still

theorem Leads.mem_ready (leads : Leads p q) (sound : Sound p)
    (isStream : p.streams[stream]? = some s) (ended : s.writer.HasEnded)
    (ready : stream ∈ q.prioritizer.ready) : stream ∈ p.prioritizer.ready := by
  -- The writer stays at its end along the run, so nothing offers the stream again.
  refine (leads.keeps (P := fun q => Sound q ∧
    (∃ t, q.streams[stream]? = some t ∧ t.writer.HasEnded) ∧
    (stream ∈ q.prioritizer.ready → stream ∈ p.prioritizer.ready)) ?_ ?_
    ⟨sound, ⟨s, isStream, ended⟩, id⟩).2.2 ready
  · intro q r ⟨sound, ⟨t, isStream, ended⟩, earlier⟩ change
    refine ⟨change.sound sound, ?_, fun ready => ?_⟩
    · obtain ⟨u, isStream', stays⟩ := change.stays isStream
      exact ⟨u, isStream', hasEnded_stays stays (sound.healthy _ _ isStream).coherent ended⟩
    · obtain ready | ⟨u, isStream', offering⟩ := change.mem_ready ready
      · exact earlier ready
      · obtain rfl := Option.some.inj (isStream.symm.trans isStream')
        rw [offering] at ended
        cases ended
  · intro q r ⟨sound, ⟨t, isStream, ended⟩, earlier⟩ trails
    refine ⟨trails.sound sound, ?_, fun ready => earlier (trails.ready ▸ ready)⟩
    obtain ⟨u, isStream', stays⟩ := trails.stays isStream
    exact ⟨u, isStream', hasEnded_stays stays (sound.healthy _ _ isStream).coherent ended⟩

/-! ### The end of a writer -/

/-- A change in which no stream moves by itself leaves the writers alone. -/
theorem Change.writer_or_moved (change : Change p q) (isStream : p.streams[stream]? = some s)
    (isStream' : q.streams[stream]? = some t) : t.writer = s.writer ∨
      ∃ action events next, Stream.Step s action events next ∧ t = next.record events ∧
        q.prioritizer = (Event.offers events).foldl (noted stream) p.prioritizer := by
  have same (still : q.streams[stream]? = p.streams[stream]?) : t.writer = s.writer :=
    congrArg Stream.writer (Option.some.inj (isStream'.symm.trans (still.trans isStream)))
  cases change with
  | @moved other u action events next isOther _ _ step =>
    rw [afterMove_streams] at same isStream'
    by_cases here : other = stream
    · subst here
      obtain rfl := Option.some.inj (isOther.symm.trans isStream)
      rw [getElem?_set_self isStream] at isStream'
      exact .inr ⟨action, events, next, step, (Option.some.inj isStream').symm,
        afterMove_prioritizer ..⟩
    · exact .inl (same (List.getElem?_set_ne here))
  | grown =>
    exact .inl (same (List.getElem?_append_left (List.getElem?_eq_some_iff.mp isStream).1))
  | @handed caller c other u bound metadata _ _ isOther =>
    by_cases here : other = stream
    · subst here
      obtain rfl := Option.some.inj (isOther.symm.trans isStream)
      have submitted := Option.some.inj (isStream'.symm.trans (getElem?_set_self isStream))
      refine .inl ?_
      rw [submitted]
      unfold Stream.submit
      split <;> rfl
    · exact .inl (same (List.getElem?_set_ne here))
  | @withdrew caller c other u bound error _ _ isOther =>
    by_cases here : other = stream
    · subst here
      obtain rfl := Option.some.inj (isOther.symm.trans isStream)
      have left := Option.some.inj (isStream'.symm.trans (getElem?_set_self isStream))
      refine .inl ?_
      rw [left]
      rfl
    · exact .inl (same (List.getElem?_set_ne here))
  | _ => exact .inl (same rfl)

/-- A stream is ready after the end of its writer if it was before and the writer had an item at
hand. -/
theorem Change.ready_iff (change : Change p q) (isStream : p.streams[stream]? = some s)
    (works : ¬ s.writer.HasEnded) (isStream' : q.streams[stream]? = some t)
    (ended : t.writer.HasEnded) :
    stream ∈ q.prioritizer.ready ↔ stream ∈ p.prioritizer.ready ∧ s.writer.IsAtWork := by
  obtain same | ⟨action, events, next, step, rfl, after⟩ :=
    change.writer_or_moved isStream isStream'
  · exact absurd (same ▸ ended) works
  · rw [after]
    obtain ⟨-, waiting, -⟩ | ⟨waiting, -, offers⟩ | ⟨offers, atWork⟩ := step.offers_cases
    · change next.writer.HasEnded at ended
      rw [waiting] at ended
      cases ended
    · have idle : ¬ s.writer.IsAtWork := by rw [waiting]; exact id
      have withdrawn : stream ∉ (p.prioritizer.removeReady stream).ready :=
        fun ready => (Prioritizer.mem_removeReady.mp ready).2 rfl
      rw [offers]
      exact ⟨fun ready => absurd ready withdrawn, fun both => absurd both.2 idle⟩
    · rw [offers]
      exact ⟨fun ready => ⟨ready, atWork ended works⟩, And.left⟩

/-! ### Handing out -/

/-- A caller that looks in a pool would be handed a stream. -/
def HandsOut (p : Pool) (stream : Nat) : Prop :=
  ∃ q caller, Leads p q ∧ (q.prioritizer.look caller).1 = .stream stream

theorem look_first {prioritizer : Prioritizer} {others : List Nat} (caller : Nat)
    (ready : prioritizer.ready = stream :: others) :
    (prioritizer.look caller).1 = .stream stream ∧ (prioritizer.look caller).2.ready = others := by
  obtain ⟨first, found, isReady⟩ | ⟨-, none, -⟩ := Prioritizer.look_cases prioritizer caller
  · rw [ready] at isReady
    obtain ⟨rfl, rest⟩ := List.cons.inj isReady
    exact ⟨found, rest.symm⟩
  · rw [ready] at none
    cases none

/-- Whoever stands in front of a ready stream can be taken by others. -/
theorem handsOut_of_split {before after : List Nat}
    (ready : p.prioritizer.ready = before ++ stream :: after) : HandsOut p stream := by
  -- Whoever stands in front is taken by a glance, in a step of its own.
  induction before generalizing p with
  | nil => exact ⟨p, 0, Leads.refl p, (look_first 0 ready).1⟩
  | cons first before ih =>
    have made : p.perform .glance =
        some { p with prioritizer := (p.prioritizer.glance p.callers.length).2 } := rfl
    obtain ⟨found, rest⟩ := look_first p.callers.length ready
    have left : (p.prioritizer.glance p.callers.length).2.ready = before ++ stream :: after := by
      unfold Prioritizer.glance
      split
      case h_1 look => rw [look] at found; cases found
      case h_2 => exact rest
    obtain ⟨q, caller, leads, handed⟩ := ih (p := { p with
      prioritizer := (p.prioritizer.glance p.callers.length).2 }) left
    exact ⟨q, caller, .head rfl made leads, handed⟩

theorem handsOut_iff (sound : Sound p) (isStream : p.streams[stream]? = some s)
    (ended : s.writer.HasEnded) : HandsOut p stream ↔ stream ∈ p.prioritizer.ready := by
  constructor
  · intro ⟨q, caller, leads, handed⟩
    refine leads.mem_ready sound isStream ended ?_
    obtain ⟨other, found, first⟩ | ⟨found | found, -⟩ := Prioritizer.look_cases q.prioritizer caller
    · obtain rfl := Find.stream.inj (handed.symm.trans found)
      rw [first]
      exact List.mem_cons_self
    · rw [handed] at found
      cases found
    · rw [handed] at found
      cases found
  · intro ready
    obtain ⟨before, after, split⟩ := List.append_of_mem ready
    exact handsOut_of_split split

/-- When the writer of a stream ends, the stream stays ready, and can be handed out later, exactly if
it was ready while the writer had an item at hand. It never becomes ready again. -/
theorem ready_after_end {action : Action} (reachable : Reachable p)
    (permitted : p.permits action = true) (made : p.perform action = some q)
    (isStream : p.streams[stream]? = some s) (works : ¬ s.writer.HasEnded)
    (isStream' : q.streams[stream]? = some t) (ended : t.writer.HasEnded) :
    (stream ∈ q.prioritizer.ready ↔ stream ∈ p.prioritizer.ready ∧ s.writer.IsAtWork) ∧
    (HandsOut q stream ↔ stream ∈ p.prioritizer.ready ∧ s.writer.IsAtWork) ∧
    ∀ r, Leads q r → stream ∈ r.prioritizer.ready → stream ∈ q.prioritizer.ready := by
  have sound : Sound q := (reachable.leads (.head permitted made (Leads.refl q))).sound
  have ready : stream ∈ q.prioritizer.ready ↔
      stream ∈ p.prioritizer.ready ∧ s.writer.IsAtWork := by
    obtain ⟨middle, changed, trails⟩ := perform_cases permitted made
    obtain ⟨u, isMiddle, same⟩ := trails.writer isStream'
    rw [← same] at ended
    rw [trails.ready]
    obtain rfl | change := changed
    · obtain rfl := Option.some.inj (isStream.symm.trans isMiddle)
      exact absurd ended works
    · exact change.ready_iff isStream works isMiddle ended
  exact ⟨ready, (handsOut_iff sound isStream' ended).trans ready,
    fun r leads isReady => leads.mem_ready sound isStream' ended isReady⟩

/-- A caller with a stream of its own choice hands over records that the codec refuses. -/
def refusedRun : List Action :=
  [.run 0, .stream 0 .establish, .stream 0 .offer,
    .arrive {} (.traces []) (some 0), .enter 0, .submit 0 false, .stream 0 .take]

def refusing : Pool := single { codec := .ofScript [] [.refuse "bad column"] } []

theorem ready_after_end_refused :
    ∃ p q, refusing.follow refusedRun = some p ∧ p.perform (.stream 0 .encode) = some q ∧
      HandsOut q 0 := by
  have facts : ((refusing.follow refusedRun).bind fun p => p.streams[0]?.bind fun s =>
      (p.perform (.stream 0 .encode)).bind fun q => q.streams[0]?.map fun t =>
        (p.permits (.stream 0 .encode), p.prioritizer.ready,
          decide s.writer.IsAtWork, decide s.writer.HasEnded, decide t.writer.HasEnded)) =
      some (true, [0], true, false, true) := by decide +kernel
  obtain ⟨p, follows, facts⟩ := Option.bind_eq_some_iff.mp facts
  obtain ⟨s, isStream, facts⟩ := Option.bind_eq_some_iff.mp facts
  obtain ⟨q, made, facts⟩ := Option.bind_eq_some_iff.mp facts
  obtain ⟨t, isStream', facts⟩ := Option.map_eq_some_iff.mp facts
  simp only [Prod.mk.injEq, decide_eq_true_eq, decide_eq_false_iff_not] at facts
  obtain ⟨permitted, ready, atWork, works, ended⟩ := facts
  have reachable : Reachable p := ⟨_, .single _ _, _, follows⟩
  obtain ⟨-, handsOut, -⟩ :=
    ready_after_end reachable permitted made isStream works isStream' ended
  refine ⟨p, q, follows, made, handsOut.mpr ⟨?_, atWork⟩⟩
  rw [ready]
  exact List.mem_cons_self

/-- A stream that is done can be handed out: its writer ended when the codec refused the records of a
caller that had not taken it. -/
theorem done_stream_handed_out :
    ∃ p s, refusing.follow (refusedRun ++ [.stream 0 .encode, .stream 0 .receive, .stream 0 .join,
        .stream 0 .sweep, .stream 0 .finish]) = some p ∧
      p.streams[0]? = some s ∧ s.run = .done ∧ 0 ∈ p.prioritizer.ready ∧
      (p.prioritizer.look 1).1 = .stream 0 := by
  have facts : ((refusing.follow (refusedRun ++ [.stream 0 .encode, .stream 0 .receive,
      .stream 0 .join, .stream 0 .sweep, .stream 0 .finish])).bind fun p => p.streams[0]?.map fun s =>
        (s.run, p.prioritizer.ready, (p.prioritizer.look 1).1)) =
      some (.done, [0], .stream 0) := by decide +kernel
  obtain ⟨p, follows, facts⟩ := Option.bind_eq_some_iff.mp facts
  obtain ⟨s, isStream, facts⟩ := Option.map_eq_some_iff.mp facts
  simp only [Prod.mk.injEq] at facts
  obtain ⟨done, ready, found⟩ := facts
  exact ⟨p, s, follows, isStream, done, by rw [ready]; exact List.mem_cons_self, found⟩

end TelemetryStreams.Pool
