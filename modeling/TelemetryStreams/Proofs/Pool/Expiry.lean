import TelemetryStreams.Proofs.Pool.Aftermath
import TelemetryStreams.Proofs.Pool.Endings
import TelemetryStreams.Proofs.Pool.Ready
import TelemetryStreams.Proofs.Pool.Recast
import TelemetryStreams.Proofs.Stream.Lifetime

/-!
# Lifetimes that expire

A stream whose lifetime is over takes no more items and is handed out no more, and otherwise goes on: its
call stays open, and acknowledgments reach the callers of the batches in flight, until somebody asks for
the end, or the peer ends the call or breaks the protocol. A stream without a lifetime has no part in the
passing of time: whatever does not depend on the deadline or the credentials of a caller may as well happen
later (`expiry_is_graceful`).
-/
namespace TelemetryStreams

theorem Caller.mapError_id (c : Caller) : c.mapError id = c := by
  have phase : c.phase.mapError id = c.phase := by
    unfold CallPhase.mapError
    cases c.phase with
    | done result => cases result <;> rfl
    | _ => rfl
  have reply : c.reply.map (Except.mapError id) = c.reply := by
    cases c.reply with
    | none => rfl
    | some reply => cases reply <;> rfl
  unfold mapError
  rw [phase, reply]

/-- Nothing but the clock is told in another way. -/
def Recast.waiting (time : Nat) : Recast where
  now := (· + time)
  setup := id
  stream := id
  event := some
  error := id
  cause s := by simp
  queue _ := rfl
  senders _ := rfl
  run _ := rfl
  established _ := rfl
  call _ := rfl
  isCanceled _ := rfl
  record s events := by simp
  ends _ := rfl
  starts _ := rfl
  rerun s := by simp
  outer s action _ := by simp
  fresh p := by simp
  credentials _ := rfl
  telemetry _ := rfl
  heard e _ := by cases e with
    | answered ticket result => cases result <;> rfl
    | _ => rfl
  unheard e isHeard := by simpa using isHeard
  plain _ _ := rfl

namespace Pool

/-- The pool some time later, if nothing happens. -/
def wait (time : Nat) (p : Pool) : Pool := { p with now := p.now + time }

/-- An action that may as well be made some time later: no stream with a lifetime moves, no caller comes
with a deadline, and the caller whose turn it is has no deadline within that time and waits for no
credentials. -/
def Untimed (p : Pool) (time : Nat) : Action → Prop
  | .stream stream _ => ∀ s, p.streams[stream]? = some s → s.lifetime = .zero
  | .arrive spec _ _ => spec.timeout = none
  | action => ∀ caller c, action.caller? = some caller → p.callers[caller]? = some c →
      c.ended? (p.now + time) = c.ended? p.now ∧
      (∀ late, c.sees (p.now + time) late = c.sees p.now late) ∧
      (c.phase = .arriving → p.setup.credentials = none) ∧
      ∀ ready, c.phase = .fetching ready → ready ≤ p.now

def UntimedRun (time : Nat) : Pool → List Action → Prop
  | _, [] => True
  | p, action :: actions =>
    Untimed p time action ∧
      ∀ q, p.permits action = true → p.perform action = some q → UntimedRun time q actions

variable {p q r : Pool} {stream caller time : Nat} {s t : Stream} {action : Action}

/-! ### Waiting -/

theorem pool_waiting (time : Nat) (p : Pool) : (Recast.waiting time).pool p = p.wait time := by
  have callers : p.callers.map (Caller.mapError id) = p.callers := by
    rw [funext Caller.mapError_id, List.map_id']
  unfold Recast.pool wait Recast.waiting
  simp only [List.map_id, callers]
  rfl

theorem Reachable.timeless (reachable : Reachable p) (isStream : p.streams[stream]? = some s)
    (zero : s.lifetime = .zero) : s.Timeless := by
  refine reachable.each (P := fun s => s.lifetime = .zero → s.Timeless) ?_ ?_ isStream zero
  · exact fun p zero => ⟨zero, rfl⟩
  · intro s action events next sound timeless step zero
    have lifetime : s.lifetime = .zero := by cases step <;> exact zero
    exact (timeless lifetime).step step

theorem Untimed.unseen (reachable : Reachable p) (untimed : Untimed p time action) :
    (Recast.waiting time).UnseenIn p action := by
  have same (made : Option Stream.Outcome) : made.map (Recast.waiting time).outcome = made := by
    cases made with
    | none => rfl
    | some made => simp [Recast.outcome, Recast.waiting]
  cases action with
  | stream stream move =>
    intro s isStream
    rw [same]
    exact (reachable.timeless isStream (untimed s isStream)).makeMove_now _ move
  | arrive spec =>
    have timeout : spec.timeout = none := untimed
    change spec.timeout.map _ = spec.timeout.map _
    rw [timeout]
    rfl
  | advance more => exact Nat.add_right_comm _ _ _
  | _ =>
    intro caller c own isCaller
    obtain ⟨ended, sees, begins, fetches⟩ := untimed caller c own isCaller
    refine ⟨ended, sees, fun arriving equipped => absurd (begins arriving) equipped,
      fun ready fetching => ?_⟩
    have due := fetches ready fetching
    exact iff_of_true (Nat.le_add_right_of_le due) due

/-- Whether time passes before or after a run of untimed actions makes no difference. -/
theorem follow_wait {actions : List Action} (reachable : Reachable p)
    (untimed : UntimedRun time p actions) :
    (p.wait time).follow actions = (p.follow actions).map (wait time) := by
  have unseen : (Recast.waiting time).UnseenAlong p actions := by
    induction actions generalizing p with
    | nil => trivial
    | cons action actions ih =>
      refine ⟨untimed.1.unseen reachable, fun q permitted made => ?_⟩
      have next : Leads p q := .head permitted made (Leads.refl q)
      exact ih (reachable.leads next) (untimed.2 q permitted made)
  rw [← pool_waiting, Recast.follow_eq _ unseen]
  exact congrArg (fun view => (p.follow actions).map view) (funext (pool_waiting time))

/-! ### The end of a lifetime -/

/-- The step by which the lifetime of a stream is over. -/
theorem expire_cases (isStream : p.streams[stream]? = some s)
    (expires : p.perform (.stream stream .expire) = some q) :
    s.expiry ≠ none ∧ q = { p with
      streams := p.streams.set stream s.afterLifetime
      prioritizer := p.prioritizer.removeReady stream } := by
  cases perform_turn expires with
  | acts own => cases own
  | @moved _ _ _ next events attempts isStream' step untried =>
    obtain rfl := Option.some.inj (isStream.symm.trans isStream')
    obtain ⟨after, rfl, limited⟩ := step.expire_cases
    obtain rfl := untried fun same => by cases same
    refine ⟨limited, ?_⟩
    unfold afterMove
    rw [after]
    rfl

theorem idles_afterLifetime (s : Stream) : Stream.Idles s s.afterLifetime := by
  constructor
  · rfl
  all_goals simp [Stream.afterLifetime, Stream.record, Event.takenItems, Event.registrations,
    Event.measurements, Event.sentBatches]

theorem Leads.after_expiry (reachable : Reachable p) (isStream : p.streams[stream]? = some s)
    (expires : p.perform (.stream stream .expire) = some q) (leads : Leads q r) :
    ∃ u, r.streams[stream]? = some u ∧ Stream.Idles s u ∧ u.writer = .ended (.ok ()) ∧
      stream ∉ r.prioritizer.ready ∧
      (u.run ≠ .reading ∨ u.isCanceled = true → u.parentCanceled = true ∨ u.HungUp ∨
        Ledger.all Ledger.isAnswer {} u.history = false) := by
  have reached : Reachable q := reachable.leads (.head (by rfl) expires (Leads.refl q))
  obtain ⟨-, rfl⟩ := expire_cases isStream expires
  have isExpired : (p.streams.set stream s.afterLifetime)[stream]? = some s.afterLifetime :=
    getElem?_set_self isStream
  have sound := reached.sound.healthy stream _ isExpired
  obtain ⟨u, isStream', becomes⟩ := leads.becomes isExpired
  have ended := becomes.writer_ended sound rfl
  have reached' := reached.leads leads
  refine ⟨u, isStream', (idles_afterLifetime s).trans (becomes.idles sound (.inl trivial)), ended,
    fun ready => ?_, fun ends => ?_⟩
  · have ready := leads.mem_ready reached.sound isExpired trivial ready
    exact (Prioritizer.mem_removeReady.mp ready).2 rfl
  · exact (reached'.driven isStream').cause_after_expiry
      (reached'.sound.healthy stream u isStream').coherent ended ends

/-- When the lifetime of a stream is over, its send direction is closed and it is not ready any more, and
nothing else happens: no call is canceled, no caller is told anything, and all batches in flight stay. From
then on the stream takes and sends nothing and is never ready. It goes on reading until somebody asks for
the end, or the peer ends the call or breaks the protocol; and an acknowledgment of a batch in flight that
waits then, the first one for it, reaches the caller of the batch, unless a message before it ends the
reader. A stream without a lifetime never comes to its end so, it does the same whatever the clock shows,
and whatever depends on no deadline and on no credentials may as well happen later. -/
theorem expiry_is_graceful (reachable : Reachable p) (isStream : p.streams[stream]? = some s) :
    (∀ q, p.perform (.stream stream .expire) = some q →
      q = { p with
        streams := p.streams.set stream s.afterLifetime
        prioritizer := p.prioritizer.removeReady stream } ∧
      ∀ r, Leads q r → ∃ u, r.streams[stream]? = some u ∧ Stream.Idles s u ∧
        u.writer = .ended (.ok ()) ∧ stream ∉ r.prioritizer.ready ∧
        (u.run ≠ .reading ∨ u.isCanceled = true → u.parentCanceled = true ∨ u.HungUp ∨
          Ledger.all Ledger.isAnswer {} u.history = false) ∧
        ∀ v w ack ticket, Leads q v → v.streams[stream]? = some w → w.Awaits ack ticket →
          Leads v r → u.run ≠ .reading →
          Ledger.all (Ledger.isHarmless (ack.id, ticket)) {} u.history →
          Learns r stream ticket ack.verdict.1) ∧
    (s.lifetime = .zero →
      (∀ r, Leads p r → r.perform (.stream stream .expire) = none) ∧
      (∀ clock actions, s.follow (actions.map (Stream.Action.retimed clock)) = s.follow actions) ∧
      ∀ time actions, UntimedRun time p actions →
        (p.wait time).follow actions = (p.follow actions).map (wait time)) := by
  constructor
  · intro q expires
    have reached : Reachable q := reachable.leads (.head (by rfl) expires (Leads.refl q))
    refine ⟨(expire_cases isStream expires).2, fun r leads => ?_⟩
    obtain ⟨u, isStream', idles, ended, unready, ends⟩ := leads.after_expiry reachable isStream expires
    refine ⟨u, isStream', idles, ended, unready, ends, ?_⟩
    intro v w ack ticket earlier isWaiting awaits later read harmless
    obtain ⟨w', isWaiting', -, closed, -⟩ := earlier.after_expiry reachable isStream expires
    obtain rfl := Option.some.inj (isWaiting.symm.trans isWaiting')
    exact (reached.leads earlier).learns_at_rest isWaiting (by rw [closed]; trivial) awaits later
      isStream' read harmless
  · intro zero
    have timeless := reachable.timeless isStream zero
    refine ⟨fun r leads => ?_, fun clock actions => timeless.follow_retimed clock actions,
      fun time actions untimed => follow_wait reachable untimed⟩
    obtain ⟨t, isStream', becomes⟩ := leads.becomes isStream
    refine Option.eq_none_iff_forall_ne_some.mpr fun q expires => ?_
    exact (expire_cases isStream' expires).1 (timeless.becomes becomes).expiry

def halfClosingRun : List Action := twoSent ++ [.advance 1000000000]

theorem expiry_is_graceful_in_flight :
    (∃ p q v r, shortLived.follow halfClosingRun = some p ∧
      p.perform (.stream 0 .expire) = some q ∧ q.follow settledLate = some v ∧
      v.follow [.stream 0 .receive, .stream 0 .receive, .stream 0 .receive] = some r ∧
      0 ∉ r.prioritizer.ready ∧ Learns r 0 0 (.ok ()) ∧
      Learns r 0 1 (.error (.status ⟨.unavailable, "destination unavailable: 2: busy"⟩))) ∧
    ∀ r, Leads (single {} []) r → r.perform (.stream 0 .expire) = none := by
  have facts : ((shortLived.follow halfClosingRun).bind fun p => p.streams[0]?.bind fun s =>
      (p.perform (.stream 0 .expire)).bind fun q => (q.follow settledLate).bind fun v =>
      v.streams[0]?.bind fun w => w.call.bind fun call =>
      (v.follow [.stream 0 .receive, .stream 0 .receive, .stream 0 .receive]).bind fun r =>
      r.streams[0]?.map fun u => (w.run, w.inFlight,
        decide (call.inbox = [.acknowledged { id := 2, code := 14, message := "busy" },
          .acknowledged { id := 1 }, .closed]), u.run,
        Ledger.all (Ledger.isHarmless (1, 0)) {} u.history &&
        Ledger.all (Ledger.isHarmless (2, 1)) {} u.history)) =
      some (.reading, [(1, 0), (2, 1)], true, .joining (.ok ()), true) := by decide +kernel
  obtain ⟨p, follows, facts⟩ := Option.bind_eq_some_iff.mp facts
  obtain ⟨s, isStream, facts⟩ := Option.bind_eq_some_iff.mp facts
  obtain ⟨q, expires, facts⟩ := Option.bind_eq_some_iff.mp facts
  obtain ⟨v, settles, facts⟩ := Option.bind_eq_some_iff.mp facts
  obtain ⟨w, isWaiting, facts⟩ := Option.bind_eq_some_iff.mp facts
  obtain ⟨call, called, facts⟩ := Option.bind_eq_some_iff.mp facts
  obtain ⟨r, reads, facts⟩ := Option.bind_eq_some_iff.mp facts
  obtain ⟨u, isStream', facts⟩ := Option.map_eq_some_iff.mp facts
  simp only [Prod.mk.injEq, decide_eq_true_eq, Bool.and_eq_true] at facts
  obtain ⟨reading, inFlight, inbox, joining, first, second⟩ := facts
  have reachable : Reachable p := ⟨_, .single _ _, _, follows⟩
  have earlier : Leads q v := ⟨_, settles⟩
  have later : Leads v r := ⟨_, reads⟩
  obtain ⟨u', isStream'', -, -, unready, -, told⟩ :=
    ((expiry_is_graceful reachable isStream).1 q expires).2 r (earlier.trans later)
  obtain rfl := Option.some.inj (isStream'.symm.trans isStream'')
  have read : u.run ≠ .reading := by rw [joining]; exact fun same => by cases same
  have awaits : w.Awaits { id := 1 } 0 :=
    ⟨reading, by rw [inFlight]; rfl, call,
      [.acknowledged { id := 2, code := 14, message := "busy" }], [.closed], called, inbox, by decide⟩
  have awaits' : w.Awaits { id := 2, code := 14, message := "busy" } 1 :=
    ⟨reading, by rw [inFlight]; rfl, call, [], _, called, inbox, by decide⟩
  obtain ⟨limitless, isLimitless, zero⟩ : ∃ s, (single {} []).streams[0]? = some s ∧
      s.lifetime = .zero := ⟨_, rfl, rfl⟩
  refine ⟨⟨p, q, v, r, follows, expires, settles, reads, unready,
    told v w _ _ earlier isWaiting awaits later read first,
    told v w _ _ earlier isWaiting awaits' later read second⟩, ?_⟩
  exact ((expiry_is_graceful (Origin.single {} []).reachable isLimitless).2 zero).1

/-- Two batches are in flight when the lifetime is over, and the caller of the second one has not looked
since it waited for room. -/
def expiringUnseen : List Action := sentUnseen ++ [.advance 1000000000]

/-- A caller with a batch in flight when the lifetime of its stream ends, which is acknowledged then,
returns as if it had not been, if it looks too late. -/
theorem expiry_hides_acknowledgment :
    ∃ p q r s c, shortLived.follow expiringUnseen = some p ∧ p.streams[0]? = some s ∧
      s.inFlight.ticket? 2 = some 1 ∧ p.perform (.stream 0 .expire) = some q ∧
      q.follow [.deliver 0 (.acknowledged { id := 2 }), .deliver 0 .closed, .stream 0 .receive,
        .stream 0 .receive, .stream 0 .join, .stream 0 .sweep, .stream 0 .finish, .recheck 1 false] =
          some r ∧
      r.callers[1]? = some c ∧ c.canceled = false ∧ c.deadline = none ∧
      c.phase = .done (.error .streamRestarting) := by
  have facts : ((shortLived.follow expiringUnseen).bind fun p => p.streams[0]?.bind fun s =>
      (p.perform (.stream 0 .expire)).bind fun q =>
      (q.follow [.deliver 0 (.acknowledged { id := 2 }), .deliver 0 .closed, .stream 0 .receive,
        .stream 0 .receive, .stream 0 .join, .stream 0 .sweep, .stream 0 .finish,
        .recheck 1 false]).bind fun r => r.callers[1]?.map fun c =>
        (s.inFlight.ticket? 2, c.canceled, c.deadline, c.phase)) =
      some (some 1, false, none, .done (.error .streamRestarting)) := by decide +kernel
  obtain ⟨p, follows, facts⟩ := Option.bind_eq_some_iff.mp facts
  obtain ⟨s, isStream, facts⟩ := Option.bind_eq_some_iff.mp facts
  obtain ⟨q, expires, facts⟩ := Option.bind_eq_some_iff.mp facts
  obtain ⟨r, later, facts⟩ := Option.bind_eq_some_iff.mp facts
  obtain ⟨c, isCaller, facts⟩ := Option.map_eq_some_iff.mp facts
  simp only [Prod.mk.injEq] at facts
  obtain ⟨inFlight, alive, unbounded, done⟩ := facts
  exact ⟨p, q, r, s, c, follows, isStream, inFlight, expires, later, isCaller, alive, unbounded, done⟩

end Pool

end TelemetryStreams
