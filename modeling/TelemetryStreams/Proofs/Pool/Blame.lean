import TelemetryStreams.Proofs.Pool.Prompts
import TelemetryStreams.Proofs.Pool.Shutdown

/-!
# Who is to blame for an error

A failure of one submission ends the stream for all callers that share it, but it is told as such to
one caller only. An error that forbids a retry is told to a caller whose own credentials failed, whose
own records the codec could not encode, or whose own batch the peer has acknowledged with a code that
says so. All others learn of their own acknowledgments or may try again (`blame_is_own`).
-/
namespace TelemetryStreams.Pool

variable {p q : Pool} {caller stream : Nat} {c : Caller} {result : Except Error Bool}
  {failure : EncodeError} {text : String}

/-! ### Records that are not encoded -/

/-- The writer of a stream is about to have records of a caller encoded, and the codec will fail. -/
def FailsToEncode (p : Pool) (caller : Nat) (records : Records) (failure : EncodeError) : Prop :=
  ∃ (stream : Nat) (s : Stream) (item : Item) (span : SendSpan), p.streams[stream]? = some s ∧
    s.writer = .encoding item span ∧ item.ticket = caller ∧ item.records = records ∧
    Codec.guarded (s.codec.encode records).1 = .error failure

/-- The codec has failed on the records of a caller. -/
def NotEncoded (p : Pool) (caller : Nat) (c : Caller) (failure : EncodeError) : Prop :=
  ∃ q, Reachable q ∧ Leads q p ∧ FailsToEncode q caller c.records failure

/-- Whoever is told that the codec failed has been told so before, or the codec fails now. -/
theorem told_or_fails {action : Action} (permitted : p.permits action = true)
    (made : p.perform action = some q)
    (isAnswer : (caller, .error (.encode failure)) ∈ q.answersOf stream) :
    (caller, .error (.encode failure)) ∈ p.answersOf stream ∨
      ∃ records, FailsToEncode p caller records failure := by
  cases isStream : q.streams[stream]? with
  | none => simp [answersOf, isStream] at isAnswer
  | some t =>
    rw [answersOf_eq isStream] at isAnswer
    obtain started | ⟨s, before, r, prompted, after⟩ := perform_stream_cases permitted made isStream
    · obtain rfl | rfl := started <;> cases isAnswer
    · have told : (caller, .error (.encode failure)) ∈ Event.answers r.history := by
        obtain rfl | ⟨rfl, -⟩ := after
        · exact isAnswer
        · exact isAnswer
      rw [answersOf_eq before]
      obtain rfl | ⟨prompted, events, next, -, step, rfl⟩ := prompted
      · exact .inl told
      · rw [step.record_history, Event.answers_append, List.mem_append] at told
        refine told.imp_right fun now => ?_
        obtain ⟨item, span, encoding, same, fails⟩ := step.unencoded_cases now
        exact ⟨item.records, stream, s, item, span, before, encoding, same, rfl, fails⟩

theorem Reachable.refused (reachable : Reachable p)
    (isAnswer : (caller, .error (.encode failure)) ∈ p.answersOf stream) :
    ∃ q records, Reachable q ∧ Leads q p ∧ FailsToEncode q caller records failure := by
  obtain ⟨origin, isOrigin, leads⟩ := reachable
  -- The failure lies in an earlier state of the same run, so the induction keeps the run along.
  refine (leads.induction (P := fun p => Reachable p ∧
    ((caller, .error (.encode failure)) ∈ p.answersOf stream →
      ∃ q records, Reachable q ∧ Leads q p ∧ FailsToEncode q caller records failure)) ?_
    ⟨isOrigin.reachable, fun isAnswer => ?_⟩).2 isAnswer
  · intro p q action ⟨reachable, refused⟩ permitted made
    have next : Leads p q := .head permitted made (Leads.refl q)
    refine ⟨reachable.leads next, fun isAnswer => ?_⟩
    obtain earlier | now := told_or_fails permitted made isAnswer
    · obtain ⟨r, records, reachable', leads, fails⟩ := refused earlier
      exact ⟨r, records, reachable', leads.trans next, fails⟩
    · obtain ⟨records, fails⟩ := now
      exact ⟨p, records, reachable, next, fails⟩
  · have line := isOrigin.healthy.mem_ticketsOf isAnswer
    obtain ⟨item, isItem, rfl⟩ := List.mem_map.mp line
    obtain ⟨c, isCaller, -⟩ := isOrigin.placed.owned stream item isItem
    cases isOrigin with
    | single => cases isCaller
    | ofControllers => cases isCaller

/-- A caller that was told that the codec failed: it has failed on the records of that caller. -/
theorem Reachable.notEncoded (reachable : Reachable p) (isCaller : p.callers[caller]? = some c)
    (told : c.reply = some (.error (.encode failure))) : NotEncoded p caller c failure := by
  obtain ⟨stream, isAnswer⟩ := (reachable.sound.told caller c _ isCaller).mp told
  obtain ⟨q, records, reachable', leads, fails⟩ := reachable.refused isAnswer
  obtain ⟨other, s, item, span, isStream, encoding, rfl, rfl, -⟩ := id fails
  have sound := reachable'.sound
  have owed := (sound.healthy other s isStream).written.owes
  rw [encoding] at owed
  have isItem : item ∈ s.items := List.mem_append_left _ (List.mem_append_left _ owed.2)
  rw [← itemsOf_eq isStream] at isItem
  obtain ⟨d, isOwner, records, -⟩ := sound.placed.owned other item isItem
  obtain ⟨c', isCaller', kept, -⟩ := leads.kept isOwner
  obtain rfl := Option.some.inj (isCaller.symm.trans isCaller')
  rw [← records, ← kept.records] at fails
  exact ⟨q, reachable', leads, fails⟩

/-! ### Credentials that fail -/

/-- Only a caller whose credentials fail returns with their failure. -/
theorem Returns.failsCredentials (returns : Returns p caller c (.error (.credentials text)))
    (sound : Sound p) (isCaller : p.callers[caller]? = some c) : p.FailsCredentials caller := by
  generalize same : (Except.error (.credentials text) : Except Error Bool) = result at returns
  cases returns with
  | uncredentialed fetching equipped fails => exact ⟨_, _, equipped, fails⟩
  | overdue _ _ ended =>
    cases same
    obtain wrong | wrong := ended?_cases ended <;> cases wrong
  | ended _ ended | gaveUp _ _ ended | left _ _ ended =>
    cases same
    exact ended.elim
  | refused _ isStream told | abandoned _ _ _ isStream told =>
    cases same
    obtain wrong | wrong := (sound.healthy _ _ isStream).caused _ told <;> cases wrong
  | shutDown | downgraded => cases same
  | @replied _ reply _ told =>
    cases reply with
    | ok => cases same
    | error error =>
      cases same
      obtain ⟨ack, -, verdict⟩ := sound.acknowledged isCaller told (fun _ => nofun) nofun
      obtain ⟨status, wrong⟩ := Acknowledgment.exists_status_of_verdict verdict
      cases wrong

theorem Reachable.failsCredentials (reachable : Reachable p)
    (isCaller : p.callers[caller]? = some c)
    (done : c.phase = .done (.error (.credentials text))) : p.FailsCredentials caller := by
  refine (reachable.invariant (P := fun p => Sound p ∧ ∀ c, p.callers[caller]? = some c →
    c.phase = .done (.error (.credentials text)) → p.FailsCredentials caller) ?_ ?_ ?_).2 c isCaller
      done
  · intro p origin
    refine ⟨origin.sound, fun c isCaller => ?_⟩
    cases origin with
    | single => cases isCaller
    | ofControllers => cases isCaller
  · intro p q ⟨sound, fails⟩ change
    refine ⟨change.sound sound, fun d isCaller done => ?_⟩
    rw [FailsCredentials, change.setup]
    obtain ⟨-, arriving, -⟩ | ⟨c, before, -, goes⟩ := change.caller_cases isCaller
    · rw [done] at arriving
      cases arriving
    · rw [done] at goes
      obtain same | returns | ⟨stream, bound, s, error, -, isStream, reason, same⟩ := goes.done_cases
      · exact fails c before same
      · exact returns.failsCredentials sound before
      · cases same
        obtain ⟨-, ended⟩ | told := reason
        · exact ended.elim
        · obtain wrong | wrong := (sound.healthy _ _ isStream).caused _ told <;> cases wrong
  · intro p q ⟨sound, fails⟩ trails
    refine ⟨trails.sound sound, fun c isCaller done => ?_⟩
    rw [trails.callers] at isCaller
    rw [FailsCredentials, trails.setup]
    exact fails c isCaller done

/-! ### Results -/

/-- What a caller has its result from. -/
inductive Blames (p : Pool) (caller : Nat) (c : Caller) : Except Error Bool → Prop
  /-- The peer has acknowledged its own batch. -/
  | acknowledged {ack : Acknowledgment} (acknowledged : AcknowledgedBy p caller ack) :
      Blames p caller c (ack.verdict.1.map fun _ => true)
  /-- The codec could not encode its own records, so that there was no batch of it. -/
  | notEncoded {failure : EncodeError} (failed : NotEncoded p caller c failure)
      (unregistered : ¬ Registered p caller) (unsent : p.sendsFor caller = []) :
      Blames p caller c (.error (.encode failure))
  /-- Its own credentials failed. -/
  | uncredentialed {text : String} (fails : p.FailsCredentials caller) :
      Blames p caller c (.error (.credentials text))
  /-- Nothing that it has submitted is to blame, and it may do so again. -/
  | blameless {error : Error} (retryable : error.guidance = .retryable)
      (passing : error.isPermanent = false) : Blames p caller c (.error error)
  /-- It has come to no stream, and there will be none. -/
  | downgraded (absent : ∀ stream, caller ∉ p.ticketsOf stream) : Blames p caller c (.ok false)

theorem Reachable.blames (reachable : Reachable p) (isCaller : p.callers[caller]? = some c)
    (done : c.phase = .done result) : Blames p caller c result := by
  have sound := reachable.sound
  cases reachable.justified caller c result isCaller done with
  | @told reply told =>
    by_cases encoded : ∃ failure, reply = .error (.encode failure)
    · obtain ⟨failure, rfl⟩ := encoded
      have unregistered := sound.not_registered_of_refused isCaller told
      exact .notEncoded (reachable.notEncoded isCaller told) unregistered
        (sound.sendsFor_of_unregistered unregistered)
    · by_cases kept : reply = .error .streamRestarting
      · subst kept
        exact .blameless rfl rfl
      · obtain ⟨ack, acknowledged, rfl⟩ :=
          sound.acknowledged isCaller told (fun failure same => encoded ⟨failure, same⟩) kept
        exact .acknowledged acknowledged
  | left own => obtain rfl | rfl | rfl := own <;> exact .blameless rfl rfl
  | unsent kind absent =>
    obtain rfl | ⟨text, rfl⟩ := kind
    · exact .downgraded absent
    · exact .uncredentialed (reachable.failsCredentials isCaller done)

/-- An error that forbids a retry comes from what the caller itself has brought. -/
theorem Blames.of_notRetryable {error : Error} (blames : Blames p caller c (.error error))
    (guidance : error.guidance = .notRetryable) :
    p.FailsCredentials caller ∨ (∃ failure, NotEncoded p caller c failure) ∨
      ∃ ack, AcknowledgedBy p caller ack ∧ (Verdict.ofNumber ack.code = .ok .invalidArgument ∨
        ∀ verdict ∈ Verdict.answers, Verdict.ofNumber ack.code ≠ .ok verdict) := by
  generalize same : (Except.error error : Except Error Bool) = result at blames
  cases blames with
  | @acknowledged ack acknowledged =>
    refine .inr (.inr ⟨ack, acknowledged, ?_⟩)
    cases verdict : ack.verdict.1 with
    | ok => rw [verdict] at same; cases same
    | error other =>
      rw [verdict] at same
      cases same
      exact ack.code_of_notRetryable verdict guidance
  | notEncoded notEncoded => exact .inr (.inl ⟨_, notEncoded⟩)
  | uncredentialed fails => exact .inl fails
  | blameless retryable =>
    cases same
    rw [retryable] at guidance
    cases guidance
  | downgraded => cases same

/-- An error that marks a local defect comes from records of which no batch was made. -/
theorem Blames.of_isPermanent {error : Error} (blames : Blames p caller c (.error error))
    (permanent : error.isPermanent = true) :
    (∃ failure, error = .encode failure ∧ NotEncoded p caller c failure) ∧
      ¬ Registered p caller ∧ p.sendsFor caller = [] := by
  generalize same : (Except.error error : Except Error Bool) = result at blames
  cases blames with
  | @acknowledged ack acknowledged =>
    cases verdict : ack.verdict.1 with
    | ok => rw [verdict] at same; cases same
    | error other =>
      rw [verdict] at same
      cases same
      obtain ⟨status, rfl⟩ := Acknowledgment.exists_status_of_verdict verdict
      cases permanent
  | notEncoded notEncoded unregistered unsent =>
    cases same
    exact ⟨⟨_, rfl, notEncoded⟩, unregistered, unsent⟩
  | uncredentialed => cases same; cases permanent
  | blameless _ passing =>
    cases same
    rw [passing] at permanent
    cases permanent
  | downgraded => cases same

/-- Every caller has its result from its own acknowledgment, from its own records or credentials, or
it may try again. So an error that forbids a retry comes from one of the first three, and an error
that marks a local defect from records of which no batch was made; and a caller whose credentials and
records are good, and that is not turned away, gets its acknowledgment or may try again. -/
theorem blame_is_own (reachable : Reachable p) (isCaller : p.callers[caller]? = some c)
    (done : c.phase = .done result) :
    Blames p caller c result ∧
    (∀ error, result = .error error → error.guidance = .notRetryable →
      p.FailsCredentials caller ∨ (∃ failure, NotEncoded p caller c failure) ∨
      ∃ ack, AcknowledgedBy p caller ack ∧ (Verdict.ofNumber ack.code = .ok .invalidArgument ∨
        ∀ verdict ∈ Verdict.answers, Verdict.ofNumber ack.code ≠ .ok verdict)) ∧
    (∀ error, result = .error error → error.isPermanent = true →
      (∃ failure, error = .encode failure ∧ NotEncoded p caller c failure) ∧
        ¬ Registered p caller ∧ p.sendsFor caller = []) ∧
    (¬ p.FailsCredentials caller → (∀ failure, ¬ NotEncoded p caller c failure) →
      result ≠ .ok false →
      (∃ ack, AcknowledgedBy p caller ack ∧ result = ack.verdict.1.map fun _ => true) ∨
        ∃ error, result = .error error ∧ error.guidance = .retryable) := by
  have blames := reachable.blames isCaller done
  refine ⟨blames, fun error same guidance => ?_, fun error same permanent => ?_,
    fun credentialed encoded streams => ?_⟩
  · subst same
    exact blames.of_notRetryable guidance
  · subst same
    exact blames.of_isPermanent permanent
  · cases blames with
    | acknowledged acknowledged => exact .inl ⟨_, acknowledged, rfl⟩
    | notEncoded notEncoded => exact absurd notEncoded (encoded _)
    | uncredentialed fails => exact absurd fails credentialed
    | blameless retryable => exact .inr ⟨_, rfl, retryable⟩
    | downgraded => exact absurd rfl streams

/-- The codec refuses the records of the second of three callers, while the batch of the first one is in
flight and the third one stands in the queue. -/
def sharingRun : List Action :=
  [.run 0, .stream 0 .establish, .stream 0 .offer,
    .arrive {} (.traces []) (some 0), .enter 0, .submit 0 false,
    .stream 0 .take, .stream 0 .encode, .stream 0 .send, .stream 0 .offer,
    .arrive {} (.logs []) (some 0), .enter 1, .submit 1 false, .stream 0 .take,
    .arrive {} (.metrics []) (some 0), .enter 2, .submit 2 false,
    .stream 0 .encode, .stream 0 .receive, .stream 0 .join, .stream 0 .sweep, .stream 0 .finish,
    .collect 0 false, .collect 1 false, .collect 2 false]

theorem blame_is_own_sharing :
    ∃ p c, (single { codec := .ofScript [] [.batch, .refuse "bad column"] } []).follow sharingRun =
        some p ∧
      p.callers.map Caller.phase = [.done (.error .streamRestarting),
        .done (.error (.encode (.codec "bad column"))), .done (.error .streamRestarting)] ∧
      p.callers[1]? = some c ∧ NotEncoded p 1 c (.codec "bad column") ∧ p.sendsFor 1 = [] := by
  have facts : ((single { codec := .ofScript [] [.batch, .refuse "bad column"] } []).follow
      sharingRun).bind (fun p => p.callers[1]?.map fun c => (p.callers.map Caller.phase, c.phase)) =
      some ([.done (.error .streamRestarting), .done (.error (.encode (.codec "bad column"))),
        .done (.error .streamRestarting)], .done (.error (.encode (.codec "bad column")))) := by
    decide +kernel
  obtain ⟨p, follows, facts⟩ := Option.bind_eq_some_iff.mp facts
  obtain ⟨c, isCaller, facts⟩ := Option.map_eq_some_iff.mp facts
  obtain ⟨phases, done⟩ := Prod.mk.inj facts
  have reachable : Reachable p := ⟨_, .single _ _, sharingRun, follows⟩
  obtain ⟨-, -, permanent, -⟩ := blame_is_own reachable isCaller done
  obtain ⟨⟨failure, same, failed⟩, -, unsent⟩ := permanent _ rfl rfl
  cases same
  exact ⟨p, c, follows, phases, isCaller, failed, unsent⟩

end TelemetryStreams.Pool
