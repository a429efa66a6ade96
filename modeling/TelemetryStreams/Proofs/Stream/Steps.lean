import TelemetryStreams.Stream.Step

/-!
# What a step of a stream can be

`Stream.Step` lists the outcomes of a step: for each one what must hold before it, what is written
down, and what is different afterwards. A step is possible exactly if it is one of these
(`step_eq_some_iff`), so that a law of all steps has one case for each outcome and never looks into
the functions that compute it.
-/
namespace TelemetryStreams.Stream

def refusal (status : Status) : Log :=
  if status.code = .unimplemented then .unsupported status.message else .cannotStart status

def expiryFrom (s : Stream) (now : Nat) : Option Nat :=
  s.expiry.or (if s.lifetime = .zero then none else some (now + s.lifetime.toNanos))

def spanFor (s : Stream) (number : Nat) (item : Item) : SendSpan :=
  if s.telemetry.traced then .start number item.parent else .unrecorded item.parent

/-- What is written down beside the taking of an item: its span, and who moves into the queue. -/
def takeEvents (s : Stream) (number : Nat) (item : Item) : List Event :=
  (if s.telemetry.traced then [.spanStarted (s.spanFor number item)] else []) ++
    (s.senders.take 1).map .entered

/-- The header block for an item, and the table after it. -/
def headersFor (s : Stream) (item : Item) (span : SendSpan) : List UInt8 × Hpack.Table :=
  if s.combined item span = [] then ([], s.headers)
  else Metadata.encode s.headers (s.combined item span)

def displacement (table : InFlight) (id : Int64) : List Event :=
  match table.ticket? id with
  | some other => [.logged (.duplicateId id), .answered other (.error .streamRestarting)]
  | none => []

def release (row : Int64 × Nat) : List Event :=
  [.logged (.releasing row.1), .answered row.2 (.error .streamRestarting)]

def measurement (s : Stream) (item : Item) : List Event :=
  if item.size = 0 then [] else [.measured ⟨s.method.getD "", Int64.ofNat item.reported⟩]

/-- How the reader ends with the last message of the peer. -/
def lastResult : Incoming → Option (Except Error Unit)
  | .failed status => some (.error (.status status))
  | .closed => some (.ok ())
  | _ => none

def endLogs (read written : Except Error Unit) : List Event :=
  .logged (readerEnd read).1 :: match written with
    | .ok _ => []
    | .error error => [.logged (.ofError .writer error)]

/-- What callers are told from the end of the stream on. -/
def finalCause (s : Stream) : Error :=
  s.cause.getD (if s.parentCanceled then .canceled else .streamRestarting)

/-- The steps of a stream: an action, what is written down, and the stream after it. -/
inductive Step (s : Stream) : Action → List Event → Stream → Prop
  -- opening
  | started (idle : s.run = .idle) : Step s .start [] { s with run := .starting }
  | openingCanceled {move env}
      (early : s.run = .starting ∧ move = .establish ∨ s.run = .opening ∧ move = .stopOpening)
      (canceled : s.isCanceled = true) :
      Step s (.move move env) [.logged (refusal .canceled)] { s with run := .finishing }
  | refused {env status} (starting : s.run = .starting) (alive : s.isCanceled = false)
      (opening : env.opening = .refuse status) :
      Step s (.move .establish env) [.logged (refusal status)] { s with run := .finishing }
  | stalled {env} (starting : s.run = .starting) (alive : s.isCanceled = false)
      (opening : env.opening = .stall) :
      Step s (.move .establish env) [] { s with run := .opening }
  | opened {env} (starting : s.run = .starting) (alive : s.isCanceled = false)
      (opening : env.opening = .accept) :
      Step s (.move .establish env) [.opened env.nextCall] { s with
        run := .reading, writer := .offering, headers := {}, expiry := none
        call := some { number := env.nextCall }, established := true
        method := some (s.method.getD (Call.methodOf env.nextCall)) }
  -- writing
  | offered {env} (offering : s.writer = .offering) :
      Step s (.move .offer env) [.offered]
        { s with writer := .waiting, expiry := s.expiryFrom env.now }
  | taken {env item queue} (waiting : s.writer = .waiting) (queued : s.queue = item :: queue) :
      Step s (.move .take env) (.taken item :: s.takeEvents env.nextSpan item) { s with
        writer := .encoding item (s.spanFor env.nextSpan item)
        queue := queue ++ s.senders.take 1, senders := s.senders.drop 1 }
  | expired {env time} (waiting : s.writer = .waiting) (limited : s.expiry = some time)
      (isOver : Clock.servedAt time ≤ env.now) :
      Step s (.move .expire env)
        [.withdrawn, .logged (.lifetimeReached s.lifetime), .closed s.callNumber]
        { s with writer := .ended (.ok ()) }
  | quit {env} (waiting : s.writer = .waiting) (canceled : s.isCanceled = true) :
      Step s (.move .quit env) [.withdrawn, .closed s.callNumber]
        { s with writer := .ended (.error .canceled), canceled := true }
  | notEncoded {env item span failure} (encoding : s.writer = .encoding item span)
      (fails : Codec.guarded (s.codec.encode item.records).1 = .error failure) :
      Step s (.move .encode env)
        (encodeLog failure ++ [.answered item.ticket (.error (.encode failure))] ++
          s.spanEnds span (some (Error.encode failure).message) ++ [.closed s.callNumber])
        { s with
          codec := (s.codec.encode item.records).2
          writer := .ended (.error (.encode failure)), canceled := true }
  | encoded {env item span batch} (encoding : s.writer = .encoding item span)
      (works : Codec.guarded (s.codec.encode item.records).1 = .ok batch) :
      Step s (.move .encode env)
        (.registered batch.id item.ticket :: displacement s.inFlight batch.id ++
          s.measurement item)
        { s with
          codec := (s.codec.encode item.records).2, headers := (s.headersFor item span).2
          inFlight := s.inFlight.register batch.id item.ticket
          writer := .sending { batch with headers := (s.headersFor item span).1 }
            (if item.size = 0 then span else { span with size := some item.reported }) }
  | notSent {env batch span call status} (sending : s.writer = .sending batch span)
      (called : s.call = some call)
      (fails : s.isCanceled = true ∧ status = .canceled ∨
        s.isCanceled = false ∧ call.mode = .refuse status) :
      Step s (.move .send env) (s.spanEnds span (some status.text) ++ [.closed s.callNumber])
        { s with writer := .ended (.error (.status status)), canceled := true }
  | sent {env batch span call} (sending : s.writer = .sending batch span)
      (called : s.call = some call) (alive : s.isCanceled = false) (accepts : call.mode = .accept) :
      Step s (.move .send env) (.sent call.number batch :: s.spanEnds span none)
        { s with writer := .offering }
  | sinkBroke {env batch span call} (sending : s.writer = .sending batch span)
      (called : s.call = some call) (alive : s.isCanceled = false)
      (breaks : call.mode = .breakDown) :
      Step s (.move .send env) [] { s with writer := .brokeDown }
  -- reading
  | readCanceled {env call} (reading : s.run = .reading) (called : s.call = some call)
      (empty : call.inbox = []) (canceled : s.isCanceled = true) :
      Step s (.move .receive env) []
        { s with run := .joining (.error (.status .canceled)), canceled := true }
  | unrecognized {env call ack rest} (reading : s.run = .reading) (called : s.call = some call)
      (inbox : call.inbox = .acknowledged ack :: rest) (absent : s.inFlight.ticket? ack.id = none) :
      Step s (.move .receive env) [.received (.acknowledged ack)] { s with
        call := some { call with inbox := rest }
        run := .joining (.error (.unrecognizedBatchId ack.id)), canceled := true }
  | unexpected {env call ack rest ticket} (reading : s.run = .reading) (called : s.call = some call)
      (inbox : call.inbox = .acknowledged ack :: rest)
      (found : s.inFlight.ticket? ack.id = some ticket) (breaks : ack.verdict.2 = false) :
      Step s (.move .receive env) [.received (.acknowledged ack), .answered ticket ack.verdict.1]
        { s with
          call := some { call with inbox := rest }, inFlight := s.inFlight.erase ack.id
          run := .joining (.error (.unexpectedStatus ack.breach)), canceled := true }
  | settled {env call ack rest ticket} (reading : s.run = .reading) (called : s.call = some call)
      (inbox : call.inbox = .acknowledged ack :: rest)
      (found : s.inFlight.ticket? ack.id = some ticket) (answers : ack.verdict.2 = true) :
      Step s (.move .receive env) [.received (.acknowledged ack), .answered ticket ack.verdict.1]
        { s with call := some { call with inbox := rest }, inFlight := s.inFlight.erase ack.id }
  | readEnded {env call message rest result} (reading : s.run = .reading)
      (called : s.call = some call) (inbox : call.inbox = message :: rest)
      (last : lastResult message = some result) :
      Step s (.move .receive env) [.received message] { s with
        call := some { call with inbox := rest }, run := .joining result, canceled := true }
  | sourceBroke {env call rest} (reading : s.run = .reading) (called : s.call = some call)
      (inbox : call.inbox = .brokeDown :: rest) :
      Step s (.move .receive env) [.received .brokeDown] { s with
        call := some { call with inbox := rest }, run := .brokeDown, canceled := true }
  -- ending
  | joined {env read written} (joining : s.run = .joining read)
      (isOver : s.writerResult = some written) :
      Step s (.move .join env) (endLogs read written)
        { s with run := .sweeping, established := s.established && (readerEnd read).2 }
  | swept {env} (sweeping : s.run = .sweeping) :
      Step s (.move .sweep env) (s.inFlight.byId.flatMap release)
        { s with run := .finishing, inFlight := [] }
  | finished {env} (finishing : s.run = .finishing) :
      Step s (.move .finish env) [.finished s.finalCause]
        { s with run := .done, cause := some s.finalCause }
  -- what happens from outside
  | entered {item} (empty : s.queue = []) :
      Step s (.submit item) [.entered item] { s with queue := [item] }
  | linedUp {item} (full : s.queue ≠ []) :
      Step s (.submit item) [] { s with senders := s.senders ++ [item] }
  | left {ticket} : Step s (.leave ticket) [] (s.leave ticket)
  | delivered {message call} (called : s.call = some call) :
      Step s (.deliver message) [] { s with call := some (call.post message) }
  | modeSet {mode call} (called : s.call = some call) :
      Step s (.setMode mode) [] { s with call := some { call with mode := mode } }
  | parentCanceled : Step s .cancelParent [] { s with parentCanceled := true }

variable {s next : Stream} {events : List Event} {env : Surroundings}

/-! ### Moves -/

theorem opening_cases {move : Move}
    (isMove : move = .establish ∨ move = .stopOpening)
    (made : s.makeMove env move = some (next, events)) : Step s (.move move env) events next := by
  obtain rfl | rfl := isMove
  · simp only [makeMove, establish] at made
    split at made
    case h_2 => cases made
    case h_1 starting =>
      split at made
      case isTrue canceled => cases made; exact .openingCanceled (.inl ⟨starting, rfl⟩) canceled
      case isFalse alive =>
        have alive : s.isCanceled = false := by simpa using alive
        split at made
        case h_1 opening => cases made; exact .opened starting alive opening
        case h_2 opening => cases made; exact .refused starting alive opening
        case h_3 opening => cases made; exact .stalled starting alive opening
  · simp only [makeMove, stopOpening] at made
    split at made
    case h_2 => cases made
    case h_1 opening =>
      split at made
      case isTrue canceled => cases made; exact .openingCanceled (.inr ⟨opening, rfl⟩) canceled
      case isFalse => cases made

theorem offer_cases (made : s.offer env = some (next, events)) :
    Step s (.move .offer env) events next := by
  unfold offer at made
  split at made
  case h_2 => cases made
  case h_1 offering =>
    have step : Step s (.move .offer env) _ _ := .offered offering
    unfold expiryFrom at step
    cases limit : s.expiry with
    | none => simp only [limit, Option.none_or] at made step; cases made; exact step
    | some time => simp only [limit, Option.some_or] at made step; cases made; exact step

theorem take_cases (made : s.take env = some (next, events)) :
    Step s (.move .take env) events next := by
  unfold take at made
  split at made
  case h_2 => cases made
  case h_1 waiting queued => cases made; exact .taken waiting queued

theorem expire_cases (made : s.expire env = some (next, events)) :
    Step s (.move .expire env) events next := by
  unfold expire at made
  split at made
  case h_2 => cases made
  case h_1 waiting limited =>
    split at made
    case isTrue isOver =>
      simp only [writerEnds, Bool.or_false] at made
      cases made
      exact .expired waiting limited isOver
    case isFalse => cases made

theorem quit_cases (made : s.quit = some (next, events)) :
    Step s (.move .quit env) events next := by
  unfold quit at made
  split at made
  case h_2 => cases made
  case h_1 waiting =>
    split at made
    case isTrue canceled =>
      simp only [writerEnds, Bool.or_true] at made
      cases made
      exact .quit waiting canceled
    case isFalse => cases made

theorem encode_cases (made : s.encode = some (next, events)) :
    Step s (.move .encode env) events next := by
  unfold encode at made
  split at made
  case h_2 => cases made
  case h_1 item span encoding =>
    simp only at made
    split at made
    case h_1 failure fails =>
      simp only [writerEnds, Bool.or_true] at made
      cases made
      exact .notEncoded encoding fails
    case h_2 batch works =>
      cases made
      exact .encoded encoding works

theorem send_cases (made : s.send = some (next, events)) :
    Step s (.move .send env) events next := by
  unfold send at made
  split at made
  case h_2 => cases made
  case h_1 batch span call sending called =>
    split at made
    case isTrue canceled =>
      simp only [sendFails, writerEnds, Bool.or_true] at made
      cases made
      exact .notSent sending called (.inl ⟨canceled, rfl⟩)
    case isFalse alive =>
      have alive : s.isCanceled = false := by simpa using alive
      split at made
      case h_1 accepts => cases made; exact .sent sending called alive accepts
      case h_2 => cases made
      case h_3 refuses =>
        simp only [sendFails, writerEnds, Bool.or_true] at made
        cases made
        exact .notSent sending called (.inr ⟨alive, refuses⟩)
      case h_4 breaks => cases made; exact .sinkBroke sending called alive breaks

theorem acknowledge_cases {call : Call} {ack : Acknowledgment} {rest : List Incoming}
    (reading : s.run = .reading) (called : s.call = some call)
    (inbox : call.inbox = .acknowledged ack :: rest) :
    let settled := { s with call := some { call with inbox := rest } }.acknowledge ack
    Step s (.move .receive env) (.received (.acknowledged ack) :: settled.2) settled.1 := by
  cases found : s.inFlight.ticket? ack.id with
  | none =>
    simp only [acknowledge, InFlight.settle, found]
    exact .unrecognized reading called inbox found
  | some ticket =>
    cases answers : ack.verdict.2 with
    | true =>
      simp only [acknowledge, InFlight.settle, found, answers]
      exact .settled reading called inbox found answers
    | false =>
      simp only [acknowledge, InFlight.settle, found, answers]
      exact .unexpected reading called inbox found answers

theorem receive_cases (made : s.receive = some (next, events)) :
    Step s (.move .receive env) events next := by
  unfold receive at made
  split at made
  case h_2 => cases made
  case h_1 call reading called =>
    split at made
    case h_1 empty =>
      split at made
      case isTrue canceled => cases made; exact .readCanceled reading called empty canceled
      case isFalse => cases made
    case h_2 message rest inbox =>
      cases message with
      | acknowledged ack => cases made; exact acknowledge_cases reading called inbox
      | failed status => cases made; exact .readEnded reading called inbox rfl
      | closed => cases made; exact .readEnded reading called inbox rfl
      | brokeDown => cases made; exact .sourceBroke reading called inbox

theorem join_cases (made : s.join = some (next, events)) :
    Step s (.move .join env) events next := by
  unfold join at made
  split at made
  case h_2 => cases made
  case h_1 joining isOver => cases made; exact .joined joining isOver

theorem sweep_cases (made : s.sweep = some (next, events)) :
    Step s (.move .sweep env) events next := by
  unfold sweep at made
  split at made
  case h_2 => cases made
  case h_1 sweeping => cases made; exact .swept sweeping

theorem finish_cases (made : s.finish = some (next, events)) :
    Step s (.move .finish env) events next := by
  unfold finish at made
  split at made
  case h_2 => cases made
  case h_1 finishing => cases made; exact .finished finishing

theorem submit_cases (item : Item) : Step s (.submit item) (s.submit item).2 (s.submit item).1 := by
  by_cases empty : s.queue = []
  · simp only [submit, empty, if_true]
    exact .entered empty
  · simp only [submit, empty, if_false]
    exact .linedUp empty

/-- Every step is one of the listed outcomes. -/
theorem step_cases {action : Action} (made : s.step action = some (next, events)) :
    Step s action events next := by
  cases action with
  | start =>
    simp only [step] at made
    split at made
    case isTrue idle => cases made; exact .started idle
    case isFalse => cases made
  | move move env =>
    cases move with
    | establish => exact opening_cases (.inl rfl) made
    | stopOpening => exact opening_cases (.inr rfl) made
    | offer => exact offer_cases made
    | take => exact take_cases made
    | expire => exact expire_cases made
    | quit => exact quit_cases made
    | encode => exact encode_cases made
    | send => exact send_cases made
    | receive => exact receive_cases made
    | join => exact join_cases made
    | sweep => exact sweep_cases made
    | finish => exact finish_cases made
  | submit item =>
    have same : s.submit item = (next, events) := Option.some.inj made
    have step := submit_cases (s := s) item
    rw [same] at step
    exact step
  | leave ticket => cases made; exact .left
  | deliver message =>
    obtain ⟨call, called, made⟩ := Option.bind_eq_some_iff.mp made
    cases made
    exact .delivered called
  | setMode mode =>
    obtain ⟨call, called, made⟩ := Option.bind_eq_some_iff.mp made
    cases made
    exact .modeSet called
  | cancelParent => cases made; exact .parentCanceled

theorem Step.isStep {action : Action} (step : Step s action events next) :
    s.step action = some (next, events) := by
  cases step with
  | started idle => simp [Stream.step, idle]
  | openingCanceled early canceled =>
    obtain ⟨phase, rfl⟩ | ⟨phase, rfl⟩ := early
    · simp [Stream.step, makeMove, establish, phase, canceled, notOpened, refusal]
    · simp [Stream.step, makeMove, stopOpening, phase, canceled, notOpened, refusal]
  | refused starting alive opening =>
    simp [Stream.step, makeMove, establish, starting, alive, opening, notOpened, refusal]
  | stalled starting alive opening =>
    simp [Stream.step, makeMove, establish, starting, alive, opening]
  | opened starting alive opening =>
    simp [Stream.step, makeMove, establish, starting, alive, opening, Stream.opened]
  | offered offering =>
    simp only [Stream.step, makeMove, offer, offering, expiryFrom]
    cases s.expiry <;> rfl
  | taken waiting queued =>
    simp [Stream.step, makeMove, take, waiting, queued, takeEvents, spanFor]
  | expired waiting limited isOver =>
    simp [Stream.step, makeMove, expire, waiting, limited, isOver, writerEnds]
  | quit waiting canceled =>
    simp [Stream.step, makeMove, Stream.quit, waiting, canceled, writerEnds]
  | notEncoded encoding fails =>
    simp [Stream.step, makeMove, encode, encoding, fails, writerEnds, spanEnds, callNumber]
  | encoded encoding works =>
    simp only [Stream.step, makeMove, encode, encoding, works]
    rfl
  | notSent sending called fails =>
    obtain ⟨canceled, rfl⟩ | ⟨alive, refuses⟩ := fails
    · simp [Stream.step, makeMove, send, sending, called, canceled, sendFails, writerEnds]
    · simp [Stream.step, makeMove, send, sending, called, alive, refuses, sendFails, writerEnds]
  | sent sending called alive accepts =>
    simp [Stream.step, makeMove, send, sending, called, alive, accepts]
  | sinkBroke sending called alive breaks =>
    simp [Stream.step, makeMove, send, sending, called, alive, breaks]
  | readCanceled reading called empty canceled =>
    simp [Stream.step, makeMove, receive, reading, called, empty, canceled, readerEnds]
  | unrecognized reading called inbox absent =>
    simp [Stream.step, makeMove, receive, reading, called, inbox, acknowledge, InFlight.settle,
      absent, readerEnds]
  | unexpected reading called inbox found breaks =>
    simp [Stream.step, makeMove, receive, reading, called, inbox, acknowledge, InFlight.settle,
      found, breaks, readerEnds]
  | settled reading called inbox found answers =>
    simp [Stream.step, makeMove, receive, reading, called, inbox, acknowledge, InFlight.settle,
      found, answers]
  | @readEnded env call message rest result reading called inbox last =>
    cases message with
    | acknowledged ack => cases last
    | failed status =>
      cases last
      simp [Stream.step, makeMove, receive, reading, called, inbox, readerEnds]
    | closed =>
      cases last
      simp [Stream.step, makeMove, receive, reading, called, inbox, readerEnds]
    | brokeDown => cases last
  | sourceBroke reading called inbox =>
    simp [Stream.step, makeMove, receive, reading, called, inbox]
  | joined joining isOver =>
    simp only [Stream.step, makeMove, join, joining, isOver]
    rfl
  | swept sweeping =>
    simp only [Stream.step, makeMove, sweep, sweeping]
    rfl
  | finished finishing =>
    simp only [Stream.step, makeMove, finish, finishing]
    rfl
  | entered empty => simp [Stream.step, submit, empty]
  | linedUp full => simp [Stream.step, submit, full]
  | left => rfl
  | delivered called => simp [Stream.step, called]
  | modeSet called => simp [Stream.step, called]
  | parentCanceled => rfl

/-- A step is possible exactly if it is listed, with what is listed. -/
theorem step_eq_some_iff {action : Action} :
    s.step action = some (next, events) ↔ Step s action events next :=
  ⟨step_cases, Step.isStep⟩

end TelemetryStreams.Stream
