import TelemetryStreams.Clock
import TelemetryStreams.Stream.Basic

/-!
# Steps of a stream

Every step is either a move that the stream makes by itself (`Move`) or something that happens to it
from outside. `Stream.step` gives the next state and the events of a step, if the step is possible
then; `Stream.perform` also writes the events down. Between two steps anything else may happen, so a
law about all sequences of steps holds however the parties take turns.
-/
namespace TelemetryStreams

/-- What a stream depends on when it moves. -/
structure Surroundings where
  now : Nat := 0
  /-- How the next attempt to open a call goes, and the number that the call gets. -/
  opening : Opening := .accept
  nextCall : Nat := 0
  /-- The number of the next span. -/
  nextSpan : Nat := 1
  deriving DecidableEq, Repr

/-- What a stream does by itself. -/
inductive Move where
  /-- Opens the call and starts the writer. -/
  | establish
  /-- Sees that the opening was canceled. -/
  | stopOpening
  /-- The writer offers the stream to callers. -/
  | offer
  | take
  /-- The writer sees that the lifetime is over. -/
  | expire
  /-- The writer sees that the call was canceled. -/
  | quit
  /-- The writer has its item encoded and registers the batch. -/
  | encode
  | send
  /-- The reader takes what has arrived. -/
  | receive
  | join
  | sweep
  | finish
  deriving DecidableEq, Repr

namespace Stream

abbrev Outcome := Stream × List Event

/-! ### Opening -/

/-- The call could not be opened. -/
def notOpened (s : Stream) (status : Status) : Outcome :=
  let log := if status.code = .unimplemented then .unsupported status.message else .cannotStart status
  ({ s with run := .finishing }, [.logged log])

/-- The call was accepted. The method of the first call stays. -/
def opened (s : Stream) (number : Nat) : Outcome :=
  let method := s.method.getD (Call.methodOf number)
  ({ s with
      run := .reading, writer := .offering, headers := {}, expiry := none
      call := some { number := number }, established := true, method := some method },
    [.opened number])

/-- Opens the call, unless it is canceled already. -/
def establish (env : Surroundings) (s : Stream) : Option Outcome :=
  match s.run with
  | .starting =>
    if s.isCanceled then s.notOpened .canceled
    else match env.opening with
      | .accept => s.opened env.nextCall
      | .refuse status => s.notOpened status
      | .stall => some ({ s with run := .opening }, [])
  | _ => none

def stopOpening (s : Stream) : Option Outcome :=
  match s.run with
  | .opening => if s.isCanceled then s.notOpened .canceled else none
  | _ => none

/-! ### Writing -/

/-- Offers the stream. The lifetime counts from the first offer. -/
def offer (env : Surroundings) (s : Stream) : Option Outcome :=
  match s.writer with
  | .offering =>
    let expiry := match s.expiry with
      | some time => some time
      | none => if s.lifetime = .zero then none else some (env.now + s.lifetime.toNanos)
    some ({ s with writer := .waiting, expiry := expiry }, [.offered])
  | _ => none

/-- Takes the item in the queue, into which the next one moves. -/
def take (env : Surroundings) (s : Stream) : Option Outcome :=
  match s.writer, s.queue with
  | .waiting, item :: queue =>
    let span := if s.telemetry.traced then SendSpan.start env.nextSpan item.parent
      else SendSpan.unrecorded item.parent
    let started := if s.telemetry.traced then [.spanStarted span] else []
    let moved := s.senders.take 1
    some ({ s with
        writer := .encoding item span, queue := queue ++ moved, senders := s.senders.drop 1 },
      .taken item :: started ++ moved.map .entered)
  | _, _ => none

/-- Ends the writer, which closes the send direction. An error cancels the call. -/
def writerEnds (s : Stream) (result : Except Error Unit) (events : List Event) : Outcome :=
  let failed := match result with
    | .ok _ => false
    | .error _ => true
  ({ s with writer := .ended result, canceled := s.canceled || failed },
    events ++ [.closed s.callNumber])

/-- Ends the writer at the end of the lifetime, which is no error. -/
def expire (env : Surroundings) (s : Stream) : Option Outcome :=
  match s.writer, s.expiry with
  | .waiting, some time =>
    if Clock.servedAt time ≤ env.now then
      s.writerEnds (.ok ()) [.withdrawn, .logged (.lifetimeReached s.lifetime)]
    else none
  | _, _ => none

def quit (s : Stream) : Option Outcome :=
  match s.writer with
  | .waiting => if s.isCanceled then s.writerEnds (.error .canceled) [.withdrawn] else none
  | _ => none

def spanEnds (s : Stream) (span : SendSpan) (failure : Option String) : List Event :=
  if s.telemetry.traced then [.spanEnded span failure] else []

/-- The metadata of an item with what the propagator injects. A propagator that declares nothing
injects nothing. -/
def combined (s : Stream) (item : Item) (span : SendSpan) : Metadata :=
  let given := item.metadata.getD []
  match s.telemetry.propagator with
  | some propagator =>
    if propagator.declared = [] then given else propagator.inject item.parent span.context given
  | none => given

/-- What is logged about a turn of the codec. -/
def encodeLog : EncodeError → List Event
  | .breakdown lastWords => [.logged (.brokeDown lastWords)]
  | .codec _ => []

/-- Registers a batch, and releases the caller that it displaces. -/
def register (s : Stream) (id : Int64) (ticket : Nat) : Outcome :=
  let displaced := match s.inFlight.ticket? id with
    | some other => [.logged (.duplicateId id), .answered other (.error .streamRestarting)]
    | none => []
  ({ s with inFlight := s.inFlight.register id ticket }, .registered id ticket :: displaced)

/-- Has the item encoded. If that fails its caller is told, and the stream goes down; else the header
block is added, the caller is registered, and the size is reported if there is one. -/
def encode (s : Stream) : Option Outcome :=
  match s.writer with
  | .encoding item span =>
    let (turn, codec) := s.codec.encode item.records
    let s := { s with codec := codec }
    match Codec.guarded turn with
    | .error failure =>
      let error := Error.encode failure
      s.writerEnds (.error error) (encodeLog failure ++ [.answered item.ticket (.error error)] ++
        s.spanEnds span (some error.message))
    | .ok batch =>
      let metadata := s.combined item span
      let (block, table) :=
        if metadata = [] then ([], s.headers) else Metadata.encode s.headers metadata
      let (s, events) := { s with headers := table }.register batch.id item.ticket
      let measured : List Event := if item.size = 0 then []
        else [.measured ⟨s.method.getD "", Int64.ofNat item.reported⟩]
      let span := if item.size = 0 then span else { span with size := some item.reported }
      some ({ s with writer := .sending { batch with headers := block } span }, events ++ measured)
  | _ => none

def sendFails (s : Stream) (span : SendSpan) (status : Status) : Outcome :=
  s.writerEnds (.error (.status status)) (s.spanEnds span (some status.text))

def send (s : Stream) : Option Outcome :=
  match s.writer, s.call with
  | .sending batch span, some call =>
    if s.isCanceled then s.sendFails span .canceled
    else match call.mode with
      | .accept =>
        some ({ s with writer := .offering }, .sent call.number batch :: s.spanEnds span none)
      | .stall => none
      | .refuse status => s.sendFails span status
      | .breakDown => some ({ s with writer := .brokeDown }, [])
  | _, _ => none

/-! ### Reading -/

def readerEnds (s : Stream) (result : Except Error Unit) (events : List Event) : Outcome :=
  ({ s with run := .joining result, canceled := true }, events)

def acknowledge (s : Stream) (ack : Acknowledgment) : Outcome :=
  let settled := s.inFlight.settle ack
  let s := { s with inFlight := settled.table }
  let told := settled.told.toList.map fun row => Event.answered row.1 row.2
  match settled.stop with
  | none => (s, told)
  | some error => s.readerEnds (.error error) told

/-- Takes one message. What has arrived comes before the cancellation. -/
def receive (s : Stream) : Option Outcome :=
  match s.run, s.call with
  | .reading, some call =>
    match call.inbox with
    | [] => if s.isCanceled then s.readerEnds (.error (.status .canceled)) [] else none
    | message :: inbox =>
      let s := { s with call := some { call with inbox := inbox } }
      let (s, events) := match message with
        | .acknowledged ack => s.acknowledge ack
        | .failed status => s.readerEnds (.error (.status status)) []
        | .closed => s.readerEnds (.ok ()) []
        | .brokeDown => ({ s with run := .brokeDown, canceled := true }, [])
      some (s, .received message :: events)
  | _, _ => none

/-! ### Ending -/

/-- What a task that broke down leaves behind. -/
def lastWords (words : String) : String :=
  "task N panicked with message " ++ Text.quoted words

def writerResult (s : Stream) : Option (Except Error Unit) :=
  match s.writer with
  | .ended result => some result
  | .brokeDown => some (.error (.writer (lastWords "sink panicked")))
  | _ => none

/-- What is logged about the end of the reader, and whether the endpoint may accept the protocol. -/
def readerEnd (read : Except Error Unit) : Log × Bool :=
  match read with
  | .ok _ => (.shutdown .reader "EOF", true)
  | .error (.status status) =>
    if status.code = .unimplemented then (.unsupported status.message, false)
    else (.ofError .reader (.status status), true)
  | .error error => (.ofError .reader error, true)

/-- Both directions have ended. An endpoint that does not know the protocol is known as such. -/
def join (s : Stream) : Option Outcome :=
  match s.run, s.writerResult with
  | .joining read, some written =>
    let (log, accepts) := readerEnd read
    let logs := match written with
      | .ok _ => []
      | .error error => [.logged (.ofError .writer error)]
    some ({ s with run := .sweeping, established := s.established && accepts }, .logged log :: logs)
  | _, _ => none

def sweep (s : Stream) : Option Outcome :=
  match s.run with
  | .sweeping =>
    let release (row : Int64 × Nat) : List Event :=
      [.logged (.releasing row.1), .answered row.2 (.error .streamRestarting)]
    some ({ s with run := .finishing, inFlight := [] }, s.inFlight.byId.flatMap release)
  | _ => none

def finish (s : Stream) : Option Outcome :=
  match s.run with
  | .finishing =>
    let cause := s.cause.getD (if s.parentCanceled then .canceled else .streamRestarting)
    some ({ s with run := .done, cause := some cause }, [.finished cause])
  | _ => none

/-! ### What happens from outside -/

/-- A caller puts an item into the queue, or waits for room. -/
def submit (s : Stream) (item : Item) : Outcome :=
  if s.queue = [] then ({ s with queue := [item] }, [.entered item])
  else ({ s with senders := s.senders ++ [item] }, [])

def leave (s : Stream) (ticket : Nat) : Stream :=
  { s with senders := s.senders.filter (·.ticket ≠ ticket) }

/-- What can happen. -/
inductive Action where
  /-- The stream is told to run. -/
  | start
  | move (move : Move) (env : Surroundings)
  | submit (item : Item)
  | leave (ticket : Nat)
  | deliver (message : Incoming)
  | setMode (mode : SendMode)
  | cancelParent

def makeMove (s : Stream) (env : Surroundings) : Move → Option Outcome
  | .establish => s.establish env
  | .stopOpening => s.stopOpening
  | .offer => s.offer env
  | .take => s.take env
  | .expire => s.expire env
  | .quit => s.quit
  | .encode => s.encode
  | .send => s.send
  | .receive => s.receive
  | .join => s.join
  | .sweep => s.sweep
  | .finish => s.finish

def step (s : Stream) : Action → Option Outcome
  | .start => if s.run = .idle then some ({ s with run := .starting }, []) else none
  | .move move env => s.makeMove env move
  | .submit item => s.submit item
  | .leave ticket => some (s.leave ticket, [])
  | .deliver message => do
    let call ← s.call
    pure ({ s with call := some (call.post message) }, [])
  | .setMode mode => do
    let call ← s.call
    pure ({ s with call := some { call with mode := mode } }, [])
  | .cancelParent => some ({ s with parentCanceled := true }, [])

/-- A stream that is done, about to run once more. What it remembers of its end stays. -/
def rerun (s : Stream) : Option Stream :=
  match s.run with
  | .done => some { s with run := .starting, writer := .absent, canceled := false }
  | _ => none

def record (s : Stream) (events : List Event) : Stream := { s with history := s.history ++ events }

def perform (s : Stream) (action : Action) : Option Stream :=
  (s.step action).map fun outcome => outcome.1.record outcome.2

end Stream

end TelemetryStreams
