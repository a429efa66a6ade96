import TelemetryStreams.Batch
import TelemetryStreams.Error
import TelemetryStreams.Grpc.Percent
import TelemetryStreams.Grpc.Request
import TelemetryStreams.Service

/-!
# Calls over gRPC

A call is opened on a service with the configured headers; it may be refused, wait for ever or be
canceled while it waits. On an established call batches go to the peer, which reads them at once, and
acknowledgments come back. Cancellation and the end of the call are told to whoever sends or receives
next; after a status has ended the call there is nothing more to receive.
-/
namespace TelemetryStreams.Grpc

/-- How the peer takes the call. -/
inductive Response where
  | accept
  /-- It answers with a status at once. -/
  | answer (status : Status)
  | stall
  | refuse
  deriving DecidableEq, Repr

/-- How a call is opened. -/
structure Attempt where
  service : Service := .mixed
  /-- The configured headers, in the order in which they are gone through. -/
  headers : List (String × String) := []
  response : Response := .accept
  canceled : Bool := false
  /-- Whether it is canceled as it waits for the peer. -/
  cancelWaiting : Bool := false
  deriving DecidableEq, Repr

/-- What arrives from the peer. -/
inductive Arrival where
  | message (octets : Octets)
  | status (status : Status)
  | reset
  deriving DecidableEq, Repr

/-- What there is to receive. -/
inductive Receipt where
  | acknowledgment (ack : Acknowledgment)
  | nothingYet
  | ended
  | failed (status : Status)
  deriving DecidableEq, Repr

/-- An established call. -/
structure Session where
  canceled : Bool := false
  /-- Whether the send direction was closed. -/
  sendClosed : Bool := false
  /-- Whether the peer has reset the call. -/
  wasReset : Bool := false
  /-- Whether the peer can send nothing more. -/
  peerDone : Bool := false
  inbox : List Arrival := []
  /-- Whether the end of the call has been received. -/
  isOver : Bool := false
  /-- The batches that the peer has read. -/
  received : List Batch := []
  deriving DecidableEq, Repr

/-- How opening a call turned out. -/
inductive Opened where
  | established (session : Session)
  | failed (status : Status)
  | waiting
  deriving DecidableEq, Repr

namespace Attempt

/-- How an attempt turns out: its headers are looked at first, then whether it is canceled. -/
def outcome (attempt : Attempt) : Opened :=
  match request attempt.headers with
  | .error status => .failed status
  | .ok _ =>
    if attempt.canceled then .failed .canceled
    else match attempt.response with
      | .refuse => .failed ⟨.unavailable, "refused"⟩
      | .stall => if attempt.cancelWaiting then .failed .canceled else .waiting
      | .accept => .established { canceled := attempt.cancelWaiting }
      | .answer status =>
        if status.code = .ok then
          .established { canceled := attempt.cancelWaiting, peerDone := true, inbox := [.status status] }
        else .failed (readStatus status)

/-- The path and the headers that the peer sees, if the request reaches it. -/
def seen (attempt : Attempt) : Option (String × Metadata) :=
  match request attempt.headers with
  | .error _ => none
  | .ok metadata =>
    if attempt.canceled ∨ attempt.response = .refuse then none
    else some (attempt.service.path, sentHeaders metadata)

end Attempt

namespace Session

def isEnded (s : Session) : Bool := s.sendClosed || s.wasReset

/-- Sends a batch, which fails after the send direction was closed, after cancellation and after a
reset, in this order. -/
def send (s : Session) (batch : Batch) : Except Status Unit × Session :=
  if s.sendClosed then (.error ⟨.failedPrecondition, "send after close"⟩, s)
  else if s.canceled then (.error .canceled, s)
  else if s.wasReset then (.error ⟨.unavailable, "arrow stream closed by transport"⟩, s)
  else (.ok (), { s with received := s.received ++ [batch] })

def receive (s : Session) : Receipt × Session :=
  if s.canceled then (.failed .canceled, s)
  else if s.isOver then (.ended, s)
  else match s.inbox with
    | [] => (.nothingYet, s)
    | arrival :: inbox =>
      let s := { s with inbox := inbox }
      let ended := { s with isOver := true }
      match arrival with
      | .message octets => match Acknowledgment.decode octets with
        | .ok ack => (.acknowledgment ack, s)
        | .error fault => (.failed ⟨.internal, fault.message⟩, ended)
      | .status status =>
        if status.code = .ok then (.ended, ended) else (.failed (readStatus status), ended)
      | .reset =>
        (.failed ⟨.cancelled, "h2 protocol error: error reading a body from connection"⟩, ended)

def closeSend (s : Session) : Session := { s with sendClosed := true }

def cancel (s : Session) : Session := { s with canceled := true }

/-- The peer sends something, unless it has ended the call. -/
def deliver (s : Session) (arrival : Arrival) : Session :=
  if s.peerDone then s
  else
    let s := { s with inbox := s.inbox ++ [arrival] }
    match arrival with
    | .message _ => s
    | .status _ => { s with peerDone := true }
    | .reset => { s with peerDone := true, wasReset := true }

end Session

end TelemetryStreams.Grpc
