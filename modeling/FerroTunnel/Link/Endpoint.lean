import FerroTunnel.Stream.Multiplexer
import FerroTunnel.Transition.Core
import FerroTunnel.Wire.Chunking

/-!
# Two connected endpoints

Each endpoint has a multiplexer, the owners of its streams, a wire channel with
its batched sender, and a read loop that decodes received bytes and feeds
`process_frame`.  Two endpoints are joined by a pair of byte pipes.  Every
await is a point at which any other step may come first.

The state also records, per stream, the bytes that writes reported as written
and the bytes that reads returned.
-/

namespace FerroTunnel.Link

open FerroTunnel.Channel
open FerroTunnel.Stream
open FerroTunnel.Transition
open FerroTunnel.Transport
open FerroTunnel.Wire

/-- A call of `open_stream` that waits for its frame to be queued. -/
structure Opening where
  streamId : UInt32
  priority : StreamPriority
  protocol : Protocol
  future : SendFuture

/-- A stream in the hands of its owner, with the buffer of the write poll that
was told to wait, if any. -/
structure Handle where
  stream : VirtualStream
  retry : Option Bytes

/-- One end of a connection. -/
structure Endpoint where
  mux : Multiplexer
  task : FrameTask
  outbox : Bounded PrioritizedFrame
  sender : SenderTask
  received : Bytes
  reading : Bool
  opening : ChanId → Option Opening
  handles : ChanId → Option Handle
  written : UInt32 → Bytes
  delivered : UInt32 → Bytes

/-- Capacity of the wire channel. -/
def FRAME_CHANNEL_CAPACITY : Nat := 1024

/-- What one endpoint does by itself. -/
inductive EndpointAction
  | openStream (protocol : Protocol) (priority : StreamPriority) (now : Nat)
  | pollOpen (chan : ChanId) (now : Nat)
  | dropOpen (chan : ChanId)
  | pollWrite (chan : ChanId) (now : Nat) (buf : Bytes)
  | pollShutdown (chan : ChanId) (now : Nat)
  | sendFrame (frame : Frame)
  | collect
  | decode
  | resume
  | accept
  | closeAcceptor
  | pollRead (chan : ChanId) (room : Nat)
  | dropStream (chan : ChanId)

namespace Endpoint

/-- An endpoint after the handshake. -/
def initial (isClient : Bool) : Endpoint where
  mux := .new isClient
  task := .idle
  outbox := .empty FRAME_CHANNEL_CAPACITY
  sender := .collecting [] false
  received := []
  reading := true
  opening := fun _ => none
  handles := fun _ => none
  written := fun _ => []
  delivered := fun _ => []

/-- Give a stream to its owner. -/
def setHandle (endpoint : Endpoint) (chan : ChanId) (handle : Option Handle) : Endpoint :=
  { endpoint with handles := Function.update endpoint.handles chan handle }

/-- Begin an `open_stream` call: register the stream and start to queue its
frame. -/
def openStream (endpoint : Endpoint) (protocol : Protocol) (priority : StreamPriority)
    (now : Nat) : Option Endpoint :=
  match endpoint.mux.openStream priority with
  | .error _ => none
  | .ok (streamId, chan, mux) =>
      let item := (priority, Multiplexer.openFrame streamId protocol priority)
      some { endpoint with
        mux := mux
        opening := Function.update endpoint.opening chan
          (some ⟨streamId, priority, protocol, boundedSendFuture item now⟩) }

/-- Abandon an `open_stream` call; the receiving half of its channel goes. -/
def abandonOpen (endpoint : Endpoint) (chan : ChanId) : Endpoint :=
  { endpoint with
    opening := Function.update endpoint.opening chan none
    mux := { endpoint.mux with
      channels := Function.update endpoint.mux.channels chan
        (endpoint.mux.channels chan).closeReceiver } }

/-- Poll an `open_stream` call. -/
def pollOpen (endpoint : Endpoint) (chan : ChanId) (now : Nat) : Option Endpoint :=
  match endpoint.opening chan with
  | none => none
  | some call =>
      match call.future.poll endpoint.outbox now with
      | (.pending, future, outbox) =>
          some { endpoint with
            outbox := outbox
            opening := Function.update endpoint.opening chan
              (some { call with future := future }) }
      | (.ready (.error _), _, outbox) =>
          some ({ endpoint with outbox := outbox }.abandonOpen chan)
      | (.ready (.ok ()), _, outbox) =>
          let (stream, mux) :=
            endpoint.mux.makeStream call.streamId chan call.priority call.protocol
          some { endpoint with
            mux := mux
            outbox := outbox
            opening := Function.update endpoint.opening chan none
            handles := Function.update endpoint.handles chan (some ⟨stream, none⟩) }

/-- Poll a write of a stream and record what it reports. -/
def pollWrite (endpoint : Endpoint) (chan : ChanId) (now : Nat) (buf : Bytes) :
    Option Endpoint :=
  match endpoint.handles chan with
  | none => none
  | some handle =>
      match handle.stream.pollWrite endpoint.outbox now buf with
      | (.ready (.ok len), stream, outbox) =>
          some ({ endpoint with
            outbox := outbox
            written := Function.update endpoint.written stream.streamId
              (endpoint.written stream.streamId ++ buf.take len) }.setHandle chan
                (some ⟨stream, none⟩))
      | (.ready (.error _), stream, outbox) =>
          some ({ endpoint with outbox := outbox }.setHandle chan (some ⟨stream, none⟩))
      | (.pending, stream, outbox) =>
          some ({ endpoint with outbox := outbox }.setHandle chan (some ⟨stream, some buf⟩))

/-- Poll a shutdown of a stream. -/
def pollShutdown (endpoint : Endpoint) (chan : ChanId) (now : Nat) : Option Endpoint :=
  match endpoint.handles chan with
  | none => none
  | some handle =>
      let (_, stream, outbox) := handle.stream.pollShutdown endpoint.outbox now
      some ({ endpoint with outbox := outbox }.setHandle chan
        (some { handle with stream := stream }))

/-- Queue a frame that neither opens a stream nor carries data. -/
def sendFrame (endpoint : Endpoint) (frame : Frame) : Option Endpoint :=
  match frame with
  | .openStream _ | .data _ _ _ => none
  | _ =>
      let item := (Multiplexer.priorityForFrame frame endpoint.mux.streamPriorities, frame)
      some { endpoint with outbox := (endpoint.outbox.trySend item).2 }

/-- One receive of the batched sender. -/
def collect (bincode : Bincode) (endpoint : Endpoint) : Option Endpoint :=
  match endpoint.sender with
  | .collecting frames yielded =>
      let (sender, outbox) :=
        Transport.collect .default bincode endpoint.outbox false frames yielded
      some { endpoint with sender := sender, outbox := outbox }
  | _ => none

/-- One turn of the read loop: decode a frame and begin to process it.  The loop
ends at the first error. -/
def decode (bincode : Bincode) (endpoint : Endpoint) : Option Endpoint :=
  match endpoint.reading, endpoint.task with
  | true, .idle =>
      match TunnelCodec.default.decode bincode endpoint.received with
      | (.ok none, _) => none
      | (.error _, rest) => some { endpoint with received := rest, reading := false }
      | (.ok (some frame), rest) =>
          let (mux, task) := endpoint.mux.processFrame frame
          some { endpoint with mux := mux, task := task, received := rest }
  | _, _ => none

/-- Finish the send the read loop waits for. -/
def resume (endpoint : Endpoint) : Option Endpoint :=
  (endpoint.mux.resume endpoint.task).map fun mux =>
    { endpoint with mux := mux, task := .idle }

/-- Take a stream opened by the peer. -/
def accept (endpoint : Endpoint) : Option Endpoint :=
  if endpoint.mux.newStreams.receiverGone then
    none
  else
    match endpoint.mux.newStreams.recv with
    | (none, _) => none
    | (some stream, newStreams) =>
        some ({ endpoint with
          mux := { endpoint.mux with newStreams := newStreams } }.setHandle stream.rx
            (some ⟨stream, none⟩))

/-- Stop taking streams opened by the peer. -/
def closeAcceptor (endpoint : Endpoint) : Endpoint :=
  { endpoint with
    mux := { endpoint.mux with newStreams := endpoint.mux.newStreams.closeReceiver } }

/-- Poll a read of a stream and record the bytes it returns. -/
def pollRead (endpoint : Endpoint) (chan : ChanId) (room : Nat) : Option Endpoint :=
  match endpoint.handles chan with
  | none => none
  | some handle =>
      let (poll, stream, channel) := handle.stream.pollRead (endpoint.mux.channels chan)
        (endpoint.mux.sendersGone endpoint.task chan) room
      some ({ endpoint with
        mux := { endpoint.mux with
          channels := Function.update endpoint.mux.channels chan channel }
        delivered := Function.update endpoint.delivered stream.streamId
          (endpoint.delivered stream.streamId ++ VirtualStream.readBytes poll) }.setHandle chan
            (some { handle with stream := stream }))

/-- Drop a stream. -/
def dropStream (endpoint : Endpoint) (chan : ChanId) : Option Endpoint :=
  match endpoint.handles chan with
  | none => none
  | some handle =>
      some ({ endpoint with mux := endpoint.mux.dropStream handle.stream }.setHandle chan none)

/-- A step of one endpoint. -/
def step (bincode : Bincode) : Step Endpoint EndpointAction
  | endpoint, .openStream protocol priority now => endpoint.openStream protocol priority now
  | endpoint, .pollOpen chan now => endpoint.pollOpen chan now
  | endpoint, .dropOpen chan =>
      (endpoint.opening chan).map fun _ => endpoint.abandonOpen chan
  | endpoint, .pollWrite chan now buf => endpoint.pollWrite chan now buf
  | endpoint, .pollShutdown chan now => endpoint.pollShutdown chan now
  | endpoint, .sendFrame frame => endpoint.sendFrame frame
  | endpoint, .collect => endpoint.collect bincode
  | endpoint, .decode => endpoint.decode bincode
  | endpoint, .resume => endpoint.resume
  | endpoint, .accept => endpoint.accept
  | endpoint, .closeAcceptor => some endpoint.closeAcceptor
  | endpoint, .pollRead chan room => endpoint.pollRead chan room
  | endpoint, .dropStream chan => endpoint.dropStream chan

end Endpoint

/-! ## The connection -/

/-- The two ends of a connection. -/
inductive Side
  | client
  | server
deriving DecidableEq

/-- The other end. -/
def Side.peer : Side → Side
  | .client => .server
  | .server => .client

/-- Two endpoints and, for each, the bytes it has written that the other has not
received. -/
structure Connection where
  endpoint : Side → Endpoint
  wire : Side → Bytes

/-- What can happen to a connection. -/
inductive Action
  | endpoint (side : Side) (action : EndpointAction)
  | write (side : Side) (written : Nat)
  | writeError (side : Side)
  | transfer (side : Side) (count : Nat)

namespace Connection

/-- The connection after the handshake. -/
def initial : Connection where
  endpoint := fun side => .initial (side = .client)
  wire := fun _ => []

/-- Replace one endpoint. -/
def setEndpoint (connection : Connection) (side : Side) (endpoint : Endpoint) : Connection :=
  { connection with endpoint := Function.update connection.endpoint side endpoint }

/-- End the batched sender; the receiving half of the wire channel goes. -/
def stopSender (endpoint : Endpoint) : Endpoint :=
  { endpoint with sender := .stopped, outbox := endpoint.outbox.closeReceiver }

/-- One turn of the write loop of an endpoint. -/
def write (connection : Connection) (side : Side) (written : Nat) : Option Connection :=
  match (connection.endpoint side).sender with
  | .writing cursor =>
      match cursor.turn written with
      | .finished =>
          some (connection.setEndpoint side
            { connection.endpoint side with sender := .collecting [] false })
      | .writing next =>
          some { connection.setEndpoint side
              { connection.endpoint side with sender := .writing next } with
            wire := Function.update connection.wire side
              (connection.wire side ++ cursor.unwritten.take written) }
      | .failed _ => some (connection.setEndpoint side (stopSender (connection.endpoint side)))
  | _ => none

/-- A step of the connection.  Bytes arrive in order, in pieces of any size. -/
def step (bincode : Bincode) : Step Connection Action
  | connection, .endpoint side action =>
      ((connection.endpoint side).step bincode action).map (connection.setEndpoint side)
  | connection, .write side written => connection.write side written
  | connection, .writeError side =>
      match (connection.endpoint side).sender with
      | .writing _ => some (connection.setEndpoint side (stopSender (connection.endpoint side)))
      | _ => none
  | connection, .transfer side count =>
      let peer := connection.endpoint side.peer
      some { connection.setEndpoint side.peer
          { peer with received := peer.received ++ (connection.wire side).take count } with
        wire := Function.update connection.wire side ((connection.wire side).drop count) }

variable {bincode : Bincode} {connection after : Connection}

/-- Replacing one endpoint by one with the property. -/
theorem setEndpoint_forall {P : Endpoint → Prop} (holds : ∀ side, P (connection.endpoint side))
    {acting : Side} {endpoint : Endpoint} (there : P endpoint) (side : Side) :
    P ((connection.setEndpoint acting endpoint).endpoint side) := by
  simp only [setEndpoint]
  by_cases same : side = acting
  · subst same
    rw [Function.update_self]
    exact there
  · rw [Function.update_of_ne same]
    exact holds side

/-- A property of endpoints is kept by the connection, if each endpoint keeps it and it
does not depend on the bytes that are written and received. -/
theorem step_forall {P : Endpoint → Prop}
    (steps : ∀ {endpoint next action}, P endpoint →
      endpoint.step bincode action = some next → P next)
    (writes : ∀ {endpoint sender}, P endpoint → sender.batch = [] →
      P { endpoint with sender := sender })
    (stops : ∀ {endpoint}, P endpoint → P (stopSender endpoint))
    (receives : ∀ {endpoint received}, P endpoint → P { endpoint with received := received })
    (holds : ∀ side, P (connection.endpoint side)) {action : Action}
    (stepEq : connection.step bincode action = some after) (side : Side) :
    P (after.endpoint side) := by
  cases action with
  | endpoint acting action =>
      obtain ⟨endpoint, endpointStep, rfl⟩ := Option.map_eq_some_iff.mp stepEq
      exact setEndpoint_forall holds (steps (holds acting) endpointStep) side
  | write acting written =>
      simp only [step, write] at stepEq
      split at stepEq
      · split at stepEq <;> cases stepEq
        · exact setEndpoint_forall holds (writes (holds acting) rfl) side
        · exact setEndpoint_forall holds (writes (holds acting) rfl) side
        · exact setEndpoint_forall holds (stops (holds acting)) side
      · cases stepEq
  | writeError acting =>
      simp only [step] at stepEq
      split at stepEq <;> cases stepEq
      exact setEndpoint_forall holds (stops (holds acting)) side
  | transfer acting count =>
      cases stepEq
      exact setEndpoint_forall holds (receives (holds acting.peer)) side

end Connection

/-- The stream an action writes to, with the buffer if it is a write. -/
def writeAttempt : EndpointAction → Option (ChanId × Option Bytes)
  | .pollWrite chan _ buf => some (chan, some buf)
  | .pollShutdown chan _ => some (chan, none)
  | _ => none

/-- A caller told to wait by a write poll makes that poll again, with the same
buffer, before anything else that writes to the stream. -/
def Endpoint.RetriesWrites (endpoint : Endpoint) (action : EndpointAction) : Prop :=
  ∀ attempt ∈ writeAttempt action, ∀ handle ∈ endpoint.handles attempt.1,
    handle.retry = none ∨ handle.retry = attempt.2

instance (endpoint : Endpoint) (action : EndpointAction) :
    Decidable (endpoint.RetriesWrites action) :=
  inferInstanceAs (Decidable (∀ attempt ∈ writeAttempt action,
    ∀ handle ∈ endpoint.handles attempt.1, _ ∨ _))

/-- Callers at both ends retry the writes they are told to wait for. -/
def RetriesWrites (connection : Connection) : Action → Prop
  | .endpoint side action => (connection.endpoint side).RetriesWrites action
  | _ => True

instance (connection : Connection) : (action : Action) →
    Decidable (RetriesWrites connection action)
  | .endpoint side action =>
      inferInstanceAs (Decidable ((connection.endpoint side).RetriesWrites action))
  | .write _ _ | .writeError _ | .transfer _ _ => isTrue trivial

end FerroTunnel.Link
