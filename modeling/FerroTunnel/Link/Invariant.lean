import FerroTunnel.Link.Endpoint
import FerroTunnel.Link.InFlight

/-!
# What holds of a connection

A stream's bytes are in one of six places: pending in a write, queued for the
sender, in its batch, encoded on the wire, in the stream channel, or buffered
by the reader.  The invariant states that, read in order, these places hold
what was written, and that a receiver which has lost bytes can never receive
later ones.

Each endpoint's channels are named by the streams they were made for.  Stream
ids are allocated once, so a stream has one channel at each end.
-/

namespace FerroTunnel.Link

open FerroTunnel.Channel
open FerroTunnel.Stream
open FerroTunnel.Transport
open FerroTunnel.Wire

/-! ## One endpoint -/

/-- The ids an endpoint allocates: odd for the client, even for the server. -/
def IsLocal (side : Side) (streamId : UInt32) : Prop :=
  streamId.toNat % 2 = if side = .client then 1 else 0

/-- The stream `process_frame` is queueing for its owner. -/
def taskStream : FrameTask → Option VirtualStream
  | .queueStream stream => some stream
  | _ => none

/-- The channel `process_frame` is sending to. -/
def taskTarget : FrameTask → Option (UInt32 × ChanId)
  | .sendData streamId tx _ | .sendClose streamId tx _ => some (streamId, tx)
  | _ => none

/-- The bytes `process_frame` is sending to a channel. -/
def taskBytes (task : FrameTask) (chan : ChanId) : Bytes :=
  match task with
  | .sendData _ tx frame | .sendClose _ tx frame =>
      if tx = chan then VirtualStream.payload (.ok frame) else []
  | _ => []

namespace Endpoint

/-- Streams opened by the peer that no owner has taken yet. -/
def waiting (endpoint : Endpoint) : List VirtualStream :=
  endpoint.mux.newStreams.queue ++ (taskStream endpoint.task).toList

/-- Frames that are not encoded yet. -/
def unencoded (endpoint : Endpoint) : List PrioritizedFrame :=
  endpoint.sender.batch ++ endpoint.outbox.queue

/-- The bytes at an endpoint that the owner of a channel can still read. -/
def buffered (endpoint : Endpoint) (chan : ChanId) : Bytes :=
  if (endpoint.mux.channels chan).receiverGone then
    []
  else
    (endpoint.handles chan).elim [] (fun handle => handle.stream.unread) ++
      (VirtualStream.queuedBytes (endpoint.mux.channels chan) ++ taskBytes endpoint.task chan)

/-- The channel was made. -/
def Made (endpoint : Endpoint) (chan : ChanId) : Prop :=
  chan < endpoint.mux.nextChan

/-- The channel was made, and its receiving half exists. -/
def Present (endpoint : Endpoint) (chan : ChanId) : Prop :=
  endpoint.Made chan ∧ (endpoint.mux.channels chan).receiverGone = false

/-- An `open_stream` call for the stream is waiting. -/
def IsOpening (endpoint : Endpoint) (streamId : UInt32) : Prop :=
  ∃ chan call, endpoint.opening chan = some call ∧ call.streamId = streamId

end Endpoint

/-- Every channel in use was made for the stream it is used for, and its receiving
half is in one place. -/
structure Naming (owner : ChanId → UInt32) (endpoint : Endpoint) : Prop where
  unique : ∀ first second, endpoint.Made first → endpoint.Made second →
    owner first = owner second → first = second
  registered : ∀ streamId chan, endpoint.mux.streams.lookup streamId = some chan →
    endpoint.Made chan ∧ owner chan = streamId
  cached : ∀ streamId chan, endpoint.mux.lastSender = some (streamId, chan) →
    endpoint.Made chan ∧ owner chan = streamId
  sending : ∀ streamId chan, taskTarget endpoint.task = some (streamId, chan) →
    endpoint.Made chan ∧ owner chan = streamId
  handled : ∀ chan handle, endpoint.handles chan = some handle →
    endpoint.Present chan ∧ handle.stream.rx = chan ∧ handle.stream.streamId = owner chan
  opening : ∀ chan call, endpoint.opening chan = some call →
    endpoint.Present chan ∧ call.streamId = owner chan ∧ endpoint.handles chan = none
  waiting : ∀ stream ∈ endpoint.waiting, endpoint.Present stream.rx ∧
    stream.streamId = owner stream.rx ∧ endpoint.handles stream.rx = none ∧
      endpoint.opening stream.rx = none
  distinct : (endpoint.waiting.map VirtualStream.rx).Nodup

/-- A pending send is a close, or the data of the write its caller retries. -/
structure PendingWrite (handle : Handle) : Prop where
  idle : handle.stream.pendingSend = none → handle.stream.pendingSendLen = 0
  pending : ∀ future, handle.stream.pendingSend = some future →
    (future.item = handle.stream.closeItem ∧ handle.stream.pendingSendLen = 0) ∨
      ∃ buf, handle.retry = some buf ∧
        future.item = (handle.stream.priority, handle.stream.dataFrame buf) ∧
        handle.stream.pendingSendLen = min buf.length MAX_DATA_FRAME_PAYLOAD

/-- Everything an endpoint sends for a stream has the priority of the stream, and
is sent for one of its channels. -/
structure Sending (bincode : Bincode) (owner : ChanId → UInt32)
    (priority : UInt32 → StreamPriority) (endpoint : Endpoint) : Prop where
  handled : ∀ chan handle, endpoint.handles chan = some handle →
    handle.stream.priority = priority handle.stream.streamId ∧ PendingWrite handle
  opening : ∀ chan call, endpoint.opening chan = some call →
    call.priority = priority call.streamId ∧
      call.future.item = (call.priority,
        Multiplexer.openFrame call.streamId call.protocol call.priority) ∧
      endpoint.written call.streamId = []
  waiting : ∀ stream ∈ endpoint.waiting, stream.priority = priority stream.streamId ∧
    stream.pendingSend = none ∧ stream.pendingSendLen = 0 ∧ stream.unread = []
  queued : ∀ item ∈ endpoint.unencoded, ∀ streamId, concerns streamId item.2 = true →
    item.1 = priority streamId ∧ ∃ chan, endpoint.Made chan ∧ owner chan = streamId
  encodable : ∀ item ∈ endpoint.unencoded, item.2.isData = true →
    isEncodable .default bincode item.2 = true
  written : ∀ streamId, endpoint.written streamId ≠ [] →
    ∃ chan, endpoint.Made chan ∧ owner chan = streamId

/-- Ids are allocated upwards among the local ones. -/
structure Allocating (side : Side) (endpoint : Endpoint) : Prop where
  next : IsLocal side endpoint.mux.nextStreamId
  opening : ∀ streamId, endpoint.IsOpening streamId →
    IsLocal side streamId ∧ streamId.toNat < endpoint.mux.nextStreamId.toNat

/-! ## One direction -/

/-- What is known of one direction: the frames encoded and not decoded, the bytes
lost with a failed writer, and the data decoded so far. -/
structure Traffic where
  inFlight : List Frame
  lost : Bytes
  arrived : UInt32 → Bytes

/-- All frames of a direction that are queued and not decoded, in order. -/
def Traffic.frames (traffic : Traffic) (sender : Endpoint) : List Frame :=
  traffic.inFlight ++ sender.unencoded.map Prod.snd

/-- The receiver may still make a channel for the stream. -/
def Expected (side : Side) (traffic : Traffic) (sender receiver : Endpoint)
    (streamId : UInt32) : Prop :=
  (IsLocal side.peer streamId ∧
      receiver.mux.nextStreamId.toNat ≤ streamId.toNat) ∨
    (IsLocal side streamId ∧ sender.mux.nextStreamId.toNat ≤ streamId.toNat) ∨
    sender.IsOpening streamId ∨
    ∃ frame ∈ traffic.frames sender, opens streamId frame = true

/-- A data frame for the owner of the channel would reach it. -/
def Reaches (owner : ChanId → UInt32) (receiver : Endpoint) (chan : ChanId) : Prop :=
  (receiver.mux.channels chan).receiverGone = false ∧
    (receiver.mux.streams.lookup (owner chan) = some chan ∨
      receiver.mux.lastSender = some (owner chan, chan))

/-- As long as the receiver reads, the bytes on the wire are those of the frames
in flight. -/
structure Carries (bincode : Bincode) (traffic : Traffic) (sender receiver : Endpoint)
    (wire : Bytes) : Prop where
  bytes : receiver.reading = true →
    receiver.received ++ (wire ++ (sender.sender.unwritten ++ traffic.lost)) =
      traffic.inFlight.flatMap (wireImage bincode)
  lost : sender.sender ≠ .stopped → traffic.lost = []
  encodable : ∀ frame ∈ traffic.inFlight, isEncodable .default bincode frame = true

/-- What was written is what has arrived and what is on its way, and each stream
is opened before its data. -/
structure Accounts (side : Side) (traffic : Traffic) (sender : Endpoint) : Prop where
  accounted : ∀ streamId, traffic.arrived streamId ++ dataIn streamId (traffic.frames sender) =
    sender.written streamId
  ordered : ∀ streamId, OpensFirst streamId (traffic.frames sender)
  openers : ∀ streamId, (∃ frame ∈ traffic.frames sender, opens streamId frame = true) →
    IsLocal side streamId ∧ streamId.toNat < sender.mux.nextStreamId.toNat ∧
      ¬sender.IsOpening streamId

/-- A channel holds and has delivered what arrived for its stream, as long as it
can be reached, and a prefix of it afterwards. -/
structure Receives (side : Side) (owner : ChanId → UInt32) (traffic : Traffic)
    (sender receiver : Endpoint) : Prop where
  expected : ∀ streamId, Expected side traffic sender receiver streamId →
    traffic.arrived streamId = [] ∧ ∀ chan, receiver.Made chan → owner chan ≠ streamId
  unmade : ∀ streamId, (∀ chan, receiver.Made chan → owner chan ≠ streamId) →
    receiver.delivered streamId = []
  holds : ∀ chan, receiver.Made chan →
    receiver.delivered (owner chan) ++ receiver.buffered chan <+: traffic.arrived (owner chan)
  reached : ∀ chan, receiver.Made chan → Reaches owner receiver chan →
    receiver.delivered (owner chan) ++ receiver.buffered chan = traffic.arrived (owner chan)

/-! ## Both ends -/

/-- What is known of one endpoint and the direction it sends in. -/
structure Ledger where
  owner : ChanId → UInt32
  priority : UInt32 → StreamPriority
  sent : Traffic

/-- What holds of one endpoint. -/
structure EndpointInvariant (bincode : Bincode) (side : Side) (ledger : Ledger)
    (endpoint : Endpoint) : Prop where
  naming : Naming ledger.owner endpoint
  sending : Sending bincode ledger.owner ledger.priority endpoint
  allocating : Allocating side endpoint
  accounts : Accounts side ledger.sent endpoint

/-- What holds of an endpoint, its peer, and the bytes on the wire out of and
into it. -/
structure PairInvariant (bincode : Bincode) (side : Side) (ledger peerLedger : Ledger)
    (endpoint peer : Endpoint) (outward inward : Bytes) : Prop where
  here : EndpointInvariant bincode side ledger endpoint
  there : EndpointInvariant bincode side.peer peerLedger peer
  carriesOut : Carries bincode ledger.sent endpoint peer outward
  carriesIn : Carries bincode peerLedger.sent peer endpoint inward
  receivesThere : Receives side peerLedger.owner ledger.sent endpoint peer
  receivesHere : Receives side.peer ledger.owner peerLedger.sent peer endpoint

@[simp]
theorem Side.peer_peer (side : Side) : side.peer.peer = side := by
  cases side <;> rfl

theorem Side.peer_ne (side : Side) : side.peer ≠ side := by
  cases side <;> exact Side.noConfusion

/-- The invariant does not depend on the end it is seen from. -/
theorem PairInvariant.swap {bincode : Bincode} {side : Side} {ledger peerLedger : Ledger}
    {endpoint peer : Endpoint} {outward inward : Bytes}
    (pair : PairInvariant bincode side ledger peerLedger endpoint peer outward inward) :
    PairInvariant bincode side.peer peerLedger ledger peer endpoint inward outward where
  here := pair.there
  there := by simpa using pair.here
  carriesOut := pair.carriesIn
  carriesIn := pair.carriesOut
  receivesThere := pair.receivesHere
  receivesHere := by simpa using pair.receivesThere

/-- No id is allocated at both ends. -/
theorem IsLocal.not_peer {side : Side} {streamId : UInt32} (isLocal : IsLocal side streamId) :
    ¬IsLocal side.peer streamId := by
  unfold IsLocal at isLocal ⊢
  cases side
  · rw [isLocal]
    decide
  · rw [isLocal]
    decide

end FerroTunnel.Link
