import FerroTunnel.Map.Lookup
import FerroTunnel.Stream.VirtualStream

/-!
# The stream multiplexer

The multiplexer routes incoming frames to the channels of their streams and
opens outgoing streams.  Stream channels are shared between the multiplexer and
the owners of streams, so they live in a heap here and are known by name.

`process_frame` runs up to its one await, a send to a channel, and is resumed
when the send can finish; everything else may happen in between.
-/

namespace FerroTunnel.Stream

open FerroTunnel.Channel
open FerroTunnel.Transport
open FerroTunnel.Wire

/-! ## The buffer pool -/

/-- Capacity of the read buffer pool. -/
def DEFAULT_POOL_CAPACITY : Nat := 256

/-- Pooled read buffers.  A buffer is reset before it enters the pool, so every
buffer there is empty. -/
structure ReadBufferPool where
  queue : List Bytes
  clean : ∀ buffer ∈ queue, buffer = []

namespace ReadBufferPool

/-- A pool without buffers. -/
def withDefaultCapacity : ReadBufferPool :=
  ⟨[], by simp⟩

/-- Take a buffer, or make a new one when the pool has none. -/
def acquireOrDefault (pool : ReadBufferPool) : Bytes × ReadBufferPool :=
  match pool with
  | ⟨[], clean⟩ => ([], ⟨[], clean⟩)
  | ⟨buffer :: rest, clean⟩ =>
      (buffer, ⟨rest, fun other mem => clean other (List.mem_cons_of_mem _ mem)⟩)

/-- Reset a buffer and return it; a full pool drops it. -/
def release (pool : ReadBufferPool) (_buffer : Bytes) : ReadBufferPool :=
  if pool.queue.length < DEFAULT_POOL_CAPACITY then
    ⟨pool.queue ++ [[]], by
      intro buffer mem
      rcases List.mem_append.mp mem with old | new
      · exact pool.clean buffer old
      · exact List.mem_singleton.mp new⟩
  else
    pool

/-- A stream never starts with bytes of another one. -/
theorem acquireOrDefault_fst (pool : ReadBufferPool) : pool.acquireOrDefault.1 = [] := by
  rcases pool with ⟨_ | ⟨buffer, rest⟩, clean⟩
  · rfl
  · exact clean buffer (List.mem_cons_self ..)

end ReadBufferPool

/-! ## The multiplexer -/

/-- Capacity of a stream channel. -/
def STREAM_CHANNEL_CAPACITY : Nat := 128

/-- Capacity of the queue of streams opened by the peer. -/
def NEW_STREAM_QUEUE_CAPACITY : Nat := 32

/-- The multiplexer with the channels it shares with stream owners. -/
structure Multiplexer where
  streams : Finmap fun _ : UInt32 => ChanId
  streamPriorities : Finmap fun _ : UInt32 => StreamPriority
  lastSender : Option (UInt32 × ChanId)
  nextStreamId : UInt32
  newStreams : Bounded VirtualStream
  bufferPool : ReadBufferPool
  channels : ChanId → Bounded StreamItem
  nextChan : ChanId

/-- The send `process_frame` waits for. -/
inductive FrameTask
  | idle
  | queueStream (stream : VirtualStream)
  | sendData (streamId : UInt32) (tx : ChanId) (frame : Frame)
  | sendClose (streamId : UInt32) (tx : ChanId) (frame : Frame)

namespace Multiplexer

/-- The multiplexer of a fresh connection; clients open odd streams and servers
even ones. -/
def new (isClient : Bool) : Multiplexer where
  streams := ∅
  streamPriorities := ∅
  lastSender := none
  nextStreamId := if isClient then 1 else 2
  newStreams := .empty NEW_STREAM_QUEUE_CAPACITY
  bufferPool := .withDefaultCapacity
  channels := fun _ => .empty STREAM_CHANNEL_CAPACITY
  nextChan := 0

/-- Priority of a frame sent through `send_frame`. -/
def priorityForFrame (frame : Frame) (priorities : Finmap fun _ : UInt32 => StreamPriority) :
    StreamPriority :=
  match frame with
  | .data streamId _ _ => (priorities.lookup streamId).getD .normal
  | .heartbeat _ => .critical
  | .handshakeAck _ _ _ _ => .critical
  | .closeStream streamId _ => (priorities.lookup streamId).getD .normal
  | _ => .normal

/-- Allocate a stream id; the id space is never wrapped. -/
def allocateStreamId (mux : Multiplexer) : Except String (UInt32 × Multiplexer) :=
  if mux.nextStreamId.toNat + 2 < 2 ^ 32 then
    .ok (mux.nextStreamId, { mux with nextStreamId := mux.nextStreamId + 2 })
  else
    .error "stream ID space exhausted"

/-- Make a fresh stream channel. -/
def boundedAsync (mux : Multiplexer) : ChanId × Multiplexer :=
  (mux.nextChan, { mux with
    channels := Function.update mux.channels mux.nextChan (.empty STREAM_CHANNEL_CAPACITY)
    nextChan := mux.nextChan + 1 })

/-- Enter a channel under a stream id with its priority. -/
def register (mux : Multiplexer) (streamId : UInt32) (tx : ChanId) (priority : StreamPriority) :
    Multiplexer :=
  { mux with
    streams := mux.streams.insert streamId tx
    streamPriorities := mux.streamPriorities.insert streamId priority }

/-- Make a stream over a pooled read buffer. -/
def makeStream (mux : Multiplexer) (streamId : UInt32) (rx : ChanId) (priority : StreamPriority)
    (protocol : Protocol) : VirtualStream × Multiplexer :=
  (.new streamId rx priority mux.bufferPool.acquireOrDefault.1 protocol,
    { mux with bufferPool := mux.bufferPool.acquireOrDefault.2 })

/-- Drop a stream: its receiver goes and its read buffer returns to the pool. -/
def dropStream (mux : Multiplexer) (stream : VirtualStream) : Multiplexer :=
  { mux with
    channels := Function.update mux.channels stream.rx (mux.channels stream.rx).closeReceiver
    bufferPool := mux.bufferPool.release stream.readBuffer }

/-! ## Dispatch -/

/-- The cached sender, when it is for this stream id. -/
def cachedSender (mux : Multiplexer) (streamId : UInt32) : Option ChanId :=
  match mux.lastSender with
  | some (cachedId, tx) => if cachedId = streamId then some tx else none
  | none => none

/-- Look a sender up and remember it. -/
def lookupAndCacheSender (mux : Multiplexer) (streamId : UInt32) :
    Option ChanId × Multiplexer :=
  match mux.streams.lookup streamId with
  | some tx => (some tx, { mux with lastSender := some (streamId, tx) })
  | none => (none, mux)

/-- The sender a frame goes to: the cached one, or the one looked up. -/
def dispatch (mux : Multiplexer) (streamId : UInt32) : Option ChanId × Multiplexer :=
  match mux.cachedSender streamId with
  | some tx => (some tx, mux)
  | none => mux.lookupAndCacheSender streamId

/-- `process_frame` up to its await, over a way to find the sender of a stream. -/
def processFrameWith (dispatch : Multiplexer → UInt32 → Option ChanId × Multiplexer)
    (mux : Multiplexer) (frame : Frame) : Multiplexer × FrameTask :=
  match frame with
  | .openStream openStream =>
      let streamId := openStream.streamId
      let priority := openStream.priority
      match mux.streams.lookup streamId with
      | some _ => (mux, .idle)
      | none =>
          let (chan, mux) := mux.boundedAsync
          let (stream, mux) :=
            (mux.register streamId chan priority).makeStream streamId chan priority
              openStream.protocol
          (mux, .queueStream stream)
  | .data streamId payload endOfStream =>
      match dispatch mux streamId with
      | (some tx, mux) => (mux, .sendData streamId tx (.data streamId payload endOfStream))
      | (none, mux) => (mux, .idle)
  | .closeStream streamId reason =>
      match dispatch mux streamId with
      | (some tx, mux) => (mux, .sendClose streamId tx (.closeStream streamId reason))
      | (none, mux) => ({ mux with
          streams := mux.streams.erase streamId
          streamPriorities := mux.streamPriorities.erase streamId }, .idle)
  | _ => (mux, .idle)

/-- `process_frame` up to its await. -/
def processFrame (mux : Multiplexer) (frame : Frame) : Multiplexer × FrameTask :=
  processFrameWith dispatch mux frame

/-- Finish the send `process_frame` waits for; `none` while the channel is full. -/
def resume (mux : Multiplexer) : FrameTask → Option Multiplexer
  | .idle => none
  | .queueStream stream =>
      match mux.newStreams.trySend stream with
      | (.sent, newStreams) => some { mux with newStreams := newStreams }
      | (.full, _) => none
      | (.closed, _) =>
          some ({ mux with streams := mux.streams.erase stream.streamId }.dropStream stream)
  | .sendData streamId tx frame =>
      match (mux.channels tx).trySend (.ok frame) with
      | (.sent, channel) =>
          some { mux with channels := Function.update mux.channels tx channel }
      | (.full, _) => none
      | (.closed, _) => some { mux with streams := mux.streams.erase streamId }
  | .sendClose streamId tx frame =>
      match (mux.channels tx).trySend (.ok frame) with
      | (.full, _) => none
      | (_, channel) => some { mux with
          channels := Function.update mux.channels tx channel
          streams := mux.streams.erase streamId
          streamPriorities := mux.streamPriorities.erase streamId }

/-- `open_stream_with_priority` up to its await: allocate an id, and register a
fresh channel under it. -/
def openStream (mux : Multiplexer) (priority : StreamPriority) :
    Except String (UInt32 × ChanId × Multiplexer) :=
  match mux.allocateStreamId with
  | .error e => .error e
  | .ok (streamId, mux) =>
      let (chan, mux) := mux.boundedAsync
      .ok (streamId, chan, mux.register streamId chan priority)

theorem openStream_of_room {mux : Multiplexer} (room : mux.nextStreamId.toNat + 2 < 2 ^ 32)
    (priority : StreamPriority) :
    mux.openStream priority = .ok (mux.nextStreamId, mux.nextChan, { mux with
      streams := mux.streams.insert mux.nextStreamId mux.nextChan
      streamPriorities := mux.streamPriorities.insert mux.nextStreamId priority
      nextStreamId := mux.nextStreamId + 2
      channels := Function.update mux.channels mux.nextChan (.empty STREAM_CHANNEL_CAPACITY)
      nextChan := mux.nextChan + 1 }) := by
  rw [openStream, allocateStreamId, if_pos room]
  rfl

theorem openStream_of_exhausted {mux : Multiplexer}
    (exhausted : ¬mux.nextStreamId.toNat + 2 < 2 ^ 32) (priority : StreamPriority) :
    mux.openStream priority = .error "stream ID space exhausted" := by
  rw [openStream, allocateStreamId, if_neg exhausted]

/-- The frame that announces a stream opened locally. -/
def openFrame (streamId : UInt32) (protocol : Protocol) (priority : StreamPriority) : Frame :=
  .openStream ⟨streamId, protocol, [], none, priority⟩

/-- No sender of the channel is left, neither in the map, nor in the cache, nor
in a send that waits. -/
def sendersGone (mux : Multiplexer) (task : FrameTask) (chan : ChanId) : Bool :=
  !(mux.streams.any fun _ tx => tx == chan) &&
    !(mux.lastSender.any fun cached => cached.2 == chan) &&
    match task with
    | .sendData _ tx _ => tx != chan
    | .sendClose _ tx _ => tx != chan
    | _ => true

/-! ## What the operations do -/

/-- A frame goes to the cached or the registered channel of its stream, which is
then the cached one; otherwise the stream has neither. -/
theorem dispatch_cases (mux : Multiplexer) (streamId : UInt32) :
    (∃ tx, (mux.lastSender = some (streamId, tx) ∨ mux.streams.lookup streamId = some tx) ∧
      mux.dispatch streamId = (some tx, { mux with lastSender := some (streamId, tx) })) ∨
    (mux.dispatch streamId = (none, mux) ∧ mux.streams.lookup streamId = none ∧
      ∀ tx, mux.lastSender ≠ some (streamId, tx)) := by
  have missed (miss : mux.cachedSender streamId = none)
      (uncached : ∀ tx, mux.lastSender ≠ some (streamId, tx)) :
      (∃ tx, (mux.lastSender = some (streamId, tx) ∨ mux.streams.lookup streamId = some tx) ∧
        mux.dispatch streamId = (some tx, { mux with lastSender := some (streamId, tx) })) ∨
      (mux.dispatch streamId = (none, mux) ∧ mux.streams.lookup streamId = none ∧
        ∀ tx, mux.lastSender ≠ some (streamId, tx)) := by
    cases registered : mux.streams.lookup streamId with
    | some tx =>
        exact .inl ⟨tx, .inr rfl, by simp [dispatch, miss, lookupAndCacheSender, registered]⟩
    | none =>
        exact .inr ⟨by simp [dispatch, miss, lookupAndCacheSender, registered], rfl, uncached⟩
  cases cache : mux.lastSender with
  | none =>
      rw [cache] at missed
      exact missed (by simp [cachedSender, cache]) (by simp)
  | some entry =>
      obtain ⟨cachedId, tx⟩ := entry
      rw [cache] at missed
      by_cases same : cachedId = streamId
      · subst same
        refine .inl ⟨tx, .inl rfl, ?_⟩
        simp only [dispatch, cachedSender, cache, if_true]
        rw [← cache]
      · refine missed (by simp [cachedSender, cache, same]) fun other equal => same ?_
        cases equal
        rfl

/-- What `process_frame` does up to its await: it registers a fresh stream,
begins to send to the channel of a stream, or is done. -/
theorem processFrame_cases (mux : Multiplexer) (frame : Frame) :
    (∃ openStream, frame = .openStream openStream ∧
      mux.streams.lookup openStream.streamId = none ∧
      mux.processFrame frame =
        ({ mux with
          streams := mux.streams.insert openStream.streamId mux.nextChan
          streamPriorities :=
            mux.streamPriorities.insert openStream.streamId openStream.priority
          bufferPool := mux.bufferPool.acquireOrDefault.2
          channels := Function.update mux.channels mux.nextChan (.empty STREAM_CHANNEL_CAPACITY)
          nextChan := mux.nextChan + 1 },
          .queueStream (.new openStream.streamId mux.nextChan openStream.priority []
            openStream.protocol))) ∨
    (∃ streamId tx,
      (mux.lastSender = some (streamId, tx) ∨ mux.streams.lookup streamId = some tx) ∧
      ((∃ payload endOfStream, frame = .data streamId payload endOfStream ∧
          mux.processFrame frame = ({ mux with lastSender := some (streamId, tx) },
            .sendData streamId tx frame)) ∨
        ∃ reason, frame = .closeStream streamId reason ∧
          mux.processFrame frame = ({ mux with lastSender := some (streamId, tx) },
            .sendClose streamId tx frame))) ∨
    ((∀ streamId payload endOfStream, frame = .data streamId payload endOfStream →
        mux.streams.lookup streamId = none ∧ ∀ tx, mux.lastSender ≠ some (streamId, tx)) ∧
      (∀ openStream, frame = .openStream openStream →
        mux.streams.lookup openStream.streamId ≠ none) ∧
      ∃ streams priorities,
        (streams = mux.streams ∧ priorities = mux.streamPriorities ∨
          ∃ streamId, streams = mux.streams.erase streamId ∧
            priorities = mux.streamPriorities.erase streamId) ∧
        mux.processFrame frame =
          ({ mux with streams := streams, streamPriorities := priorities }, .idle)) := by
  cases frame with
  | openStream openStream =>
      cases registered : mux.streams.lookup openStream.streamId with
      | none =>
          refine .inl ⟨openStream, rfl, registered, ?_⟩
          simp only [processFrame, processFrameWith, registered, makeStream, boundedAsync, register]
          rw [ReadBufferPool.acquireOrDefault_fst]
      | some tx =>
          refine .inr (.inr ⟨by simp, ?_, mux.streams, mux.streamPriorities, .inl ⟨rfl, rfl⟩, ?_⟩)
          · rintro other ⟨⟩
            simp [registered]
          · simp [processFrame, processFrameWith, registered]
  | data streamId payload endOfStream =>
      rcases mux.dispatch_cases streamId with ⟨tx, known, dispatched⟩ | ⟨dispatched, unknown⟩
      · refine .inr (.inl ⟨streamId, tx, known, .inl ⟨payload, endOfStream, rfl, ?_⟩⟩)
        simp [processFrame, processFrameWith, dispatched]
      · refine .inr (.inr ⟨?_, by simp, mux.streams, mux.streamPriorities, .inl ⟨rfl, rfl⟩, ?_⟩)
        · rintro _ _ _ ⟨⟩
          exact unknown
        · simp [processFrame, processFrameWith, dispatched]
  | closeStream streamId reason =>
      rcases mux.dispatch_cases streamId with ⟨tx, known, dispatched⟩ | ⟨dispatched, unknown⟩
      · refine .inr (.inl ⟨streamId, tx, known, .inr ⟨reason, rfl, ?_⟩⟩)
        simp [processFrame, processFrameWith, dispatched]
      · refine .inr (.inr ⟨by simp, by simp, mux.streams.erase streamId,
          mux.streamPriorities.erase streamId, .inr ⟨streamId, rfl, rfl⟩, ?_⟩)
        simp [processFrame, processFrameWith, dispatched]
  | _ =>
      exact .inr (.inr ⟨by simp, by simp, mux.streams, mux.streamPriorities, .inl ⟨rfl, rfl⟩, rfl⟩)

/-- How a send that the read loop waits for ends: in its channel, or at a receiver that is
gone. -/
inductive Resumes (mux : Multiplexer) : FrameTask → Multiplexer → Prop
  | queued {stream : VirtualStream} {newStreams : Bounded VirtualStream}
      (sent : (mux.newStreams.trySend stream).1 = .sent)
      (queueEq : newStreams.queue = mux.newStreams.queue ++ [stream]) :
      Resumes mux (.queueStream stream) { mux with newStreams := newStreams }
  | refused {stream : VirtualStream} (closed : (mux.newStreams.trySend stream).1 = .closed) :
      Resumes mux (.queueStream stream)
        ({ mux with streams := mux.streams.erase stream.streamId }.dropStream stream)
  | delivered {streamId : UInt32} {tx : ChanId} {frame : Frame} {channel : Bounded StreamItem}
      (sent : ((mux.channels tx).trySend (.ok frame)).1 = .sent)
      (queueEq : channel.queue = (mux.channels tx).queue ++ [.ok frame])
      (goneEq : channel.receiverGone = (mux.channels tx).receiverGone) :
      Resumes mux (.sendData streamId tx frame)
        { mux with channels := Function.update mux.channels tx channel }
  | lost {streamId : UInt32} {tx : ChanId} {frame : Frame}
      (closed : ((mux.channels tx).trySend (.ok frame)).1 = .closed)
      (gone : (mux.channels tx).receiverGone = true) :
      Resumes mux (.sendData streamId tx frame)
        { mux with streams := mux.streams.erase streamId }
  | closes {streamId : UInt32} {tx : ChanId} {frame : Frame} {channel : Bounded StreamItem}
      (sent : (channel.queue = (mux.channels tx).queue ++ [.ok frame] ∧
          channel.receiverGone = (mux.channels tx).receiverGone) ∨
        (channel = mux.channels tx ∧ channel.receiverGone = true)) :
      Resumes mux (.sendClose streamId tx frame) { mux with
        channels := Function.update mux.channels tx channel
        streams := mux.streams.erase streamId
        streamPriorities := mux.streamPriorities.erase streamId }

theorem resumes_of_resume {mux next : Multiplexer} {task : FrameTask}
    (resumed : mux.resume task = some next) : Resumes mux task next := by
  cases task with
  | idle => cases resumed
  | queueStream stream =>
      rcases mux.newStreams.trySend_cases stream with
        ⟨after, sent, -, queueEq, -⟩ | full | ⟨closed, -⟩ <;>
        simp only [resume, *] at resumed <;> cases resumed
      · exact .queued (by rw [sent]) queueEq
      · exact .refused (by rw [closed])
  | sendData streamId tx frame =>
      rcases (mux.channels tx).trySend_cases (.ok frame) with
        ⟨channel, sent, present, queueEq, still⟩ | full | ⟨closed, gone⟩ <;>
        simp only [resume, *] at resumed <;> cases resumed
      · exact .delivered (by rw [sent]) queueEq (still.trans present.symm)
      · exact .lost (by rw [closed]) gone
  | sendClose streamId tx frame =>
      rcases (mux.channels tx).trySend_cases (.ok frame) with
        ⟨channel, sent, present, queueEq, still⟩ | full | ⟨closed, gone⟩ <;>
        simp only [resume, *] at resumed <;> cases resumed
      · exact .closes (.inl ⟨queueEq, still.trans present.symm⟩)
      · exact .closes (.inr ⟨rfl, gone⟩)

/-- What finishing a send can do to the registrations: it removes one, or none. -/
theorem resume_registrations {mux next : Multiplexer} {task : FrameTask}
    (resumed : mux.resume task = some next) :
    (next.streams = mux.streams ∨ ∃ streamId, next.streams = mux.streams.erase streamId) ∧
      next.nextStreamId = mux.nextStreamId ∧ next.nextChan = mux.nextChan ∧
      next.lastSender = mux.lastSender := by
  cases resumes_of_resume resumed with
  | queued | delivered => exact ⟨.inl rfl, rfl, rfl, rfl⟩
  | refused | lost | closes => exact ⟨.inr ⟨_, rfl⟩, rfl, rfl, rfl⟩

end Multiplexer

end FerroTunnel.Stream
