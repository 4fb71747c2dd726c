import FerroTunnel.Transport.BatchedSender

/-!
# Virtual streams

A virtual stream reads from a channel of frames and writes frames to the wire
channel.  Polls are functions of the stream, the channel they touch and the
current time in milliseconds.  A send waits with a growing backoff while the
wire channel is full and gives up at its deadline; a frame is either entered in
the channel or still held by the send, never both.
-/

namespace FerroTunnel.Stream

open FerroTunnel.Channel
open FerroTunnel.Transport
open FerroTunnel.Wire

/-- The outcome of a poll. -/
inductive Poll (α : Type)
  | ready (value : α)
  | pending
deriving DecidableEq

/-! ## Bounded sends -/

/-- Milliseconds a send to the wire channel is retried. -/
def FRAME_SEND_TIMEOUT : Nat := 5000

/-- Why a bounded send fails. -/
inductive SendFailure
  | timedOut
  | brokenPipe
deriving DecidableEq, Repr

/-- A send to the wire channel between two polls: the frame it still holds, its
deadline, the next backoff, and when the current sleep ends. -/
structure SendFuture where
  item : PrioritizedFrame
  deadline : Nat
  backoff : Nat
  wakeAt : Nat
deriving DecidableEq

/-- The send at its first poll. -/
def boundedSendFuture (item : PrioritizedFrame) (now : Nat) : SendFuture :=
  ⟨item, now + FRAME_SEND_TIMEOUT, 1, now⟩

/-- Poll a send: sleep on, or try the channel and then succeed, fail or sleep
again. -/
def SendFuture.poll (future : SendFuture) (channel : Bounded PrioritizedFrame) (now : Nat) :
    Poll (Except SendFailure Unit) × SendFuture × Bounded PrioritizedFrame :=
  if now < future.wakeAt then
    (.pending, future, channel)
  else
    match channel.trySend future.item with
    | (.sent, next) => (.ready (.ok ()), future, next)
    | (.full, _) =>
        if now ≥ future.deadline then
          (.ready (.error .timedOut), future, channel)
        else
          (.pending,
            { future with
              wakeAt := now + min future.backoff (future.deadline - now)
              backoff := min (future.backoff * 2) 10 },
            channel)
    | (.closed, _) => (.ready (.error .brokenPipe), future, channel)

/-- A poll enters the frame at the end of the channel, or leaves the channel
alone; a send that waits keeps its frame. -/
theorem SendFuture.poll_cases (future : SendFuture) (channel : Bounded PrioritizedFrame)
    (now : Nat) :
    (∃ next, future.poll channel now = (.ready (.ok ()), future, next) ∧
      next.queue = channel.queue ++ [future.item] ∧
      next.receiverGone = channel.receiverGone) ∨
    (∃ failure, future.poll channel now = (.ready (.error failure), future, channel)) ∨
    ∃ later, future.poll channel now = (.pending, later, channel) ∧
      later.item = future.item := by
  by_cases asleep : now < future.wakeAt
  · exact .inr (.inr ⟨future, by simp [poll, asleep], rfl⟩)
  rcases channel.trySend_cases future.item with
    ⟨next, sent, present, queueEq, stillPresent⟩ | full | ⟨closed, _⟩
  · exact .inl ⟨next, by simp [poll, asleep, sent], queueEq, stillPresent.trans present.symm⟩
  · by_cases late : now ≥ future.deadline
    · exact .inr (.inl ⟨.timedOut, by simp [poll, asleep, full, late]⟩)
    · refine .inr (.inr ⟨{ future with
          wakeAt := now + min future.backoff (future.deadline - now)
          backoff := min (future.backoff * 2) 10 }, ?_, rfl⟩)
      simp only [poll, asleep, full, late, if_false]
  · exact .inr (.inl ⟨.brokenPipe, by simp [poll, asleep, closed]⟩)

/-! ## The stream -/

/-- The name of a stream channel. -/
abbrev ChanId := Nat

/-- What travels through a stream channel: a frame, or the text of an error. -/
abbrev StreamItem := Except String Frame

/-- Maximum payload of a data frame. -/
def MAX_DATA_FRAME_PAYLOAD : Nat := 64 * 1024

/-- A virtual stream.  Its read cursor never passes the end of its read buffer.
A receive that is pending is recorded in the channel, as its parked receiver. -/
structure VirtualStream where
  streamId : UInt32
  rx : ChanId
  priority : StreamPriority
  readBuffer : Bytes
  readBufferBytes : Option Bytes
  readBufferPos : Nat
  pendingSend : Option SendFuture
  pendingSendLen : Nat
  protocol : Protocol
  cursor_le : readBufferPos ≤ readBuffer.length

namespace VirtualStream

/-- A stream over a pooled read buffer. -/
def new (streamId : UInt32) (rx : ChanId) (priority : StreamPriority) (readBuffer : Bytes)
    (protocol : Protocol) : VirtualStream where
  streamId := streamId
  rx := rx
  priority := priority
  readBuffer := readBuffer
  readBufferBytes := none
  readBufferPos := 0
  pendingSend := none
  pendingSendLen := 0
  protocol := protocol
  cursor_le := Nat.zero_le _

/-- The bytes received and not returned yet, in the order they are returned. -/
def unread (stream : VirtualStream) : Bytes :=
  stream.readBufferBytes.getD [] ++ stream.readBuffer.drop stream.readBufferPos

/-- The bytes a received item contributes. -/
def payload : StreamItem → Bytes
  | .ok (.data _ data _) => data
  | _ => []

/-! ## Reading -/

/-- Receive from the channel for a stream whose buffers are empty.  The result
is what is put into the caller's buffer of the given room. -/
def pollChannel (stream : VirtualStream) (channel : Bounded StreamItem) (sendersGone : Bool)
    (remaining : Nat) : Poll (Except IoError Bytes) × VirtualStream × Bounded StreamItem :=
  match channel.recv with
  | (some (.ok (.data _ bytes _)), rest) =>
      let len := min remaining bytes.length
      if len < bytes.length then
        (.ready (.ok (bytes.take len)),
          { stream with readBufferBytes := some (bytes.drop len) }, rest)
      else
        (.ready (.ok (bytes.take len)), stream, rest)
  | (some (.ok (.closeStream _ _)), rest) => (.ready (.ok []), stream, rest)
  | (some (.ok _), rest) => (.pending, stream, rest)
  | (some (.error e), rest) => (.ready (.error ⟨.other, e⟩), stream, rest)
  | (none, rest) =>
      if sendersGone then (.ready (.ok []), stream, channel) else (.pending, stream, rest)

/-- Return buffered bytes through the cursor, or receive. -/
def pollReadBuffer (stream : VirtualStream) (channel : Bounded StreamItem) (sendersGone : Bool)
    (remaining : Nat) : Poll (Except IoError Bytes) × VirtualStream × Bounded StreamItem :=
  let bufferedRemaining := stream.readBuffer.length - stream.readBufferPos
  if bufferedRemaining > 0 then
    let len := min remaining bufferedRemaining
    let chunk := (stream.readBuffer.drop stream.readBufferPos).take len
    if _consumed : stream.readBufferPos + len ≥ stream.readBuffer.length then
      (.ready (.ok chunk),
        { stream with
          readBuffer := []
          readBufferPos := 0
          cursor_le := Nat.zero_le _ }, channel)
    else
      (.ready (.ok chunk),
        { stream with
          readBufferPos := stream.readBufferPos + len
          cursor_le := by omega }, channel)
  else
    stream.pollChannel channel sendersGone remaining

/-- Poll for bytes: first those left over from the last frame, then the read
buffer, then the channel. -/
def pollRead (stream : VirtualStream) (channel : Bounded StreamItem) (sendersGone : Bool)
    (remaining : Nat) : Poll (Except IoError Bytes) × VirtualStream × Bounded StreamItem :=
  match stream.readBufferBytes with
  | some bufferedBytes =>
      if bufferedBytes.isEmpty then
        { stream with readBufferBytes := none }.pollReadBuffer channel sendersGone remaining
      else
        let len := min remaining bufferedBytes.length
        let left := bufferedBytes.drop len
        (.ready (.ok (bufferedBytes.take len)),
          { stream with readBufferBytes := if left.isEmpty then none else some left }, channel)
  | none => stream.pollReadBuffer channel sendersGone remaining

/-! ## Writing -/

/-- The frame `poll_write` makes from the start of the caller's buffer. -/
def dataFrame (stream : VirtualStream) (buf : Bytes) : Frame :=
  .data stream.streamId (buf.take (min buf.length MAX_DATA_FRAME_PAYLOAD)) false

/-- Poll a write: finish the pending send, or send the next chunk. -/
def pollWrite (stream : VirtualStream) (outbox : Bounded PrioritizedFrame) (now : Nat)
    (buf : Bytes) :
    Poll (Except SendFailure Nat) × VirtualStream × Bounded PrioritizedFrame :=
  match stream.pendingSend with
  | some future =>
      match future.poll outbox now with
      | (.ready result, _, outbox) =>
          (.ready (result.map fun _ => stream.pendingSendLen),
            { stream with pendingSend := none, pendingSendLen := 0 }, outbox)
      | (.pending, future, outbox) =>
          (.pending, { stream with pendingSend := some future }, outbox)
  | none =>
      let chunkSize := min buf.length MAX_DATA_FRAME_PAYLOAD
      match (boundedSendFuture (stream.priority, stream.dataFrame buf) now).poll outbox now with
      | (.ready result, _, outbox) =>
          (.ready (result.map fun _ => chunkSize),
            { stream with pendingSend := none, pendingSendLen := 0 }, outbox)
      | (.pending, future, outbox) =>
          (.pending,
            { stream with pendingSend := some future, pendingSendLen := chunkSize }, outbox)

/-- Send the close frame of a stream with no send pending. -/
def sendClose (stream : VirtualStream) (outbox : Bounded PrioritizedFrame) (now : Nat) :
    Poll (Except SendFailure Unit) × VirtualStream × Bounded PrioritizedFrame :=
  match (boundedSendFuture (stream.priority, .closeStream stream.streamId .normal) now).poll
      outbox now with
  | (.ready result, _, outbox) => (.ready result, { stream with pendingSend := none }, outbox)
  | (.pending, future, outbox) =>
      (.pending, { stream with pendingSend := some future }, outbox)

/-- Poll a shutdown: finish the pending send, whatever its result, then send the
close frame. -/
def pollShutdown (stream : VirtualStream) (outbox : Bounded PrioritizedFrame) (now : Nat) :
    Poll (Except SendFailure Unit) × VirtualStream × Bounded PrioritizedFrame :=
  match stream.pendingSend with
  | some future =>
      match future.poll outbox now with
      | (.ready _, _, outbox) =>
          { stream with pendingSend := none, pendingSendLen := 0 }.sendClose outbox now
      | (.pending, future, outbox) =>
          (.pending, { stream with pendingSend := some future }, outbox)
  | none => stream.sendClose outbox now

/-! ## What the polls do -/

/-- The bytes a read poll put into the caller's buffer. -/
def readBytes : Poll (Except IoError Bytes) → Bytes
  | .ready (.ok bytes) => bytes
  | _ => []

/-- The bytes waiting in a stream channel. -/
def queuedBytes (channel : Bounded StreamItem) : Bytes :=
  channel.queue.flatMap payload

/-- What a read poll leaves alone. -/
structure SameWriter (before after : VirtualStream) : Prop where
  streamId : after.streamId = before.streamId
  rx : after.rx = before.rx
  priority : after.priority = before.priority
  pendingSend : after.pendingSend = before.pendingSend
  pendingSendLen : after.pendingSendLen = before.pendingSendLen

/-- A read moves bytes from the front of those not returned yet, and changes
neither them nor their order. -/
structure ReadStep (stream : VirtualStream) (channel : Bounded StreamItem)
    (result : Poll (Except IoError Bytes) × VirtualStream × Bounded StreamItem) : Prop where
  bytes : readBytes result.1 ++ (result.2.1.unread ++ queuedBytes result.2.2) =
    stream.unread ++ queuedBytes channel
  writer : SameWriter stream result.2.1
  receiverGone : result.2.2.receiverGone = channel.receiverGone

theorem pollChannel_step (stream : VirtualStream) (channel : Bounded StreamItem)
    (sendersGone : Bool) (remaining : Nat) (drained : stream.unread = []) :
    ReadStep stream channel (stream.pollChannel channel sendersGone remaining) := by
  have received := channel.recv_queue
  have gone := channel.recv_receiverGone
  obtain ⟨noBytes, noBuffer⟩ := List.append_eq_nil_iff.mp drained
  unfold pollChannel
  split
  case h_1 bytes _ rest recvEq =>
    rw [recvEq] at received gone
    have queuedEq : queuedBytes channel = bytes ++ queuedBytes rest := by
      simp [queuedBytes, ← received, payload]
    simp only
    split
    · refine ⟨?_, ⟨rfl, rfl, rfl, rfl, rfl⟩, gone⟩
      rw [drained, queuedEq, List.nil_append]
      simp only [readBytes, unread, noBuffer, Option.getD_some, List.append_nil]
      rw [← List.append_assoc, List.take_append_drop]
    · rename_i whole
      refine ⟨?_, ⟨rfl, rfl, rfl, rfl, rfl⟩, gone⟩
      rw [drained, queuedEq, List.nil_append]
      simp only [readBytes, List.nil_append]
      rw [List.take_of_length_le (Nat.not_lt.mp whole)]
  case h_2 rest recvEq =>
    rw [recvEq] at received gone
    refine ⟨?_, ⟨rfl, rfl, rfl, rfl, rfl⟩, gone⟩
    simp [readBytes, queuedBytes, payload, ← received]
  case h_3 frame rest notData _ recvEq =>
    rw [recvEq] at received gone
    have nothing : payload (.ok frame) = [] := by
      cases frame <;> first | rfl | exact (notData _ _ _ rfl).elim
    refine ⟨?_, ⟨rfl, rfl, rfl, rfl, rfl⟩, gone⟩
    simp [readBytes, queuedBytes, nothing, ← received]
  case h_4 rest recvEq =>
    rw [recvEq] at received gone
    refine ⟨?_, ⟨rfl, rfl, rfl, rfl, rfl⟩, gone⟩
    simp [readBytes, queuedBytes, payload, ← received]
  case h_5 rest recvEq =>
    rw [recvEq] at received gone
    split
    · exact ⟨rfl, ⟨rfl, rfl, rfl, rfl, rfl⟩, rfl⟩
    · refine ⟨?_, ⟨rfl, rfl, rfl, rfl, rfl⟩, gone⟩
      simp [readBytes, queuedBytes, ← received]

theorem pollReadBuffer_step (stream : VirtualStream) (channel : Bounded StreamItem)
    (sendersGone : Bool) (remaining : Nat) (noBytes : stream.readBufferBytes = none) :
    ReadStep stream channel (stream.pollReadBuffer channel sendersGone remaining) := by
  have unreadEq : stream.unread = stream.readBuffer.drop stream.readBufferPos := by
    simp [unread, noBytes]
  simp only [pollReadBuffer]
  split
  · split
    · rename_i consumed
      refine ⟨?_, ⟨rfl, rfl, rfl, rfl, rfl⟩, rfl⟩
      rw [unreadEq]
      simp only [readBytes, unread, noBytes, Option.getD_none, List.drop_nil, List.nil_append]
      rw [List.take_of_length_le]
      rw [List.length_drop]
      omega
    · refine ⟨?_, ⟨rfl, rfl, rfl, rfl, rfl⟩, rfl⟩
      rw [unreadEq]
      simp only [readBytes, unread, noBytes, Option.getD_none, List.nil_append]
      rw [← List.drop_drop, ← List.append_assoc, List.take_append_drop]
  · rename_i consumed
    apply pollChannel_step
    rw [unreadEq, List.drop_eq_nil_of_le]
    omega

/-- Reading returns the bytes of a stream in order, whatever the room. -/
theorem pollRead_step (stream : VirtualStream) (channel : Bounded StreamItem)
    (sendersGone : Bool) (remaining : Nat) :
    ReadStep stream channel (stream.pollRead channel sendersGone remaining) := by
  unfold pollRead
  split
  · rename_i bufferedBytes buffered
    split
    · rename_i nothing
      obtain ⟨bytes, writer, gone⟩ := pollReadBuffer_step
        { stream with readBufferBytes := none } channel sendersGone remaining rfl
      refine ⟨?_, ⟨writer.1, writer.2, writer.3, writer.4, writer.5⟩, gone⟩
      rw [bytes]
      simp [unread, buffered, List.isEmpty_iff.mp nothing]
    · refine ⟨?_, ⟨rfl, rfl, rfl, rfl, rfl⟩, rfl⟩
      have leftEq : (if (bufferedBytes.drop (min remaining bufferedBytes.length)).isEmpty then
          none else some (bufferedBytes.drop (min remaining bufferedBytes.length))).getD [] =
            bufferedBytes.drop (min remaining bufferedBytes.length) := by
        split
        · rename_i nothing
          rw [List.isEmpty_iff.mp nothing]
          rfl
        · rfl
      simp only [readBytes, unread, leftEq, buffered, Option.getD_some]
      simp only [← List.append_assoc, List.take_append_drop]
  · rename_i noBytes
    exact pollReadBuffer_step stream channel sendersGone remaining noBytes

/-- The frame the next write poll tries to send. -/
def writeItem (stream : VirtualStream) (buf : Bytes) : PrioritizedFrame :=
  stream.pendingSend.elim (stream.priority, stream.dataFrame buf) SendFuture.item

/-- The length the next write poll reports on success. -/
def writeLen (stream : VirtualStream) (buf : Bytes) : Nat :=
  stream.pendingSend.elim (min buf.length MAX_DATA_FRAME_PAYLOAD) fun _ => stream.pendingSendLen

/-- A write poll enters one frame and reports its length, fails without entering
it, or keeps it for the next poll. -/
theorem pollWrite_cases (stream : VirtualStream) (outbox : Bounded PrioritizedFrame) (now : Nat)
    (buf : Bytes) :
    (∃ next, stream.pollWrite outbox now buf =
        (.ready (.ok (stream.writeLen buf)),
          { stream with pendingSend := none, pendingSendLen := 0 }, next) ∧
      next.queue = outbox.queue ++ [stream.writeItem buf] ∧
      next.receiverGone = outbox.receiverGone) ∨
    (∃ failure, stream.pollWrite outbox now buf =
        (.ready (.error failure),
          { stream with pendingSend := none, pendingSendLen := 0 }, outbox)) ∨
    ∃ future, stream.pollWrite outbox now buf =
        (.pending,
          { stream with pendingSend := some future, pendingSendLen := stream.writeLen buf },
          outbox) ∧
      future.item = stream.writeItem buf := by
  unfold pollWrite writeItem writeLen
  cases pendingEq : stream.pendingSend with
  | some future =>
      rcases future.poll_cases outbox now with
        ⟨next, polled, queueEq, gone⟩ | ⟨failure, polled⟩ | ⟨later, polled, itemEq⟩
      · exact .inl ⟨next, by simp [polled, Except.map], queueEq, gone⟩
      · exact .inr (.inl ⟨failure, by simp [polled, Except.map]⟩)
      · exact .inr (.inr ⟨later, by simp [polled], itemEq⟩)
  | none =>
      rcases (boundedSendFuture (stream.priority, stream.dataFrame buf) now).poll_cases outbox now
        with ⟨next, polled, queueEq, gone⟩ | ⟨failure, polled⟩ | ⟨later, polled, itemEq⟩
      · exact .inl ⟨next, by simp [polled, Except.map], queueEq, gone⟩
      · exact .inr (.inl ⟨failure, by simp [polled, Except.map]⟩)
      · exact .inr (.inr ⟨later, by simp [polled], itemEq⟩)

/-- The close frame of a stream as it is sent. -/
def closeItem (stream : VirtualStream) : PrioritizedFrame :=
  (stream.priority, .closeStream stream.streamId .normal)

/-- What a shutdown poll does while no data frame is pending: it enters close
frames only, and changes nothing but the pending send. -/
structure CloseStep (stream : VirtualStream) (outbox : Bounded PrioritizedFrame)
    (next : VirtualStream) (outboxNext : Bounded PrioritizedFrame) : Prop where
  queue : ∃ count, outboxNext.queue =
    outbox.queue ++ List.replicate count stream.closeItem
  receiverGone : outboxNext.receiverGone = outbox.receiverGone
  same : next = { stream with
    pendingSend := next.pendingSend
    pendingSendLen := next.pendingSendLen }
  closing : ∀ future ∈ next.pendingSend, future.item = stream.closeItem
  length : next.pendingSendLen = stream.pendingSendLen ∨ next.pendingSendLen = 0

/-- The close frame is entered, fails or waits. -/
theorem sendClose_cases (stream : VirtualStream) (outbox : Bounded PrioritizedFrame) (now : Nat) :
    (∃ next, stream.sendClose outbox now =
        (.ready (.ok ()), { stream with pendingSend := none }, next) ∧
      next.queue = outbox.queue ++ [stream.closeItem] ∧
      next.receiverGone = outbox.receiverGone) ∨
    (∃ failure, stream.sendClose outbox now =
        (.ready (.error failure), { stream with pendingSend := none }, outbox)) ∨
    ∃ future, stream.sendClose outbox now =
        (.pending, { stream with pendingSend := some future }, outbox) ∧
      future.item = stream.closeItem := by
  unfold sendClose
  rcases (boundedSendFuture (stream.priority, .closeStream stream.streamId .normal)
      now).poll_cases outbox now with
    ⟨next, polled, queueEq, gone⟩ | ⟨failure, polled⟩ | ⟨later, polled, itemEq⟩ <;> rw [polled]
  · exact .inl ⟨next, rfl, queueEq, gone⟩
  · exact .inr (.inl ⟨failure, rfl⟩)
  · exact .inr (.inr ⟨later, rfl, itemEq⟩)

theorem sendClose_step (stream : VirtualStream) (outbox : Bounded PrioritizedFrame) (now : Nat) :
    CloseStep stream outbox (stream.sendClose outbox now).2.1
      (stream.sendClose outbox now).2.2 := by
  rcases stream.sendClose_cases outbox now with
    ⟨next, sent, queueEq, gone⟩ | ⟨failure, sent⟩ | ⟨later, sent, itemEq⟩ <;> rw [sent]
  · exact ⟨⟨1, queueEq⟩, gone, rfl, by simp, .inl rfl⟩
  · exact ⟨⟨0, by simp⟩, rfl, rfl, by simp, .inl rfl⟩
  · refine ⟨⟨0, by simp⟩, rfl, rfl, ?_, .inl rfl⟩
    rintro future ⟨⟩
    exact itemEq

theorem pollShutdown_step (stream : VirtualStream) (outbox : Bounded PrioritizedFrame)
    (now : Nat) (closing : ∀ future ∈ stream.pendingSend, future.item = stream.closeItem) :
    CloseStep stream outbox (stream.pollShutdown outbox now).2.1
      (stream.pollShutdown outbox now).2.2 := by
  unfold pollShutdown
  cases pendingEq : stream.pendingSend with
  | none => exact stream.sendClose_step outbox now
  | some future =>
      have itemEq : future.item = stream.closeItem := closing future (by simp [pendingEq])
      rcases future.poll_cases outbox now with
        ⟨next, polled, queueEq, gone⟩ | ⟨failure, polled⟩ | ⟨later, polled, laterEq⟩ <;>
        simp only [polled]
      · obtain ⟨⟨count, queue⟩, receiverGone, same, stillClosing, length⟩ := sendClose_step
          { stream with pendingSend := none, pendingSendLen := 0 } next now
        refine ⟨⟨count + 1, ?_⟩, receiverGone.trans gone, same, stillClosing, .inr ?_⟩
        · rw [queue, queueEq, itemEq, List.append_assoc, List.replicate_succ]
          rfl
        · exact length.elim id id
      · obtain ⟨queue, receiverGone, same, stillClosing, length⟩ := sendClose_step
          { stream with pendingSend := none, pendingSendLen := 0 } outbox now
        exact ⟨queue, receiverGone, same, stillClosing, .inr (length.elim id id)⟩
      · refine ⟨⟨0, by simp⟩, rfl, rfl, ?_, .inl rfl⟩
        simpa [itemEq] using laterEq

/-- A shutdown poll leaves the receiving half where it was. -/
theorem pollShutdown_rx (stream : VirtualStream) (outbox : Bounded PrioritizedFrame) (now : Nat) :
    (stream.pollShutdown outbox now).2.1.rx = stream.rx := by
  have closes (stream : VirtualStream) (outbox : Bounded PrioritizedFrame) :
      (stream.sendClose outbox now).2.1.rx = stream.rx := by
    rw [(stream.sendClose_step outbox now).same]
  unfold pollShutdown
  split
  · split
    · exact closes _ _
    · rfl
  · exact closes _ _

end VirtualStream

end FerroTunnel.Stream
