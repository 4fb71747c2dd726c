import FerroTunnel.Stream.Multiplexer
import FerroTunnel.Transition.Core

/-!
# Reading from a stream

A stream and its channel, over time: the multiplexer forwards frames to the
channel, the senders go away at some moment, and the reader polls with buffers of
any size.  The run records the frames forwarded, the items the reader has taken
from the channel and the bytes it has put into the callers' buffers.
-/

namespace FerroTunnel.Stream

open FerroTunnel.Channel
open FerroTunnel.Transition
open FerroTunnel.Wire

/-- The frames that `process_frame` forwards to a stream. -/
def isForwarded : Frame → Bool
  | .data _ _ _ => true
  | .closeStream _ _ => true
  | _ => false

/-- A frame that closes a stream. -/
def isCloseStream : Frame → Bool
  | .closeStream _ _ => true
  | _ => false

namespace VirtualStream

/-! ## One poll -/

/-- What a poll answers and what it leaves in the channel, for a stream that holds
bytes of the last frame only. -/
inductive Reads (held : Option Bytes) (channel : Bounded StreamItem) (sendersGone : Bool)
    (remaining : Nat) : Poll (Except IoError Bytes) → List StreamItem → Prop
  | buffered {bytes : Bytes} (nonempty : bytes ≠ [])
      (holds : held = some bytes) :
      Reads held channel sendersGone remaining
        (.ready (.ok (bytes.take (min remaining bytes.length)))) channel.queue
  | data {streamId : UInt32} {bytes : Bytes} {endOfStream : Bool} {rest : List StreamItem}
      (drained : held.getD [] = [])
      (queueEq : channel.queue = .ok (.data streamId bytes endOfStream) :: rest) :
      Reads held channel sendersGone remaining
        (.ready (.ok (bytes.take (min remaining bytes.length)))) rest
  | closed {streamId : UInt32} {reason : CloseReason} {rest : List StreamItem}
      (drained : held.getD [] = [])
      (queueEq : channel.queue = .ok (.closeStream streamId reason) :: rest) :
      Reads held channel sendersGone remaining (.ready (.ok [])) rest
  | ignored {frame : Frame} {rest : List StreamItem} (drained : held.getD [] = [])
      (queueEq : channel.queue = .ok frame :: rest) (other : isForwarded frame = false) :
      Reads held channel sendersGone remaining .pending rest
  | failed {message : String} {rest : List StreamItem} (drained : held.getD [] = [])
      (queueEq : channel.queue = .error message :: rest) :
      Reads held channel sendersGone remaining (.ready (.error ⟨.other, message⟩)) rest
  | ended (drained : held.getD [] = []) (queueEq : channel.queue = []) (gone : sendersGone) :
      Reads held channel sendersGone remaining (.ready (.ok [])) []
  | waiting (drained : held.getD [] = []) (queueEq : channel.queue = [])
      (present : sendersGone = false) :
      Reads held channel sendersGone remaining .pending []

variable {held : Option Bytes} {channel : Bounded StreamItem} {remaining : Nat}
  {queue : List StreamItem}

/-- A receive, when no bytes are held. -/
theorem pollChannel_reads (stream : VirtualStream) (drained : held.getD [] = [])
    (channel : Bounded StreamItem) (sendersGone : Bool) (remaining : Nat) :
    Reads held channel sendersGone remaining
        (stream.pollChannel channel sendersGone remaining).1
        (stream.pollChannel channel sendersGone remaining).2.2.queue ∧
      (stream.pollChannel channel sendersGone remaining).2.1.readBuffer = stream.readBuffer := by
  rcases channel with ⟨capacity, _ | ⟨item, rest⟩, parked, receiverGone, bounded⟩
  · cases sendersGone with
    | true => exact ⟨.ended drained rfl rfl, rfl⟩
    | false => exact ⟨.waiting drained rfl rfl, rfl⟩
  · rcases item with message | frame
    · exact ⟨.failed drained rfl, rfl⟩
    · cases frame with
      | data streamId bytes endOfStream =>
          simp only [pollChannel, Bounded.recv, Bounded.tryRecv]
          split
          · exact ⟨.data drained rfl, rfl⟩
          · exact ⟨.data drained rfl, rfl⟩
      | closeStream streamId reason => exact ⟨.closed drained rfl, rfl⟩
      | _ => exact ⟨.ignored drained rfl rfl, rfl⟩

/-- With an empty pooled buffer, the poll goes on to the channel. -/
theorem pollReadBuffer_reads {stream : VirtualStream} (noBuffer : stream.readBuffer = [])
    (drained : held.getD [] = []) (channel : Bounded StreamItem) (sendersGone : Bool)
    (remaining : Nat) :
    Reads held channel sendersGone remaining
        (stream.pollReadBuffer channel sendersGone remaining).1
        (stream.pollReadBuffer channel sendersGone remaining).2.2.queue ∧
      (stream.pollReadBuffer channel sendersGone remaining).2.1.readBuffer = [] := by
  have receives : stream.pollReadBuffer channel sendersGone remaining =
      stream.pollChannel channel sendersGone remaining := by
    simp [pollReadBuffer, noBuffer]
  have received := stream.pollChannel_reads drained channel sendersGone remaining
  rw [receives]
  exact ⟨received.1, received.2.trans noBuffer⟩

/-- A poll returns held bytes or receives, and leaves the pooled buffer empty. -/
theorem pollRead_reads {stream : VirtualStream} (noBuffer : stream.readBuffer = [])
    (channel : Bounded StreamItem) (sendersGone : Bool) (remaining : Nat) :
    Reads stream.readBufferBytes channel sendersGone remaining
        (stream.pollRead channel sendersGone remaining).1
        (stream.pollRead channel sendersGone remaining).2.2.queue ∧
      (stream.pollRead channel sendersGone remaining).2.1.readBuffer = [] := by
  unfold pollRead
  split
  · next bytes held =>
    rw [held]
    split
    · next none =>
      apply pollReadBuffer_reads
      · exact noBuffer
      · simpa using none
    · next some =>
      exact ⟨.buffered (fun none => some (List.isEmpty_iff.mpr none)) rfl, noBuffer⟩
  · next held =>
    rw [held]
    apply pollReadBuffer_reads noBuffer
    rfl

/-- No poll puts more bytes into a buffer than it has room for. -/
theorem Reads.length_le {sendersGone : Bool} {answer : Poll (Except IoError Bytes)}
    (reads : Reads held channel sendersGone remaining answer queue) :
    (readBytes answer).length ≤ remaining := by
  cases reads with
  | buffered | data =>
      rw [readBytes, List.length_take]
      omega
  | _ => exact Nat.zero_le _

/-- A poll takes what is missing from the front of the queue afterwards. -/
theorem Reads.taken {sendersGone : Bool} {answer : Poll (Except IoError Bytes)}
    (reads : Reads held channel sendersGone remaining answer queue) :
    channel.queue.take (channel.queue.length - queue.length) ++ queue = channel.queue := by
  cases reads with
  | buffered => simp
  | data drained queueEq | closed drained queueEq | ignored drained queueEq
  | failed drained queueEq =>
      rw [queueEq]
      simp
  | ended drained queueEq | waiting drained queueEq => simp [queueEq]

/-- With room, some of the bytes are taken if there are any. -/
theorem eq_nil_of_take_eq_nil {bytes : Bytes} (room : 0 < remaining)
    (nothing : bytes.take (min remaining bytes.length) = []) : bytes = [] := by
  have length := congrArg List.length nothing
  rw [List.length_take, List.length_nil] at length
  apply List.eq_nil_of_length_eq_zero
  omega

/-- An empty success with room for bytes: nothing is held, and there is a close, an
empty frame, or the end of the channel. -/
theorem Reads.end_cases {sendersGone : Bool}
    (reads : Reads held channel sendersGone remaining (.ready (.ok [])) queue)
    (room : 0 < remaining) :
    held.getD [] = [] ∧
      ((∃ streamId reason, channel.queue = .ok (.closeStream streamId reason) :: queue) ∨
      (∃ streamId endOfStream, channel.queue = .ok (.data streamId [] endOfStream) :: queue) ∨
      (channel.queue = [] ∧ queue = [] ∧ sendersGone)) := by
  generalize answered : (Poll.ready (.ok []) : Poll (Except IoError Bytes)) = answer at reads
  cases reads with
  | buffered nonempty holds =>
      injection answered with answered
      injection answered with nothing
      exact absurd (eq_nil_of_take_eq_nil room nothing.symm) nonempty
  | data drained queueEq =>
      injection answered with answered
      injection answered with nothing
      rw [eq_nil_of_take_eq_nil room nothing.symm] at queueEq
      exact ⟨drained, .inr (.inl ⟨_, _, queueEq⟩)⟩
  | closed drained queueEq => exact ⟨drained, .inl ⟨_, _, queueEq⟩⟩
  | ended drained queueEq gone => exact ⟨drained, .inr (.inr ⟨queueEq, rfl, gone⟩)⟩
  | _ => cases answered

end VirtualStream

/-! ## Runs -/

/-- A stream, its channel, and the record of its run. -/
structure Reader where
  stream : VirtualStream
  channel : Bounded StreamItem
  sendersGone : Bool
  forwarded : List Frame
  taken : List StreamItem
  delivered : Bytes

/-- The multiplexer forwards a frame, the last sender is dropped, or the reader
polls with room for some bytes. -/
inductive ReaderAction
  | forward (frame : Frame)
  | dropSenders
  | poll (remaining : Nat)

namespace Reader

/-- A stream over a buffer of the pool and a channel of its own. -/
def start (pool : ReadBufferPool) (streamId : UInt32) (rx : ChanId) (priority : StreamPriority)
    (protocol : Protocol) (capacity : Nat) : Reader :=
  ⟨.new streamId rx priority pool.acquireOrDefault.1 protocol, .empty capacity, false, [], [], []⟩

/-- The poll of the reader with this much room. -/
def polled (state : Reader) (remaining : Nat) :
    Poll (Except IoError Bytes) × VirtualStream × Bounded StreamItem :=
  state.stream.pollRead state.channel state.sendersGone remaining

/-- The state after a poll. -/
def afterPoll (state : Reader) (remaining : Nat) : Reader :=
  let polled := state.polled remaining
  { state with
    stream := polled.2.1
    channel := polled.2.2
    taken := state.taken ++
      state.channel.queue.take (state.channel.queue.length - polled.2.2.queue.length)
    delivered := state.delivered ++ VirtualStream.readBytes polled.1 }

/-- One event of the reader. -/
def step : Step Reader ReaderAction
  | state, .forward frame =>
      if state.sendersGone || !isForwarded frame then none
      else
        match state.channel.trySend (.ok frame) with
        | (.sent, next) =>
            some { state with channel := next, forwarded := state.forwarded ++ [frame] }
        | _ => none
  | state, .dropSenders => some { state with sendersGone := true }
  | state, .poll remaining => some (state.afterPoll remaining)

/-- The bytes forwarded to the stream. -/
def payloads (state : Reader) : Bytes :=
  state.forwarded.flatMap fun frame => VirtualStream.payload (.ok frame)

/-- Every forwarded frame is taken or queued; every forwarded byte is delivered,
held or queued; and the pooled buffer holds none. -/
structure Accounted (state : Reader) : Prop where
  items : state.taken ++ state.channel.queue = state.forwarded.map .ok
  bytes : state.delivered ++
    (state.stream.readBufferBytes.getD [] ++ VirtualStream.queuedBytes state.channel) =
      state.payloads
  noBuffer : state.stream.readBuffer = []

theorem accounted_start (pool : ReadBufferPool) (streamId : UInt32) (rx : ChanId)
    (priority : StreamPriority) (protocol : Protocol) (capacity : Nat) :
    (start pool streamId rx priority protocol capacity).Accounted := by
  constructor
  · rfl
  · rfl
  · exact pool.acquireOrDefault_fst

theorem Accounted.afterPoll {state : Reader} (accounted : state.Accounted) (remaining : Nat) :
    (state.afterPoll remaining).Accounted := by
  have reads := VirtualStream.pollRead_reads accounted.noBuffer state.channel state.sendersGone
    remaining
  have step := state.stream.pollRead_step state.channel state.sendersGone remaining
  constructor
  · simp only [Reader.afterPoll, List.append_assoc, polled]
    rw [reads.1.taken]
    exact accounted.items
  · have moved := step.bytes
    simp only [VirtualStream.unread, accounted.noBuffer, reads.2, List.drop_nil, List.append_nil]
      at moved
    simp only [Reader.afterPoll, polled, payloads, List.append_assoc, moved]
    exact accounted.bytes
  · exact reads.2

theorem Accounted.step {state next : Reader} {action : ReaderAction}
    (accounted : state.Accounted) (stepEq : Reader.step state action = some next) :
    next.Accounted := by
  cases action with
  | forward frame =>
      simp only [Reader.step] at stepEq
      split at stepEq
      · cases stepEq
      rcases state.channel.trySend_cases (.ok frame) with
        ⟨channel, sent, -, queueEq, -⟩ | full | ⟨closed, -⟩
      · rw [sent] at stepEq
        cases stepEq
        constructor
        · simp only [queueEq, List.map_append, List.map_cons, List.map_nil, ← accounted.items,
            List.append_assoc]
        · simp only [payloads, VirtualStream.queuedBytes, queueEq, List.flatMap_append,
            List.flatMap_singleton, ← List.append_assoc]
          rw [List.append_assoc state.delivered]
          exact congrArg (· ++ _) accounted.bytes
        · exact accounted.noBuffer
      · rw [full] at stepEq
        cases stepEq
      · rw [closed] at stepEq
        cases stepEq
  | dropSenders =>
      cases stepEq
      exact ⟨accounted.items, accounted.bytes, accounted.noBuffer⟩
  | poll remaining =>
      cases stepEq
      exact accounted.afterPoll remaining

/-- After any forwards and polls: the delivered bytes are a prefix of the payloads,
the rest is what the stream holds of the last frame followed by what is queued, and
no poll overfills its buffer. -/
theorem reads_deliver_payloads (pool : ReadBufferPool) (streamId : UInt32) (rx : ChanId)
    (priority : StreamPriority) (protocol : Protocol) (capacity : Nat)
    (actions : List ReaderAction) {state : Reader}
    (run : exec step (start pool streamId rx priority protocol capacity) actions = some state) :
    state.delivered <+: state.payloads ∧
      state.payloads = state.delivered ++ (state.stream.readBufferBytes.getD [] ++
        VirtualStream.queuedBytes state.channel) ∧
      ∀ remaining, (VirtualStream.readBytes (state.polled remaining).1).length ≤ remaining := by
  have accounted : state.Accounted :=
    exec_invariant Accounted.step (accounted_start ..) run
  refine ⟨⟨_, accounted.bytes⟩, accounted.bytes.symm, ?_⟩
  intro remaining
  exact (VirtualStream.pollRead_reads accounted.noBuffer state.channel state.sendersGone
    remaining).1.length_le

/-- Two payloads read with buffers of one, none, three and two bytes. -/
def splitReads : List ReaderAction :=
  [.poll 4, .forward (.data 2 [1, 2, 3] false), .poll 1, .poll 0,
    .forward (.data 2 [4, 5] true), .poll 3, .poll 2]

theorem splitReads_deliver : ∃ state,
    exec step (start ⟨[], nofun⟩ 2 0 .normal .tcp 8) splitReads = some state ∧
    state.delivered = [1, 2, 3, 4, 5] ∧ state.delivered <+: state.payloads :=
  ⟨_, rfl, rfl,
    (reads_deliver_payloads ⟨[], nofun⟩ 2 0 .normal .tcp 8 splitReads rfl).1⟩

end Reader

end FerroTunnel.Stream
