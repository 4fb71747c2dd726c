import FerroTunnel.Stream.Writer

/-!
# Writes and the frame limit

Writes are cut into data frames of at most 64 KiB, while the codec refuses
frames above the configured limit and the sender then skips them.  The two
bounds are not compared anywhere: a frame survives exactly when its payload and
the six bytes of its header fit the limit.

The frame that a poll enters in the wire channel was made by the write that
began the send, which may be an earlier one.  So it is the buffer of that write
that has to fit.
-/

namespace FerroTunnel.Stream

open FerroTunnel.Channel
open FerroTunnel.Transition
open FerroTunnel.Transport
open FerroTunnel.Wire

variable {codec : TunnelCodec} {bincode : Bincode}

/-- The codec of accepted limits has the configured frame size. -/
theorem maxFrameSize_of_fromLimits {limits : LimitsConfig}
    (accepted : validateLimits limits = .ok ())
    (codecEq : TunnelCodec.fromLimits limits = .ok codec) :
    codec.maxFrameSize = limits.maxFrameBytes.toNat := by
  obtain ⟨built, builtEq, sizeEq⟩ := TunnelCodec.fromLimits_of_valid accepted
  rw [codecEq] at builtEq
  cases builtEq
  exact sizeEq

/-- A data frame is encodable when its payload and header fit the frame size. -/
theorem isEncodable_data_iff (streamId : UInt32) (data : Bytes) (endOfStream : Bool) :
    isEncodable codec bincode (.data streamId data endOfStream) = true ↔
      data.length + 6 ≤ codec.maxFrameSize := by
  simp only [isEncodable, Frame.record, decide_eq_true_eq, List.length_cons, List.length_append,
    FerroTunnel.Bytes.putU32_length, List.length_nil]
  constructor <;> intro bounded <;> omega

/-- A frame is split into segments exactly when it is encodable. -/
theorem encodeFrameSegments_ok_iff (frame : Frame) (out : List Bytes) :
    (encodeFrameSegments codec bincode frame out).1 = .ok () ↔
      isEncodable codec bincode frame = true := by
  rcases encodeFrameSegments_cases codec bincode frame out with
    ⟨encodable, segments, encoded, _⟩ | ⟨refused, e, encoded⟩
  · simp [encoded, encodable]
  · simp [encoded, refused]

/-- A frame of a batch is skipped exactly when it is not encodable. -/
theorem mem_skipped_iff {batch : List PrioritizedFrame} {item : PrioritizedFrame}
    (member : item ∈ batch) :
    item ∈ (encodeBatch codec bincode (sortByDrainOrder batch) []).2.map Prod.fst ↔
      ¬isEncodable codec bincode item.2 = true := by
  rw [(encodeBatch_spec codec bincode _ []).2, List.mem_filter, mem_sortByDrainOrder]
  simp [member]

/-- The frame is encoded, and no batch it is in skips it. -/
def Survives (codec : TunnelCodec) (bincode : Bincode) (item : PrioritizedFrame) : Prop :=
  (∀ out, (encodeFrameSegments codec bincode item.2 out).1 = .ok ()) ∧
    ∀ batch, item ∈ batch →
      item ∉ (encodeBatch codec bincode (sortByDrainOrder batch) []).2.map Prod.fst

theorem survives_iff {item : PrioritizedFrame} :
    Survives codec bincode item ↔ isEncodable codec bincode item.2 = true := by
  constructor
  · intro survives
    exact (encodeFrameSegments_ok_iff item.2 []).mp (survives.1 [])
  · intro encodable
    constructor
    · intro out
      exact (encodeFrameSegments_ok_iff item.2 out).mpr encodable
    · intro batch member skipped
      exact (mem_skipped_iff member).mp skipped encodable

namespace Writer

/-! ## What a call sends -/

/-- The frames that a call may enter or leave pending: that of the send it finds, the data
frame of its own buffer if it finds none, and the close frame. -/
inductive Sends (writer : Writer) (call : WriterCall) : PrioritizedFrame → Prop
  | found {future : SendFuture} (pendingEq : writer.stream.pendingSend = some future) :
      Sends writer call future.item
  | begun {buf : Bytes} (noSend : writer.stream.pendingSend = none)
      (callEq : call = .write buf) :
      Sends writer call (writer.stream.priority, writer.stream.dataFrame buf)
  | close : Sends writer call writer.stream.closeItem

theorem sends_writeItem (writer : Writer) (buf : Bytes) :
    Sends writer (.write buf) (writer.stream.writeItem buf) := by
  cases pendingEq : writer.stream.pendingSend with
  | none =>
      have itemEq : writer.stream.writeItem buf =
          (writer.stream.priority, writer.stream.dataFrame buf) := by
        simp [VirtualStream.writeItem, pendingEq]
      rw [itemEq]
      exact .begun pendingEq rfl
  | some future =>
      have itemEq : writer.stream.writeItem buf = future.item := by
        simp [VirtualStream.writeItem, pendingEq]
      rw [itemEq]
      exact .found pendingEq

theorem Finishes.sends {writer : Writer} {attempt : Attempt} {front : List PrioritizedFrame}
    (finishes : Finishes writer.stream attempt front) :
    ∀ item ∈ front, Sends writer .shutdown item := by
  intro item member
  cases finishes with
  | nothing | failed => cases member
  | entered pendingEq =>
      cases List.mem_singleton.mp member
      exact .found pendingEq

/-- Every frame that a call enters or leaves pending is one it may send. -/
theorem step_sends {writer next : Writer} {poll : WriterPoll} (settled : Settled writer.stream)
    (stepEq : writer.step poll = some next) :
    ∃ items, next.entered = writer.entered ++ items ∧
      (∀ item ∈ items, Sends writer poll.call item) ∧
      ∀ future ∈ next.stream.pendingSend, Sends writer poll.call future.item := by
  rcases poll with ⟨attempt, buf | _⟩
  · cases stepEq
    rcases writer.pollWrite_cases attempt buf with
      polled | ⟨failure, polled⟩ | ⟨future, itemEq, polled⟩ <;> rw [polled]
    · refine ⟨_, rfl, ?_, fun _ pending => by cases pending⟩
      exact List.forall_mem_singleton.mpr (sends_writeItem writer buf)
    · exact ⟨[], (List.append_nil _).symm, List.forall_mem_nil _, fun _ pending => by cases pending⟩
    · refine ⟨[], (List.append_nil _).symm, List.forall_mem_nil _, ?_⟩
      rintro _ ⟨⟩
      rw [itemEq]
      exact sends_writeItem writer buf
  · cases stepEq
    have move := writer.pollShutdown_move attempt settled
    generalize writer.pollShutdown attempt = result at move ⊢
    rcases result with ⟨answer, after⟩
    cases move with
    | waits pendingEq _ itemEq =>
        refine ⟨[], (List.append_nil _).symm, List.forall_mem_nil _, ?_⟩
        rintro _ ⟨⟩
        rw [itemEq]
        exact .found pendingEq
    | closes finishes =>
        refine ⟨_, rfl, ?_, fun _ pending => by cases pending⟩
        intro item member
        rcases List.mem_append.mp member with inFront | isClose
        · exact finishes.sends item inFront
        · cases List.mem_singleton.mp isClose
          exact .close
    | fails finishes => exact ⟨_, rfl, finishes.sends, fun _ pending => by cases pending⟩
    | queues finishes itemEq =>
        refine ⟨_, rfl, finishes.sends, ?_⟩
        rintro _ ⟨⟩
        rw [itemEq]
        exact .close

/-- The frames that a call enters in the wire channel. -/
def entersAt (writer : Writer) (poll : WriterPoll) : List PrioritizedFrame :=
  match writer.step poll with
  | some next => next.entered.drop writer.entered.length
  | none => []

end Writer

/-! ## Who began a send -/

/-- A stream, with the buffer of the write that began the last send. -/
structure Authored where
  writer : Writer
  author : Option Bytes

namespace Authored

/-- A stream that nobody has written to. -/
def new (streamId : UInt32) (rx : ChanId) (priority : StreamPriority) (readBuffer : Bytes)
    (protocol : Protocol) : Authored where
  writer := .new streamId rx priority readBuffer protocol
  author := none

/-- The buffer behind the send that a call works on: a call that finds no send pending
begins one for its own buffer. -/
def origin (authored : Authored) (call : WriterCall) : Option Bytes :=
  match authored.writer.stream.pendingSend, call with
  | some _, _ => authored.author
  | none, .write buf => some buf
  | none, .shutdown => none

/-- One call. -/
def step : Step Authored WriterPoll
  | authored, poll =>
      (authored.writer.step poll).map fun next => ⟨next, authored.origin poll.call⟩

/-- Every data frame that the call enters in the wire channel survives. -/
def EntersEncodable (codec : TunnelCodec) (bincode : Bincode) (authored : Authored)
    (poll : WriterPoll) : Prop :=
  ∀ item ∈ authored.writer.entersAt poll, (dataPayload item).isSome = true →
    Survives codec bincode item

/-- If the call enters a data frame, the first chunk of the buffer that the send was begun
for fits the frame limit, with the six bytes of the header. -/
def OriginFits (limits : LimitsConfig) (authored : Authored) (poll : WriterPoll) : Prop :=
  ∀ buf ∈ authored.origin poll.call,
    (∃ item ∈ authored.writer.entersAt poll, (dataPayload item).isSome = true) →
      min buf.length MAX_DATA_FRAME_PAYLOAD + 6 ≤ limits.maxFrameBytes.toNat

/-- A data frame carries the first chunk of a buffer. -/
def ChunkOf (buf : Option Bytes) (item : PrioritizedFrame) : Prop :=
  ∀ data, dataPayload item = some data →
    ∃ whole ∈ buf, data = whole.take (min whole.length MAX_DATA_FRAME_PAYLOAD)

/-- The send that is pending was begun for the buffer remembered. -/
structure Invariant (authored : Authored) : Prop where
  writer : Writer.Invariant authored.writer
  pending : ∀ future ∈ authored.writer.stream.pendingSend, ChunkOf authored.author future.item

theorem Invariant.new (streamId : UInt32) (rx : ChanId) (priority : StreamPriority)
    (readBuffer : Bytes) (protocol : Protocol) :
    Invariant (.new streamId rx priority readBuffer protocol) where
  writer := .new streamId rx priority readBuffer protocol
  pending _ pending := by cases pending

variable {authored : Authored} {item : PrioritizedFrame}

theorem Invariant.chunkOf_of_sends (invariant : Invariant authored) {call : WriterCall}
    (sends : authored.writer.Sends call item) : ChunkOf (authored.origin call) item := by
  intro data isData
  cases sends with
  | found pendingEq =>
      simp only [origin, pendingEq]
      exact invariant.pending _ pendingEq data isData
  | begun noSend callEq =>
      simp only [origin, noSend, callEq]
      cases isData
      exact ⟨_, rfl, rfl⟩
  | close => cases isData

theorem Invariant.step {next : Authored} {poll : WriterPoll} (invariant : Invariant authored)
    (stepEq : authored.step poll = some next) : Invariant next := by
  obtain ⟨writer, writerStep, rfl⟩ := Option.map_eq_some_iff.mp stepEq
  obtain ⟨items, -, -, pending⟩ := Writer.step_sends invariant.writer.settled writerStep
  exact ⟨invariant.writer.step writerStep, fun future waits =>
    invariant.chunkOf_of_sends (pending future waits)⟩

/-- The data frames that a call enters were made from the buffer behind its send. -/
theorem Invariant.chunkOf_of_mem (invariant : Invariant authored) {poll : WriterPoll}
    (member : item ∈ authored.writer.entersAt poll) : ChunkOf (authored.origin poll.call) item := by
  unfold Writer.entersAt at member
  split at member
  · rename_i next stepEq
    obtain ⟨items, enteredEq, sends, -⟩ := Writer.step_sends invariant.writer.settled stepEq
    rw [enteredEq, List.drop_left] at member
    exact invariant.chunkOf_of_sends (sends item member)
  · cases member

/-- The first chunk of a buffer survives when it fits. -/
theorem survives_chunk_iff {limits : LimitsConfig} (accepted : validateLimits limits = .ok ())
    (codecEq : TunnelCodec.fromLimits limits = .ok codec) {data buf : Bytes}
    (isData : dataPayload item = some data)
    (chunk : data = buf.take (min buf.length MAX_DATA_FRAME_PAYLOAD)) :
    Survives codec bincode item ↔
      min buf.length MAX_DATA_FRAME_PAYLOAD + 6 ≤ limits.maxFrameBytes.toNat := by
  have lengthEq : data.length = min buf.length MAX_DATA_FRAME_PAYLOAD := by
    rw [chunk, List.length_take, Nat.min_comm _ buf.length, ← Nat.min_assoc, Nat.min_self]
  rcases item with ⟨priority, frame⟩
  cases frame with
  | data streamId payload endOfStream =>
      cases isData
      rw [survives_iff, isEncodable_data_iff, maxFrameSize_of_fromLimits accepted codecEq, lengthEq]
  | _ => cases isData

theorem Invariant.entersEncodable_iff {limits : LimitsConfig}
    (accepted : validateLimits limits = .ok ())
    (codecEq : TunnelCodec.fromLimits limits = .ok codec) (invariant : Invariant authored)
    (poll : WriterPoll) :
    authored.EntersEncodable codec bincode poll ↔ authored.OriginFits limits poll := by
  constructor
  · rintro survive buf behind ⟨item, member, isSome⟩
    obtain ⟨data, isData⟩ := Option.isSome_iff_exists.mp isSome
    obtain ⟨whole, wholeBehind, chunk⟩ := invariant.chunkOf_of_mem member data isData
    cases Option.mem_unique behind wholeBehind
    exact (survives_chunk_iff accepted codecEq isData chunk).mp (survive item member isSome)
  · intro fits item member isSome
    obtain ⟨data, isData⟩ := Option.isSome_iff_exists.mp isSome
    obtain ⟨whole, behind, chunk⟩ := invariant.chunkOf_of_mem member data isData
    exact (survives_chunk_iff accepted codecEq isData chunk).mpr
      (fits whole behind ⟨item, member, isSome⟩)

end Authored

/-- For accepted limits, in every sequence of `poll_write` and `poll_shutdown` calls on a
stream, with arbitrary buffers and whatever happens to the wire channel: every data frame
that the calls enter in the channel is encoded, and not skipped by the sender, if and only
if the first chunk of each buffer whose frame is entered fits the configured frame limit
together with its six header bytes. -/
theorem pollWrite_encodable_iff {limits : LimitsConfig}
    (accepted : validateLimits limits = .ok ())
    (codecEq : TunnelCodec.fromLimits limits = .ok codec) (bincode : Bincode)
    (streamId : UInt32) (rx : ChanId) (priority : StreamPriority) (readBuffer : Bytes)
    (protocol : Protocol) (polls : List WriterPoll) :
    Meets Authored.step (Authored.EntersEncodable codec bincode)
        (.new streamId rx priority readBuffer protocol) polls ↔
      Meets Authored.step (Authored.OriginFits limits)
        (.new streamId rx priority readBuffer protocol) polls := by
  have initial := Authored.Invariant.new streamId rx priority readBuffer protocol
  apply Meets.iff_of_invariant _ _ initial
  · exact fun invariant stepEq => invariant.step stepEq
  · exact fun invariant => invariant.entersEncodable_iff accepted codecEq _

/-- Limits of 16 bytes a frame, which the check accepts. -/
def sixteenByteLimits : LimitsConfig :=
  { LimitsConfig.default with maxFrameBytes := 16 }

/-- The codec of these limits. -/
def sixteenByteCodec : TunnelCodec :=
  ⟨16, .ofLimits sixteenByteLimits, by decide, by decide⟩

/-- Stream 1 of a connection, with nothing sent yet. -/
def freshStream : VirtualStream :=
  .new 1 0 .normal [] .tcp

/-- A write of ten bytes fits a limit of sixteen, also when another call finishes it. -/
theorem pollWrite_encodable_ten_bytes :
    validateLimits sixteenByteLimits = .ok () ∧
    TunnelCodec.fromLimits sixteenByteLimits = .ok sixteenByteCodec ∧
    Meets Authored.step (Authored.EntersEncodable sixteenByteCodec (.standard .sorted))
      (.new 1 0 .normal [] .tcp)
      [⟨⟨.empty 0, 0⟩, .write (List.replicate 10 0)⟩, ⟨⟨.empty 1, 1⟩, .write [9]⟩] := by
  have accepted : validateLimits sixteenByteLimits = .ok () := by decide
  refine ⟨accepted, rfl, ?_⟩
  apply (pollWrite_encodable_iff accepted rfl (.standard .sorted) 1 0 .normal [] .tcp _).mpr
  refine ⟨?_, fun _ first => ?_⟩
  · rintro buf ⟨⟩ -
    decide
  · cases first
    refine ⟨?_, fun _ _ => trivial⟩
    rintro buf ⟨⟩ -
    decide

/-- A write of eleven bytes is reported as written, and its frame refused. -/
theorem pollWrite_eleven_bytes_skipped :
    validateLimits sixteenByteLimits = .ok () ∧
    TunnelCodec.fromLimits sixteenByteLimits = .ok sixteenByteCodec ∧
    (freshStream.pollWrite (.empty 1024) 0 (List.replicate 11 0)).1 = .ready (.ok 11) ∧
    (freshStream.pollWrite (.empty 1024) 0 (List.replicate 11 0)).2.2.queue =
      [(.normal, .data 1 (List.replicate 11 0) false)] ∧
    encodeBatch sixteenByteCodec (.standard .sorted)
        [(.normal, .data 1 (List.replicate 11 0) false)] [] =
      ([], [((.normal, .data 1 (List.replicate 11 0) false),
        ⟨.invalidData, "Frame too large: 17 bytes (max: 16)"⟩)]) := by
  refine ⟨by decide, rfl, by decide, by decide, by decide⟩

end FerroTunnel.Stream
