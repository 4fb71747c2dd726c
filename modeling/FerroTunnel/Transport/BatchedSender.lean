import FerroTunnel.Order.StableSort
import FerroTunnel.Channel.Bounded
import FerroTunnel.Transport.VectoredWrite
import FerroTunnel.Wire.RoundTrip

/-!
# The batched sender

Frames queued for the wire are collected into batches, ordered by priority,
encoded into segments and written with vectored writes.  A frame that cannot be
encoded is skipped.  The write loop keeps a cursor into the segments and moves
it by however many bytes each call accepted.
-/

namespace FerroTunnel.Transport

open FerroTunnel.Bytes
open FerroTunnel.Channel
open FerroTunnel.Order
open FerroTunnel.Wire

/-- Channel item of the sender: priority and frame. -/
abbrev PrioritizedFrame := StreamPriority × Frame

/-- Maximum frames to batch before flushing. -/
def MAX_BATCH_SIZE : Nat := 256

/-! ## Ordering a batch -/

/-- `sort_by_key` on the drain order of the priorities, a stable sort. -/
def sortByDrainOrder (frames : List PrioritizedFrame) : List PrioritizedFrame :=
  frames.insertionSort fun first second => first.1.drainOrder ≤ second.1.drainOrder

/-- Sorting keeps the order of any selection of frames of one priority. -/
theorem filter_sortByDrainOrder (select : PrioritizedFrame → Bool)
    (frames : List PrioritizedFrame)
    (samePriority : ∀ first ∈ frames, ∀ second ∈ frames,
      select first → select second → first.1 = second.1) :
    (sortByDrainOrder frames).filter select = frames.filter select := by
  apply filter_insertionSort
  intro first firstMem second secondMem firstSelected secondSelected
  rw [samePriority first firstMem second secondMem firstSelected secondSelected]

theorem mem_sortByDrainOrder {frames : List PrioritizedFrame} {frame : PrioritizedFrame} :
    frame ∈ sortByDrainOrder frames ↔ frame ∈ frames :=
  List.mem_insertionSort _

/-! ## Encoding into segments -/

/-- Encode one frame as segments; the payload of a data frame is not copied. -/
def encodeFrameSegments (codec : TunnelCodec) (bincode : Bincode) (frame : Frame)
    (out : List Bytes) : Except IoError Unit × List Bytes :=
  match frame with
  | .data streamId data endOfStream =>
      let payloadLen := 1 + 4 + 1 + data.length
      if payloadLen > codec.maxFrameSize then
        (.error ⟨.invalidData,
          s!"Frame too large: {payloadLen} bytes (max: {codec.maxFrameSize})"⟩, out)
      else
        let header := putU32 (UInt32.ofNat payloadLen) ++ [FRAME_TYPE_DATA] ++
          putU32 streamId ++ [if endOfStream then FLAG_EOS else 0]
        (.ok (), out ++ [header] ++ if data.isEmpty then [] else [data])
  | controlFrame =>
      match codec.encode bincode controlFrame [] with
      | (.error e, _) => (.error e, out)
      | (.ok (), buf) => (.ok (), out ++ [buf])

/-- Encode the frames of a batch in turn.  A frame that fails is skipped with a
warning, and the frames skipped are reported beside the segments. -/
def encodeBatch (codec : TunnelCodec) (bincode : Bincode) :
    List PrioritizedFrame → List Bytes → List Bytes × List (PrioritizedFrame × IoError)
  | [], segments => (segments, [])
  | frame :: rest, segments =>
      match encodeFrameSegments codec bincode frame.2 segments with
      | (.error e, out) =>
          let later := encodeBatch codec bincode rest out
          (later.1, (frame, e) :: later.2)
      | (.ok (), out) => encodeBatch codec bincode rest out

/-- The frame has a record within the frame size. -/
def isEncodable (codec : TunnelCodec) (bincode : Bincode) (frame : Frame) : Bool :=
  match frame.record bincode with
  | .ok record => record.length ≤ codec.maxFrameSize
  | .error _ => false

/-- The bytes of a frame on the wire. -/
def wireImage (bincode : Bincode) (frame : Frame) : Bytes :=
  match frame.record bincode with
  | .ok record => lengthPrefixed record
  | .error _ => []

variable {codec : TunnelCodec} {bincode : Bincode}

theorem encodeFrameSegments_control {frame : Frame} (control : frame.isData = false)
    (out : List Bytes) :
    encodeFrameSegments codec bincode frame out =
      match codec.encode bincode frame [] with
      | (.error e, _) => (.error e, out)
      | (.ok (), buf) => (.ok (), out ++ [buf]) := by
  cases frame <;> first | rfl | simp [Frame.isData] at control

/-- A frame is split into segments exactly when it is encodable, and the
segments added are its bytes on the wire. -/
theorem encodeFrameSegments_cases (codec : TunnelCodec) (bincode : Bincode) (frame : Frame)
    (out : List Bytes) :
    (isEncodable codec bincode frame ∧ ∃ segments,
      encodeFrameSegments codec bincode frame out = (.ok (), out ++ segments) ∧
      segments.flatten = wireImage bincode frame) ∨
    (isEncodable codec bincode frame = false ∧
      ∃ e, encodeFrameSegments codec bincode frame out = (.error e, out)) := by
  cases control : frame.isData with
  | true =>
      cases frame with
      | data streamId data endOfStream =>
          let header := putU32 (UInt32.ofNat (1 + 4 + 1 + data.length)) ++ [FRAME_TYPE_DATA] ++
            putU32 streamId ++ [if endOfStream then FLAG_EOS else 0]
          have recordLength : (FRAME_TYPE_DATA ::
              (putU32 streamId ++ [if endOfStream then FLAG_EOS else 0] ++ data)).length =
                1 + 4 + 1 + data.length := by
            simp
            omega
          have imageEq : wireImage bincode (.data streamId data endOfStream) =
              header ++ data := by
            simp only [wireImage, Frame.record, lengthPrefixed, recordLength, header]
            simp
          simp only [isEncodable, Frame.record, recordLength]
          by_cases large : 1 + 4 + 1 + data.length > codec.maxFrameSize
          · right
            refine ⟨by simpa using large, ⟨.invalidData,
              s!"Frame too large: {1 + 4 + 1 + data.length} bytes (max: {codec.maxFrameSize})"⟩,
              ?_⟩
            simp only [encodeFrameSegments, if_pos large]
          · left
            refine ⟨by simpa using large, [header] ++ if data.isEmpty then [] else [data], ?_, ?_⟩
            · simp only [encodeFrameSegments, if_neg large, List.append_assoc out, header]
            · rw [imageEq]
              cases data <;> simp
      | _ => simp [Frame.isData] at control
  | false =>
      rw [encodeFrameSegments_control control]
      rcases encoded : codec.encode bincode frame [] with ⟨verdict, buf⟩
      cases verdict with
      | error e =>
          right
          refine ⟨?_, e, rfl⟩
          by_contra encodable
          rw [Bool.not_eq_false, isEncodable] at encodable
          split at encodable
          · rename_i record recordEq
            have success : codec.encode bincode frame [] = (.ok (), [] ++ lengthPrefixed record) :=
              TunnelCodec.encode_eq_ok_iff.mpr
                ⟨record, recordEq, of_decide_eq_true encodable, rfl⟩
            rw [encoded] at success
            cases success
          · contradiction
      | ok done =>
          left
          obtain ⟨record, recordEq, bounded, bufEq⟩ := TunnelCodec.encode_eq_ok_iff.mp encoded
          refine ⟨by simp [isEncodable, recordEq, bounded], [buf], rfl, ?_⟩
          simpa [wireImage, recordEq] using bufEq

/-- Encoding a batch appends the bytes of its encodable frames in order, and
skips exactly the other frames. -/
theorem encodeBatch_spec (codec : TunnelCodec) (bincode : Bincode)
    (frames : List PrioritizedFrame) (segments : List Bytes) :
    (encodeBatch codec bincode frames segments).1.flatten =
        segments.flatten ++
          ((frames.map Prod.snd).filter (isEncodable codec bincode)).flatMap (wireImage bincode) ∧
      (encodeBatch codec bincode frames segments).2.map Prod.fst =
        frames.filter fun frame => !isEncodable codec bincode frame.2 := by
  induction frames generalizing segments with
  | nil => simp [encodeBatch]
  | cons frame rest ih =>
      rcases encodeFrameSegments_cases codec bincode frame.2 segments with
        ⟨encodable, added, encoded, image⟩ | ⟨skipped, e, encoded⟩
      · simp [encodeBatch, encoded, ih, encodable, image]
      · simp [encodeBatch, encoded, ih, skipped]

/-! ## The sender task -/

/-- Where `run_batched_sender` is in its loop.  While collecting it holds the
frames received so far and whether it has yielded for this batch. -/
inductive SenderTask
  | collecting (frames : List PrioritizedFrame) (yielded : Bool)
  | writing (cursor : WriteCursor)
  | stopped
deriving DecidableEq

/-- The number of frames from which a batch is worth a scheduler yield. -/
def MIN_FRAMES_FOR_BATCHING : Nat := 2

/-- Sort and encode a batch, and write unless nothing could be encoded. -/
def flushBatch (codec : TunnelCodec) (bincode : Bincode) (frames : List PrioritizedFrame) :
    SenderTask :=
  let segments := (encodeBatch codec bincode (sortByDrainOrder frames) []).1
  if segments.isEmpty then .collecting [] false else .writing (.start segments)

/-- One receive of the sender.  The first frame of a batch is waited for, and the
task ends when none can come; the rest are taken without waiting until the
channel is empty, with one yield. -/
def collect (codec : TunnelCodec) (bincode : Bincode) (channel : Bounded PrioritizedFrame)
    (sendersGone : Bool) (frames : List PrioritizedFrame) (yielded : Bool) :
    SenderTask × Bounded PrioritizedFrame :=
  if frames.isEmpty then
    match channel.recv with
    | (some frame, rest) => (.collecting [frame] false, rest)
    | (none, rest) =>
        if sendersGone then (.stopped, rest.closeReceiver) else (.collecting [] false, rest)
  else if frames.length < MAX_BATCH_SIZE then
    match channel.tryRecv with
    | (some frame, rest) => (.collecting (frames ++ [frame]) yielded, rest)
    | (none, rest) =>
        if MIN_FRAMES_FOR_BATCHING ≤ frames.length && !yielded then
          (.collecting frames true, rest)
        else
          (flushBatch codec bincode frames, rest)
  else
    (flushBatch codec bincode frames, channel)

/-- The frames taken from the channel and not encoded yet. -/
def SenderTask.batch : SenderTask → List PrioritizedFrame
  | .collecting frames _ => frames
  | _ => []

/-- The bytes encoded and not accepted by the writer yet. -/
def SenderTask.unwritten : SenderTask → Bytes
  | .writing cursor => cursor.unwritten
  | _ => []

theorem flushBatch_batch (frames : List PrioritizedFrame) :
    (flushBatch codec bincode frames).batch = [] := by
  simp only [flushBatch]
  split <;> rfl

/-- The bytes a flushed batch is written as. -/
theorem flushBatch_unwritten (frames : List PrioritizedFrame) :
    (flushBatch codec bincode frames).unwritten =
      (((sortByDrainOrder frames).map Prod.snd).filter (isEncodable codec bincode)).flatMap
        (wireImage bincode) := by
  have segmentsEq := (encodeBatch_spec codec bincode (sortByDrainOrder frames) []).1
  rw [List.flatten_nil, List.nil_append] at segmentsEq
  simp only [flushBatch]
  split
  · rename_i none
    rw [← segmentsEq, List.isEmpty_iff.mp none]
    rfl
  · exact segmentsEq

/-- A receive moves one frame from the channel to the batch, waits, flushes the
batch, or ends the task. -/
theorem collect_cases (channel : Bounded PrioritizedFrame) (sendersGone : Bool)
    (frames : List PrioritizedFrame) (yielded : Bool) {task : SenderTask}
    {rest : Bounded PrioritizedFrame}
    (collected : collect codec bincode channel sendersGone frames yielded = (task, rest)) :
    (∃ moved flag, task = .collecting (frames ++ moved) flag ∧
      moved ++ rest.queue = channel.queue) ∨
    (task = flushBatch codec bincode frames ∧ rest.queue = channel.queue) ∨
    (task = .stopped ∧ frames = [] ∧ rest.queue = channel.queue) := by
  simp only [collect] at collected
  split at collected
  · rename_i first
    have noFrames := List.isEmpty_iff.mp first
    have received := channel.recv_queue
    revert collected received
    rcases channel.recv with ⟨_ | frame, remaining⟩ <;> intro collected received
    · simp only at collected
      split at collected <;> cases collected
      · exact .inr (.inr ⟨rfl, noFrames, received⟩)
      · exact .inl ⟨[], false, by simp [noFrames], received⟩
    · cases collected
      exact .inl ⟨[frame], false, by simp [noFrames], received⟩
  split at collected
  · rcases channel.tryRecv_cases with ⟨_, nothing⟩ | ⟨frame, left, queueEq, taken, leftEq, _⟩
    · rw [nothing] at collected
      simp only at collected
      split at collected <;> cases collected
      · exact .inl ⟨[], true, by simp, rfl⟩
      · exact .inr (.inl ⟨rfl, rfl⟩)
    · rcases received : channel.tryRecv with ⟨item, remaining⟩
      rw [received] at taken leftEq collected
      simp only at taken leftEq
      subst taken
      cases collected
      exact .inl ⟨[frame], yielded, rfl, by simp [leftEq, queueEq]⟩
  · cases collected
    exact .inr (.inl ⟨rfl, rfl⟩)

theorem flushBatch_ne_stopped (frames : List PrioritizedFrame) :
    flushBatch codec bincode frames ≠ .stopped := by
  simp only [flushBatch]
  split <;> exact nofun

/-- The task ends only on an empty channel, and drops the receiver. -/
theorem queue_of_collect_stopped {channel rest : Bounded PrioritizedFrame} {sendersGone : Bool}
    {frames : List PrioritizedFrame} {yielded : Bool}
    (collected : collect codec bincode channel sendersGone frames yielded = (.stopped, rest)) :
    channel.queue = [] ∧ rest.receiverGone = true := by
  simp only [collect] at collected
  split at collected
  · rcases channel with ⟨capacity, _ | ⟨item, queue⟩, parked, receiverGone, bounded⟩
    · simp only [Bounded.recv, Bounded.tryRecv] at collected
      split at collected
      · cases collected
        exact ⟨rfl, rfl⟩
      · cases collected
    · cases collected
  split at collected
  · split at collected
    · cases collected
    · split at collected
      · cases collected
      · exact absurd (congrArg Prod.fst collected) (flushBatch_ne_stopped frames)
  · exact absurd (congrArg Prod.fst collected) (flushBatch_ne_stopped frames)

end FerroTunnel.Transport
