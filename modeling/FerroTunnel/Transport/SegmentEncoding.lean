import FerroTunnel.Transport.BatchedSender

/-!
# The vectored encoder against the plain one

`encode_frame_segments` repeats the layout of data frames, its constants (with the
codec's values) and its size check from the codec.  The two encoders agree frame by
frame on the verdict, on the error and on the bytes, and so they agree on any list
of frames.
-/

namespace FerroTunnel.Transport

open FerroTunnel.Bytes
open FerroTunnel.Wire

universe u

/-- Apply an encoder to frames in turn: its verdicts, and what it leaves of its
destination. -/
def encodeEach {δ : Type u} (encoder : Frame → δ → Except IoError Unit × δ) :
    List Frame → δ → List (Except IoError Unit) × δ
  | [], out => ([], out)
  | frame :: rest, out =>
      let first := encoder frame out
      let later := encodeEach encoder rest first.2
      (first.1 :: later.1, later.2)

variable {codec : TunnelCodec} {bincode : Bincode}

/-- The plain encoder on a control frame. -/
theorem encode_control {frame : Frame} (control : frame.isData = false) (dst : Bytes) :
    codec.encode bincode frame dst =
      match bincode.encodeToVec frame with
      | .error e => (.error ⟨.invalidData, "Encode error: " ++ e.message⟩, dst)
      | .ok serialized =>
          if 1 + serialized.length > codec.maxFrameSize then
            (.error ⟨.invalidData,
              s!"Frame too large: {1 + serialized.length} bytes (max: {codec.maxFrameSize})"⟩, dst)
          else
            (.ok (), dst ++ putU32 (UInt32.ofNat (1 + serialized.length)) ++
              [FRAME_TYPE_CONTROL] ++ serialized) := by
  cases frame <;> first | rfl | simp [Frame.isData] at control

/-- On one frame: the same verdict, the same bytes, and nothing after a failure. -/
theorem encodeFrameSegments_encode (codec : TunnelCodec) (bincode : Bincode) (frame : Frame)
    (out : List Bytes) (dst : Bytes) :
    ∃ verdict added, encodeFrameSegments codec bincode frame out = (verdict, out ++ added) ∧
      codec.encode bincode frame dst = (verdict, dst ++ added.flatten) ∧
      (verdict ≠ .ok () → added = []) := by
  have failure (error : IoError) (vectored : encodeFrameSegments codec bincode frame out =
      (.error error, out)) (plain : codec.encode bincode frame dst = (.error error, dst)) :
      ∃ verdict added, encodeFrameSegments codec bincode frame out = (verdict, out ++ added) ∧
        codec.encode bincode frame dst = (verdict, dst ++ added.flatten) ∧
        (verdict ≠ .ok () → added = []) :=
    ⟨.error error, [], by simpa using vectored, by simpa using plain, fun _ => rfl⟩
  cases control : frame.isData with
  | true =>
      cases frame with
      | data streamId data endOfStream =>
          by_cases large : 1 + 4 + 1 + data.length > codec.maxFrameSize
          · exact failure _ (if_pos large) (if_pos large)
          · have vectored :
                encodeFrameSegments codec bincode (.data streamId data endOfStream) out =
                (.ok (), out ++ [putU32 (UInt32.ofNat (1 + 4 + 1 + data.length)) ++
                  [FRAME_TYPE_DATA] ++ putU32 streamId ++ [if endOfStream then FLAG_EOS else 0]] ++
                    if data.isEmpty then [] else [data]) := if_neg large
            rw [List.append_assoc] at vectored
            refine ⟨.ok (), _, vectored, ?_, fun failed => absurd rfl failed⟩
            simp only [TunnelCodec.encode, if_neg large]
            cases data <;> simp
      | _ => simp [Frame.isData] at control
  | false =>
      have vectored : encodeFrameSegments codec bincode frame out = _ :=
        encodeFrameSegments_control control out
      have plain : codec.encode bincode frame dst = _ := encode_control control dst
      rw [encode_control control] at vectored
      cases serialized : bincode.encodeToVec frame with
      | error e =>
          rw [serialized] at vectored plain
          exact failure _ vectored plain
      | ok payload =>
          rw [serialized] at vectored plain
          by_cases large : 1 + payload.length > codec.maxFrameSize
          · simp only [if_pos large] at vectored plain
            exact failure _ vectored plain
          · simp only [if_neg large, List.nil_append] at vectored plain
            refine ⟨.ok (), _, vectored, ?_, fun failed => absurd rfl failed⟩
            rw [plain]
            simp

/-- On any frames, whatever the segment list and the buffer hold before: the same
verdicts, and segments whose concatenation is what the plain encoder appends.  A
frame that fails leaves the list, and the buffer, as it was. -/
theorem encodeEach_segments (codec : TunnelCodec) (bincode : Bincode) (frames : List Frame)
    (segments : List Bytes) (dst : Bytes) :
    (∃ verdicts added,
      encodeEach (encodeFrameSegments codec bincode) frames segments =
        (verdicts, segments ++ added) ∧
      encodeEach (codec.encode bincode) frames dst = (verdicts, dst ++ added.flatten)) ∧
    ∀ frame error,
      ((encodeFrameSegments codec bincode frame segments).1 = .error error ↔
        (codec.encode bincode frame dst).1 = .error error) ∧
      ((encodeFrameSegments codec bincode frame segments).1 = .error error →
        (encodeFrameSegments codec bincode frame segments).2 = segments ∧
          (codec.encode bincode frame dst).2 = dst) := by
  constructor
  · induction frames generalizing segments dst with
    | nil => exact ⟨[], [], by simp [encodeEach], by simp [encodeEach]⟩
    | cons frame rest ih =>
        obtain ⟨verdict, first, vectored, plain, -⟩ :=
          encodeFrameSegments_encode codec bincode frame segments dst
        obtain ⟨verdicts, later, restVectored, restPlain⟩ :=
          ih (segments ++ first) (dst ++ first.flatten)
        refine ⟨verdict :: verdicts, first ++ later, ?_, ?_⟩
        · simp only [encodeEach, vectored, restVectored, List.append_assoc]
        · simp only [encodeEach, plain, restPlain, List.append_assoc, List.flatten_append]
  · intro frame error
    obtain ⟨verdict, added, vectored, plain, nothing⟩ :=
      encodeFrameSegments_encode codec bincode frame segments dst
    rw [vectored, plain]
    refine ⟨Iff.rfl, ?_⟩
    rintro rfl
    rw [nothing nofun]
    simp

/-- A codec with room for data frames without a payload only. -/
def emptyPayloads : TunnelCodec where
  maxFrameSize := 6
  validation := .default
  min_le_maxFrameSize := by decide
  maxFrameSize_le := by decide

/-- A payload too large, between two frames that fit and after another segment. -/
theorem encodeEach_segments_emptyPayloads :
    encodeEach (encodeFrameSegments emptyPayloads (.standard .sorted))
        [.data 2 [] false, .data 2 [7] false, .heartbeat 7] [[9]] =
      ([.ok (), .error ⟨.invalidData, "Frame too large: 7 bytes (max: 6)"⟩, .ok ()],
        [[9], [0, 0, 0, 6, 1, 0, 0, 0, 2, 0], [0, 0, 0, 3, 0, 8, 7]]) ∧
    (encodeFrameSegments emptyPayloads (.standard .sorted) (.data 2 [7] false) [[9]]).2 =
      [[9]] :=
  ⟨by decide, (((encodeEach_segments emptyPayloads (.standard .sorted) [] [[9]] []).2
    (.data 2 [7] false) ⟨.invalidData, "Frame too large: 7 bytes (max: 6)"⟩).2 (by decide)).1⟩

end FerroTunnel.Transport
