import FerroTunnel.Wire.Chunking
import FerroTunnel.Wire.Grammar

/-!
# The zero-copy parser

The zero-copy parser walks over a buffer by offsets, returns the data frames
and steps over everything else, while the decoder consumes the buffer record by
record and decodes all of it.  Wherever the decoder gets through, the two agree
on how far they come and on the data frames.
-/

namespace FerroTunnel.Wire

open FerroTunnel.Bytes
open FerroTunnel.Parser

/-- Zero-copy view of a data frame. -/
inductive ZeroCopyFrame where
  | data (streamId : UInt32) (data : Bytes) (fin : Bool)
  deriving DecidableEq

/-- Convert to an owned frame. -/
def ZeroCopyFrame.toOwned : ZeroCopyFrame → Frame
  | .data streamId payload fin => .data streamId payload fin

namespace TunnelCodec

/-- Parse data frames from `buf`, appending them to `out`.  The result is the
number of bytes walked over, or an error. -/
def decodeDataFramesZerocopy (codec : TunnelCodec) (buf : Bytes) (out : List ZeroCopyFrame)
    (offset : Nat) : Except IoError Nat × List ZeroCopyFrame :=
  if _inside : offset + HEADER_SIZE ≤ buf.length then
    let length := (getU32 (buf.drop offset)).toNat
    if length = 0 ∨ length > codec.maxFrameSize then
      (.error ⟨.invalidData, s!"Invalid frame length: {length}"⟩, out)
    else
      let totalSize := 4 + length
      if buf.length < offset + totalSize then
        (.ok offset, out)
      else
        let frameType := buf.getD (offset + 4) 0
        if frameType = FRAME_TYPE_DATA then
          if length < 6 then
            (.error ⟨.invalidData, "Data frame payload too short"⟩, out)
          else
            let streamId := getU32 (buf.drop (offset + 5))
            let flags := buf.getD (offset + 9) 0
            let fin := decide (flags &&& FLAG_EOS ≠ 0)
            let data := (buf.take (offset + totalSize)).drop (offset + 10)
            decodeDataFramesZerocopy codec buf (out ++ [.data streamId data fin])
              (offset + totalSize)
        else
          decodeDataFramesZerocopy codec buf out (offset + totalSize)
  else
    (.ok offset, out)
  termination_by buf.length - offset
  decreasing_by all_goals simp only [HEADER_SIZE] at _inside; omega

/-- The complete records at the front of a buffer. -/
def records (src : Bytes) : List Bytes :=
  if _complete : HEADER_SIZE ≤ src.length ∧ 0 < (getU32 src).toNat ∧
      4 + (getU32 src).toNat ≤ src.length then
    (src.take (4 + (getU32 src).toNat)).drop 4 :: records (src.drop (4 + (getU32 src).toNat))
  else
    []
  termination_by src.length
  decreasing_by simp only [List.length_drop]; omega

/-- A control record whose payload denotes a data frame. -/
def CarriesData (bincode : Bincode) (record : Bytes) : Prop :=
  ∃ payload frame, record = FRAME_TYPE_CONTROL :: payload ∧
    decodeControlFrame bincode payload = .ok frame ∧ frame.isData = true

variable {codec : TunnelCodec} {bincode : Bincode}

/-! ## One record -/

theorem records_lengthPrefixed {record : Bytes} (nonempty : record ≠ [])
    (bounded : record.length ≤ codec.maxFrameSize) (rest : Bytes) :
    records (lengthPrefixed record ++ rest) = record :: records rest := by
  have positive : 0 < record.length := List.length_pos_iff.mpr nonempty
  have lengthEq := getU32_lengthPrefixed (codec.length_lt_of_le bounded) rest
  rw [records, lengthEq, dif_pos]
  · rw [take_lengthPrefixed, drop_lengthPrefixed, lengthPrefixed_drop]
  · rw [List.length_append, lengthPrefixed_length, HEADER_SIZE]
    omega

/-- Beyond the front, a buffer is read as what follows the front. -/
theorem getD_front (front src : Bytes) (index : Nat) :
    (front ++ src).getD (front.length + index) 0 = src.getD index 0 := by
  rw [List.getD_append_right _ _ _ _ (Nat.le_add_right _ _), Nat.add_sub_cancel_left]

theorem drop_front (front src : Bytes) (index : Nat) :
    (front ++ src).drop (front.length + index) = src.drop index := by
  rw [List.drop_append]
  simp

theorem slice_front (front src : Bytes) (first last : Nat) :
    ((front ++ src).take (front.length + last)).drop (front.length + first) =
      (src.take last).drop first := by
  rw [List.take_append, Nat.add_sub_cancel_left, List.take_of_length_le (Nat.le_add_right _ _),
    drop_front]

/-- The walk over one complete record. -/
theorem zerocopy_record {record : Bytes} (nonempty : record ≠ [])
    (bounded : record.length ≤ codec.maxFrameSize) (front rest : Bytes)
    (out : List ZeroCopyFrame) :
    codec.decodeDataFramesZerocopy (front ++ (lengthPrefixed record ++ rest)) out front.length =
      if record.getD 0 0 = FRAME_TYPE_DATA then
        if record.length < 6 then
          (.error ⟨.invalidData, "Data frame payload too short"⟩, out)
        else
          codec.decodeDataFramesZerocopy (front ++ (lengthPrefixed record ++ rest))
            (out ++ [.data (getU32 record.tail) (record.drop 6)
              (record.getD 5 0 &&& FLAG_EOS ≠ 0)])
            (front.length + (4 + record.length))
      else
        codec.decodeDataFramesZerocopy (front ++ (lengthPrefixed record ++ rest)) out
          (front.length + (4 + record.length)) := by
  have positive : 0 < record.length := List.length_pos_iff.mpr nonempty
  have lengthEq := getU32_lengthPrefixed (codec.length_lt_of_le bounded) rest
  have total : (front ++ (lengthPrefixed record ++ rest)).length =
      front.length + (4 + record.length + rest.length) := by
    rw [List.length_append, List.length_append, lengthPrefixed_length]
  have getD_record (index : Nat) (inside : index < record.length) :
      (lengthPrefixed record ++ rest).getD (4 + index) 0 = record.getD index 0 := by
    rw [lengthPrefixed, List.append_assoc]
    exact (getD_front (putU32 _) (record ++ rest) index).trans
      (List.getD_append _ _ _ _ inside)
  have typeEq : (lengthPrefixed record ++ rest).getD 4 0 = record.getD 0 0 :=
    getD_record 0 positive
  rw [decodeDataFramesZerocopy, dif_pos (by rw [total, HEADER_SIZE]; omega), List.drop_left]
  simp only [lengthEq, total, getD_front, drop_front, slice_front, typeEq]
  rw [if_neg (by omega), if_neg (by omega)]
  by_cases isData : record.getD 0 0 = FRAME_TYPE_DATA
  · rw [if_pos isData, if_pos isData]
    by_cases short : record.length < 6
    · rw [if_pos short, if_pos short]
    · rw [if_neg short, if_neg short]
      have idEq : getU32 ((lengthPrefixed record ++ rest).drop 5) = getU32 record.tail := by
        have shifted : (lengthPrefixed record ++ rest).drop 5 = record.tail ++ rest := by
          rw [lengthPrefixed, List.append_assoc]
          apply (drop_front (putU32 _) (record ++ rest) 1).trans
          rw [List.drop_one, List.tail_append_of_ne_nil nonempty]
        rw [shifted, getU32_append]
        rw [List.length_tail]
        omega
      have flagsEq : (lengthPrefixed record ++ rest).getD 9 0 = record.getD 5 0 :=
        getD_record 5 (by omega)
      have dataEq : ((lengthPrefixed record ++ rest).take (4 + record.length)).drop 10 =
          record.drop 6 := by
        rw [take_lengthPrefixed]
        exact drop_front (putU32 _) record 6
      rw [idEq, flagsEq, dataEq]
  · rw [if_neg isData, if_neg isData]

/-- A data record is viewed as the frame that it spells out. -/
theorem zerocopy_dataRecord {record : Bytes} {frame : Frame}
    (dataRecord : IsDataRecord record frame)
    (bounded : record.length ≤ codec.maxFrameSize) (front rest : Bytes)
    (out : List ZeroCopyFrame) :
    ∃ view : ZeroCopyFrame, view.toOwned = frame ∧
      codec.decodeDataFramesZerocopy (front ++ (lengthPrefixed record ++ rest)) out
          front.length =
        codec.decodeDataFramesZerocopy (front ++ (lengthPrefixed record ++ rest)) (out ++ [view])
          (front.length + (4 + record.length)) := by
  obtain ⟨streamId, flags, payload, rfl, rfl⟩ := dataRecord
  use .data streamId payload (flags.toNat % 2 = 1)
  constructor
  · rfl
  · have typeEq : (FRAME_TYPE_DATA :: (putU32 streamId ++ flags :: payload)).getD 0 0 =
        FRAME_TYPE_DATA := rfl
    rw [zerocopy_record (by simp) bounded, if_pos typeEq, if_neg (by simp; omega)]
    have flagEq : (FRAME_TYPE_DATA :: (putU32 streamId ++ flags :: payload)).getD 5 0 = flags :=
      rfl
    have restEq : (FRAME_TYPE_DATA :: (putU32 streamId ++ flags :: payload)).drop 6 = payload :=
      rfl
    simp only [List.tail_cons, getU32_putU32_append, flagEq, restEq, and_flagEos_ne_zero_iff]

/-- A control record is stepped over. -/
theorem zerocopy_controlRecord {record : Bytes} {frame : Frame}
    (control : IsControlRecord codec bincode record frame)
    (bounded : record.length ≤ codec.maxFrameSize) (front rest : Bytes)
    (out : List ZeroCopyFrame) :
    codec.decodeDataFramesZerocopy (front ++ (lengthPrefixed record ++ rest)) out front.length =
      codec.decodeDataFramesZerocopy (front ++ (lengthPrefixed record ++ rest)) out
        (front.length + (4 + record.length)) := by
  obtain ⟨payload, rfl, -, -⟩ := control
  rw [zerocopy_record (by simp) bounded, if_neg]
  simp [FRAME_TYPE_CONTROL, FRAME_TYPE_DATA]

/-- A buffer that asks for more bytes has no complete header, or no complete
record of admissible length. -/
theorem pending_cases {src : Bytes}
    (pending : codec.decode bincode src = (.ok none, src)) :
    src.length < HEADER_SIZE ∨
      ¬((getU32 src).toNat = 0 ∨ (getU32 src).toNat > codec.maxFrameSize) ∧
        src.length < 4 + (getU32 src).toNat := by
  rw [decode] at pending
  split at pending
  · left
    assumption
  right
  simp only at pending
  split at pending
  · cases pending
  split at pending
  · cases pending
  split at pending
  · constructor
    · rintro (zero | large) <;> contradiction
    · assumption
  · have verdict := congrArg Prod.fst pending
    exact absurd verdict (map_some_ne_ok_none _)

/-- The walk stops where the decoder asks for more bytes. -/
theorem zerocopy_pending {src : Bytes}
    (pending : codec.decode bincode src = (.ok none, src)) (front : Bytes)
    (out : List ZeroCopyFrame) :
    codec.decodeDataFramesZerocopy (front ++ src) out front.length = (.ok front.length, out) := by
  rw [decodeDataFramesZerocopy]
  rcases pending_cases pending with short | ⟨admissible, incomplete⟩
  · rw [dif_neg]
    rw [List.length_append]
    omega
  · by_cases inside : front.length + HEADER_SIZE ≤ (front ++ src).length
    · rw [dif_pos inside, List.drop_left]
      simp only
      rw [if_neg admissible, if_pos]
      rw [List.length_append]
      omega
    · rw [dif_neg inside]

/-! ## Whole buffers -/

/-- Where the decoder drains a buffer without an error and finds no data frame
in a control record, the walk consumes the same bytes and views the same data
frames. -/
theorem zerocopy_drain (front src : Bytes) (out : List ZeroCopyFrame)
    (clean : ((codec.parser bincode).drain src).failure = none)
    (unmixed : ∀ record ∈ records src, ¬CarriesData bincode record) :
    ∃ views : List ZeroCopyFrame,
      codec.decodeDataFramesZerocopy (front ++ src) out front.length =
        (.ok (front.length + (src.length - ((codec.parser bincode).drain src).rest.length)),
          out ++ views) ∧
      views.map ZeroCopyFrame.toOwned =
        ((codec.parser bincode).drain src).items.filter Frame.isData := by
  induction src using Incremental.drain_induction (codec.parser bincode)
    generalizing front out with
  | pending parsed =>
      use []
      rw [zerocopy_pending parsed, Incremental.drain_of_pending parsed]
      simp
  | failed parsed =>
      rw [Incremental.drain_of_failure parsed] at clean
      cases clean
  | @taken src frame rest parsed ih =>
      obtain ⟨record, nonempty, bounded, rfl, recordEq⟩ := record_of_decode parsed
      rw [records_lengthPrefixed nonempty bounded, List.forall_mem_cons] at unmixed
      have tailClean : ((codec.parser bincode).drain rest).failure = none := by
        rw [Incremental.drain_of_item parsed] at clean
        exact clean
      -- the walk goes on behind the record as if that were the front
      have joined : front ++ (lengthPrefixed record ++ rest) =
          (front ++ lengthPrefixed record) ++ rest := (List.append_assoc ..).symm
      have frontLength : (front ++ lengthPrefixed record).length =
          front.length + (4 + record.length) := by
        rw [List.length_append, lengthPrefixed_length]
      have consumedEq : front.length + (4 + record.length) + (rest.length -
          ((codec.parser bincode).drain rest).rest.length) =
            front.length + ((lengthPrefixed record ++ rest).length -
              ((codec.parser bincode).drain rest).rest.length) := by
        have tail := drain_rest_length_le codec bincode rest
        rw [List.length_append, lengthPrefixed_length]
        omega
      rw [Incremental.drain_of_item parsed]
      rcases (decodeRecord_eq_ok_iff nonempty).mp recordEq with dataRecord | control
      · obtain ⟨view, owned, walked⟩ :=
          zerocopy_dataRecord dataRecord bounded front rest out
        obtain ⟨views, walkedOn, viewsEq⟩ :=
          ih (front ++ lengthPrefixed record) (out ++ [view]) tailClean unmixed.2
        rw [frontLength, consumedEq, ← joined] at walkedOn
        use view :: views
        constructor
        · rw [walked, walkedOn]
          simp [Incremental.Outcome.prepend]
        · have isData : frame.isData = true := by
            obtain ⟨streamId, flags, payload, -, rfl⟩ := dataRecord
            rfl
          simp [Incremental.Outcome.prepend, owned, viewsEq, isData]
      · obtain ⟨views, walkedOn, viewsEq⟩ :=
          ih (front ++ lengthPrefixed record) out tailClean unmixed.2
        rw [frontLength, consumedEq, ← joined] at walkedOn
        use views
        constructor
        · rw [zerocopy_controlRecord control bounded, walkedOn]
          simp [Incremental.Outcome.prepend]
        · have notData : frame.isData = false := by
            obtain ⟨payload, payloadEq, denoted, -⟩ := control
            cases isData : frame.isData with
            | true =>
                exact absurd ⟨payload, frame, payloadEq,
                  decodeControlFrame_eq_ok_iff.mpr denoted, isData⟩ unmixed.1
            | false => rfl
          simp [Incremental.Outcome.prepend, viewsEq, notData]

/-- On every buffer that decodes as a batch and has no data frame in a control
record, the zero-copy parser succeeds, consumes as many bytes, and returns
views of exactly the data frames of the batch, in order. -/
theorem zerocopy_agrees (codec : TunnelCodec) (bincode : Bincode) (src rest : Bytes)
    (consumed : Nat) (frames : List Frame)
    (succeeds : codec.decodeBatch bincode src [] 0 = (.ok consumed, rest, frames))
    (unmixed : ∀ record ∈ records src, ¬CarriesData bincode record) :
    ∃ views : List ZeroCopyFrame,
      codec.decodeDataFramesZerocopy src [] 0 = (.ok consumed, views) ∧
        views.map ZeroCopyFrame.toOwned = frames.filter Frame.isData := by
  rw [decodeBatch_eq_drain] at succeeds
  cases failure : ((codec.parser bincode).drain src).failure with
  | some e =>
      simp only [failure] at succeeds
      cases congrArg Prod.fst succeeds
  | none =>
      simp only [failure] at succeeds
      cases succeeds
      obtain ⟨views, walked, viewsEq⟩ := zerocopy_drain [] src [] failure unmixed
      use views
      simp only [List.nil_append, List.length_nil, Nat.zero_add] at walked ⊢
      exact ⟨walked, viewsEq⟩

/-- A data record, a heartbeat, and the first bytes of another record. -/
def mixedBuffer : Bytes :=
  lengthPrefixed [1, 0, 0, 0, 2, 3, 7] ++ (lengthPrefixed [0, 8, 5] ++ [0, 0, 0])

/-- Both parsers read one data frame from eighteen bytes. -/
theorem zerocopy_agrees_mixedBuffer :
    TunnelCodec.default.decodeBatch (.standard .sorted) mixedBuffer [] 0 =
      (.ok 18, [0, 0, 0], [.data 2 [7] true, .heartbeat 5]) ∧
    ∃ views : List ZeroCopyFrame,
      TunnelCodec.default.decodeDataFramesZerocopy mixedBuffer [] 0 = (.ok 18, views) ∧
        views.map ZeroCopyFrame.toOwned = [.data 2 [7] true] := by
  have decoded : TunnelCodec.default.decodeBatch (.standard .sorted) mixedBuffer [] 0 =
      (.ok 18, [0, 0, 0], [.data 2 [7] true, .heartbeat 5]) := by
    have first : TunnelCodec.default.decode (.standard .sorted) mixedBuffer =
        (.ok (some (.data 2 [7] true)), lengthPrefixed [0, 8, 5] ++ [0, 0, 0]) := rfl
    have second : TunnelCodec.default.decode (.standard .sorted)
        (lengthPrefixed [0, 8, 5] ++ [0, 0, 0]) = (.ok (some (.heartbeat 5)), [0, 0, 0]) := by
      decide +kernel
    have third : TunnelCodec.default.decode (.standard .sorted) [0, 0, 0] =
        (.ok none, [0, 0, 0]) := rfl
    simp only [decodeBatch_of_verdict first, decodeBatch_of_verdict second,
      decodeBatch_of_verdict third]
    rfl
  constructor
  · exact decoded
  · apply zerocopy_agrees .default (.standard .sorted) mixedBuffer [0, 0, 0] 18 _ decoded
    have split : records mixedBuffer = [[1, 0, 0, 0, 2, 3, 7], [0, 8, 5]] := by
      have tail : records [0, 0, 0] = [] := by
        rw [records, dif_neg (by decide)]
      rw [mixedBuffer, @records_lengthPrefixed .default _ (by decide) (by decide),
        @records_lengthPrefixed .default _ (by decide) (by decide), tail]
    intro record listed
    rw [split] at listed
    rintro ⟨payload, frame, recordEq, denoted, isData⟩
    have heartbeat : payload = [8, 5] := by
      simpa [recordEq, FRAME_TYPE_CONTROL] using listed
    have decodes : decodeControlFrame (.standard .sorted) [8, 5] = .ok (.heartbeat 5) := by
      decide +kernel
    rw [heartbeat, decodes] at denoted
    cases denoted
    cases isData

end TunnelCodec

end FerroTunnel.Wire
