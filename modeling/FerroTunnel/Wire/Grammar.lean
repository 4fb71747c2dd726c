import FerroTunnel.Wire.RoundTrip

/-!
# The grammar of the decoder

The format comment of the codec gives two kinds of records: raw data records,
and control records that hold any frame except a data frame.  The decoder
parses exactly these, and one kind more: a control record whose payload
denotes a data frame.  Nothing in the decoder tells it apart.
-/

namespace FerroTunnel.Wire

open FerroTunnel.Bytes

/-! ## Records -/

/-- A data record: the stream id, a flag byte whose lowest bit ends the stream,
and the raw payload. -/
def IsDataRecord (record : Bytes) (frame : Frame) : Prop :=
  ∃ streamId flags payload, record = FRAME_TYPE_DATA :: (putU32 streamId ++ flags :: payload) ∧
    frame = .data streamId payload (flags.toNat % 2 = 1)

/-- A control record: a payload that the serializer decodes to its last byte,
within the limit selected for its length, to a frame that passes validation. -/
def IsControlRecord (codec : TunnelCodec) (bincode : Bincode) (record : Bytes) (frame : Frame) :
    Prop :=
  ∃ payload, record = FRAME_TYPE_CONTROL :: payload ∧
    bincode.decodeFromSlice (controlDecodeLimit payload.length) payload =
      .ok (frame, payload.length) ∧
    validateFrame frame codec.validation = .ok ()

/-- The records of the format comment: control records hold no data frame. -/
def IsDocumentedRecord (codec : TunnelCodec) (bincode : Bincode) (record : Bytes)
    (frame : Frame) : Prop :=
  IsDataRecord record frame ∨
    IsControlRecord codec bincode record frame ∧ frame.isData = false

/-- The lowest bit of a flag byte. -/
theorem and_flagEos_ne_zero_iff (flags : UInt8) :
    (flags &&& FLAG_EOS ≠ 0) ↔ flags.toNat % 2 = 1 := by
  rw [Ne, ← UInt8.toNat_inj, UInt8.toNat_and]
  have masked : flags.toNat &&& FLAG_EOS.toNat = flags.toNat % 2 := Nat.and_one_is_mod _
  rw [masked]
  exact Nat.mod_two_ne_zero

theorem decodeControlFrame_eq_ok_iff {bincode : Bincode} {payload : Bytes} {frame : Frame} :
    decodeControlFrame bincode payload = .ok frame ↔
      bincode.decodeFromSlice (controlDecodeLimit payload.length) payload =
        .ok (frame, payload.length) := by
  unfold decodeControlFrame decodeControlFrameWith
  cases decoded : bincode.decodeFromSlice (controlDecodeLimit payload.length) payload with
  | error e => simp
  | ok result =>
      rcases result with ⟨found, consumed⟩
      by_cases whole : consumed = payload.length
      · simp [whole]
      · simp [whole]

namespace TunnelCodec

variable {codec : TunnelCodec} {bincode : Bincode}

/-- A raw payload is split into its stream id, its flag byte and its bytes. -/
theorem payload_eq_of_length {payload : Bytes} (long : 5 ≤ payload.length) :
    payload = putU32 (getU32 payload) ++ payload.getD 4 0 :: payload.drop 5 := by
  rw [putU32_getU32 (by omega)]
  have split := List.take_append_drop 4 payload
  rw [List.drop_eq_getElem_cons (by omega)] at split
  rw [List.getD_eq_getElem _ _ (by omega)]
  exact split.symm

/-- A record of the data type parses when it has room for its header, and then
to the frame that it spells out. -/
theorem decodeRecord_data_iff {payload : Bytes} {frame : Frame} :
    codec.decodeRecord bincode (FRAME_TYPE_DATA :: payload) = .ok frame ↔
      IsDataRecord (FRAME_TYPE_DATA :: payload) frame := by
  have unfolded : codec.decodeRecord bincode (FRAME_TYPE_DATA :: payload) =
      if payload.length < 5 then .error ⟨.invalidData, "Data frame payload too short"⟩
      else .ok (.data (getU32 payload) (payload.drop 5)
        (payload.getD 4 0 &&& FLAG_EOS ≠ 0)) := rfl
  rw [unfolded]
  constructor
  · intro parsed
    split at parsed
    · cases parsed
    · rename_i long
      cases parsed
      use getU32 payload, payload.getD 4 0, payload.drop 5
      constructor
      · rw [← payload_eq_of_length (Nat.not_lt.mp long)]
      · simp only [and_flagEos_ne_zero_iff]
  · rintro ⟨streamId, flags, body, spelled, rfl⟩
    cases spelled
    rw [if_neg (by simp; omega), getU32_putU32_append]
    have flag : (putU32 streamId ++ flags :: body).getD 4 0 = flags := rfl
    have rest : (putU32 streamId ++ flags :: body).drop 5 = body := rfl
    simp only [flag, rest, and_flagEos_ne_zero_iff]

/-- A record of the control type parses to what its payload denotes. -/
theorem decodeRecord_control_iff {payload : Bytes} {frame : Frame} :
    codec.decodeRecord bincode (FRAME_TYPE_CONTROL :: payload) = .ok frame ↔
      IsControlRecord codec bincode (FRAME_TYPE_CONTROL :: payload) frame := by
  have spelled : IsControlRecord codec bincode (FRAME_TYPE_CONTROL :: payload) frame ↔
      decodeControlFrame bincode payload = .ok frame ∧
        validateFrame frame codec.validation = .ok () := by
    simp [IsControlRecord, decodeControlFrame_eq_ok_iff]
  rw [spelled, decodeRecord_control]
  cases decoded : decodeControlFrame bincode payload with
  | error e => simp
  | ok found =>
      cases valid : validateFrame found codec.validation with
      | error e =>
          simp only [valid, reduceCtorEq, Except.ok.injEq, false_iff, not_and]
          rintro rfl
          simp [valid]
      | ok done =>
          simp only [valid, Except.ok.injEq]
          constructor
          · rintro rfl
            exact ⟨rfl, valid⟩
          · exact And.left

/-- The decoder parses the data records and the control records, and no other. -/
theorem decodeRecord_eq_ok_iff {record : Bytes} {frame : Frame} (nonempty : record ≠ []) :
    codec.decodeRecord bincode record = .ok frame ↔
      IsDataRecord record frame ∨ IsControlRecord codec bincode record frame := by
  rcases record with _ | ⟨frameType, payload⟩
  · contradiction
  by_cases isData : frameType = FRAME_TYPE_DATA
  · subst isData
    rw [decodeRecord_data_iff]
    simp [IsControlRecord, FRAME_TYPE_DATA, FRAME_TYPE_CONTROL]
  by_cases isControl : frameType = FRAME_TYPE_CONTROL
  · subst isControl
    rw [decodeRecord_control_iff]
    simp [IsDataRecord, FRAME_TYPE_DATA, FRAME_TYPE_CONTROL]
  · have refused : ∃ e, codec.decodeRecord bincode (frameType :: payload) = .error e := by
      simp only [decodeRecord, List.headD_cons, isData, isControl, if_false]
      exact ⟨_, rfl⟩
    obtain ⟨e, refused⟩ := refused
    simp [refused, IsDataRecord, IsControlRecord, isData, isControl]

/-- What the decoder returns stood in a complete record at the front of the
buffer, behind its length. -/
theorem record_of_decode {src rest : Bytes} {frame : Frame}
    (decoded : codec.decode bincode src = (.ok (some frame), rest)) :
    ∃ record, record ≠ [] ∧ record.length ≤ codec.maxFrameSize ∧
      src = lengthPrefixed record ++ rest ∧ codec.decodeRecord bincode record = .ok frame := by
  rw [decode] at decoded
  split at decoded
  · cases decoded
  rename_i header
  simp only [HEADER_SIZE, Nat.not_lt] at header
  simp only at decoded
  split at decoded
  · cases decoded
  rename_i positive
  split at decoded
  · cases decoded
  rename_i bounded
  split at decoded
  · cases decoded
  rename_i complete
  have recordLength : ((src.take (4 + (getU32 src).toNat)).drop 4).length =
      (getU32 src).toNat := by
    rw [List.length_drop, List.length_take]
    omega
  have parsed := congrArg Prod.fst decoded
  have restEq := congrArg Prod.snd decoded
  simp only at parsed restEq
  use (src.take (4 + (getU32 src).toNat)).drop 4
  constructor
  · rw [← List.length_pos_iff, recordLength]
    omega
  constructor
  · rw [recordLength]
    exact Nat.not_lt.mp bounded
  constructor
  · have lengthBytes : putU32 (getU32 src) = (src.take (4 + (getU32 src).toNat)).take 4 := by
      rw [putU32_getU32 (by omega), List.take_take, Nat.min_eq_left (Nat.le_add_right _ _)]
    rw [lengthPrefixed, recordLength, UInt32.ofNat_toNat, lengthBytes, List.take_append_drop,
      ← restEq, List.take_append_drop]
  · cases body : codec.decodeRecord bincode ((src.take (4 + (getU32 src).toNat)).drop 4) with
    | error e =>
        rw [body] at parsed
        cases parsed
    | ok found =>
        rw [body] at parsed
        cases parsed
        rfl

/-! ## The documented grammar -/

/-- A complete record parses as a whole. -/
theorem decode_record_iff {record : Bytes} (nonempty : record ≠ [])
    (bounded : record.length ≤ codec.maxFrameSize) (rest : Bytes) (frame : Frame) :
    (codec.decode bincode (lengthPrefixed record ++ rest)).1 = .ok (some frame) ↔
      IsDataRecord record frame ∨ IsControlRecord codec bincode record frame := by
  rw [decode_lengthPrefixed nonempty bounded, ← decodeRecord_eq_ok_iff nonempty]
  cases codec.decodeRecord bincode record <;> simp [Except.map]

/-- On a complete record the decoder returns a frame or an error. -/
theorem decode_record_cases {record : Bytes} (nonempty : record ≠ [])
    (bounded : record.length ≤ codec.maxFrameSize) (rest : Bytes) :
    (∃ frame, (codec.decode bincode (lengthPrefixed record ++ rest)).1 = .ok (some frame)) ∨
      ∃ e, (codec.decode bincode (lengthPrefixed record ++ rest)).1 = .error e := by
  rw [decode_lengthPrefixed nonempty bounded]
  cases codec.decodeRecord bincode record with
  | error e => exact .inr ⟨e, rfl⟩
  | ok frame => exact .inl ⟨frame, rfl⟩

/-- A complete record is decoded as the format comment says, to the frame it
spells out or else to an error, if and only if it is not a control record whose
payload denotes a data frame that passes validation. -/
theorem decode_documented_iff (codec : TunnelCodec) (bincode : Bincode) (record : Bytes)
    (nonempty : record ≠ []) (bounded : record.length ≤ codec.maxFrameSize) (rest : Bytes) :
    ((∀ frame, (codec.decode bincode (lengthPrefixed record ++ rest)).1 = .ok (some frame) ↔
        IsDocumentedRecord codec bincode record frame) ∧
      ((∀ frame, ¬IsDocumentedRecord codec bincode record frame) →
        ∃ e, (codec.decode bincode (lengthPrefixed record ++ rest)).1 = .error e)) ↔
      ¬∃ frame, IsControlRecord codec bincode record frame ∧ frame.isData = true := by
  constructor
  · rintro ⟨exact, -⟩ ⟨frame, control, isData⟩
    have accepted := (decode_record_iff nonempty bounded rest frame).mpr (.inr control)
    rcases (exact frame).mp accepted with dataRecord | ⟨-, notData⟩
    · -- one record cannot have both types
      obtain ⟨payload, controlEq, -⟩ := control
      obtain ⟨streamId, flags, body, dataEq, -⟩ := dataRecord
      cases controlEq.symm.trans dataEq
    · rw [isData] at notData
      cases notData
  · intro excluded
    have documented (frame : Frame) :
        (codec.decode bincode (lengthPrefixed record ++ rest)).1 = .ok (some frame) ↔
          IsDocumentedRecord codec bincode record frame := by
      rw [decode_record_iff nonempty bounded rest frame]
      apply or_congr_right
      constructor
      · intro control
        cases isData : frame.isData with
        | true => exact absurd ⟨frame, control, isData⟩ excluded
        | false => exact ⟨control, rfl⟩
      · exact And.left
    constructor
    · exact documented
    · intro none
      rcases decode_record_cases nonempty bounded rest with ⟨frame, accepted⟩ | failed
      · exact absurd ((documented frame).mp accepted) (none frame)
      · exact failed

/-- A data record of seven bytes follows the format. -/
theorem decode_documented_iff_dataRecord :
    (∀ frame, (TunnelCodec.default.decode (.standard .sorted)
        (lengthPrefixed [1, 0, 0, 0, 2, 3, 7] ++ [9])).1 = .ok (some frame) ↔
      IsDocumentedRecord .default (.standard .sorted) [1, 0, 0, 0, 2, 3, 7] frame) ∧
    (TunnelCodec.default.decode (.standard .sorted)
      (lengthPrefixed [1, 0, 0, 0, 2, 3, 7] ++ [9])).1 =
      .ok (some (.data 2 [7] true)) := by
  constructor
  · apply ((decode_documented_iff .default (.standard .sorted) [1, 0, 0, 0, 2, 3, 7] (by decide)
      (by decide) [9]).mpr ?_).1
    rintro ⟨frame, ⟨payload, recordEq, -⟩, -⟩
    cases recordEq
  · rfl

/-- A control record that holds a data frame is decoded to that frame. -/
theorem data_in_control_record :
    (Bincode.standard .sorted).encodeToVec (.data 1 [7] false) = .ok [6, 1, 1, 7, 0] ∧
    (TunnelCodec.default.decode (.standard .sorted) (lengthPrefixed [0, 6, 1, 1, 7, 0])).1 =
      .ok (some (.data 1 [7] false)) ∧
    ¬IsDocumentedRecord .default (.standard .sorted) [0, 6, 1, 1, 7, 0] (.data 1 [7] false) := by
  constructor
  · rfl
  constructor
  · decide +kernel
  · rintro (⟨streamId, flags, payload, recordEq, -⟩ | ⟨-, notData⟩)
    · cases recordEq
    · cases notData

end TunnelCodec

end FerroTunnel.Wire
