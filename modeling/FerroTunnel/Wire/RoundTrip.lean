import FerroTunnel.Wire.StandardBincode

/-!
# Wire round trip

Encoder and decoder are written separately and share no code.  They are
related here through the record of a frame, that is its type byte followed by
its payload: encoding appends the length-prefixed record, and decoding a
length-prefixed record parses exactly that record and leaves what follows.
-/

namespace FerroTunnel.Wire

open FerroTunnel.Bytes

/-! ## Records -/

/-- The type byte and payload of a frame. -/
def Frame.record (bincode : Bincode) : Frame → Except EncodeError Bytes
  | .data streamId payload endOfStream =>
      .ok (FRAME_TYPE_DATA ::
        (putU32 streamId ++ [if endOfStream then FLAG_EOS else 0] ++ payload))
  | controlFrame => (bincode.encodeToVec controlFrame).map (FRAME_TYPE_CONTROL :: ·)

/-- A record behind its length prefix. -/
def lengthPrefixed (record : Bytes) : Bytes :=
  putU32 (UInt32.ofNat record.length) ++ record

theorem lengthPrefixed_length (record : Bytes) :
    (lengthPrefixed record).length = 4 + record.length := by
  simp [lengthPrefixed]

/-- A control frame is serialized behind the control type byte. -/
theorem Frame.record_of_not_isData {frame : Frame} (control : frame.isData = false)
    (bincode : Bincode) :
    frame.record bincode = (bincode.encodeToVec frame).map (FRAME_TYPE_CONTROL :: ·) := by
  cases frame <;> first | rfl | simp [isData] at control

theorem Frame.record_ne_nil {bincode : Bincode} {frame : Frame} {record : Bytes}
    (recordEq : frame.record bincode = .ok record) : record ≠ [] := by
  cases control : frame.isData with
  | true =>
      cases frame with
      | data streamId data endOfStream =>
          simp only [Frame.record, Except.ok.injEq] at recordEq
          subst recordEq
          simp
      | _ => simp [isData] at control
  | false =>
      rw [Frame.record_of_not_isData control] at recordEq
      cases serialized : bincode.encodeToVec frame with
      | error e => simp [serialized, Except.map] at recordEq
      | ok bytes =>
          simp only [serialized, Except.map, Except.ok.injEq] at recordEq
          subst recordEq
          simp

namespace TunnelCodec

variable {codec : TunnelCodec} {bincode : Bincode} {frame : Frame} {record : Bytes}

/-- Encoding succeeds exactly when the frame has a record within the frame
size, and then appends that record behind its length. -/
theorem encode_eq_ok_iff {dst out : Bytes} :
    codec.encode bincode frame dst = (.ok (), out) ↔
      ∃ record, frame.record bincode = .ok record ∧
        record.length ≤ codec.maxFrameSize ∧ out = dst ++ lengthPrefixed record := by
  cases control : frame.isData with
  | true =>
      cases frame with
      | data streamId data endOfStream =>
          have recordLength : (FRAME_TYPE_DATA ::
              (putU32 streamId ++ [if endOfStream then FLAG_EOS else 0] ++ data)).length =
                1 + 4 + 1 + data.length := by
            simp
            omega
          simp only [encode, Frame.record, Except.ok.injEq, exists_eq_left', lengthPrefixed,
            recordLength]
          split
          · rename_i large
            simp [Nat.not_le.mpr large]
          · rename_i small
            simp [Nat.not_lt.mp small, eq_comm]
      | _ => simp [Frame.isData] at control
  | false =>
      rw [Frame.record_of_not_isData control]
      cases serializedEq : bincode.encodeToVec frame with
      | error e =>
          have failed : codec.encode bincode frame dst =
              (.error ⟨.invalidData, "Encode error: " ++ e.message⟩, dst) := by
            cases frame <;> first
              | simp [encode, serializedEq]; done
              | simp [Frame.isData] at control
          simp [failed, Except.map]
      | ok serialized =>
          have recordLength : (FRAME_TYPE_CONTROL :: serialized).length =
              1 + serialized.length := by
            simp [Nat.add_comm]
          obtain ⟨tooLarge, unfolded⟩ : ∃ tooLarge, codec.encode bincode frame dst =
              if 1 + serialized.length > codec.maxFrameSize then
                (.error tooLarge, dst)
              else
                (.ok (), dst ++ putU32 (UInt32.ofNat (1 + serialized.length)) ++
                  [FRAME_TYPE_CONTROL] ++ serialized) := by
            cases frame <;> first
              | simp only [encode, serializedEq]; exact ⟨_, rfl⟩
              | simp [Frame.isData] at control
          simp only [unfolded, Except.map, Except.ok.injEq, exists_eq_left', lengthPrefixed,
            recordLength]
          split
          · rename_i large
            simp [Nat.not_le.mpr large]
          · rename_i small
            simp [Nat.not_lt.mp small, eq_comm]

/-- The length prefix of a record is read back. -/
theorem getU32_lengthPrefixed (ceiling : record.length < 2 ^ 32) (rest : Bytes) :
    (getU32 (lengthPrefixed record ++ rest)).toNat = record.length := by
  rw [lengthPrefixed, List.append_assoc, getU32_putU32_append, UInt32.toNat_ofNat']
  exact Nat.mod_eq_of_lt ceiling

/-- A record beyond the frame size is refused. -/
theorem decode_lengthPrefixed_of_large (ceiling : record.length < 2 ^ 32)
    (large : codec.maxFrameSize < record.length) (rest : Bytes) :
    ∃ error, codec.decode bincode (lengthPrefixed record ++ rest) =
      (.error error, lengthPrefixed record ++ rest) := by
  have minimum := codec.min_le_maxFrameSize
  rw [MIN_MAX_FRAME_SIZE] at minimum
  rw [decode, if_neg (by rw [List.length_append, lengthPrefixed_length, HEADER_SIZE]; omega)]
  simp only [getU32_lengthPrefixed ceiling rest]
  rw [if_neg (by omega), if_pos large]
  exact ⟨_, rfl⟩

theorem take_lengthPrefixed (record rest : Bytes) :
    (lengthPrefixed record ++ rest).take (4 + record.length) = lengthPrefixed record := by
  rw [← lengthPrefixed_length record]
  exact List.take_left

theorem drop_lengthPrefixed (record rest : Bytes) :
    (lengthPrefixed record ++ rest).drop (4 + record.length) = rest := by
  rw [← lengthPrefixed_length record]
  exact List.drop_left

theorem lengthPrefixed_drop (record : Bytes) : (lengthPrefixed record).drop 4 = record := by
  simp [lengthPrefixed, putU32]

/-- The length of an admissible record fits its prefix. -/
theorem length_lt_of_le (codec : TunnelCodec) (bounded : record.length ≤ codec.maxFrameSize) :
    record.length < 2 ^ 32 := by
  have ceiling := codec.maxFrameSize_le
  simp only [MAX_FRAME_SIZE] at ceiling
  omega

/-- Decoding a length-prefixed record of admissible length parses the record
and leaves what follows it. -/
theorem decode_lengthPrefixed (nonempty : record ≠ [])
    (bounded : record.length ≤ codec.maxFrameSize) (rest : Bytes) :
    codec.decode bincode (lengthPrefixed record ++ rest) =
      ((codec.decodeRecord bincode record).map some, rest) := by
  have positive : 0 < record.length := List.length_pos_iff.mpr nonempty
  have lengthEq := getU32_lengthPrefixed (codec.length_lt_of_le bounded) rest
  have total : (lengthPrefixed record ++ rest).length = 4 + record.length + rest.length := by
    rw [List.length_append, lengthPrefixed_length]
  rw [decode, if_neg (by rw [total, HEADER_SIZE]; omega)]
  simp only [lengthEq, total, take_lengthPrefixed, drop_lengthPrefixed, lengthPrefixed_drop]
  rw [if_neg (by omega), if_neg (by omega), if_neg (by omega)]

/-- The limit selected for a frame's payload is not hit while it is decoded. -/
def WithinDecodeLimit (bincode : Bincode) (frame : Frame) : Prop :=
  ∀ serialized, bincode.encodeToVec frame = .ok serialized →
    bincode.decodeFromSlice (controlDecodeLimit serialized.length) serialized ≠
      .error .limitExceeded

/-- The record of a data frame parses to the frame. -/
theorem decodeRecord_record_of_isData (isData : frame.isData)
    (recordEq : frame.record bincode = .ok record) :
    codec.decodeRecord bincode record = .ok frame := by
  cases frame with
  | data streamId payload endOfStream =>
      simp only [Frame.record, Except.ok.injEq] at recordEq
      subst recordEq
      have long : ¬(putU32 streamId ++ [if endOfStream then FLAG_EOS else 0] ++
          payload).length < 5 := by
        simp
        omega
      have flag : ((putU32 streamId ++ [if endOfStream then FLAG_EOS else 0] ++
          payload).getD 4 0) = if endOfStream then FLAG_EOS else 0 := rfl
      have body : (putU32 streamId ++ [if endOfStream then FLAG_EOS else 0] ++
          payload).drop 5 = payload := rfl
      simp only [decodeRecord, List.headD_cons, List.tail_cons, if_pos, if_neg long, flag, body]
      rw [List.append_assoc, getU32_putU32_append]
      cases endOfStream <;> rfl
  | _ => simp [Frame.isData] at isData

/-- A serialized control frame is recovered from its payload, limit permitting. -/
theorem decodeControlFrame_serialized {serialized : Bytes} (inverts : bincode.Inverts)
    (serializedEq : bincode.encodeToVec frame = .ok serialized)
    (below : bincode.decodeFromSlice (controlDecodeLimit serialized.length) serialized ≠
      .error .limitExceeded) : decodeControlFrame bincode serialized = .ok frame := by
  rw [decodeControlFrame, decodeControlFrameWith, inverts serializedEq below]
  simp

/-- A control record parses to what its payload decodes to, if that is valid. -/
theorem decodeRecord_control (serialized : Bytes) :
    codec.decodeRecord bincode (FRAME_TYPE_CONTROL :: serialized) =
      match decodeControlFrame bincode serialized with
      | .error e => .error e
      | .ok frame =>
          match validateFrame frame codec.validation with
          | .error e => .error ⟨.invalidData, "Frame validation: " ++ e.message⟩
          | .ok () => .ok frame :=
  rfl

/-- The record of a control frame is the frame's serialization. -/
theorem serialized_of_record (control : frame.isData = false)
    (recordEq : frame.record bincode = .ok record) :
    ∃ serialized, bincode.encodeToVec frame = .ok serialized ∧
      record = FRAME_TYPE_CONTROL :: serialized := by
  rw [Frame.record_of_not_isData control] at recordEq
  cases serializedEq : bincode.encodeToVec frame with
  | error e => simp [serializedEq, Except.map] at recordEq
  | ok serialized =>
      simp only [serializedEq, Except.map, Except.ok.injEq] at recordEq
      exact ⟨serialized, rfl, recordEq.symm⟩

/-- Below the decode limit, a valid control frame parses to itself. -/
theorem decodeRecord_record_of_valid (inverts : bincode.Inverts)
    (within : WithinDecodeLimit bincode frame) (control : frame.isData = false)
    (valid : validateFrame frame codec.validation = .ok ())
    (recordEq : frame.record bincode = .ok record) :
    codec.decodeRecord bincode record = .ok frame := by
  obtain ⟨serialized, serializedEq, rfl⟩ := serialized_of_record control recordEq
  have decoded := decodeControlFrame_serialized inverts serializedEq
    (within serialized serializedEq)
  simp only [decodeRecord_control, decoded, valid]

/-- The record of a frame never parses to another frame: what does not parse
to the frame itself is an error. -/
theorem decodeRecord_record (codec : TunnelCodec) (inverts : bincode.Inverts)
    (recordEq : frame.record bincode = .ok record) :
    codec.decodeRecord bincode record = .ok frame ∨
      ∃ e, codec.decodeRecord bincode record = .error e := by
  cases control : frame.isData with
  | true => exact .inl (decodeRecord_record_of_isData control recordEq)
  | false =>
      obtain ⟨serialized, serializedEq, rfl⟩ := serialized_of_record control recordEq
      by_cases hit : bincode.decodeFromSlice (controlDecodeLimit serialized.length) serialized =
          .error .limitExceeded
      · right
        simp [decodeRecord_control, decodeControlFrame, decodeControlFrameWith, hit]
      · rw [decodeRecord_control, decodeControlFrame_serialized inverts serializedEq hit]
        cases valid : validateFrame frame codec.validation with
        | error e | ok done => simp [valid]

/-- Wire round trip.  A successful encoding appends a length prefix and between
one and `maxFrameSize` bytes.  For a data frame, decoding those bytes yields the
frame and leaves what follows; for a frame that passes validation so it does if
bincode inverts its own encoding and does not run into its limit. -/
theorem encode_decode_roundTrip (codec : TunnelCodec) (bincode : Bincode) (frame : Frame)
    (pre out : Bytes) (encoded : codec.encode bincode frame pre = (.ok (), out)) :
    ∃ appended, out = pre ++ appended ∧
      (∃ n, appended.length = 4 + n ∧ 1 ≤ n ∧ n ≤ codec.maxFrameSize) ∧
      (frame.isData → ∀ rest,
        codec.decode bincode (appended ++ rest) = (.ok (some frame), rest)) ∧
      (bincode.Inverts → WithinDecodeLimit bincode frame →
        validateFrame frame codec.validation = .ok () → ∀ rest,
          codec.decode bincode (appended ++ rest) = (.ok (some frame), rest)) := by
  obtain ⟨record, recordEq, bounded, rfl⟩ := encode_eq_ok_iff.mp encoded
  have nonempty := Frame.record_ne_nil recordEq
  have decodes (parsed : codec.decodeRecord bincode record = .ok frame) (rest : Bytes) :
      codec.decode bincode (lengthPrefixed record ++ rest) = (.ok (some frame), rest) := by
    rw [decode_lengthPrefixed nonempty bounded rest, parsed]
    rfl
  refine ⟨lengthPrefixed record, rfl, ⟨record.length, lengthPrefixed_length record,
    List.length_pos_iff.mpr nonempty, bounded⟩, ?_, ?_⟩
  · intro isData
    exact decodes (decodeRecord_record_of_isData isData recordEq)
  · intro inverts within valid
    cases control : frame.isData with
    | true => exact decodes (decodeRecord_record_of_isData control recordEq)
    | false => exact decodes (decodeRecord_record_of_valid inverts within control valid recordEq)

/-- A heartbeat crosses the wire in seven bytes, a data frame of one byte in eleven. -/
theorem heartbeat_roundTrip :
    (∀ rest, TunnelCodec.default.decode (.standard .sorted) (lengthPrefixed [0, 8, 7] ++ rest) =
      (.ok (some (.heartbeat 7)), rest)) ∧
    ∀ rest, TunnelCodec.default.decode (.standard .sorted)
      (lengthPrefixed [1, 0, 0, 0, 2, 0, 42] ++ rest) = (.ok (some (.data 2 [42] false)), rest) := by
  obtain ⟨_, rfl, -, -, control⟩ := encode_decode_roundTrip .default (.standard .sorted)
    (.heartbeat 7) [] (lengthPrefixed [0, 8, 7]) rfl
  obtain ⟨_, rfl, -, data, -⟩ := encode_decode_roundTrip .default (.standard .sorted)
    (.data 2 [42] false) [] (lengthPrefixed [1, 0, 0, 0, 2, 0, 42]) rfl
  have within : WithinDecodeLimit (.standard .sorted) (.heartbeat 7) := by
    intro serialized serializedEq
    cases serializedEq
    decide +kernel
  exact ⟨control Bincode.standard_inverts within rfl, data rfl⟩

end TunnelCodec

end FerroTunnel.Wire
