import FerroTunnel.Arith.PowerOfTwo
import FerroTunnel.Serial.Charge
import FerroTunnel.Wire.ContentLimits
import FerroTunnel.Wire.StandardBincode

/-!
# The budget of control frames

The budget for decoding a control payload is the next power of two above its length
and some headroom, but no more than the frame ceiling.  The charge of a valid frame
exceeds its length by less than the headroom, so only the ceiling can be in the way:
it is for plugin data that fills a frame of the largest size.
-/

namespace FerroTunnel.Wire

open FerroTunnel.Arith
open FerroTunnel.Bytes
open FerroTunnel.Serial
open FerroTunnel.Serial.Format

/-! ## The selected limit -/

/-- The budget before it is rounded to a rung. -/
def controlBudget (len : Nat) : Nat :=
  min ((checkedNextPowerOfTwo (saturatingAdd len CONTROL_DECODE_HEADROOM)).getD MAX_FRAME_SIZE)
    MAX_FRAME_SIZE

theorem controlDecodeLimit_eq (len : Nat) :
    controlDecodeLimit len =
      (decodeLimits.find? fun limit => controlBudget len ≤ limit).getD MAX_FRAME_SIZE :=
  rfl

/-- The budget is a power of two: it covers the length with its headroom unless it is
the ceiling, and is no more than twice that. -/
theorem controlBudget_eq (len : Nat) :
    ∃ exponent, exponent ≤ 24 ∧ controlBudget len = 2 ^ exponent ∧
      min (len + CONTROL_DECODE_HEADROOM) MAX_FRAME_SIZE ≤ 2 ^ exponent ∧
      2 ^ exponent ≤ 2 * (len + CONTROL_DECODE_HEADROOM) := by
  have ceiling : MAX_FRAME_SIZE = 2 ^ 24 := rfl
  have headroom : CONTROL_DECODE_HEADROOM = 2 ^ 16 := rfl
  have saturated : saturatingAdd len CONTROL_DECODE_HEADROOM =
      min (len + CONTROL_DECODE_HEADROOM) (2 ^ 64 - 1) := rfl
  rw [controlBudget, checkedNextPowerOfTwo]
  generalize saturatingAdd len CONTROL_DECODE_HEADROOM = sum at saturated
  have lower := le_nextPowerOfTwo sum
  have upper := @nextPowerOfTwo_lt_double sum (by omega)
  by_cases small : sum.nextPowerOfTwo ≤ MAX_FRAME_SIZE
  · obtain ⟨exponent, powerEq⟩ := exists_nextPowerOfTwo_eq sum
    rw [if_pos (by omega), Option.getD_some, Nat.min_eq_left small]
    refine ⟨exponent, ?_, powerEq, by omega, by omega⟩
    rw [powerEq, ceiling] at small
    exact (Nat.pow_le_pow_iff_right (by decide)).mp small
  · -- the power is above the ceiling, or does not fit a word
    have capped : min ((if sum.nextPowerOfTwo < 2 ^ 64 then some sum.nextPowerOfTwo
        else none).getD MAX_FRAME_SIZE) MAX_FRAME_SIZE = MAX_FRAME_SIZE := by
      apply Nat.min_eq_right
      split
      · rw [Option.getD_some]
        exact (Nat.not_le.mp small).le
      · rw [Option.getD_none]
    exact ⟨24, Nat.le_refl 24, capped, by omega, by omega⟩

/-- The ladder has a rung for every power of two from 2^17 to the ceiling. -/
theorem find_decodeLimits {exponent : Nat} (bounded : exponent ≤ 24) :
    (decodeLimits.find? fun limit => 2 ^ exponent ≤ limit).getD MAX_FRAME_SIZE =
      max (2 ^ 17) (2 ^ exponent) := by
  have rungs : ∀ exponent : Fin 25,
      (decodeLimits.find? fun limit => 2 ^ exponent.val ≤ limit).getD MAX_FRAME_SIZE =
        max (2 ^ 17) (2 ^ exponent.val) := by
    decide
  exact rungs ⟨exponent, Nat.lt_succ_of_le bounded⟩

/-- The selected limit covers the length with its headroom unless it is the ceiling,
and is bounded by both. -/
theorem controlDecodeLimit_bounds (len : Nat) :
    min (len + CONTROL_DECODE_HEADROOM) MAX_FRAME_SIZE ≤ controlDecodeLimit len ∧
      controlDecodeLimit len ≤ max (2 ^ 17) (2 * (len + CONTROL_DECODE_HEADROOM)) ∧
      controlDecodeLimit len ≤ MAX_FRAME_SIZE := by
  obtain ⟨exponent, bounded, budgetEq, covers, double⟩ := controlBudget_eq len
  rw [controlDecodeLimit_eq, budgetEq, find_decodeLimits bounded]
  have ceiling : 2 ^ exponent ≤ MAX_FRAME_SIZE := Nat.pow_le_pow_right (by decide) bounded
  refine ⟨covers.trans (Nat.le_max_right _ _), ?_, ?_⟩
  · exact max_le_max_left _ double
  · exact Nat.max_le.mpr ⟨by decide, ceiling⟩

/-! ## The charge of a valid frame -/

theorem MetadataOrder.length_entries (order : MetadataOrder)
    (metadata : Finmap fun _ : String => String) :
    (order.entries metadata).length = metadata.keys.card := by
  have keysEq : ((order.entries metadata).map Prod.fst).toFinset = metadata.keys := by
    ext key
    rw [List.mem_toFinset, Finmap.mem_keys, Finmap.mem_iff, List.mem_map]
    constructor
    · rintro ⟨entry, member, rfl⟩
      exact ⟨entry.2, order.mem_entries.mp member⟩
    · rintro ⟨value, stored⟩
      exact ⟨(key, value), order.mem_entries.mpr stored, rfl⟩
  rw [← keysEq, List.toFinset_card_of_nodup (order.nodup metadata), List.length_map]

section Charges

variable {limits : ValidationLimits} {order : MetadataOrder}

theorem within_capabilities {capabilities : List String}
    (valid : validateCapabilities capabilities limits = .ok ()) :
    stringsFormat.Within capabilities (7 + limits.maxCapabilities * 7)
      (8 + limits.maxCapabilities * (8 + limits.maxCapabilityLen)) := by
  obtain ⟨few, short⟩ := validateCapabilities_eq_ok_iff.mp valid
  exact within_list few fun cap listed => within_string (short cap listed)

theorem within_handshake {handshake : HandshakeFrame}
    (valid : validateHandshake handshake limits = .ok ()) :
    HandshakeFrame.format.Within handshake (21 + limits.maxCapabilities * 7)
      (27 + limits.maxTokenLen + limits.maxNameLen +
        limits.maxCapabilities * (8 + limits.maxCapabilityLen)) := by
  obtain ⟨token, tunnelId, -, capabilities⟩ := validateHandshake_eq_ok_iff.mp valid
  have name : string.option.Within handshake.tunnelId 7 (1 + (8 + limits.maxNameLen)) :=
    within_option fun name given => within_string (tunnelId name given)
  have versions := (within_word8 handshake.minVersion).pair <|
    (within_word8 handshake.maxVersion).pair (within_capabilities capabilities)
  have fields := (within_string token).pair (name.pair versions)
  exact Within.refine (fields.mono (by omega) (by omega))

theorem within_metadata {serviceName : String} {metadata : Finmap fun _ : String => String}
    (valid : validateRegister serviceName metadata limits = .ok ()) :
    (metadataFormat order).Within metadata (7 + limits.maxMetadataEntries * 14)
      (8 + limits.maxMetadataEntries *
        (8 + limits.maxNameLen + (8 + limits.maxMetadataValueLen))) := by
  obtain ⟨-, few, short⟩ := validateRegister_eq_ok_iff.mp valid
  rw [← order.length_entries] at few
  apply Within.refine
  apply within_list few
  rintro ⟨key, value⟩ listed
  obtain ⟨shortKey, shortValue⟩ := short key value (order.mem_entries.mp listed)
  exact (within_string shortKey).pair (within_string shortValue)

theorem within_openStream {openStream : OpenStreamFrame}
    (valid : validateOpenStream openStream limits = .ok ()) :
    OpenStreamFrame.format.Within openStream (23 + limits.maxHeaders * 14)
      (29 + limits.maxHeaders * (8 + limits.maxHeaderLen + (8 + limits.maxHeaderLen))) := by
  obtain ⟨few, short⟩ := validateOpenStream_eq_ok_iff.mp valid
  have headers : entriesFormat.Within openStream.headers _ _ :=
    within_list few fun header listed =>
      (within_string (short header listed).1).pair (within_string (short header listed).2)
  have protocol : Protocol.format.Within openStream.protocol 3 4 := within_values _
  have hint : word64.option.Within openStream.bodyHint 7 9 :=
    within_option fun hint _ => within_word64 hint
  have priority : StreamPriority.format.Within openStream.priority 3 4 := within_values _
  have fields := (within_word32 openStream.streamId).pair <|
    protocol.pair <| headers.pair <| hint.pair priority
  exact Within.refine (fields.mono (by omega) (by omega))

theorem within_closeReason {streamId : UInt32} {reason : CloseReason}
    (valid : validateFrame (.closeStream streamId reason) limits = .ok ()) :
    CloseReason.format.Within reason 10 (12 + limits.maxErrorMessageLen) := by
  cases reason with
  | normal => exact ((within_unit ()).variant 0 rfl rfl).mono (by omega) (by omega)
  | timeout => exact ((within_unit ()).variant 1 rfl rfl).mono (by omega) (by omega)
  | error message =>
      have short : message.utf8ByteSize ≤ limits.maxErrorMessageLen :=
        checkFieldLen_eq_ok_iff.mp valid
      exact ((within_string short).variant 2 rfl rfl).mono (by omega) (by omega)
  | localServiceUnreachable =>
      exact ((within_unit ()).variant 3 rfl rfl).mono (by omega) (by omega)
  | protocolViolation => exact ((within_unit ()).variant 4 rfl rfl).mono (by omega) (by omega)

/-- The payload limit concerns plugin data alone among the control frames. -/
theorem validateFrame_eq_default {frame : Frame} (control : frame.isData = false)
    (other : ∀ pluginId data, frame ≠ .pluginData pluginId data) (maxFrameBytes : UInt64)
    (maxPayloadBytes : Nat) :
    validateFrame frame { ValidationLimits.default with maxFrameBytes, maxPayloadBytes } =
      validateFrame frame .default := by
  cases frame with
  | data streamId data endOfStream => cases control
  | pluginData pluginId data => exact absurd rfl (other pluginId data)
  | _ => rfl

/-- Under the default limits, every valid control frame but plugin data is charged no
more than its length with the headroom, and no more than the ceiling. -/
theorem within_of_valid {frame : Frame} (control : frame.isData = false)
    (other : ∀ pluginId data, frame ≠ .pluginData pluginId data)
    (valid : validateFrame frame .default = .ok ()) :
    (Frame.format order).Within frame CONTROL_DECODE_HEADROOM MAX_FRAME_SIZE := by
  cases frame with
  | handshake handshake =>
      exact ((within_handshake valid).variant 0 rfl rfl).mono (by decide) (by decide)
  | handshakeAck sessionId status version serverCapabilities =>
      have sixteen : (putLE 16 sessionId.toNat).reverse.length ≤ 16 := by
        rw [List.length_reverse, putLE_length]
      have uuid : Uuid.format.Within sessionId 7 24 := Within.refine (within_bytes sixteen)
      have code : HandshakeStatus.format.Within status 3 4 := within_values _
      have fields := uuid.pair <| code.pair <|
        (within_word8 version).pair (within_capabilities valid)
      exact (fields.variant 1 rfl rfl).mono (by decide) (by decide)
  | register serviceName protocol metadata =>
      have name := within_string (validateRegister_eq_ok_iff.mp valid).1
      have kind : Protocol.format.Within protocol 3 4 := within_values _
      have fields := name.pair <| kind.pair (@within_metadata _ order _ _ valid)
      exact (fields.variant 2 rfl rfl).mono (by decide) (by decide)
  | registerAck publicUrl status =>
      have url := within_string (checkFieldLen_eq_ok_iff.mp valid)
      have code : RegisterStatus.format.Within status 3 4 := within_values _
      exact ((url.pair code).variant 3 rfl rfl).mono (by decide) (by decide)
  | openStream openStream =>
      exact ((within_openStream valid).variant 4 rfl rfl).mono (by decide) (by decide)
  | streamAck streamId status =>
      have code : StreamStatus.format.Within status 3 4 := within_values _
      exact (((within_word32 streamId).pair code).variant 5 rfl rfl).mono (by decide) (by decide)
  | data streamId data endOfStream => cases control
  | closeStream streamId reason =>
      have fields := (within_word32 streamId).pair (within_closeReason valid)
      exact (fields.variant 7 rfl rfl).mono (by decide) (by decide)
  | heartbeat timestamp =>
      exact ((within_word64 timestamp).variant 8 rfl rfl).mono (by decide) (by decide)
  | heartbeatAck timestamp =>
      exact ((within_word64 timestamp).variant 9 rfl rfl).mono (by decide) (by decide)
  | error streamId code message =>
      have stream : word32.option.Within streamId 3 5 :=
        within_option fun id _ => within_word32 id
      have kind : ErrorCode.format.Within code 3 4 := within_values _
      have fields := stream.pair <| kind.pair (within_string (checkFieldLen_eq_ok_iff.mp valid))
      exact (fields.variant 10 rfl rfl).mono (by decide) (by decide)
  | pluginData pluginId data => exact absurd rfl (other pluginId data)

/-- Plugin data is charged its two fields, and the widths of three integers. -/
theorem charge_pluginData (pluginId : String) (data : Bytes) :
    (Frame.format order).charge (.pluginData pluginId data) =
      20 + pluginId.utf8ByteSize + data.length := by
  change 4 + (string.charge pluginId + (8 + data.length)) = _
  rw [charge_string]
  omega

theorem within_pluginData (pluginId : String) (data : Bytes) :
    (Frame.format order).Within (.pluginData pluginId data) 17
      (20 + pluginId.utf8ByteSize + data.length) := by
  have fields := (@within_string pluginId _ (Nat.le_refl _)).pair
    (@within_bytes data _ (Nat.le_refl _))
  exact (fields.variant 11 rfl rfl).mono (by omega) (by omega)

end Charges

/-- A frame is decoded within its limit exactly when its charge is. -/
theorem Bincode.IsStandard.withinDecodeLimit_iff {bincode : Bincode} {order : MetadataOrder}
    {frame : Frame} {serialized : Bytes} (assumed : bincode.IsStandard order)
    (serializedEq : bincode.encodeToVec frame = .ok serialized) :
    TunnelCodec.WithinDecodeLimit bincode frame ↔
      (Frame.format order).charge frame ≤ controlDecodeLimit serialized.length := by
  have decoded := assumed.charging serializedEq (controlDecodeLimit serialized.length)
  constructor
  · intro within
    by_contra expensive
    rw [if_neg expensive] at decoded
    exact within serialized serializedEq decoded
  · intro affordable other otherEq
    cases serializedEq.symm.trans otherEq
    rw [decoded, if_pos affordable]
    nofun

namespace TunnelCodec

/-- The limit selected for a frame covers what is charged within the headroom and the
ceiling. -/
theorem charge_le_controlDecodeLimit {charge len : Nat}
    (slack : charge ≤ len + CONTROL_DECODE_HEADROOM) (cap : charge ≤ MAX_FRAME_SIZE) :
    charge ≤ controlDecodeLimit len :=
  (Nat.le_min.mpr ⟨slack, cap⟩).trans (controlDecodeLimit_bounds len).1

/-- With every serializer of bincode's standard layout and charging, every valid control
frame that the codec encodes is decoded within the selected limit, except plugin data
that is charged more than the frame ceiling; and the limit is bounded by the length of
the payload and by the ceiling. -/
theorem withinDecodeLimit_iff_pluginData_fits (bincode : Bincode) (order : MetadataOrder)
    (assumed : bincode.IsStandard order) (maxFrameSize : Nat)
    (codec : TunnelCodec) (built : withMaxFrameSize maxFrameSize = .ok codec) :
    (∀ frame dst out, frame.isData = false →
      codec.encode bincode frame dst = (.ok (), out) →
      validateFrame frame codec.validation = .ok () →
        (WithinDecodeLimit bincode frame ↔
          ∀ pluginId data, frame = .pluginData pluginId data →
            20 + pluginId.utf8ByteSize + data.length ≤ MAX_FRAME_SIZE)) ∧
    ∀ len, controlDecodeLimit len ≤ max (2 ^ 17) (2 * (len + 65536)) ∧
      controlDecodeLimit len ≤ MAX_FRAME_SIZE := by
  constructor
  · intro frame dst out control encoded valid
    obtain ⟨record, recordEq, -, -⟩ := encode_eq_ok_iff.mp encoded
    obtain ⟨serialized, serializedEq, -⟩ := serialized_of_record control recordEq
    have written := assumed.layout serializedEq
    rw [assumed.withinDecodeLimit_iff serializedEq]
    rw [eq_of_withMaxFrameSize built] at valid
    by_cases plugin : ∃ pluginId data, frame = .pluginData pluginId data
    · obtain ⟨pluginId, data, rfl⟩ := plugin
      have slack := (@within_pluginData order pluginId data).slack
      rw [written] at slack
      rw [charge_pluginData] at slack ⊢
      constructor
      · rintro below _ _ ⟨⟩
        exact below.trans (controlDecodeLimit_bounds serialized.length).2.2
      · intro fits
        apply charge_le_controlDecodeLimit _ (fits pluginId data rfl)
        exact slack.trans (Nat.add_le_add_left (by decide) _)
    · have other (pluginId : String) (data : Bytes) : frame ≠ .pluginData pluginId data :=
        fun same => plugin ⟨pluginId, data, same⟩
      rw [validateFrame_eq_default control other] at valid
      have within := @within_of_valid order frame control other valid
      have slack := within.slack
      rw [written] at slack
      apply iff_of_true
      · exact charge_le_controlDecodeLimit slack within.cap
      · intro pluginId data same
        exact absurd ⟨pluginId, data, same⟩ plugin
  · intro len
    exact (controlDecodeLimit_bounds len).2

theorem withinDecodeLimit_heartbeat :
    WithinDecodeLimit (.standard .sorted) (.heartbeat 5) :=
  ((withinDecodeLimit_iff_pluginData_fits (.standard .sorted) .sorted Bincode.isStandard_standard
    MAX_FRAME_SIZE .default withMaxFrameSize_default).1 (.heartbeat 5) []
      [0, 0, 0, 3, 0, 8, 5] rfl rfl rfl).mpr nofun

/-- Plugin data with an empty id that fills a frame of the largest size. -/
def fullPluginData : Frame :=
  .pluginData "" (List.replicate (2 ^ 24 - 8) 0)

/-- The index, the empty id, five bytes of length, and the data. -/
theorem length_write_pluginData (order : MetadataOrder) {data : Bytes}
    (large : ¬data.length < 2 ^ 16) (bounded : data.length < 2 ^ 32) :
    ((Frame.format order).write (.pluginData "" data)).length = 7 + data.length := by
  have prefixed : writeVarint data.length = 252 :: putLE 4 data.length := by
    rw [writeVarint, if_neg (by omega), if_neg large, if_pos bounded]
  change (writeVarint 11 ++ (string.write "" ++ (writeVarint data.length ++ data))).length = _
  rw [prefixed]
  simp only [List.length_append, List.length_cons, putLE_length]
  change 1 + (1 + (4 + 1 + data.length)) = _
  omega

/-- The codec with the default limits encodes it, and validation accepts it, but the
codec does not decode it. -/
theorem fullPluginData_exceeds_limit :
    validateFrame fullPluginData TunnelCodec.default.validation = .ok () ∧
    ∃ out, TunnelCodec.default.encode (.standard .sorted) fullPluginData [] = (.ok (), out) ∧
      TunnelCodec.default.decode (.standard .sorted) out =
        (.error ⟨.invalidData, "Decode error: LimitExceeded"⟩, []) := by
  have size : (List.replicate (2 ^ 24 - 8) (0 : UInt8)).length = 2 ^ 24 - 8 :=
    List.length_replicate
  rw [fullPluginData]
  generalize List.replicate (2 ^ 24 - 8) (0 : UInt8) = data at size
  have written := @length_write_pluginData .sorted data (by omega) (by omega)
  constructor
  · apply validatePluginData_eq_ok_iff.mpr
    rw [size]
    exact ⟨Nat.zero_le _, by decide⟩
  have serializedEq := @Bincode.standard_encodeToVec_eq_ok_iff .sorted (.pluginData "" data)
    ((Frame.format .sorted).write (.pluginData "" data)) |>.mpr ⟨by omega, rfl⟩
  have expensive := @charge_pluginData .sorted "" data
  generalize (Frame.format .sorted).write (.pluginData "" data) = serialized
    at written serializedEq
  have recordEq : Frame.record (.standard .sorted) (.pluginData "" data) =
      .ok (FRAME_TYPE_CONTROL :: serialized) := by
    rw [Frame.record_of_not_isData rfl, serializedEq]
    rfl
  have fits : (FRAME_TYPE_CONTROL :: serialized).length ≤ TunnelCodec.default.maxFrameSize := by
    have ceiling : TunnelCodec.default.maxFrameSize = 2 ^ 24 := rfl
    rw [List.length_cons, ceiling]
    omega
  refine ⟨lengthPrefixed (FRAME_TYPE_CONTROL :: serialized), ?_, ?_⟩
  · exact encode_eq_ok_iff.mpr ⟨_, recordEq, fits, (List.nil_append _).symm⟩
  · have exceeded : ¬(Frame.format .sorted).charge (.pluginData "" data) ≤
        controlDecodeLimit serialized.length := by
      have ceiling : controlDecodeLimit serialized.length ≤ 2 ^ 24 :=
        (controlDecodeLimit_bounds _).2.2
      rw [expensive]
      omega
    have decoded := @decode_lengthPrefixed .default (.standard .sorted)
      (FRAME_TYPE_CONTROL :: serialized) (List.cons_ne_nil _ _) fits []
    rw [List.append_nil, decodeRecord_control, decodeControlFrame, decodeControlFrameWith,
      Bincode.standard_decodeFromSlice serializedEq, if_neg exceeded] at decoded
    exact decoded

end TunnelCodec

end FerroTunnel.Wire
