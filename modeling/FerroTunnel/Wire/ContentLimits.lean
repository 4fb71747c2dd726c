import FerroTunnel.Wire.Grammar

/-!
# Content limits of decoded frames

Every string and byte field of a frame is of a kind that has a length limit,
and every collection is of a kind that has an entry limit.  Validation accepts
exactly the frames within these limits.  Data records are not validated; they
stay within the limits because a payload is shorter than its record, and the
payload limit of every codec is its frame size.
-/

namespace FerroTunnel.Wire

open FerroTunnel.Checked

/-! ## Fields and collections -/

/-- The kinds of string and byte fields. -/
inductive FieldKind where
  | token
  | tunnelId
  | capability
  | serviceName
  | metadataKey
  | metadataValue
  | publicUrl
  | headerName
  | headerValue
  | errorMessage
  | closeMessage
  | pluginId
  | payload
  deriving DecidableEq

/-- The byte length allowed for a field. -/
def FieldKind.limit (limits : ValidationLimits) : FieldKind → Nat
  | .token => limits.maxTokenLen
  | .tunnelId => limits.maxNameLen
  | .capability => limits.maxCapabilityLen
  | .serviceName | .metadataKey => limits.maxNameLen
  | .metadataValue => limits.maxMetadataValueLen
  | .publicUrl => limits.maxUrlLen
  | .headerName | .headerValue => limits.maxHeaderLen
  | .errorMessage | .closeMessage => limits.maxErrorMessageLen
  | .pluginId => limits.maxNameLen
  | .payload => limits.maxPayloadBytes

/-- The kinds of collections. -/
inductive CollectionKind where
  | capabilities
  | metadata
  | headers
  deriving DecidableEq

/-- The number of entries allowed for a collection. -/
def CollectionKind.limit (limits : ValidationLimits) : CollectionKind → Nat
  | .capabilities => limits.maxCapabilities
  | .metadata => limits.maxMetadataEntries
  | .headers => limits.maxHeaders

/-- The string and byte fields of a frame, with their lengths in bytes. -/
inductive Frame.HasField : Frame → FieldKind → Nat → Prop
  | token (handshake : HandshakeFrame) :
      HasField (.handshake handshake) .token handshake.token.utf8ByteSize
  | tunnelId (handshake : HandshakeFrame) (tunnelId : String)
      (given : tunnelId ∈ handshake.tunnelId) :
      HasField (.handshake handshake) .tunnelId tunnelId.utf8ByteSize
  | capability (handshake : HandshakeFrame) (cap : String)
      (listed : cap ∈ handshake.capabilities) :
      HasField (.handshake handshake) .capability cap.utf8ByteSize
  | serverCapability (sessionId : Uuid) (status : HandshakeStatus) (version : UInt8)
      (serverCapabilities : List String) (cap : String) (listed : cap ∈ serverCapabilities) :
      HasField (.handshakeAck sessionId status version serverCapabilities) .capability
        cap.utf8ByteSize
  | serviceName (serviceName : String) (protocol : Protocol)
      (metadata : Finmap fun _ : String => String) :
      HasField (.register serviceName protocol metadata) .serviceName serviceName.utf8ByteSize
  | metadataKey (serviceName : String) (protocol : Protocol)
      (metadata : Finmap fun _ : String => String) (key : String) (present : key ∈ metadata) :
      HasField (.register serviceName protocol metadata) .metadataKey key.utf8ByteSize
  | metadataValue (serviceName : String) (protocol : Protocol)
      (metadata : Finmap fun _ : String => String) (key value : String)
      (stored : metadata.lookup key = some value) :
      HasField (.register serviceName protocol metadata) .metadataValue value.utf8ByteSize
  | publicUrl (publicUrl : String) (status : RegisterStatus) :
      HasField (.registerAck publicUrl status) .publicUrl publicUrl.utf8ByteSize
  | headerName (openStream : OpenStreamFrame) (header : String × String)
      (listed : header ∈ openStream.headers) :
      HasField (.openStream openStream) .headerName header.1.utf8ByteSize
  | headerValue (openStream : OpenStreamFrame) (header : String × String)
      (listed : header ∈ openStream.headers) :
      HasField (.openStream openStream) .headerValue header.2.utf8ByteSize
  | data (streamId : UInt32) (data : Bytes) (endOfStream : Bool) :
      HasField (.data streamId data endOfStream) .payload data.length
  | closeMessage (streamId : UInt32) (message : String) :
      HasField (.closeStream streamId (.error message)) .closeMessage message.utf8ByteSize
  | errorMessage (streamId : Option UInt32) (code : ErrorCode) (message : String) :
      HasField (.error streamId code message) .errorMessage message.utf8ByteSize
  | pluginId (pluginId : String) (data : Bytes) :
      HasField (.pluginData pluginId data) .pluginId pluginId.utf8ByteSize
  | pluginPayload (pluginId : String) (data : Bytes) :
      HasField (.pluginData pluginId data) .payload data.length

/-- The collections of a frame, with their numbers of entries. -/
inductive Frame.HasCollection : Frame → CollectionKind → Nat → Prop
  | capabilities (handshake : HandshakeFrame) :
      HasCollection (.handshake handshake) .capabilities handshake.capabilities.length
  | serverCapabilities (sessionId : Uuid) (status : HandshakeStatus) (version : UInt8)
      (serverCapabilities : List String) :
      HasCollection (.handshakeAck sessionId status version serverCapabilities) .capabilities
        serverCapabilities.length
  | metadata (serviceName : String) (protocol : Protocol)
      (metadata : Finmap fun _ : String => String) :
      HasCollection (.register serviceName protocol metadata) .metadata metadata.keys.card
  | headers (openStream : OpenStreamFrame) :
      HasCollection (.openStream openStream) .headers openStream.headers.length

/-- A frame whose fields and collections are all within their limits, and whose
version range, if it has one, is not empty. -/
structure Frame.WithinLimits (limits : ValidationLimits) (frame : Frame) : Prop where
  fields : ∀ {kind len}, frame.HasField kind len → len ≤ kind.limit limits
  collections : ∀ {kind count}, frame.HasCollection kind count → count ≤ kind.limit limits
  versions : ∀ {handshake}, frame = .handshake handshake →
    handshake.minVersion ≤ handshake.maxVersion

/-! ## Validation -/

theorem checkFieldLen_eq_ok_iff {len limit : Nat} {u : Unit} :
    checkFieldLen len limit = .ok u ↔ len ≤ limit := by
  simp [checkFieldLen]

theorem checkEntryCount_eq_ok_iff {count limit : Nat} {u : Unit} :
    checkEntryCount count limit = .ok u ↔ count ≤ limit := by
  simp [checkEntryCount]

variable {limits : ValidationLimits}

theorem validatePayload_eq_ok_iff {len : Nat} {u : Unit} :
    validatePayload len limits = .ok u ↔ len ≤ limits.maxPayloadBytes := by
  simp [validatePayload]

theorem validateRegister_eq_ok_iff {serviceName : String}
    {metadata : Finmap fun _ : String => String} :
    validateRegister serviceName metadata limits = .ok () ↔
      serviceName.utf8ByteSize ≤ limits.maxNameLen ∧
        metadata.keys.card ≤ limits.maxMetadataEntries ∧
        ∀ key value, metadata.lookup key = some value →
          key.utf8ByteSize ≤ limits.maxNameLen ∧
            value.utf8ByteSize ≤ limits.maxMetadataValueLen := by
  simp only [validateRegister, bind_eq_ok_iff, checkFieldLen_eq_ok_iff,
    checkEntryCount_eq_ok_iff, forM_eq_ok_iff, Finset.mem_sort, Finmap.mem_keys, exists_const]
  apply and_congr_right
  intro _
  apply and_congr_right
  intro _
  constructor
  · intro checked key value stored
    have checkedKey := checked key (Finmap.mem_iff.mpr ⟨value, stored⟩)
    rwa [stored] at checkedKey
  · intro bounded key present
    obtain ⟨value, stored⟩ := Finmap.mem_iff.mp present
    rw [stored]
    exact bounded key value stored

theorem validateOpenStream_eq_ok_iff {openStream : OpenStreamFrame} :
    validateOpenStream openStream limits = .ok () ↔
      openStream.headers.length ≤ limits.maxHeaders ∧
        ∀ header ∈ openStream.headers, header.1.utf8ByteSize ≤ limits.maxHeaderLen ∧
          header.2.utf8ByteSize ≤ limits.maxHeaderLen := by
  simp [validateOpenStream, checkFieldLen, checkEntryCount]

theorem validatePluginData_eq_ok_iff {pluginId : String} {data : Bytes} :
    validateFrame (.pluginData pluginId data) limits = .ok () ↔
      pluginId.utf8ByteSize ≤ limits.maxNameLen ∧ data.length ≤ limits.maxPayloadBytes := by
  simp [validateFrame, checkFieldLen, validatePayload]

/-- No field of a frame that passes validation is too long. -/
theorem field_le_of_valid {frame : Frame} {kind : FieldKind} {len : Nat}
    (valid : validateFrame frame limits = .ok ()) (field : frame.HasField kind len) :
    len ≤ kind.limit limits := by
  cases field with
  | token handshake => exact (validateHandshake_eq_ok_iff.mp valid).1
  | tunnelId handshake tunnelId given =>
      exact (validateHandshake_eq_ok_iff.mp valid).2.1 tunnelId given
  | capability handshake cap listed =>
      have capabilities := (validateHandshake_eq_ok_iff.mp valid).2.2.2
      exact (validateCapabilities_eq_ok_iff.mp capabilities).2 cap listed
  | serverCapability sessionId status version serverCapabilities cap listed =>
      exact (validateCapabilities_eq_ok_iff.mp valid).2 cap listed
  | serviceName serviceName protocol metadata =>
      exact (validateRegister_eq_ok_iff.mp valid).1
  | metadataKey serviceName protocol metadata key present =>
      obtain ⟨value, stored⟩ := Finmap.mem_iff.mp present
      exact ((validateRegister_eq_ok_iff.mp valid).2.2 key value stored).1
  | metadataValue serviceName protocol metadata key value stored =>
      exact ((validateRegister_eq_ok_iff.mp valid).2.2 key value stored).2
  | publicUrl publicUrl status | closeMessage streamId message
  | errorMessage streamId code message => exact checkFieldLen_eq_ok_iff.mp valid
  | headerName openStream header listed =>
      exact ((validateOpenStream_eq_ok_iff.mp valid).2 header listed).1
  | headerValue openStream header listed =>
      exact ((validateOpenStream_eq_ok_iff.mp valid).2 header listed).2
  | data streamId data endOfStream => exact validatePayload_eq_ok_iff.mp valid
  | pluginId pluginId data => exact (validatePluginData_eq_ok_iff.mp valid).1
  | pluginPayload pluginId data => exact (validatePluginData_eq_ok_iff.mp valid).2

/-- No collection of a frame that passes validation has too many entries. -/
theorem collection_le_of_valid {frame : Frame} {kind : CollectionKind} {count : Nat}
    (valid : validateFrame frame limits = .ok ()) (collection : frame.HasCollection kind count) :
    count ≤ kind.limit limits := by
  cases collection with
  | capabilities handshake =>
      have capabilities := (validateHandshake_eq_ok_iff.mp valid).2.2.2
      exact (validateCapabilities_eq_ok_iff.mp capabilities).1
  | serverCapabilities sessionId status version serverCapabilities =>
      exact (validateCapabilities_eq_ok_iff.mp valid).1
  | metadata serviceName protocol metadata => exact (validateRegister_eq_ok_iff.mp valid).2.1
  | headers openStream => exact (validateOpenStream_eq_ok_iff.mp valid).1

/-- A frame within the limits passes every check. -/
theorem valid_of_withinLimits {frame : Frame} (within : frame.WithinLimits limits) :
    validateFrame frame limits = .ok () := by
  cases frame with
  | handshake handshake =>
      apply validateHandshake_eq_ok_iff.mpr
      constructor
      · exact within.fields (.token handshake)
      constructor
      · intro tunnelId given
        exact within.fields (.tunnelId handshake tunnelId given)
      constructor
      · exact within.versions rfl
      · apply validateCapabilities_eq_ok_iff.mpr
        constructor
        · exact within.collections (.capabilities handshake)
        · intro cap listed
          exact within.fields (.capability handshake cap listed)
  | handshakeAck sessionId status version serverCapabilities =>
      apply validateCapabilities_eq_ok_iff.mpr
      constructor
      · exact within.collections (.serverCapabilities sessionId status version serverCapabilities)
      · intro cap listed
        exact within.fields
          (.serverCapability sessionId status version serverCapabilities cap listed)
  | register serviceName protocol metadata =>
      apply validateRegister_eq_ok_iff.mpr
      constructor
      · exact within.fields (.serviceName serviceName protocol metadata)
      constructor
      · exact within.collections (.metadata serviceName protocol metadata)
      · intro key value stored
        constructor
        · have present : key ∈ metadata := Finmap.mem_iff.mpr ⟨value, stored⟩
          exact within.fields (.metadataKey serviceName protocol metadata key present)
        · exact within.fields (.metadataValue serviceName protocol metadata key value stored)
  | registerAck publicUrl status =>
      exact checkFieldLen_eq_ok_iff.mpr (within.fields (.publicUrl publicUrl status))
  | openStream openStream =>
      apply validateOpenStream_eq_ok_iff.mpr
      constructor
      · exact within.collections (.headers openStream)
      · intro header listed
        exact ⟨within.fields (.headerName openStream header listed),
          within.fields (.headerValue openStream header listed)⟩
  | data streamId data endOfStream =>
      exact validatePayload_eq_ok_iff.mpr (within.fields (.data streamId data endOfStream))
  | closeStream streamId reason =>
      cases reason with
      | error message =>
          exact checkFieldLen_eq_ok_iff.mpr (within.fields (.closeMessage streamId message))
      | _ => rfl
  | error streamId code message =>
      exact checkFieldLen_eq_ok_iff.mpr (within.fields (.errorMessage streamId code message))
  | pluginData pluginId data =>
      apply validatePluginData_eq_ok_iff.mpr
      exact ⟨within.fields (.pluginId pluginId data), within.fields (.pluginPayload pluginId data)⟩
  | streamAck | heartbeat | heartbeatAck => rfl

/-- Validation accepts exactly the frames within the limits. -/
theorem validateFrame_eq_ok_iff {frame : Frame} :
    validateFrame frame limits = .ok () ↔ frame.WithinLimits limits := by
  constructor
  · intro valid
    constructor
    · exact field_le_of_valid valid
    · exact collection_le_of_valid valid
    · rintro handshake rfl
      exact (validateHandshake_eq_ok_iff.mp valid).2.2.1
  · exact valid_of_withinLimits

/-! ## Decoded frames -/

namespace TunnelCodec

variable {codec : TunnelCodec} {bincode : Bincode}

/-- The payload of a data record is shorter than the record. -/
theorem payload_le_of_dataRecord {record : Bytes} {frame : Frame}
    (dataRecord : IsDataRecord record frame) {limits : ValidationLimits}
    (room : record.length ≤ limits.maxPayloadBytes) : validateFrame frame limits = .ok () := by
  obtain ⟨streamId, flags, payload, rfl, rfl⟩ := dataRecord
  apply validatePayload_eq_ok_iff.mpr
  simp only [List.length_cons, List.length_append] at room
  omega

/-- A codec whose payloads may fill its frames decodes only what its validation
would accept, on both paths. -/
theorem valid_of_decode (room : codec.maxFrameSize ≤ codec.validation.maxPayloadBytes)
    {src rest : Bytes} {frame : Frame}
    (decoded : codec.decode bincode src = (.ok (some frame), rest)) :
    validateFrame frame codec.validation = .ok () := by
  obtain ⟨record, nonempty, bounded, -, parsed⟩ := record_of_decode decoded
  rcases (decodeRecord_eq_ok_iff nonempty).mp parsed with dataRecord | control
  · exact payload_le_of_dataRecord dataRecord (bounded.trans room)
  · obtain ⟨payload, -, -, valid⟩ := control
    exact valid

theorem eq_of_withMaxFrameSize {maxFrameSize : Nat}
    (built : withMaxFrameSize maxFrameSize = .ok codec) :
    codec.validation = { ValidationLimits.default with
      maxFrameBytes := UInt64.ofNat maxFrameSize
      maxPayloadBytes := maxFrameSize } :=
  (eq_of_assertFrameSize built).2

/-- A codec built from a frame size lets payloads fill its frames. -/
theorem room_of_withMaxFrameSize {maxFrameSize : Nat}
    (built : withMaxFrameSize maxFrameSize = .ok codec) :
    codec.maxFrameSize ≤ codec.validation.maxPayloadBytes := by
  rw [eq_of_withMaxFrameSize built, (eq_of_assertFrameSize built).1]

/-- A codec built from limits lets payloads fill its frames. -/
theorem room_of_fromLimits {limits : LimitsConfig} (built : fromLimits limits = .ok codec) :
    codec.maxFrameSize ≤ codec.validation.maxPayloadBytes := by
  obtain ⟨sizeEq, validationEq⟩ := eq_of_fromLimits built
  rw [sizeEq, validationEq]
  exact Nat.le_refl _

/-- For accepted limits, every frame that a codec built from them returns is
within all content limits of that codec, and passes its validation, also where
the decoder does not validate.  A codec built from the frame size alone has the
default limits on fields and collections. -/
theorem decoded_within_limits (limits : LimitsConfig) (accepted : validateLimits limits = .ok ())
    (bincode : Bincode) :
    (∃ codec, fromLimits limits = .ok codec) ∧
    (∀ codec, fromLimits limits = .ok codec → ∀ src frame rest,
      codec.decode bincode src = (.ok (some frame), rest) →
        frame.WithinLimits (.ofLimits limits) ∧
          validateFrame frame (.ofLimits limits) = .ok ()) ∧
    ∀ codec, withMaxFrameSize limits.maxFrameBytes.toNat = .ok codec → ∀ src frame rest,
      codec.decode bincode src = (.ok (some frame), rest) →
        frame.WithinLimits { ValidationLimits.default with
          maxFrameBytes := limits.maxFrameBytes
          maxPayloadBytes := limits.maxFrameBytes.toNat } ∧
        validateFrame frame { ValidationLimits.default with
          maxFrameBytes := limits.maxFrameBytes
          maxPayloadBytes := limits.maxFrameBytes.toNat } = .ok () := by
  constructor
  · obtain ⟨codec, built, -⟩ := fromLimits_of_valid accepted
    exact ⟨codec, built⟩
  constructor
  · intro codec built src frame rest decoded
    have valid := valid_of_decode (room_of_fromLimits built) decoded
    rw [(eq_of_fromLimits built).2] at valid
    exact ⟨validateFrame_eq_ok_iff.mp valid, valid⟩
  · intro codec built src frame rest decoded
    have valid := valid_of_decode (room_of_withMaxFrameSize built) decoded
    rw [eq_of_withMaxFrameSize built, UInt64.ofNat_toNat] at valid
    exact ⟨validateFrame_eq_ok_iff.mp valid, valid⟩

/-- The frame of a data record is within the default limits. -/
theorem decoded_within_limits_dataRecord :
    validateLimits .default = .ok () ∧
    fromLimits .default = .ok .default ∧
    TunnelCodec.default.decode (.standard .sorted) (lengthPrefixed [1, 0, 0, 0, 2, 3, 7]) =
      (.ok (some (.data 2 [7] true)), []) ∧
    (Frame.data 2 [7] true).WithinLimits (.ofLimits .default) := by
  have accepted : validateLimits .default = .ok () := by decide
  have decoded : TunnelCodec.default.decode (.standard .sorted)
      (lengthPrefixed [1, 0, 0, 0, 2, 3, 7]) = (.ok (some (.data 2 [7] true)), []) := rfl
  exact ⟨accepted, rfl, decoded, ((decoded_within_limits .default accepted (.standard .sorted)).2.1
    .default rfl _ _ _ decoded).1⟩

end TunnelCodec

end FerroTunnel.Wire
