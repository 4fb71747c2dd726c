import FerroTunnel.Map.Lookup
import FerroTunnel.Serial.Format
import FerroTunnel.Wire.Codec

/-!
# Control frames in bincode's standard configuration

What is assumed of the serializer that the codec takes as a parameter, where the
sizes of payloads matter: the derived layout of every payload type, variant by
variant in the order of their declaration, and that decoding is charged as it reads.
A serializer that reads what it writes out of a budget meets both.

A hash map is written in the order of its iteration, which is not specified.  It is a
parameter here.
-/

namespace FerroTunnel.Wire

open FerroTunnel.Bytes
open FerroTunnel.Serial
open FerroTunnel.Serial.Format

/-! ## Enumerations -/

/-- The statuses of a handshake, by index. -/
def HandshakeStatus.format : Format HandshakeStatus :=
  values [.success, .invalidToken, .unsupportedVersion, .versionMismatch, .rateLimited,
    .tunnelIdTaken] (by decide) (by rintro (_ | _) <;> decide)

/-- The statuses of a registration, by index. -/
def RegisterStatus.format : Format RegisterStatus :=
  values [.success, .serviceNameTaken, .invalidServiceName, .quotaExceeded] (by decide)
    (by rintro (_ | _) <;> decide)

/-- The statuses of a stream, by index. -/
def StreamStatus.format : Format StreamStatus :=
  values [.accepted, .rejected, .backpressureApplied] (by decide) (by rintro (_ | _) <;> decide)

/-- The protocols by their index. -/
def Protocol.format : Format Protocol :=
  values [.http, .https, .http2, .webSocket, .grpc, .tcp, .quic] (by decide)
    (by rintro (_ | _) <;> decide)

/-- The variant index, not the discriminant that the source assigns. -/
def ErrorCode.format : Format ErrorCode :=
  values [.protocolError, .authenticationFailed, .sessionNotFound, .streamNotFound, .timeout,
    .internalServerError, .serviceUnavailable] (by decide) (by rintro (_ | _) <;> decide)

/-- The priorities by their index. -/
def StreamPriority.format : Format StreamPriority :=
  values [.normal, .low, .high, .critical] (by decide) (by rintro (_ | _) <;> decide)

/-- The reason with a message. -/
def CloseReason.errorVariant : Variant CloseReason where
  Payload := String
  format := string
  make := .error
  view
    | .error message => some message
    | _ => none

/-- The reasons by their index. -/
def CloseReason.format : Format CloseReason :=
  variants [.ofValue .normal, .ofValue .timeout, errorVariant, .ofValue .localServiceUnreachable,
    .ofValue .protocolViolation] (by decide) (by
      intro reason
      cases reason with
      | normal => exact covered_at 0 rfl rfl
      | timeout => exact covered_at 1 rfl rfl
      | error => exact covered_at 2 rfl rfl
      | localServiceUnreachable => exact covered_at 3 rfl rfl
      | protocolViolation => exact covered_at 4 rfl rfl)

/-! ## Payloads -/

/-- Sixteen bytes, highest first, behind their length. -/
def Uuid.format : Format Uuid :=
  bytes.refine
    (fun content =>
      if content.length = 16 then some (BitVec.ofNat 128 (getLE content.reverse)) else none)
    (fun uuid => (putLE 16 uuid.toNat).reverse) fun uuid => by
      rw [List.length_reverse, putLE_length, if_pos rfl, List.reverse_reverse,
        getLE_putLE uuid.isLt]
      simp

theorem string_nonempty (value : String) : 0 < (string.write value).length := by
  change 0 < (writeVarint _ ++ _).length
  rw [List.length_append]
  exact Nat.add_pos_left (writeVarint_length_pos _) _

theorem entry_nonempty (entry : String × String) :
    0 < ((string.pair string).write entry).length := by
  change 0 < (string.write entry.1 ++ string.write entry.2).length
  rw [List.length_append]
  exact Nat.add_pos_left (string_nonempty entry.1) _

/-- A list of strings. -/
def stringsFormat : Format (List String) :=
  string.list string_nonempty

/-- A list of pairs. -/
def entriesFormat : Format (List (String × String)) :=
  (string.pair string).list entry_nonempty

/-- The order in which a hash map is iterated. -/
structure MetadataOrder where
  entries : (Finmap fun _ : String => String) → List (String × String)
  nodup : ∀ metadata, ((entries metadata).map Prod.fst).Nodup
  mem_entries : ∀ {metadata key value},
    (key, value) ∈ entries metadata ↔ metadata.lookup key = some value

/-- The map that entries are collected into; a later entry replaces an earlier one. -/
def collectMetadata (metadata : Finmap fun _ : String => String) :
    List (String × String) → Finmap fun _ : String => String
  | [] => metadata
  | entry :: rest => collectMetadata (metadata.insert entry.1 entry.2) rest

/-- A collected key has the value of its entry, or of the map before. -/
theorem lookup_collectMetadata {metadata : Finmap fun _ : String => String}
    {entries : List (String × String)} (nodup : (entries.map Prod.fst).Nodup)
    {key value : String} :
    (collectMetadata metadata entries).lookup key = some value ↔
      (key, value) ∈ entries ∨
        (key ∉ entries.map Prod.fst ∧ metadata.lookup key = some value) := by
  induction entries generalizing metadata with
  | nil => simp [collectMetadata]
  | cons entry rest ih =>
      obtain ⟨entryKey, entryValue⟩ := entry
      obtain ⟨fresh, nodupRest⟩ := List.nodup_cons.mp nodup
      rw [collectMetadata, ih nodupRest]
      by_cases same : key = entryKey
      · subst same
        have absent (other : String) : (key, other) ∉ rest := by
          intro member
          exact fresh (List.mem_map.mpr ⟨_, member, rfl⟩)
        have notMapped : key ∉ rest.map Prod.fst := fresh
        simp only [List.mem_cons, Prod.mk.injEq, true_and, absent, or_false, List.map_cons,
          notMapped, not_false_eq_true, false_or, Finmap.lookup_insert, Option.some.injEq,
          not_true_eq_false, false_and, eq_comm]
      · simp only [List.mem_cons, Prod.mk.injEq, same, false_and, false_or, List.map_cons,
          Finmap.lookup_insert_of_ne _ same]

theorem MetadataOrder.collect_entries (order : MetadataOrder)
    (metadata : Finmap fun _ : String => String) :
    collectMetadata ∅ (order.entries metadata) = metadata := by
  apply Finmap.ext_lookup
  intro key
  apply Option.ext
  intro value
  rw [lookup_collectMetadata (order.nodup metadata), order.mem_entries]
  simp

/-- Entries in the order of their keys. -/
def MetadataOrder.sorted : MetadataOrder :=
  ⟨Map.sortedEntries, Map.sortedEntries_nodup, Map.mem_sortedEntries⟩

/-- A map, as its entries. -/
def metadataFormat (order : MetadataOrder) : Format (Finmap fun _ : String => String) :=
  entriesFormat.refine (fun entries => some (collectMetadata ∅ entries)) order.entries
    fun metadata => congrArg some (order.collect_entries metadata)

/-- The fields in their order. -/
def HandshakeFrame.format : Format HandshakeFrame :=
  (string.pair (string.option.pair (word8.pair (word8.pair stringsFormat)))).refine
    (fun fields => some ⟨fields.1, fields.2.1, fields.2.2.1, fields.2.2.2.1, fields.2.2.2.2⟩)
    (fun handshake => (handshake.token, handshake.tunnelId, handshake.minVersion,
      handshake.maxVersion, handshake.capabilities))
    fun _ => rfl

/-- The fields in their order. -/
def OpenStreamFrame.format : Format OpenStreamFrame :=
  (word32.pair (Protocol.format.pair (entriesFormat.pair
      (word64.option.pair StreamPriority.format)))).refine
    (fun fields => some ⟨fields.1, fields.2.1, fields.2.2.1, fields.2.2.2.1, fields.2.2.2.2⟩)
    (fun openStream => (openStream.streamId, openStream.protocol, openStream.headers,
      openStream.bodyHint, openStream.priority))
    fun _ => rfl

/-! ## Frames -/

namespace Frame

/-- The variant `Handshake`. -/
def handshakeVariant : Variant Frame where
  Payload := HandshakeFrame
  format := HandshakeFrame.format
  make := .handshake
  view
    | .handshake payload => some payload
    | _ => none

/-- The variant `HandshakeAck`. -/
def handshakeAckVariant : Variant Frame where
  Payload := Uuid × HandshakeStatus × UInt8 × List String
  format := Uuid.format.pair (HandshakeStatus.format.pair (word8.pair stringsFormat))
  make fields := .handshakeAck fields.1 fields.2.1 fields.2.2.1 fields.2.2.2
  view
    | .handshakeAck sessionId status version serverCapabilities =>
        some (sessionId, status, version, serverCapabilities)
    | _ => none

/-- The variant `Register`. -/
def registerVariant (order : MetadataOrder) : Variant Frame where
  Payload := String × Protocol × Finmap fun _ : String => String
  format := string.pair (Protocol.format.pair (metadataFormat order))
  make fields := .register fields.1 fields.2.1 fields.2.2
  view
    | .register serviceName protocol metadata => some (serviceName, protocol, metadata)
    | _ => none

/-- The variant `RegisterAck`. -/
def registerAckVariant : Variant Frame where
  Payload := String × RegisterStatus
  format := string.pair RegisterStatus.format
  make fields := .registerAck fields.1 fields.2
  view
    | .registerAck publicUrl status => some (publicUrl, status)
    | _ => none

/-- The variant `OpenStream`. -/
def openStreamVariant : Variant Frame where
  Payload := OpenStreamFrame
  format := OpenStreamFrame.format
  make := .openStream
  view
    | .openStream payload => some payload
    | _ => none

/-- The variant `StreamAck`. -/
def streamAckVariant : Variant Frame where
  Payload := UInt32 × StreamStatus
  format := word32.pair StreamStatus.format
  make fields := .streamAck fields.1 fields.2
  view
    | .streamAck streamId status => some (streamId, status)
    | _ => none

/-- The encoder never serializes a data frame; the decoder reads one if it is sent. -/
def dataVariant : Variant Frame where
  Payload := UInt32 × Bytes × Bool
  format := word32.pair (bytes.pair bool)
  make fields := .data fields.1 fields.2.1 fields.2.2
  view
    | .data streamId payload endOfStream => some (streamId, payload, endOfStream)
    | _ => none

/-- The variant `CloseStream`. -/
def closeStreamVariant : Variant Frame where
  Payload := UInt32 × CloseReason
  format := word32.pair CloseReason.format
  make fields := .closeStream fields.1 fields.2
  view
    | .closeStream streamId reason => some (streamId, reason)
    | _ => none

/-- The variant `Heartbeat`. -/
def heartbeatVariant : Variant Frame where
  Payload := UInt64
  format := word64
  make := .heartbeat
  view
    | .heartbeat timestamp => some timestamp
    | _ => none

/-- The variant `HeartbeatAck`. -/
def heartbeatAckVariant : Variant Frame where
  Payload := UInt64
  format := word64
  make := .heartbeatAck
  view
    | .heartbeatAck timestamp => some timestamp
    | _ => none

/-- The variant `Error`. -/
def errorVariant : Variant Frame where
  Payload := Option UInt32 × ErrorCode × String
  format := word32.option.pair (ErrorCode.format.pair string)
  make fields := .error fields.1 fields.2.1 fields.2.2
  view
    | .error streamId code message => some (streamId, code, message)
    | _ => none

/-- The variant `PluginData`. -/
def pluginDataVariant : Variant Frame where
  Payload := String × Bytes
  format := string.pair bytes
  make fields := .pluginData fields.1 fields.2
  view
    | .pluginData pluginId payload => some (pluginId, payload)
    | _ => none

/-- The frames by their index. -/
def format (order : MetadataOrder) : Format Frame :=
  variants [handshakeVariant, handshakeAckVariant, registerVariant order, registerAckVariant,
    openStreamVariant, streamAckVariant, dataVariant, closeStreamVariant, heartbeatVariant,
    heartbeatAckVariant, errorVariant, pluginDataVariant] (by simp) (by
      intro frame
      cases frame with
      | handshake => exact covered_at 0 rfl rfl
      | handshakeAck => exact covered_at 1 rfl rfl
      | register => exact covered_at 2 rfl rfl
      | registerAck => exact covered_at 3 rfl rfl
      | openStream => exact covered_at 4 rfl rfl
      | streamAck => exact covered_at 5 rfl rfl
      | data => exact covered_at 6 rfl rfl
      | closeStream => exact covered_at 7 rfl rfl
      | heartbeat => exact covered_at 8 rfl rfl
      | heartbeatAck => exact covered_at 9 rfl rfl
      | error => exact covered_at 10 rfl rfl
      | pluginData => exact covered_at 11 rfl rfl)

end Frame

/-! ## The serializer -/

/-- How the deserializer reports a failed read; the limit alone is told apart by the
codec's tests. -/
def decodeError : ReadError → DecodeError
  | .limitExceeded => .limitExceeded
  | .unexpectedEnd => .other "UnexpectedEnd"
  | .invalid => .other "InvalidValue"

namespace Bincode

/-- What is assumed of bincode in its standard configuration. -/
structure IsStandard (bincode : Bincode) (order : MetadataOrder) : Prop where
  layout : ∀ {frame serialized}, bincode.encodeToVec frame = .ok serialized →
    (Frame.format order).write frame = serialized
  charging : ∀ {frame serialized}, bincode.encodeToVec frame = .ok serialized → ∀ limit,
    bincode.decodeFromSlice limit serialized =
      if (Frame.format order).charge frame ≤ limit then .ok (frame, serialized.length)
      else .error .limitExceeded

/-- A serializer with this layout, which reads out of a budget.  No vector holds 2^64 bytes. -/
def standard (order : MetadataOrder) : Bincode where
  encodeToVec frame :=
    if ((Frame.format order).write frame).length < 2 ^ 64 then
      .ok ((Frame.format order).write frame)
    else .error ⟨"capacity overflow"⟩
  decodeFromSlice limit bytes :=
    match (Frame.format order).read ⟨limit, bytes⟩ with
    | .ok (frame, input) => .ok (frame, bytes.length - input.bytes.length)
    | .error e => .error (decodeError e)

variable {order : MetadataOrder} {frame : Frame} {serialized : Bytes}

theorem standard_encodeToVec_eq_ok_iff :
    (standard order).encodeToVec frame = .ok serialized ↔
      ((Frame.format order).write frame).length < 2 ^ 64 ∧
        (Frame.format order).write frame = serialized := by
  change (if _ then Except.ok _ else _) = _ ↔ _
  split
  · next fits => simp only [fits, true_and, Except.ok.injEq]
  · next overflows => simp only [overflows, false_and, reduceCtorEq]

/-- A serialized frame is decoded exactly when its charge is within the limit. -/
theorem standard_decodeFromSlice
    (serializedEq : (standard order).encodeToVec frame = .ok serialized) (limit : Nat) :
    (standard order).decodeFromSlice limit serialized =
      if (Frame.format order).charge frame ≤ limit then .ok (frame, serialized.length)
      else .error .limitExceeded := by
  obtain ⟨fits, rfl⟩ := standard_encodeToVec_eq_ok_iff.mp serializedEq
  have read := (Frame.format order).reads fits limit []
  rw [List.append_nil] at read
  simp only [standard, read]
  by_cases affordable : (Frame.format order).charge frame ≤ limit
  · simp [affordable]
  · simp [affordable, decodeError]

-- eight bytes that declare an error message of 15 MB: the length is paid for before a
-- byte of the message is looked for
example : (standard .sorted).decodeFromSlice (2 ^ 17)
    [0x0A, 0x00, 0x00, 0xFC, 0xC0, 0xE1, 0xE4, 0x00] = .error .limitExceeded :=
  rfl

theorem isStandard_standard : (standard order).IsStandard order where
  layout serializedEq := (standard_encodeToVec_eq_ok_iff.mp serializedEq).2
  charging := standard_decodeFromSlice

theorem standard_inverts : (standard order).Inverts := by
  intro frame serialized limit serializedEq below
  rw [standard_decodeFromSlice serializedEq] at below ⊢
  split
  · rfl
  · next expensive =>
    rw [if_neg expensive] at below
    exact absurd rfl below

end Bincode

end FerroTunnel.Wire
