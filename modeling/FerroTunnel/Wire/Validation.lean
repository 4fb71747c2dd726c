import FerroTunnel.Wire.Limits
import Mathlib.Data.Finset.Sort
import Mathlib.Data.String.Basic

/-!
# Frame validation

The content checks that a decoded control frame must pass.  They bound the
number of entries of every collection and the byte length of every string and
payload.
-/

namespace FerroTunnel.Wire

open FerroTunnel.Checked

/-- Validation errors, with the figures they report. -/
inductive ValidationError where
  | frameTooLarge (size limit : Nat)
  | tokenTooLong (len limit : Nat)
  | tooManyCapabilities (count limit : Nat)
  | capabilityTooLong (len limit : Nat)
  | payloadTooLarge (size limit : Nat)
  | tooManyEntries (count limit : Nat)
  | fieldTooLong (len limit : Nat)
  | invalidVersionRange (min max : UInt8)
  deriving DecidableEq

/-- The displayed text of a validation error. -/
def ValidationError.message : ValidationError → String
  | .frameTooLarge size limit =>
      s!"Frame too large: {size} bytes exceeds limit of {limit} bytes"
  | .tokenTooLong len limit =>
      s!"Token too long: {len} bytes exceeds limit of {limit} bytes"
  | .tooManyCapabilities count limit =>
      s!"Too many capabilities: {count} exceeds limit of {limit}"
  | .capabilityTooLong len limit =>
      s!"Capability too long: {len} bytes exceeds limit of {limit} bytes"
  | .payloadTooLarge size limit =>
      s!"Payload too large: {size} bytes exceeds limit of {limit} bytes"
  | .tooManyEntries count limit =>
      s!"Too many entries: {count} exceeds limit of {limit}"
  | .fieldTooLong len limit =>
      s!"Field too long: {len} bytes exceeds limit of {limit} bytes"
  | .invalidVersionRange min max =>
      s!"Invalid version range: min_version {min} exceeds max_version {max}"

/-- Reject a variable-length field whose byte length exceeds `limit`. -/
def checkFieldLen (len limit : Nat) : Except ValidationError Unit :=
  rejectIf (len > limit) (.fieldTooLong len limit)

/-- Reject a collection whose entry count exceeds `limit`. -/
def checkEntryCount (count limit : Nat) : Except ValidationError Unit :=
  rejectIf (count > limit) (.tooManyEntries count limit)

/-- The capability list shared by `Handshake` and `HandshakeAck`. -/
def validateCapabilities (capabilities : List String) (limits : ValidationLimits) :
    Except ValidationError Unit := do
  rejectIf (capabilities.length > limits.maxCapabilities)
    (.tooManyCapabilities capabilities.length limits.maxCapabilities)
  forM capabilities fun cap =>
    rejectIf (cap.utf8ByteSize > limits.maxCapabilityLen)
      (.capabilityTooLong cap.utf8ByteSize limits.maxCapabilityLen)

/-- The limits of a handshake. -/
def validateHandshake (handshake : HandshakeFrame) (limits : ValidationLimits) :
    Except ValidationError Unit := do
  rejectIf (handshake.token.utf8ByteSize > limits.maxTokenLen)
    (.tokenTooLong handshake.token.utf8ByteSize limits.maxTokenLen)
  match handshake.tunnelId with
  | some tunnelId => checkFieldLen tunnelId.utf8ByteSize limits.maxNameLen
  | none => .ok ()
  rejectIf (handshake.minVersion > handshake.maxVersion)
    (.invalidVersionRange handshake.minVersion handshake.maxVersion)
  validateCapabilities handshake.capabilities limits

theorem validateCapabilities_eq_ok_iff {capabilities : List String} {limits : ValidationLimits} :
    validateCapabilities capabilities limits = .ok () ↔
      capabilities.length ≤ limits.maxCapabilities ∧
        ∀ cap ∈ capabilities, cap.utf8ByteSize ≤ limits.maxCapabilityLen := by
  simp [validateCapabilities]

theorem validateHandshake_eq_ok_iff {handshake : HandshakeFrame} {limits : ValidationLimits} :
    validateHandshake handshake limits = .ok () ↔
      handshake.token.utf8ByteSize ≤ limits.maxTokenLen ∧
        (∀ tunnelId ∈ handshake.tunnelId, tunnelId.utf8ByteSize ≤ limits.maxNameLen) ∧
        handshake.minVersion ≤ handshake.maxVersion ∧
        validateCapabilities handshake.capabilities limits = .ok () := by
  cases tunnel : handshake.tunnelId with
  | none => simp [validateHandshake, tunnel]
  | some tunnelId => simp [validateHandshake, tunnel, checkFieldLen]

/-- The order in which a hash map visits its entries is unspecified; the model
visits the keys in increasing order. -/
def validateRegister (serviceName : String) (metadata : Finmap fun _ : String => String)
    (limits : ValidationLimits) : Except ValidationError Unit := do
  checkFieldLen serviceName.utf8ByteSize limits.maxNameLen
  checkEntryCount metadata.keys.card limits.maxMetadataEntries
  forM (metadata.keys.sort) fun key => do
    checkFieldLen key.utf8ByteSize limits.maxNameLen
    checkFieldLen ((metadata.lookup key).getD "").utf8ByteSize limits.maxMetadataValueLen

/-- The limits of an open. -/
def validateOpenStream (openStream : OpenStreamFrame) (limits : ValidationLimits) :
    Except ValidationError Unit := do
  checkEntryCount openStream.headers.length limits.maxHeaders
  forM openStream.headers fun header => do
    checkFieldLen header.1.utf8ByteSize limits.maxHeaderLen
    checkFieldLen header.2.utf8ByteSize limits.maxHeaderLen

/-- The limit of a payload. -/
def validatePayload (len : Nat) (limits : ValidationLimits) : Except ValidationError Unit :=
  rejectIf (len > limits.maxPayloadBytes) (.payloadTooLarge len limits.maxPayloadBytes)

/-- Only the `Error` reason has a variable length. -/
def validateCloseReason (reason : CloseReason) (limits : ValidationLimits) :
    Except ValidationError Unit :=
  match reason with
  | .error message => checkFieldLen message.utf8ByteSize limits.maxErrorMessageLen
  | .normal | .timeout | .localServiceUnreachable | .protocolViolation => .ok ()

/-- Validate a decoded frame against limits. -/
def validateFrame (frame : Frame) (limits : ValidationLimits) : Except ValidationError Unit :=
  match frame with
  | .handshake handshake => validateHandshake handshake limits
  | .handshakeAck _ _ _ serverCapabilities => validateCapabilities serverCapabilities limits
  | .register serviceName _ metadata => validateRegister serviceName metadata limits
  | .registerAck publicUrl _ => checkFieldLen publicUrl.utf8ByteSize limits.maxUrlLen
  | .openStream openStream => validateOpenStream openStream limits
  | .data _ data _ => validatePayload data.length limits
  | .closeStream _ reason => validateCloseReason reason limits
  | .error _ _ message => checkFieldLen message.utf8ByteSize limits.maxErrorMessageLen
  | .pluginData pluginId data => do
      checkFieldLen pluginId.utf8ByteSize limits.maxNameLen
      validatePayload data.length limits
  | .streamAck _ _ | .heartbeat _ | .heartbeatAck _ => .ok ()

end FerroTunnel.Wire
