import FerroTunnel.Checked.Core
import FerroTunnel.Wire.Frame

/-!
# Configured limits

The resource limits that an operator configures, the check that both tunnel
ends run on them at start-up, and the per-field limits that the codec derives
from them.  `usize` values are naturals; `u64` values are machine words.
-/

namespace FerroTunnel.Wire

open FerroTunnel.Checked

/-- Protocol frame ceiling, 16 MiB. -/
def MAX_FRAME_SIZE : Nat := 16 * 1024 * 1024

/-- Resource limits configuration. -/
structure LimitsConfig where
  maxFrameBytes : UInt64
  maxSessions : Nat
  maxStreamsPerSession : Nat
  maxInflightFrames : Nat
  maxTokenLen : Nat
  maxCapabilities : Nat
  maxCapabilityLen : Nat
  deriving DecidableEq

/-- The default limits. -/
def LimitsConfig.default : LimitsConfig where
  maxFrameBytes := 16 * 1024 * 1024
  maxSessions := 1000
  maxStreamsPerSession := 100
  maxInflightFrames := 100
  maxTokenLen := 256
  maxCapabilities := 32
  maxCapabilityLen := 64

/-- `TunnelError::Config` with its message. -/
structure ConfigError where
  message : String
  deriving DecidableEq

/-- Reject limits that would panic codec construction or block all sessions. -/
def validateLimits (limits : LimitsConfig) : Except ConfigError Unit := do
  rejectIf (limits.maxFrameBytes = 0)
    ⟨"limits.max_frame_bytes must be greater than zero"⟩
  rejectIf (limits.maxFrameBytes.toNat > MAX_FRAME_SIZE)
    ⟨s!"limits.max_frame_bytes must not exceed {MAX_FRAME_SIZE} bytes"⟩
  rejectIf (limits.maxSessions = 0)
    ⟨"limits.max_sessions must be greater than zero"⟩
  rejectIf (limits.maxStreamsPerSession = 0)
    ⟨"limits.max_streams_per_session must be greater than zero"⟩
  rejectIf (limits.maxInflightFrames = 0)
    ⟨"limits.max_inflight_frames must be greater than zero"⟩

/-- The accepted limits are those whose frame budget lies in the protocol range
and whose three counters are positive. -/
theorem validateLimits_eq_ok_iff (limits : LimitsConfig) :
    validateLimits limits = .ok () ↔
      limits.maxFrameBytes ≠ 0 ∧ limits.maxFrameBytes.toNat ≤ MAX_FRAME_SIZE ∧
        limits.maxSessions ≠ 0 ∧ limits.maxStreamsPerSession ≠ 0 ∧
        limits.maxInflightFrames ≠ 0 := by
  simp [validateLimits]

/-- Content limits enforced on decoded frames. -/
structure ValidationLimits where
  maxFrameBytes : UInt64
  maxTokenLen : Nat
  maxCapabilities : Nat
  maxCapabilityLen : Nat
  maxPayloadBytes : Nat
  maxMetadataEntries : Nat
  maxNameLen : Nat
  maxMetadataValueLen : Nat
  maxHeaders : Nat
  maxHeaderLen : Nat
  maxErrorMessageLen : Nat
  maxUrlLen : Nat
  deriving DecidableEq

/-- The configured limits with the fixed per-field floors. -/
def ValidationLimits.ofLimits (limits : LimitsConfig) : ValidationLimits where
  maxFrameBytes := limits.maxFrameBytes
  maxTokenLen := limits.maxTokenLen
  maxCapabilities := limits.maxCapabilities
  maxCapabilityLen := limits.maxCapabilityLen
  maxPayloadBytes := limits.maxFrameBytes.toNat
  maxMetadataEntries := 64
  maxNameLen := 256
  maxMetadataValueLen := 1024
  maxHeaders := 128
  maxHeaderLen := 8 * 1024
  maxErrorMessageLen := 4 * 1024
  maxUrlLen := 2 * 1024

/-- The default limits of contents. -/
def ValidationLimits.default : ValidationLimits :=
  .ofLimits .default

end FerroTunnel.Wire
