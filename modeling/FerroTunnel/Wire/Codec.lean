import FerroTunnel.Bytes.BigEndian
import FerroTunnel.Wire.Validation
import Mathlib.Algebra.Order.Ring.Nat

/-!
# The tunnel codec

Length-delimited framing: a four-byte big-endian length, a type byte, and a
payload.  Data frames have a raw payload layout; all other frames are control
frames whose payload is written by the bincode serializer.

The serializer is a third-party crate.  It is a parameter of the codec, and the
behaviour that the codec relies on is stated as a property of the parameter.
-/

namespace FerroTunnel.Wire

open FerroTunnel.Bytes

/-- The kinds of I/O errors that the tunnel code constructs. -/
inductive ErrorKind where
  | invalidData
  | timedOut
  | brokenPipe
  | writeZero
  | other
  deriving DecidableEq

/-- An I/O error with its kind and message. -/
structure IoError where
  kind : ErrorKind
  message : String
  deriving DecidableEq

/-! ## The control-frame serializer -/

/-- A serializer failure, as displayed. -/
structure EncodeError where
  message : String
  deriving DecidableEq

/-- A deserializer failure: the allocation limit was hit, or the bytes do not
denote a frame. -/
inductive DecodeError where
  | limitExceeded
  | other (message : String)
  deriving DecidableEq

/-- The text of the error. -/
def DecodeError.message : DecodeError → String
  | .limitExceeded => "LimitExceeded"
  | .other message => message

/-- What the codec uses of the bincode crate: serialization of a frame, and
deserialization under an allocation limit, which also reports how many bytes it
consumed. -/
structure Bincode where
  encodeToVec : Frame → Except EncodeError Bytes
  decodeFromSlice : Nat → Bytes → Except DecodeError (Frame × Nat)

/-- Deserialization inverts serialization and consumes exactly the serialized
bytes, unless it runs into its allocation limit. -/
def Bincode.Inverts (bincode : Bincode) : Prop :=
  ∀ ⦃frame serialized limit⦄, bincode.encodeToVec frame = .ok serialized →
    bincode.decodeFromSlice limit serialized ≠ .error .limitExceeded →
      bincode.decodeFromSlice limit serialized = .ok (frame, serialized.length)

/-! ## Codec construction -/

/-- Frame header size: 4 bytes length + 1 byte type. -/
def HEADER_SIZE : Nat := 5

/-- The least limit of frames. -/
def MIN_MAX_FRAME_SIZE : Nat := 1

/-- A control frame. -/
def FRAME_TYPE_CONTROL : UInt8 := 0x00

/-- A data frame. -/
def FRAME_TYPE_DATA : UInt8 := 0x01

/-- The flag of the last data. -/
def FLAG_EOS : UInt8 := 0x01

/-- The codec of one connection.  Every constructor asserts the frame-size
contract, so it is part of the type. -/
structure TunnelCodec where
  maxFrameSize : Nat
  validation : ValidationLimits
  min_le_maxFrameSize : MIN_MAX_FRAME_SIZE ≤ maxFrameSize
  maxFrameSize_le : maxFrameSize ≤ MAX_FRAME_SIZE

/-- A panic with its message. -/
structure Panic where
  message : String
  deriving DecidableEq

/-- Codec from a frame size and content limits, behind `assert_frame_size`. -/
def TunnelCodec.assertFrameSize (maxFrameSize : Nat) (validation : ValidationLimits) :
    Except Panic TunnelCodec :=
  if lower : MIN_MAX_FRAME_SIZE ≤ maxFrameSize then
    if upper : maxFrameSize ≤ MAX_FRAME_SIZE then
      .ok ⟨maxFrameSize, validation, lower, upper⟩
    else .error ⟨"max frame size must not exceed MAX_FRAME_SIZE"⟩
  else .error ⟨"max frame size must be greater than zero"⟩

/-- Codec with a custom frame size and default content limits. -/
def TunnelCodec.withMaxFrameSize (maxFrameSize : Nat) : Except Panic TunnelCodec :=
  assertFrameSize maxFrameSize { ValidationLimits.default with
    maxFrameBytes := UInt64.ofNat maxFrameSize
    maxPayloadBytes := maxFrameSize }

/-- Codec derived from configured resource limits. -/
def TunnelCodec.fromLimits (limits : LimitsConfig) : Except Panic TunnelCodec :=
  assertFrameSize limits.maxFrameBytes.toNat (.ofLimits limits)

/-- The codec with the default limits. -/
def TunnelCodec.default : TunnelCodec where
  maxFrameSize := MAX_FRAME_SIZE
  validation := { ValidationLimits.default with
    maxFrameBytes := UInt64.ofNat MAX_FRAME_SIZE
    maxPayloadBytes := MAX_FRAME_SIZE }
  min_le_maxFrameSize := by decide
  maxFrameSize_le := Nat.le_refl _

theorem TunnelCodec.withMaxFrameSize_default :
    withMaxFrameSize MAX_FRAME_SIZE = .ok .default :=
  rfl

/-- Accepted limits build a codec with the configured frame size. -/
theorem TunnelCodec.fromLimits_of_valid {limits : LimitsConfig}
    (valid : validateLimits limits = .ok ()) :
    ∃ codec, fromLimits limits = .ok codec ∧
      codec.maxFrameSize = limits.maxFrameBytes.toNat := by
  obtain ⟨nonzero, bounded, _⟩ := (validateLimits_eq_ok_iff limits).mp valid
  have positive : MIN_MAX_FRAME_SIZE ≤ limits.maxFrameBytes.toNat := by
    apply Nat.one_le_iff_ne_zero.mpr
    intro zero
    exact nonzero (UInt64.toNat_inj.mp zero)
  refine ⟨⟨limits.maxFrameBytes.toNat, .ofLimits limits, positive, bounded⟩, ?_, rfl⟩
  rw [fromLimits, assertFrameSize, dif_pos positive, dif_pos bounded]

/-- A codec is built with the frame size and the limits it was given. -/
theorem TunnelCodec.eq_of_assertFrameSize {maxFrameSize : Nat} {validation : ValidationLimits}
    {codec : TunnelCodec} (built : assertFrameSize maxFrameSize validation = .ok codec) :
    codec.maxFrameSize = maxFrameSize ∧ codec.validation = validation := by
  rw [assertFrameSize] at built
  split at built
  · split at built
    · cases built
      exact ⟨rfl, rfl⟩
    · cases built
  · cases built

/-- A codec built from limits enforces these. -/
theorem TunnelCodec.eq_of_fromLimits {limits : LimitsConfig} {codec : TunnelCodec}
    (built : fromLimits limits = .ok codec) :
    codec.maxFrameSize = limits.maxFrameBytes.toNat ∧ codec.validation = .ofLimits limits :=
  eq_of_assertFrameSize built

/-! ## Decoding -/

/-- Headroom added to the frame length when sizing the bincode decode budget. -/
def CONTROL_DECODE_HEADROOM : Nat := 64 * 1024

/-- `usize` addition that stops at the largest value. -/
def saturatingAdd (first second : Nat) : Nat :=
  min (first + second) (2 ^ 64 - 1)

/-- The next power of two, unless it overflows `usize`. -/
def checkedNextPowerOfTwo (value : Nat) : Option Nat :=
  if value.nextPowerOfTwo < 2 ^ 64 then some value.nextPowerOfTwo else none

/-- The rungs of the decode-limit ladder below the frame ceiling. -/
def decodeLimits : List Nat :=
  [1 <<< 17, 1 <<< 18, 1 <<< 19, 1 <<< 20, 1 <<< 21, 1 <<< 22, 1 <<< 23]

/-- The allocation limit selected for a control payload of `len` bytes. -/
def controlDecodeLimit (len : Nat) : Nat :=
  let budget := min ((checkedNextPowerOfTwo (saturatingAdd len CONTROL_DECODE_HEADROOM)).getD
    MAX_FRAME_SIZE) MAX_FRAME_SIZE
  (decodeLimits.find? fun limit => budget ≤ limit).getD MAX_FRAME_SIZE

/-- Decode a bincode control frame that must consume its entire body. -/
def decodeControlFrameWith (bincode : Bincode) (limit : Nat) (bytes : Bytes) :
    Except IoError Frame :=
  match bincode.decodeFromSlice limit bytes with
  | .error e => .error ⟨.invalidData, "Decode error: " ++ e.message⟩
  | .ok (frame, consumed) =>
      if consumed ≠ bytes.length then
        .error ⟨.invalidData,
          s!"Trailing bytes after control frame: consumed {consumed} of {bytes.length}"⟩
      else .ok frame

/-- Decode a control frame with the budget bounded by the frame length. -/
def decodeControlFrame (bincode : Bincode) (bytes : Bytes) : Except IoError Frame :=
  decodeControlFrameWith bincode (controlDecodeLimit bytes.length) bytes

namespace TunnelCodec

/-- Parse the type byte and payload of one complete record. -/
def decodeRecord (codec : TunnelCodec) (bincode : Bincode) (frameBytes : Bytes) :
    Except IoError Frame :=
  let frameType := frameBytes.headD 0
  let payload := frameBytes.tail
  if frameType = FRAME_TYPE_DATA then
    if payload.length < 5 then
      .error ⟨.invalidData, "Data frame payload too short"⟩
    else
      .ok (.data (getU32 payload) (payload.drop 5) (payload.getD 4 0 &&& FLAG_EOS ≠ 0))
  else if frameType = FRAME_TYPE_CONTROL then
    match decodeControlFrame bincode payload with
    | .error e => .error e
    | .ok frame =>
        match validateFrame frame codec.validation with
        | .error e => .error ⟨.invalidData, "Frame validation: " ++ e.message⟩
        | .ok () => .ok frame
  else .error ⟨.invalidData, s!"Unknown frame type: {frameType}"⟩

/-- Decode one frame off the front of the buffer, or ask for more bytes. -/
def decode (codec : TunnelCodec) (bincode : Bincode) (src : Bytes) :
    Except IoError (Option Frame) × Bytes :=
  if src.length < HEADER_SIZE then (.ok none, src)
  else
    let length := (getU32 src).toNat
    if length = 0 then
      (.error ⟨.invalidData, "Frame length must be at least 1 byte"⟩, src)
    else if length > codec.maxFrameSize then
      (.error ⟨.invalidData,
        s!"Frame too large: {length} bytes (max: {codec.maxFrameSize})"⟩, src)
    else
      let totalSize := 4 + length
      if src.length < totalSize then (.ok none, src)
      else
        ((codec.decodeRecord bincode ((src.take totalSize).drop 4)).map some,
          src.drop totalSize)

/-! ## Encoding -/

/-- Append one frame to the destination buffer; a frame that does not fit
leaves the buffer as it was. -/
def encode (codec : TunnelCodec) (bincode : Bincode) (frame : Frame) (dst : Bytes) :
    Except IoError Unit × Bytes :=
  match frame with
  | .data streamId data endOfStream =>
      let payloadLen := 1 + 4 + 1 + data.length
      if payloadLen > codec.maxFrameSize then
        (.error ⟨.invalidData,
          s!"Frame too large: {payloadLen} bytes (max: {codec.maxFrameSize})"⟩, dst)
      else
        (.ok (), dst ++ putU32 (UInt32.ofNat payloadLen) ++ [FRAME_TYPE_DATA] ++
          putU32 streamId ++ [if endOfStream then FLAG_EOS else 0] ++ data)
  | controlFrame =>
      match bincode.encodeToVec controlFrame with
      | .error e => (.error ⟨.invalidData, "Encode error: " ++ e.message⟩, dst)
      | .ok serialized =>
          let payloadLen := 1 + serialized.length
          if payloadLen > codec.maxFrameSize then
            (.error ⟨.invalidData,
              s!"Frame too large: {payloadLen} bytes (max: {codec.maxFrameSize})"⟩, dst)
          else
            (.ok (), dst ++ putU32 (UInt32.ofNat payloadLen) ++ [FRAME_TYPE_CONTROL] ++
              serialized)

end TunnelCodec

end FerroTunnel.Wire
