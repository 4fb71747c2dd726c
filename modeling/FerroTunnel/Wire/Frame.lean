import Mathlib.Data.Finmap

/-!
# Protocol frames

The twelve frame variants exchanged by the two tunnel ends, with the payload
types of each.  A byte field is a list of bytes, a UTF-8 string keeps Lean's
`String`, and its Rust length is `String.utf8ByteSize`.  A hash map has no
observable order, so the metadata of `Register` is an extensional finite map.
-/

namespace FerroTunnel.Wire

/-- Raw bytes, as carried by `Bytes`, `BytesMut` and `Vec<u8>`. -/
abbrev Bytes := List UInt8

/-- A 128-bit session identifier. -/
abbrev Uuid := BitVec 128

/-- Stream priority used by the batched sender. -/
inductive StreamPriority where
  | normal
  | low
  | high
  | critical
  deriving DecidableEq, Inhabited

/-- Lower values are sent first: `Critical`, `High`, `Normal`, `Low`. -/
def StreamPriority.drainOrder : StreamPriority → Nat
  | .critical => 0
  | .high => 1
  | .normal => 2
  | .low => 3

/-- The answers to a handshake. -/
inductive HandshakeStatus where
  | success
  | invalidToken
  | unsupportedVersion
  | versionMismatch
  | rateLimited
  | tunnelIdTaken
  deriving DecidableEq

/-- The answers to a registration. -/
inductive RegisterStatus where
  | success
  | serviceNameTaken
  | invalidServiceName
  | quotaExceeded
  deriving DecidableEq

/-- The answers to an open. -/
inductive StreamStatus where
  | accepted
  | rejected
  | backpressureApplied
  deriving DecidableEq

/-- The protocols of a stream. -/
inductive Protocol where
  | http
  | https
  | http2
  | webSocket
  | grpc
  | tcp
  | quic
  deriving DecidableEq

/-- Why a stream is closed. -/
inductive CloseReason where
  | normal
  | timeout
  | error (message : String)
  | localServiceUnreachable
  | protocolViolation
  deriving DecidableEq

/-- The codes of an error frame. -/
inductive ErrorCode where
  | protocolError
  | authenticationFailed
  | sessionNotFound
  | streamNotFound
  | timeout
  | internalServerError
  | serviceUnavailable
  deriving DecidableEq

/-- Stream open request. -/
structure OpenStreamFrame where
  streamId : UInt32
  protocol : Protocol
  headers : List (String × String)
  bodyHint : Option UInt64
  priority : StreamPriority
  deriving DecidableEq

/-- Handshake payload; frame validation rejects `minVersion > maxVersion`. -/
structure HandshakeFrame where
  token : String
  tunnelId : Option String
  minVersion : UInt8
  maxVersion : UInt8
  capabilities : List String
  deriving DecidableEq

/-- Wire protocol frame. -/
inductive Frame where
  | handshake (handshake : HandshakeFrame)
  | handshakeAck (sessionId : Uuid) (status : HandshakeStatus) (version : UInt8)
      (serverCapabilities : List String)
  | register (serviceName : String) (protocol : Protocol)
      (metadata : Finmap fun _ : String => String)
  | registerAck (publicUrl : String) (status : RegisterStatus)
  | openStream (openStream : OpenStreamFrame)
  | streamAck (streamId : UInt32) (status : StreamStatus)
  | data (streamId : UInt32) (data : Bytes) (endOfStream : Bool)
  | closeStream (streamId : UInt32) (reason : CloseReason)
  | heartbeat (timestamp : UInt64)
  | heartbeatAck (timestamp : UInt64)
  | error (streamId : Option UInt32) (code : ErrorCode) (message : String)
  | pluginData (pluginId : String) (data : Bytes)
  deriving DecidableEq

/-- The frames with the raw payload layout. -/
def Frame.isData : Frame → Bool
  | .data _ _ _ => true
  | _ => false

end FerroTunnel.Wire
