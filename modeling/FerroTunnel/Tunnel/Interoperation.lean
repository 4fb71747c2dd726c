import FerroTunnel.Tunnel.Authentication
import FerroTunnel.Tunnel.HandshakeOrder
import FerroTunnel.Tunnel.StoreMethods

/-!
# Which configurations interoperate

A client and a server are configured apart from each other, and each checks its
own configuration when it is built.  The handshake then passes further checks:
the client's check of its token, the size limits of both codecs in both
directions, the field limits of the codec that receives, and the server's
authentication.

The file gives both checks, the exchange of the two handshake frames, and the
condition under which accepted configurations get through it.
-/

namespace FerroTunnel.Tunnel

open FerroTunnel.Bytes
open FerroTunnel.Checked
open FerroTunnel.Wire

variable {μ : Type}

/-! ## Configurations -/

/-- Per-session rate limits. -/
structure RateLimitConfig where
  streamsPerSec : UInt32
  bytesPerSec : UInt64
  burstFactor : UInt32
deriving DecidableEq

/-- The default rate limits. -/
def RateLimitConfig.default : RateLimitConfig where
  streamsPerSec := 100
  bytesPerSec := 10 * 1024 * 1024
  burstFactor := 2

/-- The check of the rate limits. -/
def validateRateLimits (limits : RateLimitConfig) : Except ConfigError Unit := do
  rejectIf (limits.streamsPerSec = 0)
    ⟨"rate_limits.streams_per_sec must be greater than zero"⟩
  rejectIf (limits.bytesPerSec = 0)
    ⟨"rate_limits.bytes_per_sec must be greater than zero"⟩
  rejectIf (limits.bytesPerSec.toNat > 2 ^ 32 - 1)
    ⟨"rate_limits.bytes_per_sec must not exceed 4294967295 bytes per second"⟩
  rejectIf (limits.burstFactor = 0)
    ⟨"rate_limits.burst_factor must be greater than zero"⟩

/-- What a client is configured with. -/
structure ClientConfig where
  serverAddr : String
  token : String
  localAddr : String
  tunnelId : Option String
  limits : LimitsConfig
deriving DecidableEq

/-- The check of a client's settings. -/
def ClientConfig.validate (config : ClientConfig) : Except ConfigError Unit := do
  rejectIf (config.serverAddr = "") ⟨"server_addr is required"⟩
  rejectIf (config.token = "") ⟨"token is required"⟩
  rejectIf (config.localAddr = "") ⟨"local_addr is required"⟩
  validateLimits config.limits

/-- What a server is configured with. -/
structure ServerConfig where
  token : String
  limits : LimitsConfig
  rateLimits : RateLimitConfig
  httpResponseTimeout : Nat
  http3BindAddr : Option String
  http3CertPath : Option String
  http3KeyPath : Option String
deriving DecidableEq

/-- The check of a server's settings. -/
def ServerConfig.validate (config : ServerConfig) : Except ConfigError Unit := do
  rejectIf (config.token = "") ⟨"token is required"⟩
  validateLimits config.limits
  rejectIf (config.httpResponseTimeout = 0)
    ⟨"http_response_timeout must be greater than zero"⟩
  validateRateLimits config.rateLimits
  rejectIf (config.http3BindAddr ≠ none ∧
      (config.http3CertPath = none ∨ config.http3KeyPath = none))
    ⟨"HTTP/3 ingress requires certificate and key paths"⟩

theorem ClientConfig.limits_of_validate {config : ClientConfig} (valid : config.validate = .ok ()) :
    validateLimits config.limits = .ok () := by
  simp only [validate, bind_eq_ok_iff] at valid
  obtain ⟨_, -, _, -, _, -, limits⟩ := valid
  exact limits

theorem ServerConfig.limits_of_validate {config : ServerConfig} (valid : config.validate = .ok ()) :
    validateLimits config.limits = .ok () := by
  simp only [validate, bind_eq_ok_iff] at valid
  obtain ⟨_, -, _, limits, -⟩ := valid
  exact limits

/-! ## A frame from one end to the other -/

/-- The first frame that a codec makes of the bytes it receives, if it accepts them. -/
def receive (bincode : Bincode) (codec : TunnelCodec) (bytes : Bytes) : Option Frame :=
  match codec.decode bincode bytes with
  | (.ok received, _) => received
  | (.error _, _) => none

/-- What the receiving codec makes of the bytes that the sending codec writes for a
frame. -/
def transmit (bincode : Bincode) (sender receiver : TunnelCodec) (frame : Frame) :
    Option Frame :=
  match sender.encode bincode frame [] with
  | (.error _, _) => none
  | (.ok (), bytes) => receive bincode receiver bytes

/-- The record of the frame is within the frame size. -/
def Fits (bincode : Bincode) (frame : Frame) (maxFrameSize : Nat) : Prop :=
  ∃ record, frame.record bincode = .ok record ∧ record.length ≤ maxFrameSize

section Transmission

variable {bincode : Bincode} {codec sender receiver : TunnelCodec} {frame received : Frame}
  {record : Bytes}

theorem fits_iff (recordEq : frame.record bincode = .ok record) {size : Nat} :
    Fits bincode frame size ↔ record.length ≤ size := by
  constructor
  · rintro ⟨other, otherEq, small⟩
    rw [recordEq] at otherEq
    cases otherEq
    exact small
  · exact fun small => ⟨record, recordEq, small⟩

theorem fits_min_iff {first second : Nat} :
    Fits bincode frame (min first second) ↔
      Fits bincode frame first ∧ Fits bincode frame second := by
  cases recordEq : frame.record bincode with
  | error error => simp [Fits, recordEq]
  | ok record => rw [fits_iff recordEq, fits_iff recordEq, fits_iff recordEq, Nat.le_min]

/-- A payload that is not decoded within its limit is refused. -/
theorem decodeControlFrame_of_exceeded {serialized : Bytes}
    (serializedEq : bincode.encodeToVec frame = .ok serialized)
    (exceeds : ¬ TunnelCodec.WithinDecodeLimit bincode frame) :
    ∃ error, decodeControlFrame bincode serialized = .error error := by
  simp only [TunnelCodec.WithinDecodeLimit, not_forall, not_not] at exceeds
  obtain ⟨other, otherEq, exceeded⟩ := exceeds
  obtain rfl : other = serialized := by
    rw [serializedEq] at otherEq
    cases otherEq
    rfl
  rw [decodeControlFrame, decodeControlFrameWith, exceeded]
  exact ⟨_, rfl⟩

/-- A control record is received as its frame, if it is decoded within the limit, it fits
and the frame is valid. -/
theorem receive_eq_some_iff (inverts : bincode.Inverts) (control : frame.isData = false)
    (recordEq : frame.record bincode = .ok record) (ceiling : record.length < 2 ^ 32) :
    receive bincode codec (lengthPrefixed record) = some received ↔
      received = frame ∧ TunnelCodec.WithinDecodeLimit bincode frame ∧
        record.length ≤ codec.maxFrameSize ∧ validateFrame frame codec.validation = .ok () := by
  rw [receive, ← List.append_nil (lengthPrefixed record)]
  by_cases small : record.length ≤ codec.maxFrameSize
  · rw [TunnelCodec.decode_lengthPrefixed (Frame.record_ne_nil recordEq) small []]
    simp only [small, true_and]
    obtain ⟨serialized, serializedEq, rfl⟩ := TunnelCodec.serialized_of_record control recordEq
    rw [TunnelCodec.decodeRecord_control]
    by_cases within : TunnelCodec.WithinDecodeLimit bincode frame
    · rw [TunnelCodec.decodeControlFrame_serialized inverts serializedEq
        (within serialized serializedEq)]
      cases valid : validateFrame frame codec.validation with
      | error error => simp [valid, Except.map]
      | ok _ => simp [valid, within, Except.map, eq_comm]
    · obtain ⟨error, refused⟩ := decodeControlFrame_of_exceeded serializedEq within
      simp [refused, within, Except.map]
  · obtain ⟨error, refused⟩ : ∃ error, codec.decode bincode (lengthPrefixed record ++ []) =
        (.error error, lengthPrefixed record ++ []) :=
      TunnelCodec.decode_lengthPrefixed_of_large ceiling (Nat.lt_of_not_le small) []
    rw [refused]
    simp [small]

/-- A control frame arrives, as it was sent, if and only if it is decoded within the decode
limit, fits both codecs and is valid for the one that receives it. -/
theorem transmit_eq_some_iff (inverts : bincode.Inverts) (control : frame.isData = false) :
    transmit bincode sender receiver frame = some received ↔
      received = frame ∧ Fits bincode frame sender.maxFrameSize ∧
        TunnelCodec.WithinDecodeLimit bincode frame ∧ Fits bincode frame receiver.maxFrameSize ∧
        validateFrame frame receiver.validation = .ok () := by
  rcases encoded : sender.encode bincode frame [] with ⟨result, bytes⟩
  cases result with
  | error error =>
      have unfit : ¬ Fits bincode frame sender.maxFrameSize := by
        rintro ⟨record, recordEq, bounded⟩
        have sent : sender.encode bincode frame [] = (.ok (), [] ++ lengthPrefixed record) :=
          TunnelCodec.encode_eq_ok_iff.mpr ⟨record, recordEq, bounded, rfl⟩
        rw [encoded] at sent
        cases sent
      simp [transmit, encoded, unfit]
  | ok _ =>
      obtain ⟨record, recordEq, bounded, rfl⟩ := TunnelCodec.encode_eq_ok_iff.mp encoded
      have ceiling : record.length < 2 ^ 32 := by
        have largest := sender.maxFrameSize_le
        rw [MAX_FRAME_SIZE] at largest
        omega
      rw [fits_iff recordEq, fits_iff recordEq, transmit, encoded]
      simp only [List.nil_append, bounded, true_and]
      exact receive_eq_some_iff inverts control recordEq ceiling

end Transmission

/-! ## The exchange -/

/-- The capabilities that a client announces. -/
def clientCapabilities : Transport → List String
  | .tcp => ["basic", "tcp"]
  | .quic => ["basic", "tcp", "quic"]

/-- The capabilities that the server acknowledges. -/
def serverCapabilities : Transport → List String
  | .tcp => ["basic"]
  | .quic => ["basic", "quic"]

/-- The handshake that a client sends. -/
def ClientConfig.handshake (config : ClientConfig) (transport : Transport) : HandshakeFrame where
  minVersion := MIN_PROTOCOL_VERSION
  maxVersion := MAX_PROTOCOL_VERSION
  token := config.token
  tunnelId := config.tunnelId
  capabilities := clientCapabilities transport

/-- The acknowledgement of a registered session. -/
def successAck (transport : Transport) (sessionId : Uuid) (version : UInt8) : Frame :=
  .handshakeAck sessionId .success version (serverCapabilities transport)

/-- The server's answer to the first frame of a connection, for the fresh id
`sessionId`; none if it closes the connection. -/
def ServerConfig.answer (config : ServerConfig) (transport : Transport) (sessionId : Uuid)
    (now : Nat) (multiplexer : μ) (store : SessionStore μ) :
    Frame → SessionStore μ × Option Frame
  | .handshake handshake =>
      match authenticateHandshake handshake config.token sessionId with
      | .error status => (store, some (.handshakeAck 0 status 0 []))
      | .ok auth =>
          match store.add (auth.session now multiplexer) with
          | (store, .error _) =>
              (store, some (.handshakeAck auth.sessionId .tunnelIdTaken 0 []))
          | (store, .ok ()) =>
              (store, some (successAck transport auth.sessionId auth.negotiatedVersion))
  | _ => (store, none)

/-- Why a client gets no session. -/
inductive ConnectError
  | config (error : ConfigError)
  | panic (panic : Panic)
  | noAcknowledgement
  | tunnel (error : TunnelError)

/-- The client's result, from the frame that arrives. -/
def connectResult : Option Frame → Except ConnectError Uuid
  | none => .error .noAcknowledgement
  | some frame => (handshakeResult frame).mapError .tunnel

/-- A client connects to a server.  The result is what its handshake returns. -/
def connect (bincode : Bincode) (server : ServerConfig) (client : ClientConfig)
    (transport : Transport) (sessionId : Uuid) (now : Nat) (multiplexer : μ)
    (store : SessionStore μ) : SessionStore μ × Except ConnectError Uuid :=
  match validateLimits client.limits with
  | .error error => (store, .error (.config error))
  | .ok () =>
      match validateTokenFormat client.token 256 with
      | .error error =>
          (store, .error (.tunnel (.authentication s!"Invalid token: {error.message}")))
      | .ok () =>
          match TunnelCodec.fromLimits client.limits, TunnelCodec.fromLimits server.limits with
          | .error panic, _ => (store, .error (.panic panic))
          | _, .error panic => (store, .error (.panic panic))
          | .ok clientCodec, .ok serverCodec =>
              match transmit bincode clientCodec serverCodec
                  (.handshake (client.handshake transport)) with
              | none => (store, .error .noAcknowledgement)
              | some frame =>
                  let (store, reply) :=
                    server.answer transport sessionId now multiplexer store frame
                  (store, connectResult
                    (reply.bind (transmit bincode serverCodec clientCodec)))

/-! ## Accepted configurations -/

/-- Beyond what each end checks on its own, the configurations agree: the token can be
presented, the tunnel id is not too long, each end admits the capabilities of the
other, and both frames of the handshake fit both frame sizes and are decoded within
their decode limits. -/
structure Compatible (bincode : Bincode) (server : ServerConfig) (client : ClientConfig)
    (transport : Transport) (sessionId : Uuid) : Prop where
  printable : client.token.toList.all isPrintable = true
  token : client.token.utf8ByteSize ≤ min 256 server.limits.maxTokenLen
  tunnelId : ∀ tunnelId ∈ client.tunnelId, tunnelId.utf8ByteSize ≤ 256
  announced : (clientCapabilities transport).length ≤ server.limits.maxCapabilities ∧
    ∀ cap ∈ clientCapabilities transport, cap.utf8ByteSize ≤ server.limits.maxCapabilityLen
  acknowledged : (serverCapabilities transport).length ≤ client.limits.maxCapabilities ∧
    ∀ cap ∈ serverCapabilities transport, cap.utf8ByteSize ≤ client.limits.maxCapabilityLen
  handshake : Fits bincode (.handshake (client.handshake transport))
    (min client.limits.maxFrameBytes.toNat server.limits.maxFrameBytes.toNat)
  acknowledgement : Fits bincode (successAck transport sessionId 1)
    (min client.limits.maxFrameBytes.toNat server.limits.maxFrameBytes.toNat)
  handshakeDecodes :
    TunnelCodec.WithinDecodeLimit bincode (.handshake (client.handshake transport))
  acknowledgementDecodes :
    TunnelCodec.WithinDecodeLimit bincode (successAck transport sessionId 1)

section Connect

variable {bincode : Bincode} {server : ServerConfig} {client : ClientConfig}
  {transport : Transport} {sessionId : Uuid} {now : Nat} {multiplexer : μ}
  {store : SessionStore μ}

theorem ClientConfig.token_of_validate (valid : client.validate = .ok ()) :
    client.token.toList ≠ [] := by
  simp only [validate, bind_eq_ok_iff, rejectIf_eq_ok_iff] at valid
  obtain ⟨_, -, _, nonempty, -⟩ := valid
  simpa using nonempty

/-- A well-formed token that the server expects is acknowledged, if the tunnel is free. -/
theorem ServerConfig.answer_handshake
    (wellFormed : validateTokenFormat client.token 256 = .ok ())
    (same : client.token = server.token)
    (free : store.tunnelIndex.lookup (client.tunnelId.getD (uuidToString sessionId)) = none) :
    (server.answer transport sessionId now multiplexer store
      (.handshake (client.handshake transport))).2 = some (successAck transport sessionId 1) := by
  have accepted : authenticateHandshake (client.handshake transport) server.token sessionId =
      .ok ⟨sessionId, client.tunnelId.getD (uuidToString sessionId), 1, client.token,
        clientCapabilities transport⟩ :=
    authenticateHandshake_eq_ok_iff.mpr ⟨wellFormed, same, 1, rfl, rfl⟩
  simp only [answer, accepted, SessionStore.add, SessionStore.claimEntry,
    AuthenticatedHandshake.session, free]

/-- With a well-formed token, a connection succeeds exactly when both frames arrive. -/
theorem connect_eq_ok_iff (validClient : validateLimits client.limits = .ok ())
    {clientCodec serverCodec : TunnelCodec}
    (clientBuilt : TunnelCodec.fromLimits client.limits = .ok clientCodec)
    (serverBuilt : TunnelCodec.fromLimits server.limits = .ok serverCodec)
    (inverts : bincode.Inverts) (wellFormed : validateTokenFormat client.token 256 = .ok ())
    (same : client.token = server.token)
    (free : store.tunnelIndex.lookup (client.tunnelId.getD (uuidToString sessionId)) = none) :
    (connect bincode server client transport sessionId now multiplexer store).2 = .ok sessionId ↔
      transmit bincode clientCodec serverCodec (.handshake (client.handshake transport)) =
        some (.handshake (client.handshake transport)) ∧
      transmit bincode serverCodec clientCodec (successAck transport sessionId 1) =
        some (successAck transport sessionId 1) := by
  simp only [connect, validClient, wellFormed, clientBuilt, serverBuilt]
  cases sent : transmit bincode clientCodec serverCodec
      (.handshake (client.handshake transport)) with
  | none => simp
  | some frame =>
      obtain ⟨rfl, -⟩ := (transmit_eq_some_iff inverts rfl).mp sent
      simp only [ServerConfig.answer_handshake wellFormed same free, Option.bind_some, true_and]
      cases acked : transmit bincode serverCodec clientCodec
          (successAck transport sessionId 1) with
      | none => simp [connectResult]
      | some frame =>
          obtain ⟨rfl, -⟩ := (transmit_eq_some_iff inverts rfl).mp acked
          simp [connectResult, successAck, handshakeResult, Except.mapError]

end Connect

/-- For all configurations that their own checks accept, with equal tokens and a tunnel
id that no session holds, the client obtains a session if and only if the
configurations are compatible. -/
theorem connect_iff_compatible (bincode : Bincode) (inverts : bincode.Inverts)
    (server : ServerConfig) (client : ClientConfig) (transport : Transport) (sessionId : Uuid)
    (now : Nat) (multiplexer : μ) (store : SessionStore μ)
    (validServer : server.validate = .ok ()) (validClient : client.validate = .ok ())
    (same : client.token = server.token)
    (free : store.tunnelIndex.lookup (client.tunnelId.getD (uuidToString sessionId)) = none) :
    (connect bincode server client transport sessionId now multiplexer store).2 = .ok sessionId ↔
      Compatible bincode server client transport sessionId := by
  have clientLimits := ClientConfig.limits_of_validate validClient
  have serverLimits := ServerConfig.limits_of_validate validServer
  have tokenIff := validateTokenFormat_eq_ok_iff client.token 256
  obtain ⟨clientCodec, clientBuilt, -⟩ := TunnelCodec.fromLimits_of_valid clientLimits
  obtain ⟨serverCodec, serverBuilt, -⟩ := TunnelCodec.fromLimits_of_valid serverLimits
  obtain ⟨clientSize, clientValidation⟩ := TunnelCodec.eq_of_fromLimits clientBuilt
  obtain ⟨serverSize, serverValidation⟩ := TunnelCodec.eq_of_fromLimits serverBuilt
  cases wellFormed : validateTokenFormat client.token 256 with
  | error error =>
      have refused : (connect bincode server client transport sessionId now multiplexer
          store).2 ≠ .ok sessionId := by
        simp [connect, clientLimits, wellFormed]
      refine iff_of_false refused fun compatible => ?_
      have accepted := tokenIff.mpr ⟨ClientConfig.token_of_validate validClient,
        Nat.le_trans compatible.token (Nat.min_le_left _ _), compatible.printable⟩
      rw [wellFormed] at accepted
      cases accepted
  | ok _ =>
      obtain ⟨-, tokenSize, printable⟩ := tokenIff.mp wellFormed
      rw [connect_eq_ok_iff clientLimits clientBuilt serverBuilt inverts wellFormed same free,
        transmit_eq_some_iff inverts rfl, transmit_eq_some_iff inverts rfl, clientSize, serverSize,
        clientValidation, serverValidation]
      simp only [true_and, validateFrame, successAck, validateHandshake_eq_ok_iff,
        validateCapabilities_eq_ok_iff]
      constructor
      · rintro ⟨⟨sentFits, decodes, arrivedFits, token, tunnelId, -, announced⟩,
          ackFits, ackDecodes, ackArrivedFits, acknowledged⟩
        exact ⟨printable, Nat.le_min.mpr ⟨tokenSize, token⟩, tunnelId, announced, acknowledged,
          fits_min_iff.mpr ⟨sentFits, arrivedFits⟩, fits_min_iff.mpr ⟨ackArrivedFits, ackFits⟩,
          decodes, ackDecodes⟩
      · intro compatible
        obtain ⟨sentFits, arrivedFits⟩ := fits_min_iff.mp compatible.handshake
        obtain ⟨ackArrivedFits, ackFits⟩ := fits_min_iff.mp compatible.acknowledgement
        exact ⟨⟨sentFits, compatible.handshakeDecodes, arrivedFits,
            (Nat.le_min.mp compatible.token).2, compatible.tunnelId, Nat.le_refl _,
            compatible.announced⟩,
          ackFits, compatible.acknowledgementDecodes, ackArrivedFits, compatible.acknowledged⟩

/-! ## Two small configurations -/

/-- A server with default limits. -/
def smallServer (token : String) : ServerConfig where
  token := token
  limits := .default
  rateLimits := .default
  httpResponseTimeout := 60
  http3BindAddr := none
  http3CertPath := none
  http3KeyPath := none

/-- A client with default limits. -/
def smallClient (token : String) : ClientConfig where
  serverAddr := "localhost:7835"
  token := token
  localAddr := "127.0.0.1:8080"
  tunnelId := none
  limits := .default

theorem connect_iff_compatible_small :
    (connect (.standard .sorted) (smallServer "t") (smallClient "t") .tcp 1 0 ()
      (SessionStore.new : SessionStore Unit)).2 = .ok 1 := by
  have withinHandshake : TunnelCodec.WithinDecodeLimit (.standard .sorted)
      (.handshake ((smallClient "t").handshake .tcp)) := by
    intro serialized encoded
    cases encoded
    decide +kernel
  have withinAck : TunnelCodec.WithinDecodeLimit (.standard .sorted) (successAck .tcp 1 1) := by
    intro serialized encoded
    cases encoded
    decide +kernel
  apply (connect_iff_compatible (.standard .sorted) Bincode.standard_inverts (smallServer "t")
    (smallClient "t") .tcp 1 0 () .new rfl rfl rfl rfl).mpr
  exact ⟨by decide, by decide, by decide, by decide, by decide, ⟨_, rfl, by decide⟩,
    ⟨_, rfl, by decide⟩, withinHandshake, withinAck⟩

/-- Both ends accept a token with a letter outside ASCII, and then no connection
succeeds, whatever the serializer. -/
theorem accepted_token_refused :
    (smallServer "clé").validate = .ok () ∧ (smallClient "clé").validate = .ok () ∧
      ∀ bincode transport sessionId,
        (connect bincode (smallServer "clé") (smallClient "clé") transport sessionId 0 ()
          (SessionStore.new : SessionStore Unit)).2 =
          .error (.tunnel (.authentication
            "Invalid token: token contains invalid characters")) := by
  refine ⟨rfl, rfl, fun bincode transport sessionId => ?_⟩
  have limits : validateLimits (smallClient "clé").limits = .ok () := rfl
  have malformed : validateTokenFormat (smallClient "clé").token 256 =
      .error .invalidCharacters := by decide
  rw [connect, limits, malformed]
  rfl

end FerroTunnel.Tunnel
