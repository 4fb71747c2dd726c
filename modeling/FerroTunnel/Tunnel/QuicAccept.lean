import FerroTunnel.Bytes.BigEndian
import FerroTunnel.Tunnel.Server

/-!
# Accepting QUIC streams

Each data stream begins with a header of six bytes.  `accept_stream` takes the next stream
of the connection and reads its header.  The client and the server call it in a loop that
returns at the first error, and when a loop returns the session ends.

An error of one stream looks like an error of the connection.  So a stream whose header is
not valid, or that ends before its header is complete, ends the session; and a stream whose
header never comes keeps all later streams waiting.
-/

namespace FerroTunnel.Wire

/-- The byte of a priority. -/
def StreamPriority.asU8 : StreamPriority → UInt8
  | .normal => 0
  | .low => 1
  | .high => 2
  | .critical => 3

end FerroTunnel.Wire

namespace FerroTunnel.Tunnel

open FerroTunnel.Bytes
open FerroTunnel.Wire

/-! ## Headers -/

/-- The byte of a protocol. -/
def protocolToU8 : Protocol → UInt8
  | .http => 0
  | .https => 1
  | .http2 => 2
  | .webSocket => 3
  | .grpc => 4
  | .tcp => 5
  | .quic => 6

/-- The protocol of a byte. -/
def u8ToProtocol (v : UInt8) : Except UInt8 Protocol :=
  match v with
  | 0 => .ok .http
  | 1 => .ok .https
  | 2 => .ok .http2
  | 3 => .ok .webSocket
  | 4 => .ok .grpc
  | 5 => .ok .tcp
  | 6 => .ok .quic
  | _ => .error v

/-- The priority of a byte. -/
def u8ToPriority (v : UInt8) : Except UInt8 StreamPriority :=
  match v with
  | 0 => .ok .normal
  | 1 => .ok .low
  | 2 => .ok .high
  | 3 => .ok .critical
  | _ => .error v

/-- The header that `open_stream_with_priority` writes. -/
def streamHeader (protocol : Protocol) (priority : StreamPriority) (streamId : UInt32) : Bytes :=
  protocolToU8 protocol :: priority.asU8 :: putU32 streamId

/-- The protocol and the id of a header; the priority is checked only. -/
def readHeader (header : Bytes) : Except TunnelError (Protocol × UInt32) :=
  match u8ToProtocol (header.getD 0 0) with
  | .error v => .error (.protocol s!"invalid protocol byte in QUIC stream header: {v}")
  | .ok protocol =>
      match u8ToPriority (header.getD 1 0) with
      | .error v => .error (.protocol s!"invalid priority byte in QUIC stream header: {v}")
      | .ok _ => .ok (protocol, getU32 (header.drop 2))

/-! ## Incoming streams -/

/-- The bytes of a stream that can be read, and the error of a read past them: the stream
was finished or reset there, or more bytes may still come. -/
structure IncomingStream where
  bytes : Bytes
  cut : Option String
deriving DecidableEq

/-- What the calls on a lost connection report. -/
structure ConnectionLoss where
  acceptError : String
  readError : String
deriving DecidableEq

/-- A stream that was accepted. -/
structure QuicVirtualStream where
  streamId : UInt32
  protocol : Protocol
  unread : Bytes
deriving DecidableEq

/-- Read exactly `count` bytes, and leave the rest; `none` while the read waits. -/
def IncomingStream.readExact (stream : IncomingStream) (lost : Option ConnectionLoss)
    (count : Nat) : Option (Except String (Bytes × Bytes)) :=
  if count ≤ stream.bytes.length then
    some (.ok (stream.bytes.take count, stream.bytes.drop count))
  else
    match stream.cut with
    | some error => some (.error error)
    | none => lost.map fun loss => .error loss.readError

/-- Read the header of a stream that was accepted. -/
def acceptHeader (lost : Option ConnectionLoss) (stream : IncomingStream) :
    Option (Except TunnelError QuicVirtualStream) :=
  match stream.readExact lost 6 with
  | none => none
  | some (.error error) => some (.error (.connection s!"QUIC read header: {error}"))
  | some (.ok (header, unread)) =>
      match readHeader header with
      | .error error => some (.error error)
      | .ok (protocol, streamId) => some (.ok ⟨streamId, protocol, unread⟩)

/-- The answer of `accept_stream` when these streams wait to be accepted; `none` while it
waits. -/
def acceptStream (lost : Option ConnectionLoss) (incoming : List IncomingStream) :
    Option (Except TunnelError QuicVirtualStream) :=
  match incoming with
  | [] => lost.map fun loss => .error (.connection s!"QUIC accept_bi: {loss.acceptError}")
  | stream :: _ => acceptHeader lost stream

/-! ## The loops -/

/-- What a loop has done, and what it has returned. -/
structure LoopRun (η : Type) where
  handled : List η
  returned : Option TunnelError
deriving DecidableEq

/-- Accept streams until an error. -/
def acceptLoop {η : Type} (handle : QuicVirtualStream → η) (lost : Option ConnectionLoss) :
    List IncomingStream → LoopRun η
  | [] =>
      match acceptStream lost [] with
      | some (.error error) => ⟨[], some error⟩
      | _ => ⟨[], none⟩
  | stream :: rest =>
      match acceptStream lost (stream :: rest) with
      | none => ⟨[], none⟩
      | some (.error error) => ⟨[], some error⟩
      | some (.ok accepted) =>
          let later := acceptLoop handle lost rest
          { later with handled := handle accepted :: later.handled }

/-- The client gives each stream to a task with its handler. -/
def quicStreamAcceptLoop : Option ConnectionLoss → List IncomingStream →
    LoopRun QuicVirtualStream :=
  acceptLoop fun stream => stream

/-- The server expects no streams, and warns of each. -/
def quicDataStreamLoop : Option ConnectionLoss → List IncomingStream → LoopRun String :=
  acceptLoop fun _ =>
    "Server received data stream from QUIC client (not expected in current flow)"

/-! ## Isolation of streams -/

/-- The stream that a complete and valid header announces. -/
def IncomingStream.valid (stream : IncomingStream) : Option QuicVirtualStream :=
  match acceptHeader none stream with
  | some (.ok accepted) => some accepted
  | _ => none

/-- The header is complete, or will never be. -/
def IncomingStream.answers (stream : IncomingStream) : Bool :=
  (acceptHeader none stream).isSome

/-- The loop does not return before the connection is lost, and handles each stream with a
valid header once. -/
structure Isolates {η : Type} (handle : QuicVirtualStream → η) (lost : Option ConnectionLoss)
    (incoming : List IncomingStream) (run : LoopRun η) : Prop where
  returned : run.returned ≠ none → lost ≠ none
  handled : run.handled = (incoming.filterMap IncomingStream.valid).map handle

/-- The streams before the first one that keeps the loop waiting have valid headers, and
those after it have none. -/
def HeadersServe (incoming : List IncomingStream) : Prop :=
  (∀ stream ∈ incoming.takeWhile IncomingStream.answers, stream.valid ≠ none) ∧
    ∀ stream ∈ incoming.dropWhile IncomingStream.answers, stream.valid = none

section Loop

variable {η : Type} {handle : QuicVirtualStream → η} {stream : IncomingStream}
  {rest : List IncomingStream}

/-- Without a loss only a read past the bytes that have come waits. -/
theorem acceptHeader_eq_none_iff : acceptHeader none stream = none ↔
    stream.bytes.length < 6 ∧ stream.cut = none := by
  rw [acceptHeader, IncomingStream.readExact]
  by_cases complete : 6 ≤ stream.bytes.length
  · rw [if_pos complete]
    cases read : readHeader (stream.bytes.take 6) <;> simp [read, Nat.not_lt.mpr complete]
  · rw [if_neg complete]
    cases stream.cut <;> simp [Nat.lt_of_not_le complete]

/-- A loss of the connection matters to a read only if it waits. -/
theorem readExact_eq_of_answers {count : Nat}
    (answers : count ≤ stream.bytes.length ∨ stream.cut ≠ none) (lost : Option ConnectionLoss) :
    stream.readExact lost count = stream.readExact none count := by
  rw [IncomingStream.readExact, IncomingStream.readExact]
  rcases answers with complete | cut
  · rw [if_pos complete, if_pos complete]
  · obtain ⟨error, cutEq⟩ := Option.ne_none_iff_exists'.mp cut
    rw [cutEq]

theorem acceptHeader_of_some {answer : Except TunnelError QuicVirtualStream}
    (answered : acceptHeader none stream = some answer) (lost : Option ConnectionLoss) :
    acceptHeader lost stream = some answer := by
  have answers : 6 ≤ stream.bytes.length ∨ stream.cut ≠ none := by
    by_contra waits
    rw [not_or, not_not, Nat.not_le] at waits
    rw [acceptHeader_eq_none_iff.mpr waits] at answered
    cases answered
  rw [← answered, acceptHeader, acceptHeader, readExact_eq_of_answers answers]

theorem acceptHeader_of_none (waits : acceptHeader none stream = none)
    (lost : Option ConnectionLoss) :
    acceptHeader lost stream =
      lost.map fun loss => .error (.connection s!"QUIC read header: {loss.readError}") := by
  obtain ⟨short, uncut⟩ := acceptHeader_eq_none_iff.mp waits
  rw [acceptHeader, IncomingStream.readExact, if_neg (Nat.not_le_of_lt short), uncut]
  cases lost <;> rfl

variable {accepted : QuicVirtualStream}

theorem acceptLoop_of_ok (answered : acceptHeader none stream = some (.ok accepted))
    (lost : Option ConnectionLoss) :
    acceptLoop handle lost (stream :: rest) =
      { acceptLoop handle lost rest with
        handled := handle accepted :: (acceptLoop handle lost rest).handled } := by
  rw [acceptLoop, acceptStream, acceptHeader_of_some answered lost]

theorem acceptLoop_of_error {error : TunnelError}
    (answered : acceptHeader none stream = some (.error error)) (lost : Option ConnectionLoss) :
    acceptLoop handle lost (stream :: rest) = ⟨[], some error⟩ := by
  rw [acceptLoop, acceptStream, acceptHeader_of_some answered lost]

/-- A stream that keeps the loop waiting is the last one it accepts. -/
theorem acceptLoop_of_none (waits : acceptHeader none stream = none)
    (rest : List IncomingStream) (lost : Option ConnectionLoss) :
    (acceptLoop handle lost (stream :: rest)).handled = [] ∧
      ((acceptLoop handle lost (stream :: rest)).returned ≠ none → lost ≠ none) := by
  rw [acceptLoop, acceptStream, acceptHeader_of_none waits]
  cases lost <;> simp

theorem isolates_nil (handle : QuicVirtualStream → η) (lost : Option ConnectionLoss) :
    Isolates handle lost [] (acceptLoop handle lost []) := by
  constructor
  · cases lost <;> simp [acceptLoop, acceptStream]
  · cases lost <;> rfl

theorem isolates_cons_of_ok (answered : acceptHeader none stream = some (.ok accepted))
    (lost : Option ConnectionLoss) :
    Isolates handle lost (stream :: rest) (acceptLoop handle lost (stream :: rest)) ↔
      Isolates handle lost rest (acceptLoop handle lost rest) := by
  have valid : stream.valid = some accepted := by rw [IncomingStream.valid, answered]
  rw [acceptLoop_of_ok answered]
  constructor
  · rintro ⟨returned, handled⟩
    rw [List.filterMap_cons_some valid, List.map_cons, List.cons.injEq] at handled
    exact ⟨returned, handled.2⟩
  · rintro ⟨returned, handled⟩
    refine ⟨returned, ?_⟩
    rw [List.filterMap_cons_some valid, List.map_cons, ← handled]

theorem headersServe_cons_of_ok (answered : acceptHeader none stream = some (.ok accepted)) :
    HeadersServe (stream :: rest) ↔ HeadersServe rest := by
  have valid : stream.valid = some accepted := by rw [IncomingStream.valid, answered]
  have answers : stream.answers = true := by rw [IncomingStream.answers, answered]; rfl
  rw [HeadersServe, List.takeWhile_cons_of_pos answers, List.dropWhile_cons_of_pos answers,
    List.forall_mem_cons, valid]
  simp [HeadersServe]

theorem not_headersServe_cons_of_error {error : TunnelError}
    (answered : acceptHeader none stream = some (.error error)) :
    ¬ HeadersServe (stream :: rest) := by
  have invalid : stream.valid = none := by rw [IncomingStream.valid, answered]
  have answers : stream.answers = true := by rw [IncomingStream.answers, answered]; rfl
  rintro ⟨serve, -⟩
  rw [List.takeWhile_cons_of_pos answers] at serve
  exact serve stream List.mem_cons_self invalid

theorem headersServe_cons_of_none (waits : acceptHeader none stream = none) :
    HeadersServe (stream :: rest) ↔ (stream :: rest).filterMap IncomingStream.valid = [] := by
  have answers : ¬ stream.answers = true := by rw [IncomingStream.answers, waits]; simp
  rw [HeadersServe, List.takeWhile_cons_of_neg answers, List.dropWhile_cons_of_neg answers,
    List.filterMap_eq_nil_iff]
  simp

/-- The induction follows the loop: it goes on with the rest after a valid header, and
stops at the first other stream. -/
theorem acceptLoop_isolates_iff (handle : QuicVirtualStream → η) (incoming : List IncomingStream) :
    (∀ lost, Isolates handle lost incoming (acceptLoop handle lost incoming)) ↔
      HeadersServe incoming := by
  induction incoming with
  | nil => exact iff_of_true (isolates_nil handle) ⟨by simp, by simp⟩
  | cons stream rest ih =>
      cases answered : acceptHeader none stream with
      | none =>
          rw [headersServe_cons_of_none answered]
          constructor
          · intro isolates
            have handled := (isolates none).handled
            rw [(acceptLoop_of_none answered rest none).1] at handled
            exact List.map_eq_nil_iff.mp handled.symm
          · intro noneValid lost
            obtain ⟨handled, returned⟩ := acceptLoop_of_none answered rest lost
            refine ⟨returned, ?_⟩
            rw [handled, noneValid]
            rfl
      | some answer =>
          cases answer with
          | error error =>
              constructor
              · intro isolates
                have returned := (isolates none).returned
                rw [acceptLoop_of_error answered] at returned
                exact absurd rfl (returned (Option.some_ne_none error))
              · exact fun serve => absurd serve (not_headersServe_cons_of_error answered)
          | ok accepted =>
              rw [headersServe_cons_of_ok answered, ← ih]
              apply forall_congr'
              exact isolates_cons_of_ok answered

end Loop

/-- For every sequence of incoming streams: both loops return only when the connection is
lost and hand on each stream with a valid header once, exactly if no header before the
first stream that keeps them waiting is bad, and no valid one comes after it. -/
theorem quic_streams_isolated_iff (incoming : List IncomingStream) :
    (∀ lost, Isolates (fun stream => stream) lost incoming (quicStreamAcceptLoop lost incoming) ∧
      Isolates (fun _ =>
          "Server received data stream from QUIC client (not expected in current flow)")
        lost incoming (quicDataStreamLoop lost incoming)) ↔
      HeadersServe incoming := by
  constructor
  · intro isolates
    exact (acceptLoop_isolates_iff _ incoming).mp fun lost => (isolates lost).1
  · intro serve lost
    constructor
    · exact (acceptLoop_isolates_iff _ incoming).mpr serve lost
    · exact (acceptLoop_isolates_iff _ incoming).mpr serve lost

/-- A stream with an unknown protocol, and then one for HTTP: the client's loop returns
while the connection is there, and never sees the second. -/
theorem bad_stream_ends_loop :
    IncomingStream.valid ⟨streamHeader .http .normal 4, none⟩ = some ⟨4, .http, []⟩ ∧
      quicStreamAcceptLoop none
          [⟨[9, 0, 0, 0, 0, 2], none⟩, ⟨streamHeader .http .normal 4, none⟩] =
        ⟨[], some (.protocol "invalid protocol byte in QUIC stream header: 9")⟩ := by
  decide

end FerroTunnel.Tunnel
