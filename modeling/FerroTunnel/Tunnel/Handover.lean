import FerroTunnel.Parser.Framed
import FerroTunnel.Tunnel.HandshakeOrder
import FerroTunnel.Wire.Chunking

/-!
# From the handshake to the session

The first frame of a connection is read through a `Framed` of its own, under a
timeout.  Both sides then take it apart and go on reading through a
`FramedRead`, into whose buffer they copy the bytes that were read too far:
`setup_multiplexer` on the client and `handle_connection` on the server.

No frame is lost, repeated or reordered by the change of readers, wherever the
reads of the connection are cut, for every reader that keeps the laws of a framed
reader.
-/

namespace FerroTunnel.Tunnel

open FerroTunnel.Parser
open FerroTunnel.Wire

variable {ρ : Type}

/-- Read the first frame of a handshake; `polls` is how often the stream is polled before the
timeout, and `shown` the timeout as it is printed. -/
def readInitialHandshakeFrame (framed : FramedReader ρ UInt8 Frame IoError)
    (shown context : String) : Nat → List (ReadPoll UInt8 IoError) → ρ →
      Except TunnelError Frame × ρ × List (ReadPoll UInt8 IoError)
  | 0, reads, reader =>
      (.error (.timeout s!"{context} handshake timed out after {shown}"), reader, reads)
  | polls + 1, reads, reader =>
      match framed.pollNext reader reads with
      | (.pending, after, later) =>
          readInitialHandshakeFrame framed shown context polls later after
      | (.item frame, after, later) => (.ok frame, after, later)
      | (.failed _, after, later) => (.error .io, after, later)
      | (.ended, after, later) =>
          (.error (.connection s!"{context} handshake stream closed"), after, later)

/-- The reader that goes on after the handshake. -/
def splitStream (framed : FramedReader ρ UInt8 Frame IoError) (reader : ρ) : ρ :=
  let readBuf := framed.buffer reader
  if readBuf.isEmpty then framed.new else framed.extend framed.new readBuf

/-- The frames that a session reads. -/
def receiveFrames (framed : FramedReader ρ UInt8 Frame IoError) (reader : ρ) (polls : Nat)
    (reads : List (ReadPoll UInt8 IoError)) : FramedReader.Consumed ρ UInt8 Frame IoError :=
  framed.consume polls none reads (splitStream framed reader)

variable {codec : TunnelCodec} {bincode : Bincode} {shown context : String} {frame : Frame}
  {framed : FramedReader ρ UInt8 Frame IoError} {remaining : IoError} {reader start : ρ}

theorem splitStream_reached : framed.Reached false (splitStream framed reader) := by
  unfold splitStream
  cases framed.buffer reader with
  | nil => exact .new
  | cons byte rest => exact .extended _

theorem buffer_splitStream (lawful : framed.Lawful (codec.parser bincode) remaining) :
    framed.buffer (splitStream framed reader) = framed.buffer reader := by
  unfold splitStream
  cases framed.buffer reader with
  | nil => exact lawful.buffer_new
  | cons byte rest =>
      refine (lawful.buffer_extend _ _).trans ?_
      rw [lawful.buffer_new, List.nil_append]

/-- The handshake takes one frame off the front of what it has read. -/
theorem readInitialHandshakeFrame_takes {all : Bytes} {heard : Bool}
    (lawful : framed.Lawful (codec.parser bincode) remaining)
    (reached : framed.Reached heard start)
    (takes : FramedReader.Takes (codec.parser bincode) all [] (framed.buffer start)) (polls : Nat)
    {reads later : List (ReadPoll UInt8 IoError)}
    (read : readInitialHandshakeFrame framed shown context polls reads start =
      (.ok frame, reader, later)) :
    ∃ done, reads = done ++ later ∧
      FramedReader.Takes (codec.parser bincode) (all ++ ReadPoll.received done) [frame]
        (framed.buffer reader) := by
  induction polls generalizing start reads all heard with
  | zero => cases read
  | succ polls ih =>
      rcases polled : framed.pollNext start reads with ⟨answer, after, rest⟩
      obtain ⟨done, rfl, answers⟩ := lawful.answers reached polled
      have taken := takes.append (ReadPoll.received done)
      simp only [readInitialHandshakeFrame, polled] at read
      cases answer with
      | pending =>
          rw [← answers.rest_of_pending] at taken
          obtain ⟨doneOn, splitsOn, takesOn⟩ := ih (reached.polled polled rfl) taken read
          refine ⟨done ++ doneOn, ?_, ?_⟩
          · rw [List.append_assoc, ← splitsOn]
          · rwa [ReadPoll.received_append, ← List.append_assoc]
      | item first =>
          cases read
          cases answers with
          | item parsed => exact ⟨done, rfl, taken.snoc parsed⟩
      | failed error | ended => cases read

/-- What a session has read, when `during` and `after` are the polls of the connection up to the
end of the handshake and since then, and `rest` is what its reader keeps. -/
structure ReadsOn (codec : TunnelCodec) (bincode : Bincode) (remaining : IoError)
    (during after : List (ReadPoll UInt8 IoError)) (frame : Frame)
    (session : FramedReader.Consumed ρ UInt8 Frame IoError) (rest : Bytes) : Prop where
  /-- The frames are those of the connection, in order and without a gap. -/
  ordered : frame :: session.items <+:
    (codec.decodeWhole bincode (ReadPoll.received (during ++ after))).1
  /-- A session that waits after a read has completed, or that has stopped, has handed on
  everything, unless reading failed. -/
  settled :
    let whole := codec.decodeWhole bincode (ReadPoll.received (during ++ after))
    match session.last with
    | none => True
    | some (.item _) => True
    | some .pending =>
        after.any ReadPoll.completes = true → whole = (frame :: session.items, none, rest)
    | some .ended => whole = (frame :: session.items, none, [])
    | some (.failed error) =>
        (∃ left, whole = (frame :: session.items, some error, left)) ∨
        (error = remaining ∧
          ∃ left, left ≠ [] ∧ whole = (frame :: session.items, none, left)) ∨
        .failed error ∈ after

/-- Read off what a reader accounts for. -/
theorem readsOn_of_accounts {during after : List (ReadPoll UInt8 IoError)} {rest : Bytes}
    {session : FramedReader.Consumed ρ UInt8 Frame IoError}
    (accounts : FramedReader.Accounts (codec.parser bincode) remaining
      (after.any ReadPoll.completes) (ReadPoll.received (during ++ after))
      (frame :: session.items) after session.last rest) :
    ReadsOn codec bincode remaining during after frame session rest := by
  obtain ⟨items, last, reader, reads⟩ := session
  have whole : codec.decodeWhole bincode (ReadPoll.received (during ++ after)) = _ :=
    TunnelCodec.decodeWhole_eq_drain _
  have ordered {buffer : Bytes} (takes : FramedReader.Takes (codec.parser bincode)
      (ReadPoll.received (during ++ after)) (frame :: items) buffer) :
      frame :: items <+: (codec.decodeWhole bincode (ReadPoll.received (during ++ after))).1 := by
    rw [whole, takes.drain_eq]
    exact List.prefix_append _ _
  cases accounts with
  | unpolled takes | took takes => exact ⟨ordered takes, trivial⟩
  | waiting takes settled =>
      refine ⟨ordered takes, fun heard => ?_⟩
      rw [whole, takes.drain_of_pending (settled heard)]
  | malformed drained =>
      rw [drained] at whole
      exact ⟨by rw [whole], .inl ⟨_, whole⟩⟩
  | truncated drained nonempty =>
      rw [drained] at whole
      exact ⟨by rw [whole], .inr (.inl ⟨rfl, _, nonempty, whole⟩)⟩
  | broken takes reported => exact ⟨ordered takes, .inr (.inr reported)⟩
  | ended drained =>
      rw [drained] at whole
      exact ⟨by rw [whole], whole⟩

/-- Changing readers after the handshake loses, repeats and reorders no frame: for every way in
which the reads of the connection are cut, and at every moment, the first frame and the frames
of the session are the first frames that the bytes received so far decode to.  They are all of
them when the session waits for the connection, or has seen its end, provided that a read has
completed since the handshake. -/
theorem handover_keeps_frames (lawful : framed.Lawful (codec.parser bincode) remaining)
    {polls : Nat} {reads later : List (ReadPoll UInt8 IoError)}
    (read : readInitialHandshakeFrame framed shown context polls reads framed.new =
      (.ok frame, reader, later)) (more : Nat) :
    ∃ during after,
      reads = during ++ later ∧
      later = after ++ (receiveFrames framed reader more later).reads ∧
      ReadsOn codec bincode remaining during after frame (receiveFrames framed reader more later)
        (framed.buffer (receiveFrames framed reader more later).reader) := by
  have start : FramedReader.Takes (codec.parser bincode) [] [] (framed.buffer framed.new) := by
    rw [lawful.buffer_new]
    exact .nil []
  obtain ⟨during, splits, takes⟩ := readInitialHandshakeFrame_takes lawful .new start polls read
  rw [List.nil_append, ← buffer_splitStream lawful] at takes
  have begun : FramedReader.Accounts (codec.parser bincode) remaining false _ [frame] [] none _ :=
    .unpolled takes
  obtain ⟨after, splitsOn, accounts⟩ :=
    FramedReader.consume_accounts lawful splitStream_reached begun rfl more later
  refine ⟨during, after, splits, splitsOn, readsOn_of_accounts ?_⟩
  rw [ReadPoll.received_append]
  exact accounts

/-- The reply to a handshake and a frame of data behind it, as one chunk. -/
def ackAndData : Bytes :=
  [0, 0, 0, 28, 0, 1, 16, 0, 0, 0, 0, 0, 0, 0, 0, 0, 0, 0, 0, 0, 0, 0, 7, 0, 1, 1, 5, 98, 97, 115,
    105, 99, 0, 0, 0, 7, 1, 0, 0, 0, 2, 0, 42]

/-- A reader of frames that parses its buffer before it reads. -/
def eagerFrames : FramedReader Bytes UInt8 Frame IoError :=
  .eager (TunnelCodec.default.parser (.standard .sorted)) ⟨.other, "bytes remaining on stream"⟩

theorem handover_keeps_frames_ackAndData :
    ∃ later during after,
      readInitialHandshakeFrame eagerFrames "10s" "client" 1
        [.bytes ackAndData, .pending, .bytes []] eagerFrames.new =
          (.ok (.handshakeAck 7 .success 1 ["basic"]), ackAndData.drop 32, later) ∧
      (receiveFrames eagerFrames (ackAndData.drop 32) 3 later).items = [.data 2 [42] false] ∧
      (receiveFrames eagerFrames (ackAndData.drop 32) 3 later).last = some .ended ∧
      ReadsOn .default (.standard .sorted) ⟨.other, "bytes remaining on stream"⟩ during after
        (.handshakeAck 7 .success 1 ["basic"])
        (receiveFrames eagerFrames (ackAndData.drop 32) 3 later) [] := by
  have read : readInitialHandshakeFrame eagerFrames "10s" "client" 1
      [.bytes ackAndData, .pending, .bytes []] eagerFrames.new =
        (.ok (.handshakeAck 7 .success 1 ["basic"]), ackAndData.drop 32,
          [.pending, .bytes []]) := by
    decide +kernel
  obtain ⟨during, after, -, -, readsOn⟩ :=
    handover_keeps_frames (FramedReader.eager_lawful _ _) read 3
  exact ⟨_, during, after, read, by decide +kernel, by decide +kernel, readsOn⟩

end FerroTunnel.Tunnel
