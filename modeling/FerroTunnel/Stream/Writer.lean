import FerroTunnel.Stream.BoundedSend
import FerroTunnel.Transition.Core

/-!
# The write side of a virtual stream

The owner of a stream makes any sequence of `poll_write` and `poll_shutdown`
calls, each with the wire channel as the rest of the program presents it.  The
record kept beside the stream holds what its polls entered in the channel and
what they reported as written.

A send that waits outlives the call that began it.  It holds a data frame whose
length is the one recorded, or a close frame with no length recorded.
-/

namespace FerroTunnel.Stream

open FerroTunnel.Channel
open FerroTunnel.Transition
open FerroTunnel.Transport
open FerroTunnel.Wire

/-- The payload of a data frame. -/
def dataPayload (item : PrioritizedFrame) : Option Bytes :=
  match item.2 with
  | .data _ data _ => some data
  | _ => none

/-- A stream with the frames its polls entered in the wire channel, the bytes
its write polls reported as written, and the buffer of the last write poll if
that was told to wait. -/
structure Writer where
  stream : VirtualStream
  entered : List PrioritizedFrame
  reported : Bytes
  waiting : Option Bytes

/-- The calls of the write side. -/
inductive WriterCall
  | write (buf : Bytes)
  | shutdown

/-- A call and the wire channel it finds. -/
structure WriterPoll where
  attempt : Attempt
  call : WriterCall

/-- The number of bytes that a write poll reports as written. -/
def reportedLen : Poll (Except SendFailure Nat) → Nat
  | .ready (.ok len) => len
  | _ => 0

namespace Writer

/-- A stream that nobody has written to. -/
def new (streamId : UInt32) (rx : ChanId) (priority : StreamPriority) (readBuffer : Bytes)
    (protocol : Protocol) : Writer where
  stream := .new streamId rx priority readBuffer protocol
  entered := []
  reported := []
  waiting := none

/-- A `poll_write` call, its answer and what it adds to the record. -/
def pollWrite (writer : Writer) (attempt : Attempt) (buf : Bytes) :
    Poll (Except SendFailure Nat) × Writer :=
  let (answer, stream, outbox) := writer.stream.pollWrite attempt.outbox attempt.now buf
  (answer, {
    stream := stream
    entered := writer.entered ++ (Touch.mk attempt.outbox outbox).entered
    reported := writer.reported ++ buf.take (reportedLen answer)
    waiting := if answer = .pending then some buf else none })

/-- A `poll_shutdown` call, its answer and what it adds to the record. -/
def pollShutdown (writer : Writer) (attempt : Attempt) :
    Poll (Except SendFailure Unit) × Writer :=
  let (answer, stream, outbox) := writer.stream.pollShutdown attempt.outbox attempt.now
  (answer, { writer with
    stream := stream
    entered := writer.entered ++ (Touch.mk attempt.outbox outbox).entered })

/-- One call. -/
def step : Step Writer WriterPoll
  | writer, ⟨attempt, .write buf⟩ => some (writer.pollWrite attempt buf).2
  | writer, ⟨attempt, .shutdown⟩ => some (writer.pollShutdown attempt).2

/-! ## What the calls do -/

/-- The stream when its send is over. -/
def cleared (stream : VirtualStream) : VirtualStream :=
  { stream with pendingSend := none, pendingSendLen := 0 }

/-- A write poll enters one frame and reports its length, fails, or waits. -/
theorem pollWrite_cases (writer : Writer) (attempt : Attempt) (buf : Bytes) :
    writer.pollWrite attempt buf =
        (.ready (.ok (writer.stream.writeLen buf)), {
          stream := cleared writer.stream
          entered := writer.entered ++ [writer.stream.writeItem buf]
          reported := writer.reported ++ buf.take (writer.stream.writeLen buf)
          waiting := none }) ∨
    (∃ failure, writer.pollWrite attempt buf =
        (.ready (.error failure), {
          stream := cleared writer.stream
          entered := writer.entered
          reported := writer.reported
          waiting := none })) ∨
    ∃ future, future.item = writer.stream.writeItem buf ∧ writer.pollWrite attempt buf =
        (.pending, {
          stream := { writer.stream with
            pendingSend := some future
            pendingSendLen := writer.stream.writeLen buf }
          entered := writer.entered
          reported := writer.reported
          waiting := some buf }) := by
  have kept : (Touch.mk attempt.outbox attempt.outbox).entered = [] :=
    (show (Touch.mk attempt.outbox attempt.outbox).Keeps from rfl).enters.entered_eq
  rcases writer.stream.pollWrite_cases attempt.outbox attempt.now buf with
    ⟨outbox, polled, queueEq, -⟩ | ⟨failure, polled⟩ | ⟨future, polled, itemEq⟩
  · left
    have enters : (Touch.mk attempt.outbox outbox).Enters [writer.stream.writeItem buf] := queueEq
    simp [pollWrite, polled, enters.entered_eq, reportedLen, cleared]
  · right
    left
    use failure
    simp [pollWrite, polled, kept, reportedLen, cleared]
  · right
    right
    use future, itemEq
    simp [pollWrite, polled, kept, reportedLen]

/-- What becomes of the pending send before a shutdown sends its close frame:
it was entered, or there is none or it failed. -/
inductive Finishes (stream : VirtualStream) (attempt : Attempt) : List PrioritizedFrame → Prop
  | nothing (pendingEq : stream.pendingSend = none) : Finishes stream attempt []
  | failed {future : SendFuture} {failure : SendFailure}
      (pendingEq : stream.pendingSend = some future)
      (polled : (future.poll attempt.outbox attempt.now).1 = .ready (.error failure)) :
      Finishes stream attempt []
  | entered {future : SendFuture} (pendingEq : stream.pendingSend = some future)
      (polled : (future.poll attempt.outbox attempt.now).1 = .ready (.ok ())) :
      Finishes stream attempt [future.item]

/-- The moves of a shutdown poll: the pending send waits, or it is over and the
close frame is entered, fails or waits. -/
inductive ShutdownMove (writer : Writer) (attempt : Attempt) :
    Poll (Except SendFailure Unit) → Writer → Prop
  | waits {future later : SendFuture} (pendingEq : writer.stream.pendingSend = some future)
      (polled : (future.poll attempt.outbox attempt.now).1 = .pending)
      (itemEq : later.item = future.item) :
      ShutdownMove writer attempt .pending
        { writer with stream := { writer.stream with pendingSend := some later } }
  | closes {front : List PrioritizedFrame} (finishes : Finishes writer.stream attempt front) :
      ShutdownMove writer attempt (.ready (.ok ())) { writer with
        stream := cleared writer.stream
        entered := writer.entered ++ (front ++ [writer.stream.closeItem]) }
  | fails {front : List PrioritizedFrame} {failure : SendFailure}
      (finishes : Finishes writer.stream attempt front) :
      ShutdownMove writer attempt (.ready (.error failure)) { writer with
        stream := cleared writer.stream
        entered := writer.entered ++ front }
  | queues {front : List PrioritizedFrame} {future : SendFuture}
      (finishes : Finishes writer.stream attempt front)
      (itemEq : future.item = writer.stream.closeItem) :
      ShutdownMove writer attempt .pending { writer with
        stream := { writer.stream with pendingSend := some future, pendingSendLen := 0 }
        entered := writer.entered ++ front }

/-- The close frame behind what has become of the pending send. -/
theorem shutdownMove_of_sendClose {writer : Writer} {attempt : Attempt}
    {front : List PrioritizedFrame} {outbox : Bounded PrioritizedFrame}
    (finishes : Finishes writer.stream attempt front)
    (enters : (Touch.mk attempt.outbox outbox).Enters front)
    (polled : writer.stream.pollShutdown attempt.outbox attempt.now =
      (cleared writer.stream).sendClose outbox attempt.now) :
    ShutdownMove writer attempt (writer.pollShutdown attempt).1
      (writer.pollShutdown attempt).2 := by
  have frontEq := enters.entered_eq
  rcases (cleared writer.stream).sendClose_cases outbox attempt.now with
    ⟨next, sent, queueEq, -⟩ | ⟨failure, sent⟩ | ⟨future, sent, itemEq⟩
  · have entersClose : (Touch.mk attempt.outbox next).Enters
        (front ++ [writer.stream.closeItem]) := by
      rw [Touch.Enters, ← List.append_assoc]
      exact queueEq.trans (congrArg (· ++ _) enters)
    have after : writer.pollShutdown attempt = (.ready (.ok ()), { writer with
        stream := cleared writer.stream
        entered := writer.entered ++ (front ++ [writer.stream.closeItem]) }) := by
      simp only [pollShutdown, polled, sent, entersClose.entered_eq]
      rfl
    rw [after]
    exact .closes finishes
  · have after : writer.pollShutdown attempt = (.ready (.error failure), { writer with
        stream := cleared writer.stream
        entered := writer.entered ++ front }) := by
      simp only [pollShutdown, polled, sent, frontEq]
      rfl
    rw [after]
    exact .fails finishes
  · have after : writer.pollShutdown attempt = (.pending, { writer with
        stream := { writer.stream with pendingSend := some future, pendingSendLen := 0 }
        entered := writer.entered ++ front }) := by
      simp only [pollShutdown, polled, sent, frontEq]
      rfl
    rw [after]
    exact .queues finishes itemEq

/-- Without a send no length is recorded. -/
def Settled (stream : VirtualStream) : Prop :=
  stream.pendingSend = none → stream.pendingSendLen = 0

theorem pollShutdown_move (writer : Writer) (attempt : Attempt) (settled : Settled writer.stream) :
    ShutdownMove writer attempt (writer.pollShutdown attempt).1
      (writer.pollShutdown attempt).2 := by
  cases pendingEq : writer.stream.pendingSend with
  | none =>
      have same : cleared writer.stream = writer.stream := by
        rw [cleared, ← pendingEq, ← settled pendingEq]
      apply shutdownMove_of_sendClose (.nothing pendingEq)
        (show (Touch.mk attempt.outbox attempt.outbox).Keeps from rfl).enters
      rw [same]
      simp only [VirtualStream.pollShutdown, pendingEq]
  | some future =>
      rcases future.poll_touch attempt with
        ⟨outbox, polled, enters⟩ | ⟨failure, polled⟩ | ⟨later, polled, itemEq⟩
      · apply shutdownMove_of_sendClose (.entered pendingEq (congrArg Prod.fst polled)) enters
        simp only [VirtualStream.pollShutdown, pendingEq, polled]
        rfl
      · apply shutdownMove_of_sendClose (.failed pendingEq (congrArg Prod.fst polled))
          (show (Touch.mk attempt.outbox attempt.outbox).Keeps from rfl).enters
        simp only [VirtualStream.pollShutdown, pendingEq, polled]
        rfl
      · have kept : (Touch.mk attempt.outbox attempt.outbox).entered = [] :=
          (show (Touch.mk attempt.outbox attempt.outbox).Keeps from rfl).enters.entered_eq
        have after : writer.pollShutdown attempt = (.pending, { writer with
            stream := { writer.stream with pendingSend := some later } }) := by
          simp [pollShutdown, VirtualStream.pollShutdown, pendingEq, polled, kept]
        rw [after]
        exact .waits pendingEq (congrArg Prod.fst polled) itemEq

/-! ## The pending send -/

/-- A pending send holds a data frame of the recorded length, or the close frame
with no length recorded. -/
inductive Holds (stream : VirtualStream) (item : PrioritizedFrame) : Prop
  | data {chunk : Bytes} (itemEq : item = (stream.priority, .data stream.streamId chunk false))
      (lengthEq : stream.pendingSendLen = chunk.length)
  | close (itemEq : item = stream.closeItem) (lengthEq : stream.pendingSendLen = 0)

/-- What holds of a stream between its polls. -/
structure Invariant (writer : Writer) : Prop where
  settled : Settled writer.stream
  holds : ∀ future ∈ writer.stream.pendingSend, Holds writer.stream future.item

theorem Invariant.new (streamId : UInt32) (rx : ChanId) (priority : StreamPriority)
    (readBuffer : Bytes) (protocol : Protocol) :
    Invariant (.new streamId rx priority readBuffer protocol) where
  settled _ := rfl
  holds _ pending := by cases pending

/-- A stream whose send is over meets the invariant. -/
theorem Invariant.of_cleared {writer : Writer} {stream : VirtualStream}
    (streamEq : writer.stream = cleared stream) : Invariant writer where
  settled _ := by rw [streamEq, cleared]
  holds _ pending := by
    rw [streamEq] at pending
    cases pending

/-- The chunk that a write sends is as long as the write reports. -/
theorem Invariant.holds_writeItem {writer : Writer} (invariant : Invariant writer)
    (buf : Bytes) {future : SendFuture} (itemEq : future.item = writer.stream.writeItem buf) :
    Holds { writer.stream with
      pendingSend := some future
      pendingSendLen := writer.stream.writeLen buf } future.item := by
  cases pendingEq : writer.stream.pendingSend with
  | none =>
      have fresh : future.item = (writer.stream.priority, writer.stream.dataFrame buf) := by
        simp [itemEq, VirtualStream.writeItem, pendingEq]
      have lengthEq : writer.stream.writeLen buf =
          (buf.take (min buf.length MAX_DATA_FRAME_PAYLOAD)).length := by
        simp [VirtualStream.writeLen, pendingEq]
      exact .data fresh lengthEq
  | some earlier =>
      have same : future.item = earlier.item := by
        simp [itemEq, VirtualStream.writeItem, pendingEq]
      have lengthEq : writer.stream.writeLen buf = writer.stream.pendingSendLen := by
        simp [VirtualStream.writeLen, pendingEq]
      rw [same]
      cases invariant.holds earlier pendingEq with
      | data itemEq recorded => exact .data itemEq (lengthEq.trans recorded)
      | close itemEq recorded => exact .close itemEq (lengthEq.trans recorded)

/-- Every call keeps the invariant. -/
theorem Invariant.step {writer next : Writer} {poll : WriterPoll}
    (invariant : Invariant writer) (stepEq : writer.step poll = some next) :
    Invariant next := by
  rcases poll with ⟨attempt, buf | _⟩
  · cases stepEq
    rcases writer.pollWrite_cases attempt buf with
      polled | ⟨failure, polled⟩ | ⟨future, itemEq, polled⟩ <;> rw [polled]
    · exact .of_cleared rfl
    · exact .of_cleared rfl
    · constructor
      · intro noSend
        cases noSend
      · rintro _ ⟨⟩
        exact invariant.holds_writeItem buf itemEq
  · cases stepEq
    have move := writer.pollShutdown_move attempt invariant.settled
    generalize writer.pollShutdown attempt = result at move ⊢
    rcases result with ⟨answer, after⟩
    cases move with
    | closes | fails => exact .of_cleared rfl
    | @waits future later pendingEq _ itemEq =>
        constructor
        · intro noSend
          cases noSend
        · rintro _ ⟨⟩
          rw [itemEq]
          cases invariant.holds future pendingEq with
          | data itemEq recorded => exact .data itemEq recorded
          | close itemEq recorded => exact .close itemEq recorded
    | queues _ itemEq =>
        constructor
        · intro noSend
          cases noSend
        · rintro _ ⟨⟩
          exact .close itemEq rfl

end Writer

end FerroTunnel.Stream
