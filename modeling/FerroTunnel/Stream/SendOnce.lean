import FerroTunnel.Stream.Writer

/-!
# Writes over bounded sends

A bounded send enters its frame once or not at all.  When every write that is
told to wait is made again with the same buffer, the send that waits is always
the one of the buffer at hand, so the data frames entered carry exactly the
bytes reported as written.
-/

namespace FerroTunnel.Stream

open FerroTunnel.Channel
open FerroTunnel.Transition
open FerroTunnel.Transport
open FerroTunnel.Wire

/-- The payloads of the data frames among the items, one after the other. -/
def payloads (items : List PrioritizedFrame) : Bytes :=
  items.flatMap fun item => (dataPayload item).getD []

namespace Writer

/-- The call is a write, with the same buffer if the last write was told to
wait. -/
def RetriesWrite (writer : Writer) (poll : WriterPoll) : Prop :=
  match poll.call with
  | .write buf => writer.waiting = none ∨ writer.waiting = some buf
  | .shutdown => False

instance (writer : Writer) (poll : WriterPoll) : Decidable (writer.RetriesWrite poll) :=
  match poll with
  | ⟨_, .write buf⟩ =>
      inferInstanceAs (Decidable (writer.waiting = none ∨ writer.waiting = some buf))
  | ⟨_, .shutdown⟩ => inferInstanceAs (Decidable False)

/-- A write that reports a length has entered the data frame of that many bytes
of its buffer, at most 64 KiB and at least one if the buffer has any; a write
that reports none has entered nothing. -/
def EntersReported (writer : Writer) (poll : WriterPoll) : Prop :=
  match poll.call with
  | .write buf =>
      match writer.pollWrite poll.attempt buf with
      | (.ready (.ok len), next) =>
          next.entered = writer.entered ++
            [(writer.stream.priority, .data writer.stream.streamId (buf.take len) false)] ∧
          len ≤ buf.length ∧ len ≤ MAX_DATA_FRAME_PAYLOAD ∧ (buf ≠ [] → 0 < len)
      | (_, next) => next.entered = writer.entered
  | .shutdown => True

/-- The send that waits, if any, is that of the buffer to be written again, and
the frames entered carry the bytes reported. -/
structure Retried (writer : Writer) : Prop where
  idle : writer.waiting = none → writer.stream.pendingSend = none
  own : ∀ buf, writer.waiting = some buf → ∃ future,
    writer.stream.pendingSend = some future ∧
      future.item = (writer.stream.priority, writer.stream.dataFrame buf) ∧
      writer.stream.pendingSendLen = min buf.length MAX_DATA_FRAME_PAYLOAD
  carried : payloads writer.entered = writer.reported

/-- A retried write sends the first chunk of its own buffer. -/
theorem Retried.writeItem_eq {writer : Writer} (retried : Retried writer) {buf : Bytes}
    (retries : writer.waiting = none ∨ writer.waiting = some buf) :
    writer.stream.writeItem buf = (writer.stream.priority, writer.stream.dataFrame buf) ∧
      writer.stream.writeLen buf = min buf.length MAX_DATA_FRAME_PAYLOAD := by
  rcases retries with idle | again
  · have noSend := retried.idle idle
    simp [VirtualStream.writeItem, VirtualStream.writeLen, noSend]
  · obtain ⟨future, pendingEq, itemEq, lengthEq⟩ := retried.own buf again
    simp [VirtualStream.writeItem, VirtualStream.writeLen, pendingEq, itemEq, lengthEq]

theorem payloads_append (items : List PrioritizedFrame) (priority : StreamPriority)
    (stream : VirtualStream) (buf : Bytes) :
    payloads (items ++ [(priority, stream.dataFrame buf)]) =
      payloads items ++ buf.take (min buf.length MAX_DATA_FRAME_PAYLOAD) := by
  simp [payloads, dataPayload, VirtualStream.dataFrame]

/-- A retried write keeps the bytes reported and the bytes entered equal. -/
theorem Retried.step {writer next : Writer} {poll : WriterPoll} (retried : Retried writer)
    (retries : writer.RetriesWrite poll) (stepEq : writer.step poll = some next) :
    Retried next := by
  rcases poll with ⟨attempt, buf | _⟩
  case shutdown => exact retries.elim
  cases stepEq
  obtain ⟨itemEq, lengthEq⟩ := retried.writeItem_eq retries
  rcases writer.pollWrite_cases attempt buf with
    polled | ⟨failure, polled⟩ | ⟨future, futureEq, polled⟩ <;> rw [polled]
  · constructor
    · intro _
      rfl
    · intro _ waits
      cases waits
    · rw [itemEq, lengthEq, payloads_append, retried.carried]
  · constructor
    · intro _
      rfl
    · intro _ waits
      cases waits
    · exact retried.carried
  · constructor
    · intro idle
      cases idle
    · rintro _ ⟨⟩
      exact ⟨future, rfl, futureEq.trans itemEq, lengthEq⟩
    · exact retried.carried

/-- A retried write enters what it reports. -/
theorem Retried.entersReported {writer : Writer} {poll : WriterPoll} (retried : Retried writer)
    (retries : writer.RetriesWrite poll) : writer.EntersReported poll := by
  rcases poll with ⟨attempt, buf | _⟩
  case shutdown => exact retries.elim
  obtain ⟨itemEq, lengthEq⟩ := retried.writeItem_eq retries
  unfold EntersReported
  rcases writer.pollWrite_cases attempt buf with
    polled | ⟨failure, polled⟩ | ⟨future, futureEq, polled⟩ <;> simp only [polled]
  rw [itemEq, lengthEq]
  constructor
  · rfl
  constructor
  · exact Nat.min_le_left _ _
  constructor
  · exact Nat.min_le_right _ _
  · intro nonempty
    apply Nat.lt_min.mpr
    exact ⟨List.length_pos_iff.mpr nonempty, by decide⟩

end Writer

/-- However the wire channel evolves between attempts, `send_prioritized_frame`
and the bounded send future enter their frame exactly once when they return
success and not at all otherwise; and in every sequence of write polls in which
a poll told to wait is made again with the same buffer, every poll enters
exactly the chunk it reports, so that the payloads entered are the bytes
reported as written. -/
theorem bounded_send_exactly_once :
    (∀ frame attempts, SendOutcome frame (sendPrioritizedFrame frame attempts).2
      (sendPrioritizedFrame frame attempts).1) ∧
    (∀ frame now attempts, SendOutcome frame ((boundedSendFuture frame now).drive attempts).2
      ((boundedSendFuture frame now).drive attempts).1) ∧
    ∀ streamId rx priority readBuffer protocol polls final,
      Meets Writer.step Writer.RetriesWrite
        (.new streamId rx priority readBuffer protocol) polls →
      exec Writer.step (.new streamId rx priority readBuffer protocol) polls = some final →
        Meets Writer.step Writer.EntersReported
          (.new streamId rx priority readBuffer protocol) polls ∧
        payloads final.entered = final.reported := by
  constructor
  · exact sendPrioritizedFrame_outcome
  constructor
  · intro frame now attempts
    exact (boundedSendFuture frame now).drive_outcome attempts
  · intro streamId rx priority readBuffer protocol polls final retries run
    have initial : Writer.Retried (.new streamId rx priority readBuffer protocol) := by
      constructor
      · intro _
        rfl
      · intro _ waits
        cases waits
      · rfl
    constructor
    · exact retries.imp_of_invariant Writer.Retried.step Writer.Retried.entersReported initial
    · exact (exec_invariant_of_meets Writer.Retried.step initial retries run).carried

/-- A wire channel with room for one frame, which another stream has taken. -/
def fullOutbox : Bounded PrioritizedFrame :=
  ⟨1, [(.normal, .heartbeat 0)], false, false, by decide⟩

/-- The write of one byte waits for a full channel and is made again when the
channel has been drained. -/
def retriedWrite : List WriterPoll :=
  [⟨⟨fullOutbox, 0⟩, .write [7]⟩, ⟨⟨.empty 1, 1⟩, .write [7]⟩]

/-- The byte is entered once and reported once. -/
theorem bounded_send_exactly_once_retriedWrite :
    Meets Writer.step Writer.EntersReported (.new 1 0 .normal [] .tcp) retriedWrite ∧
    (exec Writer.step (.new 1 0 .normal [] .tcp) retriedWrite).map
        (fun writer => (writer.entered, writer.reported)) =
      some ([(.normal, .data 1 [7] false)], [7]) := by
  have run : (exec Writer.step (.new 1 0 .normal [] .tcp) retriedWrite).map
      (fun writer => (writer.entered, writer.reported)) =
        some ([(.normal, .data 1 [7] false)], [7]) := by decide
  obtain ⟨final, runEq, -⟩ := Option.map_eq_some_iff.mp run
  exact ⟨(bounded_send_exactly_once.2.2 1 0 .normal [] .tcp retriedWrite final (by decide)
    runEq).1, run⟩

end FerroTunnel.Stream
