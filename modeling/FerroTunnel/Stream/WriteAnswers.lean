import FerroTunnel.Stream.SendOnce

/-!
# Whose write a poll answers for

`poll_write` first finishes the send it finds pending and reports the length of
that send, whichever call began it.  The answer is right for the caller's own
buffer exactly when the data frame that was waiting is a prefix of the buffer.
A close frame left by an abandoned shutdown is answered with length zero.
-/

namespace FerroTunnel.Stream

open FerroTunnel.Channel
open FerroTunnel.Transition
open FerroTunnel.Transport
open FerroTunnel.Wire

/-- The payload of the last data frame among the items. -/
def lastData (items : List PrioritizedFrame) : Option Bytes :=
  (items.filterMap dataPayload).getLast?

theorem lastData_append_data {item : PrioritizedFrame} {data : Bytes}
    (isData : dataPayload item = some data) (items : List PrioritizedFrame) :
    lastData (items ++ [item]) = some data := by
  simp [lastData, isData]

theorem lastData_append_other {item : PrioritizedFrame} (other : dataPayload item = none)
    (items : List PrioritizedFrame) : lastData (items ++ [item]) = lastData items := by
  simp [lastData, other]

namespace Writer

/-- A write that reports `len` bytes written: `len` is within its buffer, and the
last data frame entered for the stream carries exactly these bytes. -/
def AnswersOwnBuffer (writer : Writer) (poll : WriterPoll) : Prop :=
  match poll.call with
  | .write buf =>
      match writer.pollWrite poll.attempt buf with
      | (.ready (.ok len), next) =>
          len ≤ buf.length ∧ lastData next.entered = some (buf.take len)
      | _ => True
  | .shutdown => True

/-- A write that completes a send left by an earlier call: the send is that of a
data frame whose payload begins the write's own buffer, or of a close frame
behind an empty data frame. -/
def FindsOwnSend (writer : Writer) (poll : WriterPoll) : Prop :=
  match poll.call with
  | .write buf => ∀ future ∈ writer.stream.pendingSend,
      (future.poll poll.attempt.outbox poll.attempt.now).1 = .ready (.ok ()) →
        match dataPayload future.item with
        | some chunk => chunk <+: buf
        | none => lastData writer.entered = some []
  | .shutdown => True

/-- A write that finds no send pending answers for its own buffer. -/
theorem answersOwnBuffer_of_idle {writer : Writer} (noSend : writer.stream.pendingSend = none)
    (attempt : Attempt) (buf : Bytes) : writer.AnswersOwnBuffer ⟨attempt, .write buf⟩ := by
  have itemEq : writer.stream.writeItem buf =
      (writer.stream.priority, writer.stream.dataFrame buf) := by
    simp [VirtualStream.writeItem, noSend]
  have lengthEq : writer.stream.writeLen buf = min buf.length MAX_DATA_FRAME_PAYLOAD := by
    simp [VirtualStream.writeLen, noSend]
  unfold AnswersOwnBuffer
  rcases writer.pollWrite_cases attempt buf with
    polled | ⟨failure, polled⟩ | ⟨future, -, polled⟩ <;> simp only [polled]
  rw [itemEq, lengthEq]
  constructor
  · exact Nat.min_le_left _ _
  · exact lastData_append_data rfl _

/-- A write that completes the send it finds reports the length recorded and
enters the frame that was waiting. -/
theorem pollWrite_of_completes {writer : Writer} {future : SendFuture}
    (pendingEq : writer.stream.pendingSend = some future) (attempt : Attempt) (buf : Bytes)
    (completes : (future.poll attempt.outbox attempt.now).1 = .ready (.ok ())) :
    (writer.pollWrite attempt buf).1 = .ready (.ok writer.stream.pendingSendLen) ∧
      (writer.pollWrite attempt buf).2.entered = writer.entered ++ [future.item] := by
  rcases future.poll_touch attempt with
    ⟨outbox, polled, enters⟩ | ⟨failure, polled⟩ | ⟨later, polled, -⟩
  · simp [pollWrite, VirtualStream.pollWrite, pendingEq, polled, Except.map, enters.entered_eq]
  · rw [polled] at completes
    cases completes
  · rw [polled] at completes
    cases completes

/-- A write that does not complete the send it finds reports no length. -/
theorem pollWrite_of_not_completes {writer : Writer} {future : SendFuture}
    (pendingEq : writer.stream.pendingSend = some future) (attempt : Attempt) (buf : Bytes)
    (incomplete : (future.poll attempt.outbox attempt.now).1 ≠ .ready (.ok ())) (len : Nat) :
    (writer.pollWrite attempt buf).1 ≠ .ready (.ok len) := by
  rcases future.poll_touch attempt with
    ⟨outbox, polled, -⟩ | ⟨failure, polled⟩ | ⟨later, polled, -⟩
  · rw [polled] at incomplete
    contradiction
  · simp [pollWrite, VirtualStream.pollWrite, pendingEq, polled, Except.map]
  · simp [pollWrite, VirtualStream.pollWrite, pendingEq, polled]

/-- In a state that polls can reach, a call answers for its own buffer exactly
when it finds its own send. -/
theorem Invariant.answersOwnBuffer_iff {writer : Writer} (invariant : Invariant writer)
    (poll : WriterPoll) : writer.AnswersOwnBuffer poll ↔ writer.FindsOwnSend poll := by
  rcases poll with ⟨attempt, buf | _⟩
  case shutdown => exact Iff.rfl
  cases pendingEq : writer.stream.pendingSend with
  | none =>
      apply iff_of_true (answersOwnBuffer_of_idle pendingEq attempt buf)
      intro future pending
      rw [pendingEq] at pending
      cases pending
  | some future =>
      simp only [AnswersOwnBuffer, FindsOwnSend, pendingEq, Option.mem_some_iff, forall_eq']
      by_cases completes : (future.poll attempt.outbox attempt.now).1 = .ready (.ok ())
      · obtain ⟨answerEq, enteredEq⟩ := pollWrite_of_completes pendingEq attempt buf completes
        generalize writer.pollWrite attempt buf = result at answerEq enteredEq
        rcases result with ⟨answer, next⟩
        subst answerEq
        simp only [completes, forall_const] at enteredEq ⊢
        rw [enteredEq]
        cases invariant.holds future pendingEq with
        | @data chunk itemEq recorded =>
            have payloadEq : dataPayload future.item = some chunk := by rw [itemEq]; rfl
            rw [lastData_append_data payloadEq, payloadEq, recorded, Option.some.injEq]
            constructor
            · intro answered
              exact List.prefix_iff_eq_take.mpr answered.2
            · intro begins
              exact ⟨begins.length_le, List.prefix_iff_eq_take.mp begins⟩
        | close itemEq recorded =>
            have payloadEq : dataPayload future.item = none := by rw [itemEq]; rfl
            rw [lastData_append_other payloadEq, payloadEq, recorded]
            simp
      · have silent := pollWrite_of_not_completes pendingEq attempt buf completes
        apply iff_of_true
        · split
          · rename_i len next answered
            exact absurd (congrArg Prod.fst answered) (silent len)
          · trivial
        · intro succeeded
          exact absurd succeeded completes

end Writer

/-- In every sequence of `poll_write` and `poll_shutdown` calls on a stream, with
arbitrary buffers and whatever happens to the wire channel, every write answers
for its own buffer if and only if every write that completes a send left by an
earlier call finds its own send. -/
theorem write_answers_own_buffer_iff (streamId : UInt32) (rx : ChanId) (priority : StreamPriority)
    (readBuffer : Bytes) (protocol : Protocol) (polls : List WriterPoll) :
    Meets Writer.step Writer.AnswersOwnBuffer
        (.new streamId rx priority readBuffer protocol) polls ↔
      Meets Writer.step Writer.FindsOwnSend
        (.new streamId rx priority readBuffer protocol) polls := by
  have initial := Writer.Invariant.new streamId rx priority readBuffer protocol
  apply Meets.iff_of_invariant _ _ initial
  · exact fun invariant stepEq => invariant.step stepEq
  · exact fun invariant => invariant.answersOwnBuffer_iff _

/-- A write of three bytes waits for a full channel and is abandoned; another
write, of one byte, finds the channel drained. -/
def abandonedWrite : List WriterPoll :=
  [⟨⟨fullOutbox, 0⟩, .write [1, 2, 3]⟩, ⟨⟨.empty 1, 1⟩, .write [9]⟩]

/-- The second write is told that three bytes of its one-byte buffer were
written, and the frame entered carries the bytes of the first. -/
theorem abandoned_write_answered :
    (exec Writer.step (.new 1 0 .normal [] .tcp) [⟨⟨fullOutbox, 0⟩, .write [1, 2, 3]⟩]).map
        (fun writer => (writer.pollWrite ⟨.empty 1, 1⟩ [9]).1) =
      some (.ready (.ok 3)) ∧
    (exec Writer.step (.new 1 0 .normal [] .tcp) abandonedWrite).map
        (fun writer => lastData writer.entered) =
      some (some [1, 2, 3]) ∧
    ¬Meets Writer.step Writer.AnswersOwnBuffer (.new 1 0 .normal [] .tcp) abandonedWrite := by
  constructor
  · decide
  constructor
  · decide
  · intro answers
    have own := (answers.2 _ rfl).1
    exact absurd own.1 (by decide)

end FerroTunnel.Stream
