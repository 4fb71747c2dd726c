import FerroTunnel.Stream.WriteAnswers

/-!
# A shutdown driven to its end

`poll_shutdown` finishes the send it finds pending and then sends a close frame.
When the send it finds is the close frame of an earlier poll, the stream has
sent two.  A shutdown sends exactly one close frame, behind every data frame,
precisely when none of its polls completes a pending close frame.
-/

namespace FerroTunnel.Stream

open FerroTunnel.Channel
open FerroTunnel.Transition
open FerroTunnel.Transport
open FerroTunnel.Wire

namespace Writer

/-- Call `poll_shutdown` until it returns success: the stream and its record
then, if it does within the attempts. -/
def shutdown : Writer → List Attempt → Option Writer
  | _, [] => none
  | writer, attempt :: later =>
      match writer.pollShutdown attempt with
      | (.ready (.ok ()), final) => some final
      | (_, next) => next.shutdown later

/-- A poll of a shutdown after which the shutdown goes on. -/
def shutdownStep : Step Writer Attempt := fun writer attempt =>
  match writer.pollShutdown attempt with
  | (.ready (.ok ()), _) => none
  | (_, next) => some next

/-- The poll does not complete the send of a close frame left by an earlier poll. -/
def CompletesNoClose (writer : Writer) (attempt : Attempt) : Prop :=
  ∀ future ∈ writer.stream.pendingSend,
    (future.poll attempt.outbox attempt.now).1 = .ready (.ok ()) →
      future.item ≠ writer.stream.closeItem

/-- What a poll enters before its own close frame is data, unless the poll
completes a pending close frame. -/
theorem Invariant.finishes_data_iff {writer : Writer} (invariant : Invariant writer)
    {attempt : Attempt} {front : List PrioritizedFrame}
    (finishes : Finishes writer.stream attempt front) :
    (∀ item ∈ front, (dataPayload item).isSome) ↔ writer.CompletesNoClose attempt := by
  cases finishes with
  | nothing pendingEq => simp [CompletesNoClose, pendingEq]
  | failed pendingEq polled => simp [CompletesNoClose, pendingEq, polled]
  | @entered future pendingEq polled =>
      simp only [CompletesNoClose, pendingEq, polled, List.mem_singleton, forall_eq,
        Option.mem_some_iff, forall_eq', forall_const]
      cases invariant.holds future pendingEq with
      | data itemEq _ | close itemEq _ => simp [itemEq, dataPayload, VirtualStream.closeItem]

/-- What one poll of a shutdown enters: the frames of the pending send and then,
if it returns success, the close frame. -/
structure Polled (writer : Writer) (attempt : Attempt) (front : List PrioritizedFrame)
    (answer : Poll (Except SendFailure Unit)) (next : Writer) : Prop where
  data_iff : (∀ item ∈ front, (dataPayload item).isSome) ↔ writer.CompletesNoClose attempt
  entered_eq : next.entered = writer.entered ++
    (front ++ if answer = .ready (.ok ()) then [writer.stream.closeItem] else [])
  closeItem_eq : next.stream.closeItem = writer.stream.closeItem

theorem Invariant.polled {writer : Writer} (invariant : Invariant writer) (attempt : Attempt) :
    ∃ front, Polled writer attempt front (writer.pollShutdown attempt).1
      (writer.pollShutdown attempt).2 := by
  have move := writer.pollShutdown_move attempt invariant.settled
  generalize writer.pollShutdown attempt = result at move ⊢
  rcases result with ⟨answer, next⟩
  cases move with
  | waits pendingEq polled =>
      use []
      constructor
      · simp [CompletesNoClose, pendingEq, polled]
      · simp
      · rfl
  | closes finishes | fails finishes | queues finishes =>
      exact ⟨_, invariant.finishes_data_iff finishes, by simp, rfl⟩

/-- A shutdown enters its close frame last, and before it only data exactly when
no poll completes a pending close frame. -/
theorem Invariant.shutdown_entered {writer final : Writer} (invariant : Invariant writer)
    {attempts : List Attempt} (returned : writer.shutdown attempts = some final) :
    ∃ front, final.entered = writer.entered ++ (front ++ [writer.stream.closeItem]) ∧
      ((∀ item ∈ front, (dataPayload item).isSome) ↔
        Meets shutdownStep CompletesNoClose writer attempts) := by
  -- the polls already made are accounted for by what the writer has entered
  induction attempts generalizing writer with
  | nil => cases returned
  | cons attempt later ih =>
      obtain ⟨front, polled⟩ := invariant.polled attempt
      have kept : Invariant (writer.pollShutdown attempt).2 :=
        @Invariant.step writer _ ⟨attempt, .shutdown⟩ invariant rfl
      simp only [Meets, shutdownStep]
      simp only [shutdown] at returned
      generalize writer.pollShutdown attempt = result at polled kept returned ⊢
      rcases result with ⟨answer, next⟩
      by_cases succeeded : answer = .ready (.ok ())
      · subst succeeded
        cases returned
        use front
        constructor
        · simpa using polled.entered_eq
        · simpa using polled.data_iff
      · have goesOn : next.shutdown later = some final := by
          split at returned <;> simp_all
        obtain ⟨rest, enteredEq, restIff⟩ := ih kept goesOn
        use front ++ rest
        constructor
        · rw [enteredEq, polled.entered_eq, polled.closeItem_eq]
          simp [succeeded]
        · simp only [Option.some.injEq, forall_eq', ← restIff, ← polled.data_iff,
            List.mem_append, or_imp, forall_and]

end Writer

/-- After any sequence of `poll_write` and `poll_shutdown` calls and whatever
happens to the wire channel, a shutdown driven until it returns success enters
exactly one close frame, behind data frames only, if and only if none of its
polls completes the send of a close frame left by an earlier poll. -/
theorem shutdown_closes_once_iff (streamId : UInt32) (rx : ChanId) (priority : StreamPriority)
    (readBuffer : Bytes) (protocol : Protocol) (polls : List WriterPoll) (writer final : Writer)
    (reached : exec Writer.step (.new streamId rx priority readBuffer protocol) polls =
      some writer)
    (attempts : List Attempt) (returned : writer.shutdown attempts = some final) :
    (∃ front, final.entered = writer.entered ++ (front ++ [writer.stream.closeItem]) ∧
        ∀ item ∈ front, (dataPayload item).isSome) ↔
      Meets Writer.shutdownStep Writer.CompletesNoClose writer attempts := by
  have invariant : Writer.Invariant writer :=
    exec_invariant (fun invariant stepEq => invariant.step stepEq)
      (Writer.Invariant.new streamId rx priority readBuffer protocol) reached
  obtain ⟨front, enteredEq, dataIff⟩ := invariant.shutdown_entered returned
  rw [← dataIff]
  constructor
  · rintro ⟨other, otherEq, data⟩
    have same : other = front := by
      rw [enteredEq] at otherEq
      exact (List.append_cancel_right (List.append_cancel_left otherEq)).symm
    rwa [← same]
  · intro data
    exact ⟨front, enteredEq, data⟩

/-- A stream with a write of one byte that waits for a full channel. -/
def waitingWriter : Writer :=
  ((Writer.new 1 0 .normal [] .tcp).pollWrite ⟨fullOutbox, 0⟩ [7]).2

/-- The stream when a shutdown has waited once and then found room. -/
def closedWriter : Writer :=
  ((waitingWriter.pollShutdown ⟨fullOutbox, 1⟩).2.pollShutdown ⟨.empty 2, 3⟩).2

theorem shutdown_closes_once_iff_waitingWriter :
    closedWriter.entered = [(.normal, .data 1 [7] false), (.normal, .closeStream 1 .normal)] ∧
      Meets Writer.shutdownStep Writer.CompletesNoClose waitingWriter
        [⟨fullOutbox, 1⟩, ⟨.empty 2, 3⟩] := by
  constructor
  · decide
  · rw [← shutdown_closes_once_iff 1 0 .normal [] .tcp [⟨⟨fullOutbox, 0⟩, .write [7]⟩]
      waitingWriter closedWriter rfl _ rfl]
    exact ⟨[(.normal, .data 1 [7] false)], by decide, by decide⟩

/-- The first poll finds the channel full and leaves its close frame pending; the
second enters that frame and then sends another one. -/
theorem shutdown_closes_twice :
    ((Writer.new 1 0 .normal [] .tcp).shutdown [⟨fullOutbox, 0⟩, ⟨.empty 2, 1⟩]).map
        (fun final => final.entered) =
      some [(.normal, .closeStream 1 .normal), (.normal, .closeStream 1 .normal)] := by
  decide

end FerroTunnel.Stream
