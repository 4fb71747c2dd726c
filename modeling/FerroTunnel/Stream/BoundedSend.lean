import FerroTunnel.Channel.Touches
import FerroTunnel.Stream.VirtualStream

/-!
# Bounded sends over an evolving wire channel

A bounded send tries the wire channel again and again until it succeeds, finds
the channel closed, or passes its deadline.  Between two attempts the other
users of the channel may fill, drain or close it, so each attempt is given the
channel as it then is.
-/

namespace FerroTunnel.Stream

open FerroTunnel.Channel
open FerroTunnel.Transport
open FerroTunnel.Wire

/-- A poll as the rest of the program presents it: the wire channel as it is at
that moment, and the time. -/
structure Attempt where
  outbox : Bounded PrioritizedFrame
  now : Nat

/-- Poll a send until it returns; the result, if it came to one, and the
accesses to the channel. -/
def SendFuture.drive : SendFuture → List Attempt →
    Option (Except SendFailure Unit) × List (Touch PrioritizedFrame)
  | _, [] => (none, [])
  | future, attempt :: rest =>
      match future.poll attempt.outbox attempt.now with
      | (.ready result, _, outbox) => (some result, [⟨attempt.outbox, outbox⟩])
      | (.pending, future, outbox) =>
          ((future.drive rest).1, ⟨attempt.outbox, outbox⟩ :: (future.drive rest).2)

/-- Send a frame to the wire channel with a bounded deadline, counted from the
first poll. -/
def sendPrioritizedFrame (frame : PrioritizedFrame) (attempts : List Attempt) :
    Option (Except SendFailure Unit) × List (Touch PrioritizedFrame) :=
  match attempts with
  | [] => (none, [])
  | first :: rest => (boundedSendFuture frame first.now).drive (first :: rest)

/-- A poll returns success with the frame entered, returns a failure with the
channel as it was, or waits with the channel as it was and the frame kept. -/
theorem SendFuture.poll_touch (future : SendFuture) (attempt : Attempt) :
    (∃ outbox, future.poll attempt.outbox attempt.now = (.ready (.ok ()), future, outbox) ∧
      (Touch.mk attempt.outbox outbox).Enters [future.item]) ∨
    (∃ failure, future.poll attempt.outbox attempt.now =
      (.ready (.error failure), future, attempt.outbox)) ∨
    ∃ later, future.poll attempt.outbox attempt.now = (.pending, later, attempt.outbox) ∧
      later.item = future.item := by
  rcases future.poll_cases attempt.outbox attempt.now with
    ⟨outbox, polled, queueEq, -⟩ | failed | waits
  · exact .inl ⟨outbox, polled, queueEq⟩
  · exact .inr (.inl failed)
  · exact .inr (.inr waits)

/-- What a send has done to the channel when it has come to this result. -/
def SendOutcome (item : PrioritizedFrame) (touches : List (Touch PrioritizedFrame)) :
    Option (Except SendFailure Unit) → Prop
  | some (.ok ()) => EntersOnce item touches
  | some (.error _) => Untouched touches
  | none => Untouched touches

/-- An access that changed nothing does not change what the send has done. -/
theorem SendOutcome.cons {item : PrioritizedFrame} {touch : Touch PrioritizedFrame}
    {touches : List (Touch PrioritizedFrame)} {result : Option (Except SendFailure Unit)}
    (keeps : touch.Keeps) (outcome : SendOutcome item touches result) :
    SendOutcome item (touch :: touches) result := by
  rcases result with _ | failure | done
  · exact Untouched.cons keeps outcome
  · exact Untouched.cons keeps outcome
  · exact EntersOnce.cons keeps outcome

/-- A send enters its frame exactly once when it succeeds, and otherwise leaves
the channel alone at every attempt. -/
theorem SendFuture.drive_outcome (future : SendFuture) (attempts : List Attempt) :
    SendOutcome future.item (future.drive attempts).2 (future.drive attempts).1 := by
  induction attempts generalizing future with
  | nil =>
      intro touch accessed
      cases accessed
  | cons attempt rest ih =>
      rcases future.poll_touch attempt with
        ⟨outbox, polled, enters⟩ | ⟨failure, polled⟩ | ⟨later, polled, itemEq⟩
      · simp only [drive, polled]
        exact ⟨[], ⟨attempt.outbox, outbox⟩, rfl, by simp [Untouched], enters⟩
      · simp only [drive, polled]
        exact Untouched.cons rfl (by simp [Untouched])
      · simp only [drive, polled]
        rw [← itemEq]
        exact (ih later).cons rfl

theorem sendPrioritizedFrame_outcome (frame : PrioritizedFrame) (attempts : List Attempt) :
    SendOutcome frame (sendPrioritizedFrame frame attempts).2
      (sendPrioritizedFrame frame attempts).1 := by
  cases attempts with
  | nil =>
      intro touch accessed
      cases accessed
  | cons first rest => exact (boundedSendFuture frame first.now).drive_outcome (first :: rest)

end FerroTunnel.Stream
