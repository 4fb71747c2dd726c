import Mathlib.Data.List.Basic

/-!
# Bounded first-in first-out channels

A channel holds at most its capacity, and one item more while a receiver is
parked on it: such a receiver is handed its item directly.  The bound is part
of the channel, so an overfull one cannot be built.  Items leave in the order
in which they entered, and none is lost while the receiving half exists.
-/

namespace FerroTunnel.Channel

universe u

/-- A bounded channel as its two halves see it. -/
structure Bounded (α : Type u) where
  capacity : Nat
  queue : List α
  parked : Bool
  receiverGone : Bool
  bounded : queue.length ≤ capacity + parked.toNat

/-- What a sender that does not wait is told. -/
inductive SendVerdict
  | sent
  | full
  | closed
deriving DecidableEq, Repr

namespace Bounded

variable {α : Type u}

/-- A fresh channel. -/
def empty (capacity : Nat) : Bounded α where
  capacity := capacity
  queue := []
  parked := false
  receiverGone := false
  bounded := Nat.zero_le _

/-- Enter an item at the end of the queue unless the channel is full or its
receiver is gone. -/
def trySend (channel : Bounded α) (item : α) : SendVerdict × Bounded α :=
  if channel.receiverGone then
    (.closed, channel)
  else if room : channel.queue.length < channel.capacity + channel.parked.toNat then
    (.sent, { channel with
      queue := channel.queue ++ [item]
      bounded := by simpa [Nat.succ_le_iff] using room })
  else
    (.full, channel)

/-- Take the first item. -/
def tryRecv (channel : Bounded α) : Option α × Bounded α :=
  match channel with
  | ⟨capacity, [], parked, receiverGone, bounded⟩ =>
      (none, ⟨capacity, [], parked, receiverGone, bounded⟩)
  | ⟨capacity, item :: rest, parked, receiverGone, bounded⟩ =>
      (some item, ⟨capacity, rest, false, receiverGone, by
        have := Bool.toNat_le parked
        simp only [List.length_cons, Bool.toNat_false] at bounded ⊢
        omega⟩)

/-- Take the first item, or park until one arrives. -/
def recv (channel : Bounded α) : Option α × Bounded α :=
  match channel.tryRecv with
  | (some item, rest) => (some item, rest)
  | (none, rest) => (none, { rest with
      parked := true
      bounded := Nat.le_trans rest.bounded (Nat.add_le_add_left (Bool.toNat_le _) _) })

/-- Drop the receiving half. -/
def closeReceiver (channel : Bounded α) : Bounded α :=
  { channel with receiverGone := true }

@[simp]
theorem closeReceiver_queue (channel : Bounded α) :
    channel.closeReceiver.queue = channel.queue :=
  rfl

@[simp]
theorem closeReceiver_receiverGone (channel : Bounded α) :
    channel.closeReceiver.receiverGone = true :=
  rfl

/-- A send enters the item last, or changes nothing. -/
theorem trySend_cases (channel : Bounded α) (item : α) :
    (∃ next, channel.trySend item = (.sent, next) ∧ channel.receiverGone = false ∧
      next.queue = channel.queue ++ [item] ∧ next.receiverGone = false) ∨
    channel.trySend item = (.full, channel) ∨
    (channel.trySend item = (.closed, channel) ∧ channel.receiverGone = true) := by
  cases gone : channel.receiverGone with
  | true =>
      right
      right
      exact ⟨by simp [trySend, gone], rfl⟩
  | false =>
      by_cases room : channel.queue.length < channel.capacity + channel.parked.toNat
      · left
        refine ⟨{ channel with
            queue := channel.queue ++ [item]
            bounded := by simpa [Nat.succ_le_iff] using room }, ?_, rfl, rfl, gone⟩
        simp [trySend, gone, room]
      · right
        left
        simp [trySend, gone, room]

theorem trySend_capacity (channel : Bounded α) (item : α) :
    (channel.trySend item).2.capacity = channel.capacity := by
  simp only [trySend]
  split
  · rfl
  · split <;> rfl

/-- A channel with an empty queue takes an item. -/
theorem trySend_ne_full {channel : Bounded α} (empty : channel.queue = [])
    (room : 0 < channel.capacity) (item : α) : (channel.trySend item).1 ≠ .full := by
  have fits : channel.queue.length < channel.capacity + channel.parked.toNat := by
    rw [empty]
    exact Nat.lt_of_lt_of_le room (Nat.le_add_right _ _)
  simp only [trySend]
  split
  · exact SendVerdict.noConfusion
  · exact SendVerdict.noConfusion

theorem tryRecv_capacity (channel : Bounded α) :
    channel.tryRecv.2.capacity = channel.capacity := by
  rcases channel with ⟨capacity, _ | ⟨item, rest⟩, parked, receiverGone, bounded⟩ <;> rfl

/-- A receive takes the first item, and asks to wait only on an empty queue. -/
theorem tryRecv_cases (channel : Bounded α) :
    (channel.queue = [] ∧ channel.tryRecv = (none, channel)) ∨
    ∃ item rest, channel.queue = item :: rest ∧ channel.tryRecv.1 = some item ∧
      channel.tryRecv.2.queue = rest ∧
      channel.tryRecv.2.receiverGone = channel.receiverGone := by
  rcases channel with ⟨capacity, _ | ⟨item, rest⟩, parked, receiverGone, bounded⟩
  · exact .inl ⟨rfl, rfl⟩
  · exact .inr ⟨item, rest, rfl, rfl, rfl, rfl⟩

/-- What was received in front of what is left is what was queued. -/
theorem recv_queue (channel : Bounded α) :
    channel.recv.1.toList ++ channel.recv.2.queue = channel.queue := by
  rcases channel with ⟨capacity, _ | ⟨item, rest⟩, parked, receiverGone, bounded⟩ <;> rfl

theorem recv_receiverGone (channel : Bounded α) :
    channel.recv.2.receiverGone = channel.receiverGone := by
  rcases channel with ⟨capacity, _ | ⟨item, rest⟩, parked, receiverGone, bounded⟩ <;> rfl

end Bounded

end FerroTunnel.Channel
