import Mathlib.Logic.Basic

/-!
# Watch channels

A watch channel holds one value and counts how often it was sent.  A receiver
remembers the count it has seen.  It is told of a change when the count is another
one, and otherwise of the end of the channel when the sender is gone: a value that
was sent before the sender went away is seen first.
-/

namespace FerroTunnel.Channel

universe u

/-- A watch channel, as its receivers see it. -/
structure Watch (α : Type u) where
  value : α
  version : Nat
  senderGone : Bool
deriving DecidableEq

namespace Watch

variable {α : Type u}

/-- A fresh channel; its receivers have seen the first value. -/
def new (value : α) : Watch α :=
  ⟨value, 0, false⟩

/-- Replace the value. -/
def send (watch : Watch α) (value : α) : Watch α :=
  { watch with value := value, version := watch.version + 1 }

/-- Drop the sender. -/
def dropSender (watch : Watch α) : Watch α :=
  { watch with senderGone := true }

/-- Poll for a change: the new count, an error when the sender is gone, or nothing yet. -/
def changed (watch : Watch α) (seen : Nat) : Option (Except Unit Nat) :=
  if watch.version ≠ seen then
    some (.ok watch.version)
  else if watch.senderGone then
    some (.error ())
  else
    none

/-- A receiver waits as long as nothing was sent and the sender is there. -/
theorem changed_eq_none_iff {watch : Watch α} {seen : Nat} :
    watch.changed seen = none ↔ watch.version = seen ∧ watch.senderGone = false := by
  unfold changed
  split
  · rename_i different
    constructor
    · intro ready
      cases ready
    · intro same
      exact absurd same.1 different
  · rename_i same
    rw [not_not] at same
    cases gone : watch.senderGone with
    | true =>
        constructor
        · intro ready
          cases ready
        · intro waits
          cases waits.2
    | false => exact iff_of_true rfl ⟨same, rfl⟩

/-- A receiver whose sender is gone never waits. -/
theorem changed_ne_none_of_gone {watch : Watch α} (gone : watch.senderGone = true) (seen : Nat) :
    watch.changed seen ≠ none := by
  intro waits
  rw [(changed_eq_none_iff.mp waits).2] at gone
  cases gone

end Watch

end FerroTunnel.Channel
