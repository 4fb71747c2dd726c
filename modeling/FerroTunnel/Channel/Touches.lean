import FerroTunnel.Channel.Bounded

/-!
# Accesses to a shared channel

A party that sends to a channel finds it, at each access, in whatever state the
other parties have left it.  What the party itself did is the difference
between the channel it found and the channel it left.  The file names the two
outcomes that a retried send can have over all its accesses: the item was
entered exactly once, or not at all.
-/

namespace FerroTunnel.Channel

universe u

variable {α : Type u}

/-- One access: the channel as it was found and as it was left. -/
structure Touch (α : Type u) where
  before : Bounded α
  after : Bounded α

namespace Touch

/-- The items that an access put behind those it found. -/
def entered (touch : Touch α) : List α :=
  touch.after.queue.drop touch.before.queue.length

/-- The access added these items at the end and changed nothing else of the
queue. -/
def Enters (touch : Touch α) (items : List α) : Prop :=
  touch.after.queue = touch.before.queue ++ items

theorem Enters.entered_eq {touch : Touch α} {items : List α} (enters : touch.Enters items) :
    touch.entered = items := by
  rw [entered, enters, List.drop_left]

/-- The access left the channel as it was. -/
def Keeps (touch : Touch α) : Prop :=
  touch.after = touch.before

theorem Keeps.enters {touch : Touch α} (keeps : touch.Keeps) : touch.Enters [] := by
  rw [Enters, keeps, List.append_nil]

end Touch

/-- None of the accesses changed the channel. -/
def Untouched (touches : List (Touch α)) : Prop :=
  ∀ touch ∈ touches, touch.Keeps

/-- The last access entered the item, the ones before it changed nothing. -/
def EntersOnce (item : α) (touches : List (Touch α)) : Prop :=
  ∃ waits last, touches = waits ++ [last] ∧ Untouched waits ∧ last.Enters [item]

theorem Untouched.cons {touch : Touch α} {touches : List (Touch α)} (keeps : touch.Keeps)
    (untouched : Untouched touches) : Untouched (touch :: touches) :=
  List.forall_mem_cons.mpr ⟨keeps, untouched⟩

theorem EntersOnce.cons {item : α} {touch : Touch α} {touches : List (Touch α)}
    (keeps : touch.Keeps) (once : EntersOnce item touches) :
    EntersOnce item (touch :: touches) := by
  obtain ⟨waits, last, rfl, untouched, enters⟩ := once
  exact ⟨touch :: waits, last, rfl, untouched.cons keeps, enters⟩

end FerroTunnel.Channel
