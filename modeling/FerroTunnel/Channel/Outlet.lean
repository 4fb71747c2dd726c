import Mathlib.Data.List.Basic

/-!
# Sending until the connection is lost

Items are sent one after another on a connection that may be lost before any of
them.  What is sent then fails, and nothing more arrives.

`Sends` says which items an action sends when the connection lasts.  When it does not
last, a prefix of them has been sent.
-/

namespace FerroTunnel.Channel

variable {α : Type}

/-- A connection with the items that were sent on it. -/
structure Outlet (α : Type) where
  sent : List α
  /-- How many more items can be sent, if the connection will be lost. -/
  remaining : Option Nat
  /-- Why it will be lost. -/
  cause : String
deriving DecidableEq

/-- What sends items, and may fail. -/
abbrev Sending (α : Type) := EStateM String (Outlet α)

/-- Send an item; `context` says in an error what failed. -/
def send (item : α) (context : String) : Sending α Unit := fun outlet =>
  match outlet.remaining with
  | none => .ok () { outlet with sent := outlet.sent ++ [item] }
  | some 0 => .error (context ++ ": " ++ outlet.cause) outlet
  | some (more + 1) =>
      .ok () { outlet with sent := outlet.sent ++ [item], remaining := some more }

namespace Outlet

/-- The outlet after these items were to be sent, as far as the connection lasts. -/
def after (outlet : Outlet α) (items : List α) : Outlet α where
  sent := outlet.sent ++ items.take (outlet.remaining.getD items.length)
  remaining := outlet.remaining.map (· - items.length)
  cause := outlet.cause

/-- The connection lasts for this many items. -/
def Lasts (outlet : Outlet α) (count : Nat) : Prop :=
  ∀ more ∈ outlet.remaining, count ≤ more

variable {outlet : Outlet α} {items later : List α}

@[simp]
theorem after_nil : outlet.after [] = outlet := by
  obtain ⟨sent, remaining, cause⟩ := outlet
  cases remaining <;> simp [after]

theorem after_append_of_lasts (lasts : outlet.Lasts items.length) :
    (outlet.after items).after later = outlet.after (items ++ later) := by
  obtain ⟨sent, remaining, cause⟩ := outlet
  cases remaining with
  | none => simp [after, List.take_of_length_le]
  | some more =>
      have enough : items.length ≤ more := lasts more rfl
      simp [after, List.take_append, List.take_of_length_le enough, Nat.sub_sub]

theorem after_append_of_not_lasts (lost : ¬ outlet.Lasts items.length) :
    outlet.after (items ++ later) = outlet.after items := by
  obtain ⟨sent, remaining, cause⟩ := outlet
  cases remaining with
  | none => exact absurd (fun _ no => by cases no) lost
  | some more =>
      have few : more < items.length := by
        by_contra enough
        exact lost fun _ same => Option.some.inj same ▸ Nat.le_of_not_lt enough
      have none : more - (items.length + later.length) = more - items.length := by omega
      simp [after, List.take_append_of_le_length (Nat.le_of_lt few), none]

theorem lasts_append_iff : outlet.Lasts (items ++ later).length ↔
    outlet.Lasts items.length ∧ (outlet.after items).Lasts later.length := by
  obtain ⟨sent, remaining, cause⟩ := outlet
  cases remaining with
  | none => simp [Lasts, after]
  | some more =>
      simp only [Lasts, after, Option.map_some, Option.mem_some_iff, forall_eq', List.length_append]
      omega

/-- What arrives is a prefix of what is sent. -/
theorem sent_after_prefix (outlet : Outlet α) (items : List α) :
    (outlet.after items).sent <+: outlet.sent ++ items :=
  (List.prefix_append_right_inj _).mpr (List.take_prefix _ _)

theorem mem_sent_after_iff {item : α} (absent : item ∉ items) :
    item ∈ (outlet.after items).sent ↔ item ∈ outlet.sent := by
  rw [after, List.mem_append]
  exact or_iff_left fun taken => absent (List.mem_of_mem_take taken)

end Outlet

/-- The outlet that an action leaves. -/
def left (action : Sending α Unit) (outlet : Outlet α) : Outlet α :=
  match action.run outlet with
  | .ok _ after => after
  | .error _ after => after

/-- The action does not fail. -/
def isDone (action : Sending α Unit) (outlet : Outlet α) : Bool :=
  match action.run outlet with
  | .ok _ _ => true
  | .error _ _ => false

/-- The action sends these items, and does not fail when the connection lasts unless it gives up
after them. -/
structure Sends (action : Sending α Unit) (items : List α) (givesUp : Bool) : Prop where
  leaves : ∀ outlet, left action outlet = outlet.after items
  succeeds : ∀ outlet, isDone action outlet = true ↔
    outlet.Lasts items.length ∧ givesUp = false

theorem sends_send (item : α) (context : String) : Sends (send item context) [item] false := by
  constructor
  · intro ⟨sent, remaining, cause⟩
    rcases remaining with _ | _ | more <;> simp [left, EStateM.run, send, Outlet.after]
  · intro ⟨sent, remaining, cause⟩
    rcases remaining with _ | _ | more <;> simp [isDone, EStateM.run, send, Outlet.Lasts]

theorem sends_throw (error : String) : Sends (throw error : Sending α Unit) [] true := by
  constructor
  · intro outlet
    exact Outlet.after_nil.symm
  · intro outlet
    have failed : isDone (throw error : Sending α Unit) outlet = false := rfl
    simp [failed]

theorem left_bind (first second : Sending α Unit) (outlet : Outlet α) :
    left (first >>= fun _ => second) outlet =
      if isDone first outlet then left second (left first outlet) else left first outlet := by
  unfold left isDone EStateM.run
  cases run : first outlet <;> simp [bind, EStateM.bind, run]

theorem isDone_bind (first second : Sending α Unit) (outlet : Outlet α) :
    isDone (first >>= fun _ => second) outlet =
      (isDone first outlet && isDone second (left first outlet)) := by
  unfold left isDone EStateM.run
  cases run : first outlet <;> simp [bind, EStateM.bind, run]

/-- One action after another sends the items of both. -/
theorem Sends.bind {first second : Sending α Unit} {items later : List α} {givesUp : Bool}
    (sendsFirst : Sends first items false) (sendsSecond : Sends second later givesUp) :
    Sends (first >>= fun _ => second) (items ++ later) givesUp := by
  constructor
  · intro outlet
    rw [left_bind, sendsFirst.leaves]
    by_cases lasts : outlet.Lasts items.length
    · rw [if_pos ((sendsFirst.succeeds outlet).mpr ⟨lasts, rfl⟩), sendsSecond.leaves,
        Outlet.after_append_of_lasts lasts]
    · have fails : ¬ isDone first outlet = true :=
        fun done => lasts ((sendsFirst.succeeds outlet).mp done).1
      rw [if_neg fails, Outlet.after_append_of_not_lasts lasts]
  · intro outlet
    rw [isDone_bind, Bool.and_eq_true, sendsFirst.leaves, sendsFirst.succeeds,
      sendsSecond.succeeds, Outlet.lasts_append_iff]
    tauto

theorem left_ignored (action : Sending α Unit) (outlet : Outlet α) :
    left (tryCatch action fun _ => pure ()) outlet = left action outlet := by
  unfold left EStateM.run
  cases run : action outlet <;>
    simp [tryCatch, tryCatchThe, MonadExceptOf.tryCatch, EStateM.tryCatch, run, pure, EStateM.pure,
      EStateM.Backtrackable.restore, EStateM.dummyRestore]

/-- Send what can be sent, and give up. -/
theorem Sends.giveUp {action : Sending α Unit} {items : List α} {givesUp : Bool}
    (sends : Sends action items givesUp) (error : String) :
    Sends (tryCatch action (fun _ => pure ()) >>= fun _ => throw error) items true := by
  constructor
  · intro outlet
    rw [left_bind, left_ignored, sends.leaves, (sends_throw error).leaves, Outlet.after_nil,
      ite_self]
  · intro outlet
    simp [isDone_bind, (sends_throw error).succeeds]

end FerroTunnel.Channel
