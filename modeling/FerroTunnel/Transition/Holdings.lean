import FerroTunnel.Transition.Pool
import Mathlib.Algebra.Order.Group.Multiset
import Mathlib.Tactic.Abel

/-!
# What the calls of a pool hold

Each call of a pool holds some things.  All that is held changes, when one call
goes on, by what this call gives up and gets: this is how a system accounts for
every thing, be it in shared state or with a call.
-/

namespace FerroTunnel.Transition

universe u v

variable {γ : Type u} {κ : Type v}

/-- Everything that the calls hold. -/
def holdings (held : γ → Multiset κ) : List γ → Multiset κ
  | [] => 0
  | call :: rest => held call + holdings held rest

variable {held : γ → Multiset κ} {calls : List γ} {k : Nat} {call call' : γ}

@[simp]
theorem holdings_nil : holdings held [] = 0 :=
  rfl

@[simp]
theorem holdings_cons (call : γ) (rest : List γ) :
    holdings held (call :: rest) = held call + holdings held rest :=
  rfl

/-- A call begins. -/
theorem holdings_concat (calls : List γ) (call : γ) :
    holdings held (calls ++ [call]) = holdings held calls + held call := by
  induction calls with
  | nil => simp
  | cons first rest ih => rw [List.cons_append, holdings_cons, holdings_cons, ih, add_assoc]

/-- One call goes on. -/
theorem holdings_set (callAt : calls[k]? = some call) (call' : γ) :
    holdings held (calls.set k call') + held call = holdings held calls + held call' := by
  induction calls generalizing k with
  | nil => simp at callAt
  | cons first rest ih =>
      cases k with
      | zero =>
          obtain rfl : first = call := by simpa using callAt
          rw [List.set_cons_zero, holdings_cons, holdings_cons]
          abel
      | succ k =>
          have later := ih (by simpa using callAt)
          rw [List.set_cons_succ, holdings_cons, holdings_cons, add_assoc, later, add_assoc]

end FerroTunnel.Transition
