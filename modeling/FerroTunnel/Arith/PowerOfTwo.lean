import Mathlib.Algebra.Order.Ring.Nat

/-!
# The next power of two

The library defines `Nat.nextPowerOfTwo` by doubling and shows that the result is a
power of two.  Here: it is the least one that is not below the number, so it lies
between the number and its double.
-/

open private Nat.nextPowerOfTwo.go from Init.Data.Nat.Power2.Basic

namespace FerroTunnel.Arith

/-- Doubling stops at or above the number, and before its double. -/
private theorem go_bounds (n power : Nat) (positive : power > 0) :
    n ≤ Nat.nextPowerOfTwo.go n power positive ∧
      (power < 2 * n → Nat.nextPowerOfTwo.go n power positive < 2 * n) := by
  induction distance : n - power using Nat.strongRecOn generalizing power with
  | ind distance ih =>
      unfold Nat.nextPowerOfTwo.go
      split
      · next below =>
        have doubled := ih (n - power * 2) (by omega) (power * 2) (by omega) rfl
        exact ⟨doubled.1, fun _ => doubled.2 (by omega)⟩
      · next reached => exact ⟨Nat.not_lt.mp reached, id⟩

theorem le_nextPowerOfTwo (n : Nat) : n ≤ n.nextPowerOfTwo :=
  (go_bounds n 1 Nat.one_pos).1

theorem nextPowerOfTwo_lt_double {n : Nat} (positive : 0 < n) : n.nextPowerOfTwo < 2 * n :=
  (go_bounds n 1 Nat.one_pos).2 (by omega)

theorem exists_nextPowerOfTwo_eq (n : Nat) : ∃ exponent, n.nextPowerOfTwo = 2 ^ exponent :=
  n.isPowerOfTwo_nextPowerOfTwo

end FerroTunnel.Arith
