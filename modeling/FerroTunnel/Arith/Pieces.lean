import Mathlib.Algebra.Order.Floor.Div
import Mathlib.Data.Nat.ModEq

/-!
# Taking a count in bounded pieces

A loop that takes at most `cap` from a count until nothing is left takes
`pieces cap n`.  The pieces add up to the count, none of them is empty or larger
than `cap`, and there are no more of them than a division by `cap` needs.
-/

namespace FerroTunnel.Arith

/-- The pieces taken from `n`, in order. -/
def pieces (cap n : Nat) : List Nat :=
  if 0 < cap ∧ 0 < n then min n cap :: pieces cap (n - min n cap) else []
termination_by n

@[simp]
theorem pieces_zero (cap : Nat) : pieces cap 0 = [] := by
  rw [pieces]
  simp

theorem pieces_of_pos {cap n : Nat} (capPos : 0 < cap) (pos : 0 < n) :
    pieces cap n = min n cap :: pieces cap (n - min n cap) := by
  rw [pieces, if_pos ⟨capPos, pos⟩]

/-- No piece is empty, none exceeds the bound or the count. -/
theorem mem_pieces {cap n piece : Nat} (member : piece ∈ pieces cap n) :
    1 ≤ piece ∧ piece ≤ cap ∧ piece ≤ n := by
  induction n using Nat.strong_induction_on with
  | _ n ih =>
      rw [pieces] at member
      split at member
      next both =>
        rcases List.mem_cons.mp member with rfl | later
        · omega
        · have bounds := ih (n - min n cap) (by omega) later
          omega
      next => cases member

/-- The pieces add up to the count. -/
theorem sum_pieces {cap : Nat} (capPos : 0 < cap) (n : Nat) : (pieces cap n).sum = n := by
  induction n using Nat.strong_induction_on with
  | _ n ih =>
      rcases Nat.eq_zero_or_pos n with rfl | pos
      · simp
      · rw [pieces_of_pos capPos pos, List.sum_cons, ih (n - min n cap) (by omega)]
        omega

/-- One piece less leaves one division step less. -/
theorem ceilDiv_sub_min {cap n : Nat} (capPos : 0 < cap) (pos : 0 < n) :
    (n - min n cap) ⌈/⌉ cap + 1 = n ⌈/⌉ cap := by
  rw [Nat.ceilDiv_eq_add_pred_div, Nat.ceilDiv_eq_add_pred_div]
  rcases Nat.le_total n cap with small | large
  · -- the last piece: the quotient of `n + cap - 1` is one
    have first : (n - min n cap + cap - 1) / cap = 0 := Nat.div_eq_of_lt (by omega)
    have second : (n + cap - 1) / cap = 1 := by
      rw [Nat.div_eq_iff capPos]
      omega
    omega
  · have shifted : n + cap - 1 = (n - min n cap + cap - 1) + cap := by omega
    rw [shifted, Nat.add_div_right _ capPos]

/-- There are as many pieces as the division rounded up. -/
theorem length_pieces {cap : Nat} (capPos : 0 < cap) (n : Nat) :
    (pieces cap n).length = n ⌈/⌉ cap := by
  induction n using Nat.strong_induction_on with
  | _ n ih =>
      rcases Nat.eq_zero_or_pos n with rfl | pos
      · simp
      · rw [pieces_of_pos capPos pos, List.length_cons, ih (n - min n cap) (by omega)]
        exact ceilDiv_sub_min capPos pos

end FerroTunnel.Arith
