import Mathlib.Algebra.Order.Ring.Nat
import Mathlib.Data.List.Basic

/-!
# Little-endian numbers in byte lists

The base-256 digits of a number, lowest first, in a fixed number of bytes.
-/

namespace FerroTunnel.Bytes

/-- The low digits of a number. -/
def putLE : Nat → Nat → List UInt8
  | 0, _ => []
  | width + 1, value => UInt8.ofNat value :: putLE width (value / 256)

/-- The number with these digits. -/
def getLE : List UInt8 → Nat
  | [] => 0
  | digit :: rest => digit.toNat + 256 * getLE rest

@[simp]
theorem putLE_length (width value : Nat) : (putLE width value).length = width := by
  induction width generalizing value with
  | zero => rfl
  | succ width ih => rw [putLE, List.length_cons, ih]

theorem getLE_putLE {width value : Nat} (bounded : value < 256 ^ width) :
    getLE (putLE width value) = value := by
  induction width generalizing value with
  | zero =>
      rw [Nat.pow_zero, Nat.lt_one_iff] at bounded
      exact bounded.symm
  | succ width ih =>
      have high : value / 256 < 256 ^ width := by
        rw [Nat.pow_succ] at bounded
        exact Nat.div_lt_of_lt_mul (by rwa [Nat.mul_comm])
      rw [putLE, getLE, ih high, UInt8.toNat_ofNat']
      exact Nat.mod_add_div value 256

end FerroTunnel.Bytes
