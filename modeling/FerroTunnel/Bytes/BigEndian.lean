import Mathlib.Algebra.Ring.Nat
import Mathlib.Data.List.GetD

/-!
# Big-endian words in byte lists

The four-byte big-endian image of a 32-bit word, and reading the word back
from the front of a byte list.  Reading looks at the first four bytes only, so
it is insensitive to whatever follows them.
-/

namespace FerroTunnel.Bytes

/-- The four big-endian bytes of a 32-bit word. -/
def putU32 (value : UInt32) : List UInt8 :=
  [UInt8.ofNat (value.toNat / 2 ^ 24), UInt8.ofNat (value.toNat / 2 ^ 16),
    UInt8.ofNat (value.toNat / 2 ^ 8), UInt8.ofNat value.toNat]

/-- The big-endian word in the first four bytes of a list. -/
def getU32 (bytes : List UInt8) : UInt32 :=
  UInt32.ofNat ((bytes.getD 0 0).toNat * 2 ^ 24 + (bytes.getD 1 0).toNat * 2 ^ 16 +
    (bytes.getD 2 0).toNat * 2 ^ 8 + (bytes.getD 3 0).toNat)

@[simp]
theorem putU32_length (value : UInt32) : (putU32 value).length = 4 :=
  rfl

/-- Base-256 digits recombine to the number they were taken from. -/
private theorem recombine_digits (n : Nat) (bound : n < 2 ^ 32) :
    n / 2 ^ 24 % 2 ^ 8 * 2 ^ 24 + n / 2 ^ 16 % 2 ^ 8 * 2 ^ 16 +
      n / 2 ^ 8 % 2 ^ 8 * 2 ^ 8 + n % 2 ^ 8 = n := by
  omega

@[simp]
theorem getU32_putU32_append (value : UInt32) (rest : List UInt8) :
    getU32 (putU32 value ++ rest) = value := by
  apply UInt32.toNat_inj.mp
  have digits := recombine_digits value.toNat value.toNat_lt
  simp only [getU32, putU32, List.cons_append, List.getD_cons_zero, List.getD_cons_succ,
    UInt8.toNat_ofNat', UInt32.toNat_ofNat', digits]
  exact Nat.mod_eq_of_lt value.toNat_lt

/-- The bytes that a word is read from are the bytes of the word. -/
theorem putU32_getU32 {bytes : List UInt8} (enough : 4 ≤ bytes.length) :
    putU32 (getU32 bytes) = bytes.take 4 := by
  rcases bytes with _ | ⟨first, _ | ⟨second, _ | ⟨third, _ | ⟨fourth, rest⟩⟩⟩⟩
  case cons.cons.cons.cons =>
    have firstLt := first.toNat_lt
    have secondLt := second.toNat_lt
    have thirdLt := third.toNat_lt
    have fourthLt := fourth.toNat_lt
    simp only [putU32, getU32, List.getD_cons_zero, List.getD_cons_succ, UInt32.toNat_ofNat',
      List.take_succ_cons, List.take_zero, List.cons.injEq, and_true, ← UInt8.toNat_inj,
      UInt8.toNat_ofNat']
    omega
  all_goals
    simp only [List.length_cons, List.length_nil] at enough
    omega

/-- Bytes after the first four do not change the word that is read. -/
theorem getU32_append {bytes : List UInt8} (enough : 4 ≤ bytes.length) (more : List UInt8) :
    getU32 (bytes ++ more) = getU32 bytes := by
  have shared (index : Nat) (small : index < 4) :
      (bytes ++ more).getD index 0 = bytes.getD index 0 := by
    rw [List.getD_append _ _ _ _ (by omega)]
  simp only [getU32, shared 0 (by omega), shared 1 (by omega), shared 2 (by omega),
    shared 3 (by omega)]

end FerroTunnel.Bytes
