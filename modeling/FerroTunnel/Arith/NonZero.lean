import Mathlib.Data.UInt

/-!
# Saturating arithmetic on `u32`

Non-zero machine words, sums and products that saturate at the largest word, and
the clamp of a `usize` to `u32`.
-/

namespace FerroTunnel.Arith

/-- A `NonZeroU32`. -/
structure NonZeroU32 where
  get : UInt32
  nonzero : get ≠ 0
deriving DecidableEq

/-- The largest `u32`. -/
def u32Max : UInt32 := 4294967295

@[simp]
theorem toNat_u32Max : u32Max.toNat = 2 ^ 32 - 1 := rfl

theorem toNat_le_u32Max (word : UInt32) : word.toNat ≤ 2 ^ 32 - 1 := by
  have := word.toNat_lt
  omega

namespace NonZeroU32

/-- The word as a non-zero one, unless it is zero. -/
def new (word : UInt32) : Option NonZeroU32 :=
  if nonzero : word ≠ 0 then some ⟨word, nonzero⟩ else none

/-- The largest non-zero word. -/
def max : NonZeroU32 := ⟨u32Max, by decide⟩

theorem one_ne_zero : (1 : UInt32) ≠ 0 := by
  decide

/-- The smallest non-zero word. -/
def min : NonZeroU32 := ⟨1, one_ne_zero⟩

theorem toNat_pos (word : NonZeroU32) : 0 < word.get.toNat := by
  apply Nat.pos_of_ne_zero
  intro zero
  exact word.nonzero (UInt32.toNat_inj.mp zero)

theorem new_of_pos (word : UInt32) (pos : 0 < word.toNat) :
    ∃ nonzero, new word = some ⟨word, nonzero⟩ := by
  have nonzero : word ≠ 0 := by
    rintro rfl
    exact absurd pos (by decide)
  exact ⟨nonzero, dif_pos nonzero⟩

end NonZeroU32

/-- The product, or the largest word when it overflows. -/
def saturatingMul (first second : UInt32) : UInt32 :=
  UInt32.ofNat (min (first.toNat * second.toNat) u32Max.toNat)

@[simp]
theorem toNat_saturatingMul (first second : UInt32) :
    (saturatingMul first second).toNat = min (first.toNat * second.toNat) (2 ^ 32 - 1) := by
  apply UInt32.toNat_ofNat_of_lt'
  change min (first.toNat * second.toNat) u32Max.toNat < 2 ^ 32
  rw [toNat_u32Max]
  omega

/-- The sum, or the largest word when it overflows. -/
def saturatingAdd (first second : UInt32) : UInt32 :=
  UInt32.ofNat (min (first.toNat + second.toNat) u32Max.toNat)

@[simp]
theorem toNat_saturatingAdd (first second : UInt32) :
    (saturatingAdd first second).toNat = min (first.toNat + second.toNat) (2 ^ 32 - 1) := by
  apply UInt32.toNat_ofNat_of_lt'
  change min (first.toNat + second.toNat) u32Max.toNat < 2 ^ 32
  rw [toNat_u32Max]
  omega

/-- `u32::try_from(count).unwrap_or(u32::MAX)`. -/
def clampU32 (count : Nat) : UInt32 :=
  UInt32.ofNat (min count u32Max.toNat)

@[simp]
theorem toNat_clampU32 (count : Nat) : (clampU32 count).toNat = min count (2 ^ 32 - 1) := by
  apply UInt32.toNat_ofNat_of_lt'
  change min count u32Max.toNat < 2 ^ 32
  rw [toNat_u32Max]
  omega

theorem toNat_min (first second : UInt32) :
    (min first second).toNat = min first.toNat second.toNat := by
  rcases Nat.le_total first.toNat second.toNat with small | large
  · rw [Nat.min_eq_left small]
    exact congrArg UInt32.toNat (if_pos small)
  · rw [Nat.min_eq_right large]
    rcases Nat.lt_or_eq_of_le large with less | same
    · exact congrArg UInt32.toNat (if_neg (Nat.not_le_of_lt less))
    · rw [← UInt32.toNat_inj.mp same]
      exact congrArg UInt32.toNat (ite_self second)

end FerroTunnel.Arith
