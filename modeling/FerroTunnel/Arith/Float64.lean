import Mathlib.Algebra.Order.Field.Basic
import Mathlib.Data.Rat.Floor

/-!
# Floating-point numbers without rounding

Finite numbers are exact rationals below `2 ^ 1024` in magnitude.  A result that reaches
this magnitude becomes infinite, and an operation without a value gives `nan`.  Rounding,
and the sign of zero, are left out: the file is about where results stop being finite.
-/

namespace FerroTunnel.Arith

/-- The magnitude at which results become infinite.  It is never evaluated in a proof. -/
@[irreducible]
def f64Limit : ℚ := 2 ^ 1024

theorem f64Limit_pos : 0 < f64Limit := by
  rw [f64Limit]
  exact pow_pos two_pos 1024

theorem two_pow_lt_f64Limit_iff {exponent : Nat} :
    (2 : ℚ) ^ exponent < f64Limit ↔ exponent < 1024 := by
  rw [f64Limit]
  exact pow_lt_pow_iff_right₀ one_lt_two

theorem one_lt_f64Limit : 1 < f64Limit := by
  rw [← pow_zero 2]
  exact two_pow_lt_f64Limit_iff.mpr (by decide)

theorem two_lt_f64Limit : 2 < f64Limit := by
  rw [← pow_one 2]
  exact two_pow_lt_f64Limit_iff.mpr (by decide)

/-- A double, rounding apart. -/
inductive Float64
  | finite (value : ℚ) (bounded : |value| < f64Limit)
  | infinite (negative : Bool)
  | nan
deriving DecidableEq

namespace Float64

/-- The number of an exact result. -/
def ofRat (value : ℚ) : Float64 :=
  if bounded : |value| < f64Limit then .finite value bounded else .infinite (value < 0)

theorem abs_zero_lt : |(0 : ℚ)| < f64Limit := by
  rw [abs_zero]
  exact f64Limit_pos

/-- The number zero. -/
def zero : Float64 :=
  .finite 0 abs_zero_lt

/-- The number one. -/
def one : Float64 :=
  ofRat 1

theorem abs_neg_lt {value : ℚ} (bounded : |value| < f64Limit) : |-value| < f64Limit := by
  rw [abs_neg]
  exact bounded

/-- Negation. -/
def neg : Float64 → Float64
  | .finite value bounded => .finite (-value) (abs_neg_lt bounded)
  | .infinite negative => .infinite (!negative)
  | .nan => .nan

/-- Addition. -/
def add : Float64 → Float64 → Float64
  | .finite a _, .finite b _ => ofRat (a + b)
  | .infinite s, .finite _ _ | .finite _ _, .infinite s => .infinite s
  | .infinite s, .infinite t => if s = t then .infinite s else .nan
  | .nan, _ | _, .nan => .nan

/-- Subtraction. -/
def sub (x y : Float64) : Float64 :=
  x.add y.neg

/-- Multiplication. -/
def mul : Float64 → Float64 → Float64
  | .finite a _, .finite b _ => ofRat (a * b)
  | .infinite s, .finite b _ => if b = 0 then .nan else .infinite (s ^^ decide (b < 0))
  | .finite a _, .infinite s => if a = 0 then .nan else .infinite (decide (a < 0) ^^ s)
  | .infinite s, .infinite t => .infinite (s ^^ t)
  | .nan, _ | _, .nan => .nan

/-- A power with an exponent that is not negative. -/
def powi (x : Float64) (exponent : Nat) : Float64 :=
  match x with
  | .finite value _ => ofRat (value ^ exponent)
  | .infinite negative =>
      if exponent = 0 then one else .infinite (negative && exponent % 2 = 1)
  | .nan => if exponent = 0 then one else .nan

/-- The order of numbers; `nan` is not in it. -/
def lt : Float64 → Float64 → Bool
  | .finite a _, .finite b _ => a < b
  | .infinite true, .finite _ _ | .finite _ _, .infinite false | .infinite true, .infinite false =>
      true
  | _, _ => false

/-- The larger number; `nan` counts as missing. -/
def max : Float64 → Float64 → Float64
  | .nan, y => y
  | x, .nan => x
  | x, y => if x.lt y then y else x

/-- The smaller number; `nan` counts as missing. -/
def min : Float64 → Float64 → Float64
  | .nan, y => y
  | x, .nan => x
  | x, y => if y.lt x then y else x

/-- Neither infinite nor NaN. -/
def isFinite : Float64 → Bool
  | .finite _ _ => true
  | _ => false

/-- The value of a finite number, and zero for the others. -/
def toRat : Float64 → ℚ
  | .finite value _ => value
  | _ => 0

/-! ## Powers -/

/-- The power without regard to its size; a number that is not finite has only one. -/
def exactPow (x : Float64) (exponent : Nat) : Option ℚ :=
  match x with
  | .finite value _ => some (value ^ exponent)
  | .infinite _ | .nan => if exponent = 0 then some 1 else none

theorem powi_of_exactPow {x : Float64} {exponent : Nat} {power : ℚ}
    (exact : x.exactPow exponent = some power) : x.powi exponent = ofRat power := by
  cases x with
  | finite value bounded => exact congrArg ofRat (Option.some.inj exact)
  | infinite negative | nan =>
      rw [exactPow, Option.ite_none_right_eq_some, Option.some.injEq] at exact
      rw [powi, if_pos exact.1, ← exact.2, one]

theorem exists_exactPow {x : Float64} {exponent : Nat}
    (finite : (x.powi exponent).isFinite = true) : ∃ power, x.exactPow exponent = some power := by
  cases x with
  | finite value bounded => exact ⟨_, rfl⟩
  | infinite negative | nan =>
      by_cases first : exponent = 0
      · exact ⟨1, if_pos first⟩
      · rw [powi, if_neg first] at finite
        cases finite

/-! ## Results that are not negative -/

theorem ofRat_of_lt {value : ℚ} (nonneg : 0 ≤ value) (small : value < f64Limit) :
    ∃ bounded, ofRat value = .finite value bounded := by
  have bounded : |value| < f64Limit := by
    rw [abs_of_nonneg nonneg]
    exact small
  exact ⟨bounded, dif_pos bounded⟩

theorem ofRat_of_le {value : ℚ} (large : f64Limit ≤ value) : ofRat value = .infinite false := by
  have nonneg : 0 ≤ value := le_trans (le_of_lt f64Limit_pos) large
  have unbounded : ¬ |value| < f64Limit := by
    rw [abs_of_nonneg nonneg]
    exact not_lt.mpr large
  rw [ofRat, dif_neg unbounded, decide_eq_false (not_lt.mpr nonneg)]

/-- A result of zero or more is finite exactly below the limit. -/
theorem isFinite_ofRat_iff {value : ℚ} (nonneg : 0 ≤ value) :
    (ofRat value).isFinite = true ↔ value < f64Limit := by
  constructor
  · intro finite
    by_contra large
    rw [ofRat_of_le (not_lt.mp large)] at finite
    cases finite
  · intro small
    obtain ⟨bounded, made⟩ := ofRat_of_lt nonneg small
    rw [made]
    rfl

/-- The width of a range around zero. -/
theorem sub_neg_self {value : ℚ} (bounded : |value| < f64Limit) :
    (finite value bounded).sub (finite value bounded).neg = ofRat (2 * value) := by
  rw [sub, neg, neg, add, neg_neg, two_mul]

/-- What is not finite stays so in a product. -/
theorem isFinite_mul_left {x y : Float64} (finite : (x.mul y).isFinite = true) :
    x.isFinite = true := by
  cases x with
  | finite value bounded => rfl
  | nan => cases finite
  | infinite s =>
      cases y with
      | nan | infinite t => cases finite
      | finite b bounded =>
          rw [mul] at finite
          split at finite <;> cases finite

theorem isFinite_mul_right {x y : Float64} (finite : (x.mul y).isFinite = true) :
    y.isFinite = true := by
  cases y with
  | finite value bounded => rfl
  | nan => cases x <;> cases finite
  | infinite t =>
      cases x with
      | nan | infinite s => cases finite
      | finite a bounded =>
          rw [mul] at finite
          split at finite <;> cases finite

theorem finite_min_finite {a b : ℚ} (boundedA : |a| < f64Limit) (boundedB : |b| < f64Limit) :
    (finite a boundedA).min (.finite b boundedB) =
      if b < a then .finite b boundedB else .finite a boundedA := by
  simp only [min, lt, decide_eq_true_eq]

theorem finite_max_zero {a : ℚ} (bounded : |a| < f64Limit) :
    (finite a bounded).max zero = if a < 0 then zero else .finite a bounded := by
  simp only [max, zero, lt, decide_eq_true_eq]

/-- A number that is kept between zero and a bound is finite, whatever it was. -/
theorem exists_clamp (x : Float64) {most : ℚ} (bounded : |most| < f64Limit) (nonneg : 0 ≤ most) :
    ∃ value valueBounded, (x.max zero).min (.finite most bounded) = .finite value valueBounded ∧
      0 ≤ value ∧ value ≤ most := by
  have kept {value : ℚ} (valueBounded : |value| < f64Limit) (valueNonneg : 0 ≤ value) :
      ∃ result resultBounded,
        (finite value valueBounded).min (.finite most bounded) = .finite result resultBounded ∧
          0 ≤ result ∧ result ≤ most := by
    rw [finite_min_finite]
    split
    · exact ⟨most, bounded, rfl, nonneg, le_refl most⟩
    · rename_i above
      exact ⟨value, valueBounded, rfl, valueNonneg, not_lt.mp above⟩
  cases x with
  | nan => exact kept abs_zero_lt (le_refl 0)
  | infinite negative =>
      cases negative with
      | true => exact kept abs_zero_lt (le_refl 0)
      | false => exact ⟨most, bounded, rfl, nonneg, le_refl most⟩
  | finite value valueBounded =>
      rw [finite_max_zero]
      split
      · exact kept abs_zero_lt (le_refl 0)
      · rename_i nonnegative
        exact kept valueBounded (not_lt.mp nonnegative)

end Float64

/-! ## Rounding to integers -/

/-- The nearest integer, and the even one of two. -/
def roundHalfEven (value : ℚ) : ℤ :=
  let low := value.floor
  if value - low < 1 / 2 then
    low
  else if value - low = 1 / 2 ∧ low % 2 = 0 then
    low
  else
    low + 1

/-- Rounding does not go past an integer. -/
theorem roundHalfEven_le {value : ℚ} {most : ℤ} (atMost : value ≤ most) :
    roundHalfEven value ≤ most := by
  have floor : value.floor ≤ most := by
    rw [← Rat.floor_intCast most]
    exact Rat.floor_monotone atMost
  rcases lt_or_eq_of_le floor with below | same
  · rw [roundHalfEven]
    split
    · exact floor
    · split
      · exact floor
      · exact below
  · have whole : value - value.floor < 1 / 2 := by
      rw [same]
      exact lt_of_le_of_lt (sub_nonpos.mpr atMost) one_half_pos
    rw [roundHalfEven, if_pos whole]
    exact floor

end FerroTunnel.Arith
