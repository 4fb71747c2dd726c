import FerroTunnel.Arith.Float64

/-!
# Durations and seconds

A duration is a whole number of nanoseconds with as many seconds as fit 64 bits.  It is
converted to a number of seconds without loss, and back by rounding to the nearest
nanosecond.
-/

namespace FerroTunnel.Time

open FerroTunnel.Arith

/-- The nanoseconds of a second. -/
def nanosPerSec : Nat := 1000000000

/-- A span of time. -/
structure Duration where
  nanos : Nat
  bounded : nanos < 2 ^ 64 * nanosPerSec
deriving DecidableEq

namespace Duration

theorem fromSecs_bounded (secs : UInt64) :
    secs.toNat * nanosPerSec < 2 ^ 64 * nanosPerSec :=
  Nat.mul_lt_mul_of_pos_right secs.toNat_lt (by decide)

/-- A span of whole seconds. -/
def fromSecs (secs : UInt64) : Duration :=
  ⟨secs.toNat * nanosPerSec, fromSecs_bounded secs⟩

theorem fromMillis_bounded (millis : UInt64) :
    millis.toNat * 1000000 < 2 ^ 64 * nanosPerSec :=
  Nat.mul_lt_mul_of_lt_of_le millis.toNat_lt (by decide) (by decide)

/-- A span of whole milliseconds. -/
def fromMillis (millis : UInt64) : Duration :=
  ⟨millis.toNat * 1000000, fromMillis_bounded millis⟩

/-- The whole seconds of a duration. -/
def asSecs (duration : Duration) : Nat :=
  duration.nanos / nanosPerSec

/-- The seconds of a duration. -/
def secs (duration : Duration) : ℚ :=
  duration.nanos / nanosPerSec

/-- The duration in seconds. -/
def asSecsF64 (duration : Duration) : Float64 :=
  .ofRat duration.secs

/-- The duration of a number of seconds, or the text of the panic. -/
def fromSecsF64 : Float64 → Except String Duration
  | .finite secs _ =>
      if secs < 0 then
        .error "cannot convert float seconds to Duration: value is negative"
      else if bounded : (roundHalfEven (secs * nanosPerSec)).toNat < 2 ^ 64 * nanosPerSec then
        .ok ⟨(roundHalfEven (secs * nanosPerSec)).toNat, bounded⟩
      else
        .error "cannot convert float seconds to Duration: value is either too big or NaN"
  | .infinite true => .error "cannot convert float seconds to Duration: value is negative"
  | .infinite false =>
      .error "cannot convert float seconds to Duration: value is either too big or NaN"
  | .nan => .error "cannot convert float seconds to Duration: value is either too big or NaN"

theorem nanosPerSec_pos : (0 : ℚ) < nanosPerSec :=
  Nat.cast_pos.mpr (by decide)

theorem secs_nonneg (duration : Duration) : 0 ≤ duration.secs :=
  div_nonneg (Nat.cast_nonneg _) (le_of_lt nanosPerSec_pos)

theorem secs_lt (duration : Duration) : duration.secs < f64Limit := by
  have below : duration.secs < 2 ^ 64 := by
    rw [secs, div_lt_iff₀ nanosPerSec_pos]
    exact_mod_cast duration.bounded
  exact lt_trans below (two_pow_lt_f64Limit_iff.mpr (by decide))

theorem secs_le_one {duration : Duration} (short : duration.nanos ≤ nanosPerSec) :
    duration.secs ≤ 1 := by
  rw [secs, div_le_one nanosPerSec_pos]
  exact Nat.cast_le.mpr short

/-- Every duration is a finite number of seconds. -/
theorem asSecsF64_eq (duration : Duration) :
    ∃ bounded, duration.asSecsF64 = .finite duration.secs bounded :=
  Float64.ofRat_of_lt duration.secs_nonneg duration.secs_lt

/-- Rounding does not make a number of seconds longer than a duration that it is within. -/
theorem fromSecsF64_le {secs : ℚ} (bounded : |secs| < f64Limit) (nonneg : 0 ≤ secs)
    {most : Duration} (atMost : secs ≤ most.secs) :
    ∃ duration, fromSecsF64 (.finite secs bounded) = .ok duration ∧
      duration.nanos ≤ most.nanos := by
  have scaled : secs * nanosPerSec ≤ ((most.nanos : ℤ) : ℚ) := by
    rw [Int.cast_natCast]
    exact (le_div_iff₀ nanosPerSec_pos).mp atMost
  have rounded : (roundHalfEven (secs * nanosPerSec)).toNat ≤ most.nanos :=
    Int.toNat_le.mpr (roundHalfEven_le scaled)
  have fits := lt_of_le_of_lt rounded most.bounded
  refine ⟨⟨_, fits⟩, ?_, rounded⟩
  rw [fromSecsF64, if_neg (not_lt.mpr nonneg), dif_pos fits]

end Duration

end FerroTunnel.Time
