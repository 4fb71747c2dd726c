import FerroTunnel.Arith.NonZero
import FerroTunnel.Time.Duration

/-!
# Backing off

The delay after a failure grows with the number of failures before it, is changed by a
random jitter and is then cut to a maximum.

The growth is cut after the jitter has been drawn.  When failures go on for long enough,
the delay before the cut is no finite number any more, and neither is the range of the
jitter: drawing from it panics.
-/

namespace FerroTunnel.Tunnel

open FerroTunnel.Arith
open FerroTunnel.Time

/-! ## The jitter -/

/-- A panic: of `random_range`, or of the conversion to a duration with its text. -/
inductive BackoffPanic
  | range
  | duration (message : String)
deriving DecidableEq

/-- What the generator draws from a range.  Nothing below depends on where in the range
it is. -/
abbrev Draw := ℚ → ℚ → ℚ

/-- Draw from a range with its bounds.  The range must not be empty, and its bounds and its
width have to be finite. -/
def randomRange (draw : Draw) (low high : Float64) : Except BackoffPanic Float64 :=
  if low.isFinite ∧ high.isFinite ∧ (high.sub low).isFinite ∧ low.toRat ≤ high.toRat then
    .ok (.ofRat (draw low.toRat high.toRat))
  else
    .error .range

/-! ## The delay -/

/-- The configuration of a backoff. -/
structure BackoffConfig where
  base : Duration
  max : Duration
  factor : Float64
  jitter : Float64
deriving DecidableEq

/-- The defaults of a client. -/
def BackoffConfig.default : BackoffConfig where
  base := .fromSecs 1
  max := .fromSecs 60
  factor := .ofRat 2
  jitter := .ofRat (3 / 10)

/-- A backoff. -/
structure Backoff where
  config : BackoffConfig
  attempt : UInt32
deriving DecidableEq

/-- `i32::MAX`. -/
def i32Max : Nat := 2 ^ 31 - 1

namespace Backoff

/-- A backoff without attempts. -/
def new (config : BackoffConfig) : Backoff where
  config := config
  attempt := 0

/-- The attempts start over. -/
def reset (backoff : Backoff) : Backoff :=
  { backoff with attempt := 0 }

/-- The attempt as an exponent. -/
def exponent (backoff : Backoff) : Nat :=
  min backoff.attempt.toNat i32Max

/-- The delay before jitter. -/
def expDelay (backoff : Backoff) : Float64 :=
  backoff.config.base.asSecsF64.mul (backoff.config.factor.powi backoff.exponent)

/-- How far jitter goes. -/
def jitterRange (backoff : Backoff) : Float64 :=
  backoff.expDelay.mul backoff.config.jitter

/-- The delay of this attempt. -/
def calculateDelay (draw : Draw) (backoff : Backoff) : Except BackoffPanic Duration := do
  let jitter ← randomRange draw backoff.jitterRange.neg backoff.jitterRange
  let delayWithJitter := (backoff.expDelay.add jitter).max .zero
  let finalSecs := delayWithJitter.min backoff.config.max.asSecsF64
  (Duration.fromSecsF64 finalSecs).mapError .duration

/-- The delay, and the next attempt. -/
def nextDelay (draw : Draw) (backoff : Backoff) : Except BackoffPanic (Duration × Backoff) := do
  let delay ← backoff.calculateDelay draw
  return (delay, { backoff with attempt := saturatingAdd backoff.attempt 1 })

/-- Consecutive calls, with what each of them draws. -/
def delays : List Draw → Backoff → Except BackoffPanic (List Duration)
  | [], _ => .ok []
  | draw :: rest, backoff => do
      let (delay, later) ← backoff.nextDelay draw
      let others ← delays rest later
      return delay :: others

end Backoff

/-! ## Room for the growth -/

namespace BackoffConfig

/-- The factor is at least one, and the jitter is between zero and one. -/
structure Admissible (config : BackoffConfig) : Prop where
  factor : config.factor = .infinite false ∨
    ∃ factor bounded, config.factor = .finite factor bounded ∧ 1 ≤ factor
  jitter : ∃ jitter bounded, config.jitter = .finite jitter bounded ∧ 0 ≤ jitter ∧ jitter ≤ 1

/-- The power of the factor, the delay and the width of the jitter are finite. -/
def Headroom (config : BackoffConfig) (exponent : Nat) : Prop :=
  ∃ power ∈ config.factor.exactPow exponent, power < f64Limit ∧
    config.base.secs * power < f64Limit ∧
      2 * (config.base.secs * power * config.jitter.toRat) < f64Limit

variable {config : BackoffConfig} {exponent : Nat} {power : ℚ}

theorem Admissible.one_le_exactPow (admissible : config.Admissible)
    (grown : config.factor.exactPow exponent = some power) : 1 ≤ power := by
  rcases admissible.factor with infinite | ⟨factor, bounded, finite, large⟩
  · rw [infinite, Float64.exactPow, Option.ite_none_right_eq_some, Option.some.injEq] at grown
    exact le_of_eq grown.2
  · rw [finite, Float64.exactPow, Option.some.injEq] at grown
    rw [← grown]
    exact one_le_pow₀ large

theorem Admissible.jitter_eq (admissible : config.Admissible) :
    ∃ bounded, config.jitter = .finite config.jitter.toRat bounded ∧
      0 ≤ config.jitter.toRat ∧ config.jitter.toRat ≤ 1 := by
  obtain ⟨jitter, bounded, jitterEq, nonneg, atMost⟩ := admissible.jitter
  rw [jitterEq]
  exact ⟨bounded, rfl, nonneg, atMost⟩

section Rational

variable {base max : Duration} {factor jitter : ℚ}

theorem admissible_ofRat (large : 1 ≤ factor) (small : factor < f64Limit) (nonneg : 0 ≤ jitter)
    (atMost : jitter ≤ 1) : Admissible ⟨base, max, .ofRat factor, .ofRat jitter⟩ := by
  obtain ⟨bounded, factorEq⟩ := Float64.ofRat_of_lt (le_trans zero_le_one large) small
  obtain ⟨jitterBounded, jitterEq⟩ :=
    Float64.ofRat_of_lt nonneg (lt_of_le_of_lt atMost one_lt_f64Limit)
  constructor
  · exact Or.inr ⟨factor, bounded, factorEq, large⟩
  · exact ⟨jitter, jitterBounded, jitterEq, nonneg, atMost⟩

/-- From a base of at most a second, and with a jitter of at most a half, only the power of
the factor needs room. -/
theorem headroom_ofRat_iff (large : 1 ≤ factor) (small : factor < f64Limit)
    (nonneg : 0 ≤ jitter) (half : jitter ≤ 1 / 2) (short : base.secs ≤ 1) :
    Headroom ⟨base, max, .ofRat factor, .ofRat jitter⟩ exponent ↔
      factor ^ exponent < f64Limit := by
  have factorNonneg : 0 ≤ factor := le_trans zero_le_one large
  have powerNonneg : 0 ≤ factor ^ exponent := pow_nonneg factorNonneg exponent
  have twice : 2 * jitter ≤ 1 := (le_div_iff₀' two_pos).mp half
  have atMost : jitter ≤ 1 := le_trans half (le_of_lt one_half_lt_one)
  have delay : base.secs * factor ^ exponent ≤ factor ^ exponent :=
    mul_le_of_le_one_left powerNonneg short
  have width : 2 * (base.secs * factor ^ exponent * jitter) ≤ factor ^ exponent := by
    rw [mul_left_comm]
    apply le_trans (mul_le_of_le_one_right _ twice) delay
    exact mul_nonneg base.secs_nonneg powerNonneg
  obtain ⟨bounded, factorEq⟩ := Float64.ofRat_of_lt factorNonneg small
  obtain ⟨jitterBounded, jitterEq⟩ :=
    Float64.ofRat_of_lt nonneg (lt_of_le_of_lt atMost one_lt_f64Limit)
  rw [Headroom, factorEq, jitterEq]
  constructor
  · rintro ⟨power, grown, room, -⟩
    rw [← Option.some.inj grown] at room
    exact room
  · intro room
    exact ⟨factor ^ exponent, rfl, room, lt_of_le_of_lt delay room, lt_of_le_of_lt width room⟩

/-- Doubling has room for 1024 attempts. -/
theorem headroom_two_iff (nonneg : 0 ≤ jitter) (half : jitter ≤ 1 / 2)
    (short : base.secs ≤ 1) :
    Headroom ⟨base, max, .ofRat 2, .ofRat jitter⟩ exponent ↔ exponent < 1024 := by
  rw [headroom_ofRat_iff one_le_two two_lt_f64Limit nonneg half short]
  exact two_pow_lt_f64Limit_iff

end Rational

theorem default_admissible : BackoffConfig.default.Admissible :=
  admissible_ofRat one_le_two two_lt_f64Limit (by norm_num) (by norm_num)

/-- The default configuration, of the reconnecting client, has room for 1024 attempts too. -/
theorem default_headroom_iff : BackoffConfig.default.Headroom exponent ↔ exponent < 1024 :=
  headroom_two_iff (by norm_num) (by norm_num) (Duration.secs_le_one (by decide))

end BackoffConfig

/-! ## When a call panics -/

theorem exists_randomRange_iff (draw : Draw) (low high : Float64) :
    (∃ jitter, randomRange draw low high = .ok jitter) ↔
      low.isFinite ∧ high.isFinite ∧ (high.sub low).isFinite ∧ low.toRat ≤ high.toRat := by
  rw [randomRange]
  split
  · rename_i drawn
    exact iff_of_true ⟨_, rfl⟩ drawn
  · rename_i empty
    apply iff_of_false
    · rintro ⟨jitter, impossible⟩
      cases impossible
    · exact empty

/-- A jitter is drawn when twice its range is finite. -/
theorem exists_jitter_iff (draw : Draw) {range : ℚ} (nonneg : 0 ≤ range) :
    (∃ jitter, randomRange draw (Float64.ofRat range).neg (.ofRat range) = .ok jitter) ↔
      2 * range < f64Limit := by
  have doubled : 0 ≤ 2 * range := mul_nonneg zero_le_two nonneg
  have atMost : range ≤ 2 * range := le_mul_of_one_le_left nonneg one_le_two
  rw [exists_randomRange_iff]
  constructor
  · rintro ⟨-, finite, width, -⟩
    obtain ⟨bounded, rangeEq⟩ :=
      Float64.ofRat_of_lt nonneg ((Float64.isFinite_ofRat_iff nonneg).mp finite)
    rw [rangeEq, Float64.sub_neg_self] at width
    exact (Float64.isFinite_ofRat_iff doubled).mp width
  · intro small
    obtain ⟨bounded, rangeEq⟩ := Float64.ofRat_of_lt nonneg (lt_of_le_of_lt atMost small)
    rw [rangeEq, Float64.sub_neg_self]
    refine ⟨rfl, rfl, (Float64.isFinite_ofRat_iff doubled).mpr small, ?_⟩
    exact neg_le_self nonneg

namespace Backoff

variable {backoff : Backoff} {config : BackoffConfig} (admissible : backoff.config.Admissible)

include admissible

/-- Where the delay before the cut is finite, it is the product of the base and the power. -/
theorem expDelay_of_lt {power : ℚ}
    (grown : backoff.config.factor.exactPow backoff.exponent = some power)
    (small : power < f64Limit) : backoff.expDelay = .ofRat (backoff.config.base.secs * power) := by
  have nonneg : 0 ≤ power := le_trans zero_le_one (admissible.one_le_exactPow grown)
  obtain ⟨_, baseEq⟩ := backoff.config.base.asSecsF64_eq
  obtain ⟨_, powerEq⟩ := Float64.ofRat_of_lt nonneg small
  rw [expDelay, Float64.powi_of_exactPow grown, baseEq, powerEq, Float64.mul]

theorem jitterRange_of_lt {power : ℚ}
    (grown : backoff.config.factor.exactPow backoff.exponent = some power)
    (small : power < f64Limit) (delaySmall : backoff.config.base.secs * power < f64Limit) :
    backoff.jitterRange =
      .ofRat (backoff.config.base.secs * power * backoff.config.jitter.toRat) := by
  have nonneg : 0 ≤ backoff.config.base.secs * power :=
    mul_nonneg (Duration.secs_nonneg _)
      (le_trans zero_le_one (admissible.one_le_exactPow grown))
  obtain ⟨_, jitterEq, -⟩ := admissible.jitter_eq
  obtain ⟨_, delayEq⟩ := Float64.ofRat_of_lt nonneg delaySmall
  rw [jitterRange, expDelay_of_lt admissible grown small, delayEq]
  nth_rewrite 1 [jitterEq]
  rw [Float64.mul]

/-- A finite range of the jitter leaves no other way. -/
theorem exists_power_of_finite (finite : backoff.jitterRange.isFinite = true) :
    ∃ power, backoff.config.factor.exactPow backoff.exponent = some power ∧ power < f64Limit ∧
      backoff.config.base.secs * power < f64Limit := by
  have delayFinite : backoff.expDelay.isFinite = true := Float64.isFinite_mul_left finite
  have powerFinite := Float64.isFinite_mul_right delayFinite
  obtain ⟨power, grown⟩ := Float64.exists_exactPow powerFinite
  have nonneg : 0 ≤ power := le_trans zero_le_one (admissible.one_le_exactPow grown)
  rw [Float64.powi_of_exactPow grown, Float64.isFinite_ofRat_iff nonneg] at powerFinite
  refine ⟨power, grown, powerFinite, ?_⟩
  rw [expDelay_of_lt admissible grown powerFinite] at delayFinite
  exact (Float64.isFinite_ofRat_iff (mul_nonneg (Duration.secs_nonneg _) nonneg)).mp delayFinite

/-- The jitter is drawn exactly where there is room. -/
theorem exists_drawn_iff (draw : Draw) :
    (∃ jitter, randomRange draw backoff.jitterRange.neg backoff.jitterRange = .ok jitter) ↔
      backoff.config.Headroom backoff.exponent := by
  have nonneg {power : ℚ}
      (grown : backoff.config.factor.exactPow backoff.exponent = some power) :
      0 ≤ backoff.config.base.secs * power * backoff.config.jitter.toRat := by
    obtain ⟨_, -, jitterNonneg, -⟩ := admissible.jitter_eq
    have powerNonneg := le_trans zero_le_one (admissible.one_le_exactPow grown)
    exact mul_nonneg (mul_nonneg (Duration.secs_nonneg _) powerNonneg) jitterNonneg
  constructor
  · intro drawn
    have finite := ((exists_randomRange_iff _ _ _).mp drawn).2.1
    obtain ⟨power, grown, small, delaySmall⟩ := exists_power_of_finite admissible finite
    rw [jitterRange_of_lt admissible grown small delaySmall,
      exists_jitter_iff draw (nonneg grown)] at drawn
    exact ⟨power, grown, small, delaySmall, drawn⟩
  · rintro ⟨power, grown, small, delaySmall, widthSmall⟩
    rw [jitterRange_of_lt admissible grown small delaySmall,
      exists_jitter_iff draw (nonneg grown)]
    exact widthSmall

omit admissible

/-- After the jitter nothing panics, and the delay is cut to the maximum. -/
theorem exists_calculateDelay {jitter : Float64} {draw : Draw}
    (drawn : randomRange draw backoff.jitterRange.neg backoff.jitterRange = .ok jitter) :
    ∃ delay, backoff.calculateDelay draw = .ok delay ∧
      delay.nanos ≤ backoff.config.max.nanos := by
  obtain ⟨bounded, maxEq⟩ := backoff.config.max.asSecsF64_eq
  obtain ⟨secs, secsBounded, clamped, nonneg, atMost⟩ :=
    Float64.exists_clamp (backoff.expDelay.add jitter) bounded (Duration.secs_nonneg _)
  obtain ⟨delay, delayEq, small⟩ := Duration.fromSecsF64_le secsBounded nonneg atMost
  refine ⟨delay, ?_, small⟩
  rw [calculateDelay, drawn, maxEq]
  simp only [bind, Except.bind, clamped, delayEq, Except.mapError]

/-- Where there is no room, the draw panics. -/
theorem calculateDelay_of_not_headroom (admissible : backoff.config.Admissible) (draw : Draw)
    (full : ¬ backoff.config.Headroom backoff.exponent) :
    backoff.calculateDelay draw = .error .range := by
  have panics : randomRange draw backoff.jitterRange.neg backoff.jitterRange = .error .range := by
    rw [randomRange, if_neg]
    rw [← exists_randomRange_iff draw, exists_drawn_iff admissible draw]
    exact full
  rw [calculateDelay, panics]
  rfl

/-- What a call does: it gives a delay up to the maximum where there is room, and panics
elsewhere. -/
theorem nextDelay_of_headroom (admissible : backoff.config.Admissible) (draw : Draw)
    (room : backoff.config.Headroom backoff.exponent) :
    ∃ delay, delay.nanos ≤ backoff.config.max.nanos ∧ backoff.nextDelay draw =
      .ok (delay, { backoff with attempt := saturatingAdd backoff.attempt 1 }) := by
  obtain ⟨jitter, drawn⟩ := (exists_drawn_iff admissible draw).mpr room
  obtain ⟨delay, delayEq, small⟩ := exists_calculateDelay drawn
  refine ⟨delay, small, ?_⟩
  rw [nextDelay, delayEq]
  rfl

theorem nextDelay_of_not_headroom (admissible : backoff.config.Admissible) (draw : Draw)
    (full : ¬ backoff.config.Headroom backoff.exponent) :
    backoff.nextDelay draw = .error .range := by
  rw [nextDelay, calculateDelay_of_not_headroom admissible draw full]
  rfl

end Backoff

/-! ## Runs -/

/-- No panic, and no delay above the maximum. -/
def Safe (most : Duration) (result : Except BackoffPanic (List Duration)) : Prop :=
  ∃ delays, result = .ok delays ∧ ∀ delay ∈ delays, delay.nanos ≤ most.nanos

/-- A run that is safe when there is room, and panics when there is not. -/
structure SafeWhen (room : Prop) (most : Duration) (result : Except BackoffPanic (List Duration)) :
    Prop where
  safe : room → Safe most result
  panics : ¬ room → result = .error .range

namespace SafeWhen

variable {room : Prop} {most : Duration} {result : Except BackoffPanic (List Duration)}

theorem nil (holds : room) : SafeWhen room most (.ok []) where
  safe _ := ⟨[], rfl, List.forall_mem_nil _⟩
  panics full := absurd holds full

/-- A run goes on with room for its first delay. -/
theorem cons {α : Type} {here later : Prop} {step : Except BackoffPanic α}
    {delay : α → Duration} {run : α → Except BackoffPanic (List Duration)}
    (goes : here → ∃ made, step = .ok made ∧ (delay made).nanos ≤ most.nanos ∧
      SafeWhen later most (run made))
    (stops : ¬ here → step = .error .range) :
    SafeWhen (here ∧ later) most
      (step >>= fun made => run made >>= fun others => pure (delay made :: others)) := by
  by_cases holds : here
  · obtain ⟨made, stepEq, small, rest⟩ := goes holds
    rw [stepEq]
    constructor
    · rintro ⟨-, roomLater⟩
      obtain ⟨others, runEq, smallLater⟩ := rest.safe roomLater
      refine ⟨delay made :: others, ?_, List.forall_mem_cons.mpr ⟨small, smallLater⟩⟩
      simp only [bind, Except.bind, runEq, pure, Except.pure]
    · intro full
      have fullLater : ¬ later := fun roomLater => full ⟨holds, roomLater⟩
      simp only [bind, Except.bind, rest.panics fullLater]
  · rw [stops holds]
    constructor
    · intro room
      exact absurd room.1 holds
    · intro _
      rfl

theorem safe_iff (run : SafeWhen room most result) : Safe most result ↔ room := by
  constructor
  · rintro ⟨delays, made, -⟩
    by_contra full
    rw [run.panics full] at made
    cases made
  · exact run.safe

end SafeWhen

theorem Backoff.delays_cons (draw : Draw) (rest : List Draw) (backoff : Backoff) :
    backoff.delays (draw :: rest) =
      (backoff.nextDelay draw >>= fun made =>
        made.2.delays rest >>= fun others => pure (made.1 :: others)) := rfl

/-- Calls in a row are safe as long as each of their attempts has room. -/
theorem Backoff.delays_safeWhen (backoff : Backoff) (admissible : backoff.config.Admissible)
    (draws : List Draw) :
    SafeWhen (∀ later < draws.length,
        backoff.config.Headroom (min (backoff.attempt.toNat + later) i32Max))
      backoff.config.max (backoff.delays draws) := by
  induction draws generalizing backoff with
  | nil =>
      apply SafeWhen.nil
      intro later impossible
      cases impossible
  | cons draw rest ih =>
      rw [List.length_cons, Nat.forall_lt_succ_left, delays_cons]
      apply SafeWhen.cons
      · intro room
        obtain ⟨delay, small, called⟩ := nextDelay_of_headroom admissible draw room
        refine ⟨_, called, small, ?_⟩
        -- The counter saturates above the cut of the exponent.
        have next (later : Nat) :
            min ((saturatingAdd backoff.attempt 1).toNat + later) i32Max =
              min (backoff.attempt.toNat + (later + 1)) i32Max := by
          rw [toNat_saturatingAdd, i32Max]
          change min (min (_ + 1) _ + later) _ = _
          omega
        have run := ih { backoff with attempt := saturatingAdd backoff.attempt 1 } admissible
        simp only [next] at run
        exact run
      · exact nextDelay_of_not_headroom admissible draw

end FerroTunnel.Tunnel
