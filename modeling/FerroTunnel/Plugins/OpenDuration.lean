import FerroTunnel.Plugins.CircuitBreaker
import FerroTunnel.Transition.Core

/-!
# How long an open circuit stays shut

The breaker keeps the time of the last failure in whole seconds and compares the
difference of two such times with the whole seconds of `open_duration`.  Here the clock
counts milliseconds, and the history keeps when the last failure really was recorded.

Cutting both times to seconds can make the difference a second too large, and cutting
the duration can take up to a second from it.  So the circuit stays shut until the
second in which the last whole second of its duration begins, and whether it stays shut
longer depends on where in their seconds the two calls fall.
-/

namespace FerroTunnel.Plugins

open FerroTunnel.Transition

/-- A call with the time at which it is made, in milliseconds. -/
structure MillisCall where
  call : BreakerCall
  now : Nat
deriving DecidableEq

/-- The call as the breaker sees it: it reads the clock with `as_secs`. -/
def MillisCall.inSeconds (made : MillisCall) : TimedCall where
  call := made.call
  now := made.now / 1000

/-- A breaker with the time of the last call and that of the last recorded failure. -/
structure MillisBreaker where
  breaker : CircuitBreaker
  clock : Nat
  lastFailure : Option Nat
deriving DecidableEq

namespace MillisBreaker

/-- A new breaker at time zero. -/
def initial : MillisBreaker where
  breaker := .new
  clock := 0
  lastFailure := none

/-- The next call, which is not made before the last one. -/
def step (config : CircuitBreakerConfig) : Step MillisBreaker MillisCall :=
  fun timed made =>
    if timed.clock ≤ made.now then
      some
        { breaker := timed.breaker.perform config made.inSeconds
          clock := made.now
          lastFailure :=
            if made.call = .recordFailure then some made.now else timed.lastFailure }
    else
      none

/-- Less than `open_duration` has passed since the last recorded failure. -/
def WithinOpenDuration (config : CircuitBreakerConfig) (timed : MillisBreaker) (now : Nat) :
    Prop :=
  ∃ last ∈ timed.lastFailure, (now - last) * 1000000 < config.openDuration.nanos

/-- An open breaker asked within `open_duration` refuses and stays open. -/
def StaysShut (config : CircuitBreakerConfig) (timed : MillisBreaker) (made : MillisCall) :
    Prop :=
  made.call = .shouldAllow → timed.breaker.state = .opened →
    timed.WithinOpenDuration config made.now →
      (timed.breaker.shouldAllow config made.inSeconds.now).2 = false ∧
        (timed.breaker.shouldAllow config made.inSeconds.now).1.state = .opened

/-- When an open breaker is asked within `open_duration`, this has at least one whole
second, and the second that begins `open_duration.as_secs()` after the second of the
failure has not come yet. -/
def BeforeLastSecond (config : CircuitBreakerConfig) (timed : MillisBreaker)
    (made : MillisCall) : Prop :=
  made.call = .shouldAllow → timed.breaker.state = .opened →
    timed.WithinOpenDuration config made.now →
      0 < config.openDuration.asSecs ∧
        ∃ last ∈ timed.lastFailure, made.now < (last / 1000 + config.openDuration.asSecs) * 1000

instance (config : CircuitBreakerConfig) (timed : MillisBreaker) (now : Nat) :
    Decidable (timed.WithinOpenDuration config now) :=
  inferInstanceAs (Decidable (∃ last ∈ timed.lastFailure, _))

instance (config : CircuitBreakerConfig) (timed : MillisBreaker) (made : MillisCall) :
    Decidable (timed.StaysShut config made) :=
  inferInstanceAs (Decidable (_ → _ → _ → _ ∧ _))

/-- What the breaker's time stands for. -/
structure Accounted (timed : MillisBreaker) : Prop where
  inSeconds : ∀ last ∈ timed.lastFailure, timed.breaker.lastFailureTime = last / 1000
  recorded : timed.breaker.state = .opened → timed.lastFailure ≠ none

variable {config : CircuitBreakerConfig} {timed next : MillisBreaker} {made : MillisCall}

theorem Accounted.initial : Accounted MillisBreaker.initial where
  inSeconds last found := by cases found
  recorded state := by cases state

end MillisBreaker

/-! ## What a call leaves of the time and the state -/

namespace CircuitBreaker

variable (config : CircuitBreakerConfig) (breaker : CircuitBreaker)

theorem lastFailureTime_shouldAllow (now : Nat) :
    (breaker.shouldAllow config now).1.lastFailureTime = breaker.lastFailureTime := by
  cases state : breaker.state with
  | opened =>
      simp only [shouldAllow, state]
      split <;> rfl
  | _ => simp only [shouldAllow, state]

theorem lastFailureTime_recordSuccess :
    (breaker.recordSuccess config).lastFailureTime = breaker.lastFailureTime := by
  cases state : breaker.state with
  | halfOpen =>
      simp only [recordSuccess, state]
      split <;> rfl
  | _ => simp only [recordSuccess, state]

/-- Only a recorded failure opens the breaker. -/
theorem opened_of_shouldAllow {now : Nat}
    (opened : (breaker.shouldAllow config now).1.state = .opened) : breaker.state = .opened := by
  cases state : breaker.state with
  | opened => rfl
  | _ =>
      simp only [shouldAllow, state] at opened
      cases opened

theorem opened_of_recordSuccess (opened : (breaker.recordSuccess config).state = .opened) :
    breaker.state = .opened := by
  cases state : breaker.state with
  | opened => rfl
  | closed =>
      simp only [recordSuccess, state] at opened
      cases opened
  | halfOpen =>
      simp only [recordSuccess, state] at opened
      split at opened <;> cases opened

/-- An open breaker refuses exactly when the whole seconds have not passed, and then it
stays as it is. -/
theorem shouldAllow_of_opened {config : CircuitBreakerConfig} {breaker : CircuitBreaker}
    (opened : breaker.state = .opened) (now : Nat) :
    ((breaker.shouldAllow config now).2 = false ∧
        (breaker.shouldAllow config now).1.state = .opened) ↔
      now - breaker.lastFailureTime < config.openDuration.asSecs := by
  by_cases reached : config.openDuration.asSecs ≤ now - breaker.lastFailureTime
  · simp [shouldAllow, opened, elapsed, reached]
  · simp [shouldAllow, opened, elapsed, reached]
    omega

end CircuitBreaker

namespace MillisBreaker

variable {config : CircuitBreakerConfig} {timed next : MillisBreaker} {made : MillisCall}

theorem Accounted.step (accounted : timed.Accounted)
    (stepEq : step config timed made = some next) : next.Accounted := by
  obtain ⟨call, now⟩ := made
  simp only [MillisBreaker.step, Option.ite_none_right_eq_some, Option.some.injEq] at stepEq
  obtain ⟨-, rfl⟩ := stepEq
  cases call with
  | shouldAllow =>
      constructor
      · intro last found
        exact (CircuitBreaker.lastFailureTime_shouldAllow config timed.breaker _).trans
          (accounted.inSeconds last found)
      · intro opened
        exact accounted.recorded (CircuitBreaker.opened_of_shouldAllow config timed.breaker opened)
  | recordSuccess =>
      constructor
      · intro last found
        exact (CircuitBreaker.lastFailureTime_recordSuccess config timed.breaker).trans
          (accounted.inSeconds last found)
      · intro opened
        exact accounted.recorded
          (CircuitBreaker.opened_of_recordSuccess config timed.breaker opened)
  | recordFailure =>
      constructor
      · rintro last ⟨⟩
        exact CircuitBreaker.lastFailureTime_recordFailure config timed.breaker _
      · intro _
        exact Option.some_ne_none now

/-- Whole seconds that have not passed, in milliseconds. -/
theorem div_sub_div_lt_iff (now last seconds : Nat) :
    now / 1000 - last / 1000 < seconds ↔
      0 < seconds ∧ now < (last / 1000 + seconds) * 1000 := by
  rw [← Nat.div_lt_iff_lt_mul (by decide)]
  omega

theorem Accounted.refuses_iff (config : CircuitBreakerConfig) (accounted : timed.Accounted)
    (opened : timed.breaker.state = .opened) {last : Nat} (found : last ∈ timed.lastFailure)
    (now : Nat) :
    ((timed.breaker.shouldAllow config (now / 1000)).2 = false ∧
        (timed.breaker.shouldAllow config (now / 1000)).1.state = .opened) ↔
      0 < config.openDuration.asSecs ∧ now < (last / 1000 + config.openDuration.asSecs) * 1000 := by
  rw [CircuitBreaker.shouldAllow_of_opened opened, accounted.inSeconds last found,
    div_sub_div_lt_iff]

theorem Accounted.staysShut_iff (accounted : timed.Accounted) :
    timed.StaysShut config made ↔ timed.BeforeLastSecond config made := by
  apply imp_congr_right
  intro _
  apply imp_congr_right
  intro opened
  apply imp_congr_right
  rintro ⟨last, found, -⟩
  refine (accounted.refuses_iff config opened found made.now).trans (and_congr_right fun _ => ?_)
  constructor
  · intro early
    exact ⟨last, found, early⟩
  · rintro ⟨other, foundOther, early⟩
    rw [Option.mem_unique foundOther found] at early
    exact early

/-- Along every run of calls an open circuit refuses all traffic within `open_duration` of
the last failure exactly when every such request comes before the second in which the
whole seconds of the duration have passed. -/
theorem open_stays_shut_iff (config : CircuitBreakerConfig) (calls : List MillisCall) :
    Meets (step config) (StaysShut config) .initial calls ↔
      Meets (step config) (BeforeLastSecond config) .initial calls := by
  apply Meets.iff_of_invariant
  · exact fun accounted stepEq => Accounted.step accounted stepEq
  · exact fun accounted => accounted.staysShut_iff
  · exact .initial

/-- A failure at the end of one second, and a request one millisecond later that a circuit
open for a whole second lets through. -/
theorem open_one_millisecond :
    ¬ Meets (step ⟨1, .fromMillis 1000, 1, [500]⟩) (StaysShut ⟨1, .fromMillis 1000, 1, [500]⟩)
      .initial [⟨.recordFailure, 999⟩, ⟨.shouldAllow, 1000⟩] := by
  decide

/-- A circuit that is open for less than a second lets the next request through. -/
example :
    ¬ Meets (step ⟨1, .fromMillis 500, 1, [500]⟩) (StaysShut ⟨1, .fromMillis 500, 1, [500]⟩)
      .initial [⟨.recordFailure, 200⟩, ⟨.shouldAllow, 200⟩] := by
  decide

end MillisBreaker

end FerroTunnel.Plugins
