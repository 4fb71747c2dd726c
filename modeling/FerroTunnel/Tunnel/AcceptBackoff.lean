import FerroTunnel.Tunnel.Backoff

/-!
# Backing off in the accept loops

The accept loops of the servers back off from five milliseconds to one second, and start
again after a connection was accepted.  The delays double, so a listener that keeps failing
reaches the largest finite number after 1024 failures in a row, and the next one panics.
-/

namespace FerroTunnel.Tunnel

open FerroTunnel.Arith
open FerroTunnel.Time

/-- The backoff of a listener. -/
structure AcceptBackoff where
  backoff : Backoff
  consecutive : UInt64
deriving DecidableEq

namespace AcceptBackoff

/-- The delays of the accept loops, in milliseconds up to a second. -/
def config : BackoffConfig where
  base := .fromMillis 5
  max := .fromSecs 1
  factor := .ofRat 2
  jitter := .ofRat (3 / 10)

/-- A backoff without errors. -/
def default : AcceptBackoff where
  backoff := .new config
  consecutive := 0

/-- A connection was accepted. -/
def reset (accept : AcceptBackoff) : AcceptBackoff where
  backoff := accept.backoff.reset
  consecutive := 0

/-- The delay, and whether the failure is logged. -/
def recordFailure (draw : Draw) (accept : AcceptBackoff) :
    Except BackoffPanic ((Duration × Bool) × AcceptBackoff) := do
  let consecutive := accept.consecutive + 1
  let shouldLog := consecutive == 1 || consecutive % 50 == 0
  let (delay, backoff) ← accept.backoff.nextDelay draw
  return ((delay, shouldLog), { backoff, consecutive })

/-- The accept loop over what its calls give, with the delays that it sleeps: `none` is an
accepted connection, and a failure comes with what is drawn for it. -/
def acceptLoop : List (Option Draw) → AcceptBackoff → Except BackoffPanic (List Duration)
  | [], _ => .ok []
  | none :: rest, accept => acceptLoop rest accept.reset
  | some draw :: rest, accept => do
      let ((delay, _), later) ← accept.recordFailure draw
      let others ← acceptLoop rest later
      return delay :: others

end AcceptBackoff

/-! ## One failure -/

namespace AcceptBackoff

theorem config_admissible : config.Admissible :=
  BackoffConfig.admissible_ofRat one_le_two two_lt_f64Limit (by norm_num) (by norm_num)

theorem config_headroom_iff {exponent : Nat} : config.Headroom exponent ↔ exponent < 1024 :=
  BackoffConfig.headroom_two_iff (by norm_num) (by norm_num) (Duration.secs_le_one (by decide))

theorem recordFailure_of_nextDelay {accept : AcceptBackoff} {draw : Draw} {delay : Duration}
    {backoff : Backoff} (called : accept.backoff.nextDelay draw = .ok (delay, backoff)) :
    ∃ shouldLog, accept.recordFailure draw =
      .ok ((delay, shouldLog), ⟨backoff, accept.consecutive + 1⟩) := by
  rw [recordFailure, called]
  exact ⟨_, rfl⟩

section Failure

variable {accept : AcceptBackoff} (configured : accept.backoff.config = config)

include configured

theorem admissible_of_eq : accept.backoff.config.Admissible := by
  rw [configured]
  exact config_admissible

theorem headroom_exponent_iff :
    accept.backoff.config.Headroom accept.backoff.exponent ↔
      accept.backoff.attempt.toNat < 1024 := by
  rw [configured, config_headroom_iff, Backoff.exponent, i32Max]
  omega

/-- The first 1024 failures in a row have a delay each. -/
theorem recordFailure_of_lt (below : accept.backoff.attempt.toNat < 1024) (draw : Draw) :
    ∃ delay shouldLog later, accept.recordFailure draw = .ok ((delay, shouldLog), later) ∧
      delay.nanos ≤ config.max.nanos ∧ later.backoff.config = config ∧
        later.backoff.attempt.toNat = accept.backoff.attempt.toNat + 1 := by
  have room := (headroom_exponent_iff configured).mpr below
  obtain ⟨delay, small, called⟩ :=
    Backoff.nextDelay_of_headroom (admissible_of_eq configured) draw room
  have next : (saturatingAdd accept.backoff.attempt 1).toNat =
      accept.backoff.attempt.toNat + 1 := by
    rw [toNat_saturatingAdd]
    change min (_ + 1) _ = _
    omega
  rw [configured] at small
  obtain ⟨shouldLog, recorded⟩ := recordFailure_of_nextDelay called
  exact ⟨delay, shouldLog, _, recorded, small, configured, next⟩

/-- The failure after them panics. -/
theorem recordFailure_of_le (full : 1024 ≤ accept.backoff.attempt.toNat) (draw : Draw) :
    accept.recordFailure draw = .error .range := by
  have noRoom : ¬ accept.backoff.config.Headroom accept.backoff.exponent := by
    rw [headroom_exponent_iff configured]
    exact Nat.not_lt_of_le full
  rw [recordFailure, Backoff.nextDelay_of_not_headroom (admissible_of_eq configured) draw noRoom]
  rfl

end Failure

end AcceptBackoff

/-! ## Runs of the accept loop -/

/-- No more than this many failures in a row, `streak` of which have been. -/
def StreaksWithin {α : Type} (most : Nat) : Nat → List (Option α) → Prop
  | _, [] => True
  | _, none :: rest => StreaksWithin most 0 rest
  | streak, some _ :: rest => streak < most ∧ StreaksWithin most (streak + 1) rest

theorem streaksWithin_map_some_iff {α : Type} {most streak : Nat} (within : streak ≤ most)
    (items : List α) :
    StreaksWithin most streak (items.map some) ↔ streak + items.length ≤ most := by
  induction items generalizing streak with
  | nil => exact iff_of_true trivial within
  | cons item rest ih =>
      rw [List.map_cons, StreaksWithin, List.length_cons]
      constructor
      · rintro ⟨below, later⟩
        have := (ih below).mp later
        omega
      · intro total
        have below : streak < most := by omega
        refine ⟨below, (ih below).mpr ?_⟩
        omega

namespace AcceptBackoff

theorem acceptLoop_some (draw : Draw) (rest : List (Option Draw)) (accept : AcceptBackoff) :
    accept.acceptLoop (some draw :: rest) =
      (accept.recordFailure draw >>= fun made =>
        made.2.acceptLoop rest >>= fun others => pure (made.1.1 :: others)) := rfl

/-- The accept loop sleeps at most a second at a time, until 1024 failures in a row have
been: the next one panics. -/
theorem acceptLoop_safeWhen (events : List (Option Draw)) (accept : AcceptBackoff)
    (configured : accept.backoff.config = config) :
    SafeWhen (StreaksWithin 1024 accept.backoff.attempt.toNat events) config.max
      (accept.acceptLoop events) := by
  induction events generalizing accept with
  | nil => exact SafeWhen.nil trivial
  | cons event rest ih =>
      cases event with
      | none => exact ih accept.reset configured
      | some draw =>
          rw [StreaksWithin, acceptLoop_some]
          apply SafeWhen.cons
          · intro below
            obtain ⟨delay, shouldLog, later, recorded, small, kept, next⟩ :=
              recordFailure_of_lt configured below draw
            refine ⟨_, recorded, small, ?_⟩
            rw [← next]
            exact ih later kept
          · intro full
            exact recordFailure_of_le configured (Nat.le_of_not_lt full) draw

/-- Failures in a row from the start. -/
theorem failures_safeWhen (draws : List Draw) :
    SafeWhen (draws.length ≤ 1024) config.max (default.acceptLoop (draws.map some)) := by
  have run := acceptLoop_safeWhen (draws.map some) default rfl
  have start : default.backoff.attempt.toNat = 0 := rfl
  rw [start, streaksWithin_map_some_iff (Nat.zero_le 1024), Nat.zero_add] at run
  exact run

/-- The failure after 1024 others panics. -/
theorem failures_panic (draw : Draw) :
    default.acceptLoop ((List.replicate 1025 draw).map some) = .error .range := by
  apply (failures_safeWhen (List.replicate 1025 draw)).panics
  rw [List.length_replicate]
  decide

end AcceptBackoff

/-- Failures in a row are safe for as long as the growth has room: 1024 of them in the
accept loops, and with any configuration those whose power, delay and jitter are finite. -/
theorem backing_off_safe_iff (config : BackoffConfig) (admissible : config.Admissible)
    (draws : List Draw) :
    (Safe AcceptBackoff.config.max (AcceptBackoff.default.acceptLoop (draws.map some)) ↔
      draws.length ≤ 1024) ∧
    (Safe config.max ((Backoff.new config).delays draws) ↔
      ∀ attempt < draws.length, config.Headroom (min attempt i32Max)) := by
  constructor
  · exact (AcceptBackoff.failures_safeWhen draws).safe_iff
  · have run := (Backoff.new config).delays_safeWhen admissible draws
    have first (attempt : Nat) : (Backoff.new config).attempt.toNat + attempt = attempt :=
      Nat.zero_add attempt
    simp only [first] at run
    exact run.safe_iff

/-- The default configuration, for two attempts. -/
theorem backing_off_default :
    BackoffConfig.default.Admissible ∧
      Safe BackoffConfig.default.max
        ((Backoff.new .default).delays [fun low _ => low, fun _ high => high]) := by
  refine ⟨BackoffConfig.default_admissible, ?_⟩
  rw [(backing_off_safe_iff _ BackoffConfig.default_admissible _).2]
  intro attempt below
  rw [BackoffConfig.default_headroom_iff, i32Max]
  have : attempt < 2 := below
  omega

/-- A server whose listener fails 1025 times in a row stops accepting by a panic. -/
theorem accept_failures_panic :
    ¬ Safe AcceptBackoff.config.max
        (AcceptBackoff.default.acceptLoop
          ((List.replicate 1025 fun low _ => low).map some)) ∧
      AcceptBackoff.default.acceptLoop ((List.replicate 1025 fun low _ => low).map some) =
        .error .range := by
  have panics := AcceptBackoff.failures_panic fun low _ => low
  refine ⟨?_, panics⟩
  rintro ⟨delays, made, -⟩
  rw [panics] at made
  cases made

end FerroTunnel.Tunnel
