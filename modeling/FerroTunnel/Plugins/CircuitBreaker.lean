import FerroTunnel.Plugins.Registry
import FerroTunnel.Time.Duration

/-!
# The circuit breaker

`CircuitBreakerPlugin` counts failed responses while it is closed, rejects
requests while it is open, and after a while lets probes through: enough
successes close it again, and a failure opens it.

Its state is a function of what was recorded.  The history of a run keeps every
call with the breaker before and after it; what the two counters and the time
of the last failure stand for is read off the history alone.
-/

namespace FerroTunnel.Plugins

open FerroTunnel.Time

/-- The states of the breaker; `opened` is `Open`. -/
inductive CircuitState
  | closed
  | opened
  | halfOpen
deriving DecidableEq

/-- The configuration of a breaker. -/
structure CircuitBreakerConfig where
  failureThreshold : UInt32
  openDuration : Duration
  halfOpenSuccessThreshold : UInt32
  failureStatusCodes : List UInt16
deriving DecidableEq

/-- What the plugin keeps; `lastFailureTime` is in whole seconds. -/
structure CircuitBreaker where
  state : CircuitState
  failureCount : UInt32
  successCount : UInt32
  lastFailureTime : Nat
deriving DecidableEq

namespace CircuitBreaker

/-- A closed breaker. -/
def new : CircuitBreaker where
  state := .closed
  failureCount := 0
  successCount := 0
  lastFailureTime := 0

variable (config : CircuitBreakerConfig)

/-- Enough time has passed since a failure to let probes through. -/
def elapsed (now lastFailure : Nat) : Bool :=
  now - lastFailure ≥ config.openDuration.asSecs

/-- Whether a request may pass. -/
def shouldAllow (now : Nat) (breaker : CircuitBreaker) : CircuitBreaker × Bool :=
  match breaker.state with
  | .closed | .halfOpen => (breaker, true)
  | .opened =>
      if elapsed config now breaker.lastFailureTime then
        ({ breaker with state := .halfOpen, successCount := 0 }, true)
      else
        (breaker, false)

/-- A call has succeeded. -/
def recordSuccess (breaker : CircuitBreaker) : CircuitBreaker :=
  match breaker.state with
  | .closed => { breaker with failureCount := 0 }
  | .halfOpen =>
      let count := breaker.successCount + 1
      if count ≥ config.halfOpenSuccessThreshold then
        { breaker with state := .closed, successCount := count, failureCount := 0 }
      else
        { breaker with successCount := count }
  | .opened => breaker

/-- A call has failed. -/
def recordFailure (now : Nat) (breaker : CircuitBreaker) : CircuitBreaker :=
  match breaker.state with
  | .closed =>
      let count := breaker.failureCount + 1
      if count ≥ config.failureThreshold then
        { breaker with state := .opened, failureCount := count, lastFailureTime := now }
      else
        { breaker with failureCount := count, lastFailureTime := now }
  | .halfOpen => { breaker with state := .opened, successCount := 0, lastFailureTime := now }
  | .opened => { breaker with lastFailureTime := now }

/-- The status counts as a failure. -/
def isFailureStatus (status : UInt16) : Bool :=
  config.failureStatusCodes.contains status

/-- The request hook. -/
def onRequest (now : Nat) (breaker : CircuitBreaker) : CircuitBreaker × PluginAction :=
  match breaker.shouldAllow config now with
  | (later, true) => (later, .proceed)
  | (later, false) =>
      (later, .reject 503 "Service temporarily unavailable (circuit breaker open)")

/-- The response hook. -/
def onResponse (now : Nat) (status : UInt16) (breaker : CircuitBreaker) : CircuitBreaker :=
  if isFailureStatus config status then
    breaker.recordFailure config now
  else
    breaker.recordSuccess config

end CircuitBreaker

/-! ## Failures in a row -/

/-- While the breaker is closed it has counted at least `failures`, and fewer than would
open it. -/
def CircuitBreaker.Counts (config : CircuitBreakerConfig) (failures : Nat)
    (breaker : CircuitBreaker) : Prop :=
  breaker.state = .closed →
    failures ≤ breaker.failureCount.toNat ∧ breaker.failureCount < config.failureThreshold

theorem toNat_succ_of_lt {count threshold : UInt32} (below : count < threshold) :
    (count + 1).toNat = count.toNat + 1 := by
  have bound := threshold.toNat_lt
  rw [UInt32.lt_iff_toNat_lt] at below
  rw [UInt32.toNat_add, Nat.mod_eq_of_lt]
  · rfl
  · change count.toNat + 1 < 2 ^ 32
    omega

theorem pos_of_one_le {threshold : UInt32} (atLeast : 1 ≤ threshold) : 0 < threshold :=
  UInt32.lt_iff_toNat_lt.mpr (UInt32.le_iff_toNat_le.mp atLeast)

namespace CircuitBreaker.Counts

variable {config : CircuitBreakerConfig} {breaker : CircuitBreaker} {failures : Nat}

theorem new (positive : 1 ≤ config.failureThreshold) : CircuitBreaker.new.Counts config 0 :=
  fun _ => ⟨Nat.le_refl _, pos_of_one_le positive⟩

theorem shouldAllow (counts : breaker.Counts config failures) (now : Nat) :
    (breaker.shouldAllow config now).1.Counts config failures := by
  cases state : breaker.state with
  | opened =>
      by_cases reached : elapsed config now breaker.lastFailureTime = true
      · simp [CircuitBreaker.shouldAllow, state, reached, Counts]
      · simp [CircuitBreaker.shouldAllow, state, reached, Counts]
  | closed | halfOpen =>
      simp only [CircuitBreaker.shouldAllow, state]
      exact counts

theorem recordSuccess (positive : 1 ≤ config.failureThreshold) :
    (breaker.recordSuccess config).Counts config 0 := by
  intro closed
  have below := pos_of_one_le positive
  cases state : breaker.state with
  | closed => simp [CircuitBreaker.recordSuccess, state, below]
  | opened =>
      simp only [CircuitBreaker.recordSuccess, state] at closed
      cases closed
  | halfOpen =>
      simp only [CircuitBreaker.recordSuccess, state] at closed ⊢
      split at closed
      · rename_i reached
        simp [reached, below]
      · cases closed

/-- One more failure is counted, or the breaker is open. -/
theorem recordFailure (counts : breaker.Counts config failures) (now : Nat) :
    (breaker.recordFailure config now).Counts config (failures + 1) ∧
      (breaker.recordFailure config now).state ≠ .halfOpen := by
  cases state : breaker.state with
  | opened | halfOpen => simp [CircuitBreaker.recordFailure, state, Counts]
  | closed =>
      obtain ⟨counted, below⟩ := counts state
      have succ := toNat_succ_of_lt below
      by_cases reached : config.failureThreshold ≤ breaker.failureCount + 1
      · simp [CircuitBreaker.recordFailure, state, reached, Counts]
      · have still := UInt32.not_le.mp reached
        simp [CircuitBreaker.recordFailure, state, reached, Counts, succ, counted, still]

end CircuitBreaker.Counts

theorem CircuitBreaker.lastFailureTime_recordFailure (config : CircuitBreakerConfig)
    (breaker : CircuitBreaker) (now : Nat) :
    (breaker.recordFailure config now).lastFailureTime = now := by
  cases state : breaker.state with
  | closed =>
      simp only [recordFailure, state]
      split <;> rfl
  | _ => simp only [recordFailure, state]

/-! ## Histories -/

/-- The calls of a breaker. -/
inductive BreakerCall
  | shouldAllow
  | recordSuccess
  | recordFailure
deriving DecidableEq

/-- A call with the time at which it is made. -/
structure TimedCall where
  call : BreakerCall
  now : Nat
deriving DecidableEq

/-- The breaker after a call. -/
def CircuitBreaker.perform (config : CircuitBreakerConfig) (breaker : CircuitBreaker)
    (timed : TimedCall) : CircuitBreaker :=
  match timed.call with
  | .shouldAllow => (breaker.shouldAllow config timed.now).1
  | .recordSuccess => breaker.recordSuccess config
  | .recordFailure => breaker.recordFailure config timed.now

/-- The counter that the call increments is at its largest value. -/
def CircuitBreaker.Overflows (breaker : CircuitBreaker) (call : BreakerCall) : Prop :=
  match call, breaker.state with
  | .recordSuccess, .halfOpen => breaker.successCount.toNat + 1 ≥ UInt32.size
  | .recordFailure, .closed => breaker.failureCount.toNat + 1 ≥ UInt32.size
  | _, _ => False

/-- A call that was made, with the breaker before and after it. -/
structure Record where
  timed : TimedCall
  before : CircuitBreaker
  after : CircuitBreaker
deriving DecidableEq

/-- The breaker comes into the state at this call. -/
def Record.Enters (record : Record) (state : CircuitState) : Prop :=
  record.before.state ≠ state ∧ record.after.state = state

instance (record : Record) (state : CircuitState) : Decidable (record.Enters state) :=
  inferInstanceAs (Decidable (_ ∧ _))

/-- The failures recorded since the breaker last became closed or last recorded a
success.  The latest call of a history comes first. -/
def failuresInARow : List Record → Nat
  | [] => 0
  | record :: past =>
      if record.timed.call = .recordSuccess ∨ record.Enters .closed then 0
      else if record.timed.call = .recordFailure then failuresInARow past + 1
      else failuresInARow past

/-- The successes recorded since the breaker last became half open. -/
def successesSinceHalfOpen : List Record → Nat
  | [] => 0
  | record :: past =>
      if record.Enters .halfOpen then 0
      else if record.timed.call = .recordSuccess then successesSinceHalfOpen past + 1
      else successesSinceHalfOpen past

/-- The time of the last recorded failure. -/
def lastFailure : List Record → Option Nat
  | [] => none
  | record :: past =>
      if record.timed.call = .recordFailure then some record.timed.now else lastFailure past

/-- The breaker leaves its state at this call exactly when the history says so. -/
structure FollowsHistory (config : CircuitBreakerConfig) (past : List Record) (record : Record) :
    Prop where
  fromClosed : record.before.state = .closed →
    record.after.state ≠ .halfOpen ∧
    (record.after.state ≠ .closed ↔ record.timed.call = .recordFailure ∧
      failuresInARow (record :: past) = config.failureThreshold.toNat)
  fromOpened : record.before.state = .opened →
    record.after.state ≠ .closed ∧
    (record.after.state ≠ .opened ↔ record.timed.call = .shouldAllow ∧
      ∃ last ∈ lastFailure past, last + config.openDuration.asSecs ≤ record.timed.now)
  fromHalfOpen : record.before.state = .halfOpen →
    (record.after.state = .closed ↔ record.timed.call = .recordSuccess ∧
      successesSinceHalfOpen (record :: past) = config.halfOpenSuccessThreshold.toNat) ∧
    (record.after.state = .opened ↔ record.timed.call = .recordFailure)
  counters : ¬ record.before.Overflows record.timed.call

/-- Every call of the history follows what came before it. -/
def EveryFollows (config : CircuitBreakerConfig) : List Record → Prop
  | [] => True
  | record :: past => FollowsHistory config past record ∧ EveryFollows config past

/-- A breaker with its history, the latest call first. -/
structure Traced where
  breaker : CircuitBreaker
  clock : Nat
  history : List Record
deriving DecidableEq

namespace Traced

/-- A new breaker at time zero. -/
def initial : Traced where
  breaker := .new
  clock := 0
  history := []

/-- The record of the next call. -/
def record (config : CircuitBreakerConfig) (traced : Traced) (timed : TimedCall) : Record where
  timed := timed
  before := traced.breaker
  after := traced.breaker.perform config timed

/-- The next call. -/
def after (config : CircuitBreakerConfig) (traced : Traced) (timed : TimedCall) : Traced where
  breaker := traced.breaker.perform config timed
  clock := timed.now
  history := traced.record config timed :: traced.history

/-- What the fields of the breaker stand for. -/
structure Accounted (config : CircuitBreakerConfig) (traced : Traced) : Prop where
  closed : traced.breaker.state = .closed →
    traced.breaker.failureCount.toNat = failuresInARow traced.history ∧
      traced.breaker.failureCount < config.failureThreshold
  opened : traced.breaker.state = .opened →
    lastFailure traced.history = some traced.breaker.lastFailureTime
  halfOpen : traced.breaker.state = .halfOpen →
    traced.breaker.successCount.toNat = successesSinceHalfOpen traced.history ∧
      traced.breaker.successCount < config.halfOpenSuccessThreshold
  clock : traced.breaker.lastFailureTime ≤ traced.clock

variable {config : CircuitBreakerConfig} {traced next : Traced} {now : Nat}

theorem Accounted.initial (failures : 1 ≤ config.failureThreshold) :
    Accounted config Traced.initial where
  closed _ := ⟨rfl, pos_of_one_le failures⟩
  opened state := by cases state
  halfOpen state := by cases state
  clock := Nat.le_refl _

theorem Accounted.shouldAllow (successes : 1 ≤ config.halfOpenSuccessThreshold)
    (accounted : Accounted config traced) (later : traced.clock ≤ now) :
    Accounted config (traced.after config ⟨.shouldAllow, now⟩) := by
  have ordered : traced.breaker.lastFailureTime ≤ now := Nat.le_trans accounted.clock later
  cases before : traced.breaker.state with
  | closed =>
      have counted := accounted.closed before
      constructor <;> simp [after, record, CircuitBreaker.perform, CircuitBreaker.shouldAllow,
        before, failuresInARow, Record.Enters, counted, ordered]
  | opened =>
      have last := accounted.opened before
      by_cases reached : config.openDuration.asSecs ≤ now - traced.breaker.lastFailureTime
      · constructor <;> simp [after, record, CircuitBreaker.perform, CircuitBreaker.shouldAllow,
          CircuitBreaker.elapsed, before, reached, successesSinceHalfOpen, Record.Enters,
          pos_of_one_le successes, ordered]
      · constructor <;> simp [after, record, CircuitBreaker.perform, CircuitBreaker.shouldAllow,
          CircuitBreaker.elapsed, before, reached, lastFailure, last, ordered]
  | halfOpen =>
      have counted := accounted.halfOpen before
      constructor <;> simp [after, record, CircuitBreaker.perform, CircuitBreaker.shouldAllow,
        before, successesSinceHalfOpen, Record.Enters, counted, ordered]

theorem Accounted.recordSuccess (failures : 1 ≤ config.failureThreshold)
    (accounted : Accounted config traced) (later : traced.clock ≤ now) :
    Accounted config (traced.after config ⟨.recordSuccess, now⟩) := by
  have ordered : traced.breaker.lastFailureTime ≤ now := Nat.le_trans accounted.clock later
  have positive := pos_of_one_le failures
  cases before : traced.breaker.state with
  | closed =>
      constructor <;> simp [after, record, CircuitBreaker.perform, CircuitBreaker.recordSuccess,
        before, failuresInARow, positive, ordered]
  | opened =>
      have last := accounted.opened before
      constructor <;> simp [after, record, CircuitBreaker.perform, CircuitBreaker.recordSuccess,
        before, lastFailure, last, ordered]
  | halfOpen =>
      obtain ⟨counted, below⟩ := accounted.halfOpen before
      have succ := toNat_succ_of_lt below
      by_cases reached : config.halfOpenSuccessThreshold ≤ traced.breaker.successCount + 1
      · constructor <;> simp [after, record, CircuitBreaker.perform, CircuitBreaker.recordSuccess,
          before, reached, failuresInARow, positive, ordered]
      · have still := UInt32.not_le.mp reached
        constructor <;> simp [after, record, CircuitBreaker.perform, CircuitBreaker.recordSuccess,
          before, reached, successesSinceHalfOpen, Record.Enters, succ, counted, still, ordered]

theorem Accounted.recordFailure (accounted : Accounted config traced) :
    Accounted config (traced.after config ⟨.recordFailure, now⟩) := by
  cases before : traced.breaker.state with
  | closed =>
      obtain ⟨counted, below⟩ := accounted.closed before
      have succ := toNat_succ_of_lt below
      by_cases reached : config.failureThreshold ≤ traced.breaker.failureCount + 1
      · constructor <;> simp [after, record, CircuitBreaker.perform, CircuitBreaker.recordFailure,
          before, reached, lastFailure]
      · have still := UInt32.not_le.mp reached
        constructor <;> simp [after, record, CircuitBreaker.perform, CircuitBreaker.recordFailure,
          before, reached, failuresInARow, Record.Enters, succ, counted, still]
  | opened | halfOpen =>
      constructor <;> simp [after, record, CircuitBreaker.perform, CircuitBreaker.recordFailure,
        before, lastFailure]

theorem Accounted.followsHistory (accounted : Accounted config traced) {timed : TimedCall}
    (later : traced.clock ≤ timed.now) :
    FollowsHistory config traced.history (traced.record config timed) := by
  obtain ⟨call, now⟩ := timed
  cases stateEq : traced.breaker.state with
  | closed =>
      obtain ⟨counted, below⟩ := accounted.closed stateEq
      have succ := toNat_succ_of_lt below
      have bound := config.failureThreshold.toNat_lt
      rw [UInt32.lt_iff_toNat_lt] at below
      constructor
      · intro _
        cases call with
        | shouldAllow => simp [record, CircuitBreaker.perform, CircuitBreaker.shouldAllow, stateEq]
        | recordSuccess =>
            simp [record, CircuitBreaker.perform, CircuitBreaker.recordSuccess, stateEq]
        | recordFailure =>
            simp only [record, CircuitBreaker.perform, CircuitBreaker.recordFailure, stateEq]
            split <;> rename_i reached <;> rw [ge_iff_le, UInt32.le_iff_toNat_le, succ] at reached
            · simp [failuresInARow, Record.Enters]
              omega
            · simp [failuresInARow, Record.Enters, stateEq]
              omega
      · intro other
        simp [record, stateEq] at other
      · intro other
        simp [record, stateEq] at other
      · cases call <;> simp [record, CircuitBreaker.Overflows, stateEq, UInt32.size]
        omega
  | opened =>
      have last := accounted.opened stateEq
      have ordered : traced.breaker.lastFailureTime ≤ now := Nat.le_trans accounted.clock later
      constructor
      · intro other
        simp [record, stateEq] at other
      · intro _
        cases call with
        | shouldAllow =>
            by_cases reached : config.openDuration.asSecs ≤ now - traced.breaker.lastFailureTime
            · simp [record, CircuitBreaker.perform, CircuitBreaker.shouldAllow,
                CircuitBreaker.elapsed, stateEq, last, reached]
              omega
            · simp [record, CircuitBreaker.perform, CircuitBreaker.shouldAllow,
                CircuitBreaker.elapsed, stateEq, last, reached]
              omega
        | recordSuccess =>
            simp [record, CircuitBreaker.perform, CircuitBreaker.recordSuccess, stateEq]
        | recordFailure =>
            simp [record, CircuitBreaker.perform, CircuitBreaker.recordFailure, stateEq]
      · intro other
        simp [record, stateEq] at other
      · cases call <;> simp [record, CircuitBreaker.Overflows, stateEq]
  | halfOpen =>
      obtain ⟨counted, below⟩ := accounted.halfOpen stateEq
      have succ := toNat_succ_of_lt below
      have bound := config.halfOpenSuccessThreshold.toNat_lt
      rw [UInt32.lt_iff_toNat_lt] at below
      constructor
      · intro other
        simp [record, stateEq] at other
      · intro other
        simp [record, stateEq] at other
      · intro _
        cases call with
        | shouldAllow => simp [record, CircuitBreaker.perform, CircuitBreaker.shouldAllow, stateEq]
        | recordSuccess =>
            simp only [record, CircuitBreaker.perform, CircuitBreaker.recordSuccess, stateEq]
            split <;> rename_i reached <;> rw [ge_iff_le, UInt32.le_iff_toNat_le, succ] at reached
            · simp [successesSinceHalfOpen, Record.Enters]
              omega
            · simp [successesSinceHalfOpen, Record.Enters, stateEq]
              omega
        | recordFailure =>
            simp [record, CircuitBreaker.perform, CircuitBreaker.recordFailure, stateEq]
      · cases call <;> simp [record, CircuitBreaker.Overflows, stateEq, UInt32.size]
        omega

/-- What holds along every run. -/
structure Invariant (config : CircuitBreakerConfig) (traced : Traced) : Prop where
  accounted : Accounted config traced
  follows : EveryFollows config traced.history

theorem Invariant.after (failures : 1 ≤ config.failureThreshold)
    (successes : 1 ≤ config.halfOpenSuccessThreshold) {timed : TimedCall}
    (invariant : Invariant config traced) (later : traced.clock ≤ timed.now) :
    Invariant config (traced.after config timed) := by
  constructor
  · obtain ⟨call, now⟩ := timed
    cases call with
    | shouldAllow => exact invariant.accounted.shouldAllow successes later
    | recordSuccess => exact invariant.accounted.recordSuccess failures later
    | recordFailure => exact invariant.accounted.recordFailure
  · exact ⟨invariant.accounted.followsHistory later, invariant.follows⟩

theorem Invariant.foldl (failures : 1 ≤ config.failureThreshold)
    (successes : 1 ≤ config.halfOpenSuccessThreshold) {calls : List TimedCall}
    (invariant : Invariant config traced) (ordered : calls.Pairwise fun a b => a.now ≤ b.now)
    (later : ∀ timed ∈ calls, traced.clock ≤ timed.now) :
    Invariant config (calls.foldl (Traced.after config) traced) := by
  induction calls generalizing traced with
  | nil => exact invariant
  | cons timed rest ih =>
      rw [List.pairwise_cons] at ordered
      apply ih
      · exact invariant.after failures successes (later timed List.mem_cons_self)
      · exact ordered.2
      · exact ordered.1

/-- The calls of a run are those of its history, and lead to its breaker. -/
theorem foldl_after (config : CircuitBreakerConfig) (traced : Traced) (calls : List TimedCall) :
    (calls.foldl (Traced.after config) traced).breaker =
        calls.foldl (CircuitBreaker.perform config) traced.breaker ∧
      (calls.foldl (Traced.after config) traced).history.map Record.timed =
        calls.reverse ++ traced.history.map Record.timed := by
  induction calls generalizing traced with
  | nil => exact ⟨rfl, rfl⟩
  | cons timed rest ih =>
      obtain ⟨breaker, history⟩ := ih (traced.after config timed)
      constructor
      · exact breaker
      · rw [List.foldl_cons, history, List.reverse_cons, List.append_assoc]
        rfl

end Traced

/-- For thresholds of at least one and every sequence of calls at times that do not go
back: along the run of the breaker, which makes exactly these calls, every call
leaves the state of the breaker when the history before it says so and not
otherwise, and no counter overflows. -/
theorem breaker_follows_history (config : CircuitBreakerConfig)
    (failures : 1 ≤ config.failureThreshold) (successes : 1 ≤ config.halfOpenSuccessThreshold)
    (calls : List TimedCall) (ordered : calls.Pairwise fun a b => a.now ≤ b.now) :
    let traced := calls.foldl (Traced.after config) .initial
    traced.breaker = calls.foldl (CircuitBreaker.perform config) .new ∧
      traced.history.map Record.timed = calls.reverse ∧ EveryFollows config traced.history := by
  intro traced
  obtain ⟨breaker, history⟩ := Traced.foldl_after config .initial calls
  refine ⟨breaker, history.trans (List.append_nil _), ?_⟩
  have invariant : Traced.Invariant config .initial := ⟨.initial failures, trivial⟩
  have along := invariant.foldl failures successes ordered fun _ _ => Nat.zero_le _
  exact along.follows

/-- Two failures open the breaker; after ten seconds a probe is let through, and one
success closes the breaker. -/
theorem breaker_follows_history_recovers :
    let config : CircuitBreakerConfig := ⟨2, .fromSecs 10, 1, [500]⟩
    let calls : List TimedCall := [⟨.shouldAllow, 1⟩, ⟨.recordFailure, 1⟩, ⟨.recordFailure, 3⟩,
      ⟨.shouldAllow, 5⟩, ⟨.shouldAllow, 13⟩, ⟨.recordSuccess, 14⟩]
    let traced := calls.foldl (Traced.after config) .initial
    traced.history.map (fun record => record.after.state) =
        [.closed, .halfOpen, .opened, .opened, .closed, .closed] ∧
      EveryFollows config traced.history := by
  intro config calls traced
  constructor
  · decide
  · exact (breaker_follows_history config (by decide) (by decide) calls (by decide)).2.2

end FerroTunnel.Plugins
