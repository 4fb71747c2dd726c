import FerroTunnel.Plugins.CircuitBreaker
import FerroTunnel.Transition.Pool

/-!
# Hooks of the circuit breaker at the same time

The counters and the time of the last failure are atomics, and the state is
behind a lock.  A hook reads the state, updates a counter and later writes the
state, and the hooks of other requests go on in between.  Here a hook performs
one atomic operation or one locked section at a time.

`should_allow` tests the state again under the lock before it lets probes
through.  `record_success` does not when it closes the breaker: a failure may
have opened the breaker meanwhile, and the late write closes it without a probe.
-/

namespace FerroTunnel.Plugins

open FerroTunnel.Transition

/-- A hook of the plugin, as it is called. -/
inductive BreakerHook
  | onRequest
  | onResponse (status : UInt16)
deriving DecidableEq

/-- Where a hook stands: the operation it performs next, or what it has returned. -/
inductive HookPoint
  | shouldAllow
  | shouldAllowLoad
  | shouldAllowProbe
  | shouldAllowReturned (allowed : Bool)
  | recordSuccess
  | recordSuccessReset
  | recordSuccessCount
  | recordSuccessClose
  | recordFailure
  | recordFailureStore (seen : CircuitState)
  | recordFailureCount
  | recordFailureOpen
  | recordFailureReopen
  | recorded
deriving DecidableEq

/-- A hook as it begins. -/
def BreakerHook.start (config : CircuitBreakerConfig) : BreakerHook → HookPoint
  | .onRequest => .shouldAllow
  | .onResponse status =>
      if CircuitBreaker.isFailureStatus config status then .recordFailure else .recordSuccess

/-- The next operation of a hook.  `now` is what the clock says, where the hook reads
it. -/
def HookPoint.next (config : CircuitBreakerConfig) (breaker : CircuitBreaker) (now : Nat) :
    HookPoint → Option (CircuitBreaker × HookPoint)
  | .shouldAllow =>
      match breaker.state with
      | .closed | .halfOpen => some (breaker, .shouldAllowReturned true)
      | .opened => some (breaker, .shouldAllowLoad)
  | .shouldAllowLoad =>
      if CircuitBreaker.elapsed config now breaker.lastFailureTime then
        some (breaker, .shouldAllowProbe)
      else
        some (breaker, .shouldAllowReturned false)
  | .shouldAllowProbe =>
      if breaker.state = .opened then
        some ({ breaker with state := .halfOpen, successCount := 0 }, .shouldAllowReturned true)
      else
        some (breaker, .shouldAllowReturned true)
  | .recordSuccess =>
      match breaker.state with
      | .closed => some (breaker, .recordSuccessReset)
      | .halfOpen => some (breaker, .recordSuccessCount)
      | .opened => some (breaker, .recorded)
  | .recordSuccessReset => some ({ breaker with failureCount := 0 }, .recorded)
  | .recordSuccessCount =>
      let count := breaker.successCount + 1
      if count ≥ config.halfOpenSuccessThreshold then
        some ({ breaker with successCount := count }, .recordSuccessClose)
      else
        some ({ breaker with successCount := count }, .recorded)
  | .recordSuccessClose =>
      some ({ breaker with state := .closed, failureCount := 0 }, .recorded)
  | .recordFailure => some (breaker, .recordFailureStore breaker.state)
  | .recordFailureStore seen =>
      match seen with
      | .closed => some ({ breaker with lastFailureTime := now }, .recordFailureCount)
      | .halfOpen => some ({ breaker with lastFailureTime := now }, .recordFailureReopen)
      | .opened => some ({ breaker with lastFailureTime := now }, .recorded)
  | .recordFailureCount =>
      let count := breaker.failureCount + 1
      if count ≥ config.failureThreshold then
        some ({ breaker with failureCount := count }, .recordFailureOpen)
      else
        some ({ breaker with failureCount := count }, .recorded)
  | .recordFailureOpen => some ({ breaker with state := .opened }, .recorded)
  | .recordFailureReopen =>
      some ({ breaker with state := .opened, successCount := 0 }, .recorded)
  | .shouldAllowReturned _ | .recorded => none

/-! ## Watched runs -/

/-- The hook has seen the breaker half open and is about to count a success or to close
the breaker. -/
def HookPoint.probing : HookPoint → Bool
  | .recordSuccessCount | .recordSuccessClose => true
  | _ => false

/-- The next operation opens the breaker. -/
def HookPoint.opens : HookPoint → Bool
  | .recordFailureOpen | .recordFailureReopen => true
  | _ => false

/-- What an operation of a hook does to the state and to the count of successes. -/
inductive HookMove (config : CircuitBreakerConfig) (breaker : CircuitBreaker) :
    HookPoint → CircuitBreaker → HookPoint → Prop
  | quiet {point breaker' point'} (state : breaker'.state = breaker.state)
      (count : breaker'.successCount = breaker.successCount) (counts : point ≠ .recordSuccessCount)
      (opens : point.opens = false) (closes : point' ≠ .recordSuccessClose)
      (probing : point'.probing = true → breaker.state = .halfOpen) :
      HookMove config breaker point breaker' point'
  | probe (state : breaker.state = .opened) :
      HookMove config breaker .shouldAllowProbe
        { breaker with state := .halfOpen, successCount := 0 } (.shouldAllowReturned true)
  | count {point'} (reached : point' = .recordSuccessClose →
        config.halfOpenSuccessThreshold ≤ breaker.successCount + 1) :
      HookMove config breaker .recordSuccessCount
        { breaker with successCount := breaker.successCount + 1 } point'
  | close :
      HookMove config breaker .recordSuccessClose
        { breaker with state := .closed, failureCount := 0 } .recorded
  | reopen {point breaker'} (opens : point.opens = true) (state : breaker'.state = .opened) :
      HookMove config breaker point breaker' .recorded

/-- An operation that neither writes the state nor the count, of a hook that does not go on
to count or to close. -/
theorem HookMove.pass {config : CircuitBreakerConfig} {breaker breaker' : CircuitBreaker}
    {point point' : HookPoint} (state : breaker'.state = breaker.state)
    (count : breaker'.successCount = breaker.successCount) (counts : point ≠ .recordSuccessCount)
    (opens : point.opens = false) (rests : point'.probing = false) :
    HookMove config breaker point breaker' point' := by
  apply HookMove.quiet state count counts opens
  · rintro rfl
    cases rests
  · intro probing
    rw [rests] at probing
    cases probing

theorem HookPoint.next_move {config : CircuitBreakerConfig} {breaker breaker' : CircuitBreaker}
    {now : Nat} {point point' : HookPoint}
    (nextEq : point.next config breaker now = some (breaker', point')) :
    HookMove config breaker point breaker' point' := by
  cases point with
  | shouldAllow | shouldAllowLoad | recordFailureCount =>
      simp only [next] at nextEq
      split at nextEq <;> cases nextEq <;> exact .pass rfl rfl (by simp) rfl rfl
  | shouldAllowProbe =>
      simp only [next] at nextEq
      split at nextEq
      · cases nextEq
        exact .probe ‹_›
      · cases nextEq
        exact .pass rfl rfl (by simp) rfl rfl
  | shouldAllowReturned allowed | recorded => cases nextEq
  | recordSuccess =>
      simp only [next] at nextEq
      split at nextEq
      · cases nextEq
        exact .pass rfl rfl (by simp) rfl rfl
      · cases nextEq
        exact .quiet rfl rfl (by simp) rfl (by simp) fun _ => ‹_›
      · cases nextEq
        exact .pass rfl rfl (by simp) rfl rfl
  | recordSuccessReset | recordFailure =>
      cases nextEq
      exact .pass rfl rfl (by simp) rfl rfl
  | recordSuccessCount =>
      simp only [next] at nextEq
      split at nextEq
      · cases nextEq
        exact .count fun _ => ‹_›
      · cases nextEq
        exact .count (by simp)
  | recordSuccessClose =>
      cases nextEq
      exact .close
  | recordFailureStore seen =>
      cases seen <;> cases nextEq <;> exact .pass rfl rfl (by simp) rfl rfl
  | recordFailureOpen | recordFailureReopen =>
      cases nextEq
      exact .reopen rfl rfl

/-- A change of the state, with the number of successes recorded since the breaker last
became half open. -/
structure StateChange where
  before : CircuitState
  after : CircuitState
  recorded : Nat
deriving DecidableEq

/-- The breaker with all hooks ever called.  `overtaken` are the hooks that have seen the
breaker half open before it was last opened, `recorded` is the number of successes
counted since the breaker last became half open, and `changes` are the changes of
the state so far. -/
structure WatchedBreaker where
  pool : Pool CircuitBreaker HookPoint
  overtaken : Nat → Bool
  recorded : Nat
  changes : List StateChange

/-- A hook is called, or performs its next operation. -/
abbrev BreakerAction := PoolAction BreakerHook Nat

namespace WatchedBreaker

/-- A breaker without calls. -/
def initial : WatchedBreaker where
  pool := ⟨.new, []⟩
  overtaken _ := false
  recorded := 0
  changes := []

/-- The successes counted since the breaker last became half open, after an operation. -/
def recordedAfter (recorded : Nat) (point : HookPoint) (before after : CircuitState) : Nat :=
  if before ≠ .halfOpen ∧ after = .halfOpen then 0
  else if point = .recordSuccessCount then recorded + 1
  else recorded

/-- The hook at `k` has performed an operation. -/
def advance (watched : WatchedBreaker) (k : Nat) (point : HookPoint) (breaker : CircuitBreaker)
    (point' : HookPoint) : WatchedBreaker where
  pool := ⟨breaker, watched.pool.calls.set k point'⟩
  overtaken j := watched.overtaken j ||
    (point.opens && (watched.pool.calls[j]?.any HookPoint.probing))
  recorded := recordedAfter watched.recorded point watched.pool.shared.state breaker.state
  changes :=
    if watched.pool.shared.state = breaker.state then watched.changes
    else watched.changes ++ [⟨watched.pool.shared.state, breaker.state, watched.recorded⟩]

/-- One step of a hook. -/
def step (config : CircuitBreakerConfig) : Step WatchedBreaker BreakerAction
  | watched, .start hook =>
      some { watched with
        pool := { watched.pool with calls := watched.pool.calls ++ [hook.start config] } }
  | watched, .advance k now =>
      (watched.pool.calls[k]?).bind fun point =>
        (point.next config watched.pool.shared now).map fun result =>
          watched.advance k point result.1 result.2

/-- The breaker has become closed only from half open, after enough successes. -/
def NeverSkipsProbes (config : CircuitBreakerConfig) (watched : WatchedBreaker) : Prop :=
  ∀ change ∈ watched.changes, change.after = .closed →
    change.before = .halfOpen ∧ config.halfOpenSuccessThreshold.toNat ≤ change.recorded

/-- A hook that closes the breaker has not been overtaken by one that opened it. -/
def ClosesInTime (watched : WatchedBreaker) : BreakerAction → Prop
  | .advance k _ =>
      watched.pool.calls[k]? = some .recordSuccessClose → watched.overtaken k = false
  | .start _ => True

instance (watched : WatchedBreaker) :
    (action : BreakerAction) → Decidable (watched.ClosesInTime action)
  | .advance k _ => inferInstanceAs (Decidable
      (watched.pool.calls[k]? = some .recordSuccessClose → watched.overtaken k = false))
  | .start _ => isTrue trivial

variable {config : CircuitBreakerConfig} {watched next : WatchedBreaker}

/-- What holds in every state of a run in which no overtaken hook closes the breaker. -/
structure Invariant (config : CircuitBreakerConfig) (watched : WatchedBreaker) : Prop where
  counted : watched.pool.shared.state = .halfOpen →
    watched.pool.shared.successCount.toNat ≤ watched.recorded
  probing : ∀ {k : Nat} {point}, watched.pool.calls[k]? = some point → point.probing = true →
    watched.overtaken k = false → watched.pool.shared.state ≠ .opened
  reached : ∀ {k : Nat}, watched.pool.calls[k]? = some .recordSuccessClose →
    watched.overtaken k = false → watched.pool.shared.state = .halfOpen →
      config.halfOpenSuccessThreshold.toNat ≤ watched.recorded
  changes : watched.NeverSkipsProbes config

theorem Invariant.initial : Invariant config WatchedBreaker.initial where
  counted state := by cases state
  probing callAt := by simp [WatchedBreaker.initial] at callAt
  reached callAt := by simp [WatchedBreaker.initial] at callAt
  changes := by simp [NeverSkipsProbes, WatchedBreaker.initial]

/-- A hook that begins is not probing yet. -/
theorem probing_start (config : CircuitBreakerConfig) (hook : BreakerHook) :
    (hook.start config).probing = false := by
  cases hook with
  | onRequest => rfl
  | onResponse status =>
      simp only [BreakerHook.start]
      split <;> rfl

theorem Invariant.start (invariant : Invariant config watched) (hook : BreakerHook) :
    Invariant config { watched with
      pool := { watched.pool with calls := watched.pool.calls ++ [hook.start config] } } where
  counted := invariant.counted
  probing callAt probing := by
    rcases getElem?_concat_cases callAt with ⟨-, old⟩ | ⟨-, rfl⟩
    · exact invariant.probing old probing
    · rw [probing_start] at probing
      cases probing
  reached callAt := by
    rcases getElem?_concat_cases callAt with ⟨-, old⟩ | ⟨-, same⟩
    · exact invariant.reached old
    · have probing := probing_start config hook
      rw [← same] at probing
      cases probing
  changes := invariant.changes

variable {k : Nat} {point point' : HookPoint} {breaker' : CircuitBreaker}

theorem NeverSkipsProbes.advance (never : watched.NeverSkipsProbes config)
    (fair : breaker'.state = .closed → watched.pool.shared.state ≠ .closed →
      watched.pool.shared.state = .halfOpen ∧
        config.halfOpenSuccessThreshold.toNat ≤ watched.recorded) :
    (watched.advance k point breaker' point').NeverSkipsProbes config := by
  intro change member closed
  simp only [WatchedBreaker.advance] at member
  split at member
  · exact never change member closed
  · rename_i differs
    rcases List.mem_append.mp member with old | new
    · exact never change old closed
    · rw [List.mem_singleton.mp new] at closed ⊢
      exact fair closed fun same => differs (same.trans closed.symm)

theorem Invariant.quiet (invariant : Invariant config watched)
    (state : breaker'.state = watched.pool.shared.state)
    (count : breaker'.successCount = watched.pool.shared.successCount)
    (counts : point ≠ .recordSuccessCount) (opens : point.opens = false)
    (closes : point' ≠ .recordSuccessClose)
    (probing : point'.probing = true → watched.pool.shared.state = .halfOpen) :
    Invariant config (watched.advance k point breaker' point') := by
  have recorded : (watched.advance k point breaker' point').recorded = watched.recorded := by
    simp [WatchedBreaker.advance, recordedAfter, state, counts]
  have overtaken : (watched.advance k point breaker' point').overtaken = watched.overtaken := by
    funext j
    simp [WatchedBreaker.advance, opens]
  constructor
  · intro half
    rw [recorded]
    exact count ▸ invariant.counted (state ▸ half)
  · intro j other otherAt probes kept
    change breaker'.state ≠ .opened
    rw [overtaken] at kept
    rcases getElem?_set_cases otherAt with ⟨rfl, rfl⟩ | ⟨-, old⟩
    · rw [state, probing probes]
      simp
    · rw [state]
      exact invariant.probing old probes kept
  · intro j otherAt kept half
    rw [overtaken] at kept
    rw [recorded]
    rcases getElem?_set_cases otherAt with ⟨rfl, same⟩ | ⟨-, old⟩
    · exact absurd same.symm closes
    · exact invariant.reached old kept (state ▸ half)
  · apply invariant.changes.advance
    intro closed differs
    exact absurd (state ▸ closed) differs

theorem Invariant.advance (invariant : Invariant config watched)
    (move : HookMove config watched.pool.shared point breaker' point')
    (pointAt : watched.pool.calls[k]? = some point)
    (inTime : point = .recordSuccessClose → watched.overtaken k = false) :
    Invariant config (watched.advance k point breaker' point') := by
  cases move with
  | quiet state count counts opens closes probing =>
      exact invariant.quiet state count counts opens closes probing
  | probe state =>
      constructor
      · intro _
        exact Nat.zero_le _
      · intro j other otherAt probes kept opened
        cases opened
      · intro j otherAt kept half
        rcases getElem?_set_cases otherAt with ⟨rfl, same⟩ | ⟨-, old⟩
        · cases same
        · rw [WatchedBreaker.advance, Bool.or_eq_false_iff] at kept
          exact absurd state (invariant.probing old rfl kept.1)
      · apply invariant.changes.advance
        intro closed
        cases closed
  | count reached =>
      have recorded : (watched.advance k .recordSuccessCount
          { watched.pool.shared with successCount := watched.pool.shared.successCount + 1 }
          point').recorded = watched.recorded + 1 := by
        simp [WatchedBreaker.advance, recordedAfter]
      have grows : (watched.pool.shared.successCount + 1).toNat ≤
          watched.pool.shared.successCount.toNat + 1 := by
        rw [UInt32.toNat_add]
        exact Nat.mod_le _ _
      constructor
      · intro half
        rw [recorded]
        exact Nat.le_trans grows (Nat.succ_le_succ (invariant.counted half))
      · intro j other otherAt probes kept
        rw [WatchedBreaker.advance, Bool.or_eq_false_iff] at kept
        rcases getElem?_set_cases otherAt with ⟨rfl, rfl⟩ | ⟨-, old⟩
        · exact invariant.probing pointAt rfl kept.1
        · exact invariant.probing old probes kept.1
      · intro j otherAt kept half
        rw [WatchedBreaker.advance, Bool.or_eq_false_iff] at kept
        rw [recorded]
        rcases getElem?_set_cases otherAt with ⟨rfl, same⟩ | ⟨-, old⟩
        · have enough := UInt32.le_iff_toNat_le.mp (reached same.symm)
          exact Nat.le_trans enough (Nat.le_trans grows (Nat.succ_le_succ (invariant.counted half)))
        · exact Nat.le_succ_of_le (invariant.reached old kept.1 half)
      · apply invariant.changes.advance
        intro closed differs
        exact absurd closed differs
  | close =>
      have kept := inTime rfl
      constructor
      · intro half
        cases half
      · intro j other otherAt probes _ opened
        cases opened
      · intro j otherAt _ half
        cases half
      · apply invariant.changes.advance
        intro _ differs
        cases state : watched.pool.shared.state with
        | closed => exact absurd state differs
        | opened => exact absurd state (invariant.probing pointAt rfl kept)
        | halfOpen => exact ⟨rfl, invariant.reached pointAt kept state⟩
  | reopen opens state =>
      constructor
      · intro half
        rw [WatchedBreaker.advance, state] at half
        cases half
      · intro j other otherAt probes kept
        rcases getElem?_set_cases otherAt with ⟨rfl, rfl⟩ | ⟨-, old⟩
        · cases probes
        · simp [WatchedBreaker.advance, opens, old, probes] at kept
      · intro j otherAt _ half
        rw [WatchedBreaker.advance, state] at half
        cases half
      · apply invariant.changes.advance
        intro closed
        rw [state] at closed
        cases closed

theorem Invariant.step {action : BreakerAction} (invariant : Invariant config watched)
    (inTime : watched.ClosesInTime action)
    (stepEq : WatchedBreaker.step config watched action = some next) : Invariant config next := by
  cases action with
  | start hook =>
      cases stepEq
      exact invariant.start hook
  | advance k now =>
      obtain ⟨point, pointAt, mapped⟩ := Option.bind_eq_some_iff.mp stepEq
      obtain ⟨⟨breaker', point'⟩, nextEq, rfl⟩ := Option.map_eq_some_iff.mp mapped
      apply invariant.advance (HookPoint.next_move nextEq) pointAt
      rintro rfl
      exact inTime pointAt

end WatchedBreaker

/-- In every run of any number of hooks on one breaker in which no hook closes the breaker
after it has been opened since the hook saw it half open: the breaker has become
closed only from half open, with enough successes recorded since it became half
open. -/
theorem probes_never_skipped (config : CircuitBreakerConfig) (actions : List BreakerAction)
    (watched : WatchedBreaker)
    (run : exec (WatchedBreaker.step config) .initial actions = some watched)
    (inTime : Meets (WatchedBreaker.step config) WatchedBreaker.ClosesInTime .initial actions) :
    watched.NeverSkipsProbes config := by
  have invariant : WatchedBreaker.Invariant config watched :=
    exec_invariant_of_meets (fun inv guarded stepEq => inv.step guarded stepEq) .initial inTime run
  exact invariant.changes

/-- One failure opens the breaker, probes are let through at once, and one success closes
it. -/
def hastyConfig : CircuitBreakerConfig :=
  ⟨1, .fromSecs 0, 1, [500]⟩

/-- A failure opens the breaker, a request lets probes through, and the response of a probe
has counted a success and is about to close the breaker. -/
def probed : List BreakerAction :=
  [.start (.onResponse 500), .advance 0 1, .advance 0 1, .advance 0 1, .advance 0 1,
   .start .onRequest, .advance 1 2, .advance 1 2, .advance 1 2,
   .start (.onResponse 200), .advance 2 3, .advance 2 3]

theorem probes_never_skipped_recovery :
    ∃ watched, exec (WatchedBreaker.step hastyConfig) .initial (probed ++ [.advance 2 3]) =
        some watched ∧
      watched.changes = [⟨.closed, .opened, 0⟩, ⟨.opened, .halfOpen, 0⟩, ⟨.halfOpen, .closed, 1⟩] ∧
      watched.NeverSkipsProbes hastyConfig := by
  have values : (exec (WatchedBreaker.step hastyConfig) .initial (probed ++ [.advance 2 3])).map
      (fun watched => watched.changes) =
      some [⟨.closed, .opened, 0⟩, ⟨.opened, .halfOpen, 0⟩, ⟨.halfOpen, .closed, 1⟩] := by
    decide +kernel
  obtain ⟨watched, run, changes⟩ := Option.map_eq_some_iff.mp values
  exact ⟨watched, run, changes, probes_never_skipped hastyConfig _ watched run (by decide +kernel)⟩

/-- A failure opens the breaker before the success closes it. -/
theorem opened_breaker_closed :
    ∃ watched, exec (WatchedBreaker.step hastyConfig) .initial
        (probed ++ [.start (.onResponse 500), .advance 3 3, .advance 3 3, .advance 3 3,
          .advance 2 3]) = some watched ∧
      ⟨.opened, .closed, 1⟩ ∈ watched.changes ∧ ¬ watched.NeverSkipsProbes hastyConfig := by
  have values : (exec (WatchedBreaker.step hastyConfig) .initial
      (probed ++ [.start (.onResponse 500), .advance 3 3, .advance 3 3, .advance 3 3,
        .advance 2 3])).map (fun watched => watched.changes) =
      some [⟨.closed, .opened, 0⟩, ⟨.opened, .halfOpen, 0⟩, ⟨.halfOpen, .opened, 1⟩,
        ⟨.opened, .closed, 1⟩] := by
    decide +kernel
  obtain ⟨watched, run, changes⟩ := Option.map_eq_some_iff.mp values
  have skipped : ⟨.opened, .closed, 1⟩ ∈ watched.changes := by simp [changes]
  refine ⟨watched, run, skipped, ?_⟩
  intro never
  cases (never _ skipped rfl).1

end FerroTunnel.Plugins
