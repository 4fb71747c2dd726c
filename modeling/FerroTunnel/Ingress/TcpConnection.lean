import FerroTunnel.Transition.Core

/-!
# A tunnelled TCP connection

`handle_tcp_connection` opens a stream through the tunnel and copies bytes in both
directions until both ends are done.  Opening is under one timeout and the whole copy is
under another, `idle_timeout`.

Time is a number of ticks.  The trace keeps the times at which bytes moved.  The timer of
the copy is set once, when the copy begins, and bytes do not set it again: it ends every
connection that is still open after `idle_timeout`, and not only those that are idle.
-/

namespace FerroTunnel.Ingress

open FerroTunnel.Transition

/-! ## The connection -/

/-- The timeouts of the TCP ingress. -/
structure TcpIngressConfig where
  connectionTimeout : Nat
  idleTimeout : Nat
deriving DecidableEq

/-- What a poll of a future under a timeout answers. -/
inductive TimedPoll (α : Type)
  | pending
  | ready (value : α)
  | elapsed
deriving DecidableEq

/-- The future itself is polled first, and the deadline counts only if it is pending. -/
def pollTimeout {α : Type} (deadline now : Nat) : Option α → TimedPoll α
  | some value => .ready value
  | none => if deadline ≤ now then .elapsed else .pending

/-- How a connection ends. -/
inductive TcpOutcome
  | openTimedOut
  | openFailed (error : String)
  | closed (toClient toServer : Nat)
  | copyError (error : String)
  | idleTimeout
deriving DecidableEq

/-- Where a connection is. -/
inductive TcpPhase
  | opening (deadline : Nat)
  | copying (deadline toClient toServer : Nat)
  | ended (outcome : TcpOutcome)
deriving DecidableEq

/-- A TCP connection through the ingress. -/
structure TcpConnection where
  now : Nat
  phase : TcpPhase
  /-- When the copy that goes on began. -/
  copyingSince : Option Nat
  /-- When bytes moved, the latest first. -/
  moves : List Nat
deriving DecidableEq

/-- The answer of a future is `none` while it is pending. -/
inductive TcpAction
  | tick
  | pollOpen (answer : Option (Except String Unit))
  | pollCopy (toClient toServer : Nat) (answer : Option (Except String Unit))

namespace TcpConnection

/-- A connection that opens its stream. -/
def start (config : TcpIngressConfig) : TcpConnection where
  now := 0
  phase := .opening config.connectionTimeout
  copyingSince := none
  moves := []

/-- The connection ends. -/
def ends (connection : TcpConnection) (outcome : TcpOutcome) : TcpConnection :=
  { connection with phase := .ended outcome, copyingSince := none }

/-- Poll the opening of the stream.  The copy begins as soon as the stream is open. -/
def pollOpen (config : TcpIngressConfig) (deadline : Nat) (answer : Option (Except String Unit))
    (connection : TcpConnection) : TcpConnection :=
  match pollTimeout deadline connection.now answer with
  | .pending => connection
  | .ready (.ok ()) =>
      { connection with
        phase := .copying (connection.now + config.idleTimeout) 0 0
        copyingSince := some connection.now }
  | .ready (.error error) => connection.ends (.openFailed error)
  | .elapsed => connection.ends .openTimedOut

/-- Bytes move in either direction. -/
def moved (toClient toServer : Nat) (connection : TcpConnection) : TcpConnection :=
  if toClient + toServer = 0 then
    connection
  else
    { connection with moves := connection.now :: connection.moves }

/-- Poll the copy, which moves bytes and then may have ended. -/
def pollCopy (deadline toClient toServer : Nat) (answer : Option (Except String Unit))
    (connection : TcpConnection) : TcpConnection :=
  match pollTimeout deadline connection.now answer with
  | .pending => { connection with phase := .copying deadline toClient toServer }
  | .ready (.ok ()) => connection.ends (.closed toClient toServer)
  | .ready (.error error) => connection.ends (.copyError error)
  | .elapsed => connection.ends .idleTimeout

/-- One event of the connection. -/
def step (config : TcpIngressConfig) : Step TcpConnection TcpAction :=
  fun connection action =>
    match connection.phase, action with
    | .ended _, _ => none
    | _, .tick => some { connection with now := connection.now + 1 }
    | .opening deadline, .pollOpen answer => some (connection.pollOpen config deadline answer)
    | .copying deadline toClient toServer, .pollCopy moreToClient moreToServer answer =>
        some ((connection.moved moreToClient moreToServer).pollCopy deadline
          (toClient + moreToClient) (toServer + moreToServer) answer)
    | _, _ => none

/-! ## Idle connections -/

/-- No byte moved in the last ticks. -/
def Quiet (ticks : Nat) (connection : TcpConnection) : Prop :=
  ∀ time ∈ connection.moves, time + ticks ≤ connection.now

/-- If the connection ends with the idle timeout, it has been idle for that long. -/
def TimesOutIdle (config : TcpIngressConfig) (connection : TcpConnection) (action : TcpAction) :
    Prop :=
  ∀ next ∈ step config connection action,
    next.phase = .ended .idleTimeout → next.Quiet config.idleTimeout

/-- A copy that goes on for `idle_timeout` ticks or more is polled without an end only when
no byte has moved for that long. -/
def QuietOnceLong (config : TcpIngressConfig) (connection : TcpConnection) :
    TcpAction → Prop
  | .pollCopy toClient toServer none =>
      ∀ since ∈ connection.copyingSince, since + config.idleTimeout ≤ connection.now →
        (connection.moved toClient toServer).Quiet config.idleTimeout
  | _ => True

instance (ticks : Nat) (connection : TcpConnection) : Decidable (connection.Quiet ticks) :=
  inferInstanceAs (Decidable (∀ time ∈ connection.moves, _))

instance (config : TcpIngressConfig) (connection : TcpConnection) (action : TcpAction) :
    Decidable (connection.TimesOutIdle config action) :=
  inferInstanceAs (Decidable (∀ next ∈ step config connection action, _ → _))

/-- The deadline of the copy counts from its begin. -/
structure Timed (config : TcpIngressConfig) (connection : TcpConnection) : Prop where
  copying : ∀ {deadline toClient toServer},
    connection.phase = .copying deadline toClient toServer →
      ∃ since, connection.copyingSince = some since ∧ deadline = since + config.idleTimeout
  idle : (∀ deadline toClient toServer, connection.phase ≠ .copying deadline toClient toServer) →
    connection.copyingSince = none

variable {config : TcpIngressConfig} {connection next : TcpConnection}

theorem timed_start (config : TcpIngressConfig) : (start config).Timed config where
  copying phase := by cases phase
  idle _ := rfl

theorem timed_ends (outcome : TcpOutcome) : (connection.ends outcome).Timed config where
  copying phase := by cases phase
  idle _ := rfl

@[simp]
theorem now_moved (toClient toServer : Nat) :
    (connection.moved toClient toServer).now = connection.now := by
  rw [moved]
  split <;> rfl

@[simp]
theorem copyingSince_moved (toClient toServer : Nat) :
    (connection.moved toClient toServer).copyingSince = connection.copyingSince := by
  rw [moved]
  split <;> rfl

theorem Timed.pollOpen (timed : connection.Timed config) (deadline : Nat)
    (answer : Option (Except String Unit)) :
    (connection.pollOpen config deadline answer).Timed config := by
  rw [TcpConnection.pollOpen]
  split
  · exact timed
  · constructor
    · intro _ _ _ phase
      cases phase
      exact ⟨connection.now, rfl, rfl⟩
    · exact fun other => absurd rfl (other _ _ _)
  · exact timed_ends _
  · exact timed_ends _

theorem Timed.pollCopy {deadline since : Nat} (began : connection.copyingSince = some since)
    (set : deadline = since + config.idleTimeout) (toClient toServer : Nat)
    (answer : Option (Except String Unit)) :
    (connection.pollCopy deadline toClient toServer answer).Timed config := by
  rw [TcpConnection.pollCopy]
  split
  · constructor
    · intro _ _ _ phase
      cases phase
      exact ⟨since, began, set⟩
    · exact fun other => absurd rfl (other _ _ _)
  · exact timed_ends _
  · exact timed_ends _
  · exact timed_ends _

theorem Timed.step {action : TcpAction} (timed : connection.Timed config)
    (stepEq : step config connection action = some next) : next.Timed config := by
  simp only [TcpConnection.step] at stepEq
  split at stepEq
  · cases stepEq
  · cases stepEq
    exact ⟨timed.copying, timed.idle⟩
  · cases stepEq
    exact timed.pollOpen _ _
  · rename_i phase
    cases stepEq
    obtain ⟨since, began, set⟩ := timed.copying phase
    exact Timed.pollCopy ((copyingSince_moved _ _).trans began) set _ _ _
  · cases stepEq

/-- A copy that goes on is under the deadline that was set when it began. -/
theorem Timed.phase_eq {since : Nat} (timed : connection.Timed config)
    (began : connection.copyingSince = some since) :
    ∃ toClient toServer,
      connection.phase = .copying (since + config.idleTimeout) toClient toServer := by
  cases phase : connection.phase with
  | copying deadline toClient toServer =>
      obtain ⟨other, otherBegan, set⟩ := timed.copying phase
      rw [began, Option.some.injEq] at otherBegan
      rw [set, otherBegan]
      exact ⟨toClient, toServer, rfl⟩
  | opening deadline | ended outcome =>
      rw [timed.idle (by simp [phase])] at began
      cases began

/-- The poll of a pending copy after its deadline is what ends a connection with the idle
timeout. -/
theorem step_of_elapsed (config : TcpIngressConfig) {deadline toClient toServer : Nat}
    (phase : connection.phase = .copying deadline toClient toServer)
    (late : deadline ≤ connection.now) (moreToClient moreToServer : Nat) :
    step config connection (.pollCopy moreToClient moreToServer none) =
      some ((connection.moved moreToClient moreToServer).ends .idleTimeout) := by
  have elapsed : pollTimeout deadline (connection.moved moreToClient moreToServer).now
      (none : Option (Except String Unit)) = .elapsed := by
    rw [now_moved, pollTimeout, if_pos late]
  simp only [step, phase, pollCopy, elapsed]

theorem ne_idleTimeout_of_pollOpen {deadline : Nat} {answer : Option (Except String Unit)}
    (phase : connection.phase ≠ .ended .idleTimeout) :
    (connection.pollOpen config deadline answer).phase ≠ .ended .idleTimeout := by
  rw [pollOpen]
  split
  · exact phase
  · exact fun impossible => TcpPhase.noConfusion impossible
  · intro impossible
    cases impossible
  · intro impossible
    cases impossible

theorem elapsed_of_pollCopy {deadline toClient toServer : Nat}
    {answer : Option (Except String Unit)}
    (timedOut : (connection.pollCopy deadline toClient toServer answer).phase =
      .ended .idleTimeout) : answer = none ∧ deadline ≤ connection.now := by
  cases answer with
  | some answer =>
      cases answer with
      | ok _ | error error => cases timedOut
  | none =>
      refine ⟨rfl, ?_⟩
      by_contra early
      simp only [pollCopy, pollTimeout, if_neg early] at timedOut
      cases timedOut

theorem elapsed_of_step {action : TcpAction} (stepEq : step config connection action = some next)
    (timedOut : next.phase = .ended .idleTimeout) :
    ∃ deadline toClient toServer moreToClient moreToServer,
      connection.phase = .copying deadline toClient toServer ∧ deadline ≤ connection.now ∧
        action = .pollCopy moreToClient moreToServer none := by
  simp only [step] at stepEq
  split at stepEq
  · cases stepEq
  · rename_i running
    cases stepEq
    exact absurd timedOut (running _)
  · rename_i phase
    cases stepEq
    refine absurd timedOut (ne_idleTimeout_of_pollOpen ?_)
    rw [phase]
    exact fun impossible => TcpPhase.noConfusion impossible
  · rename_i phase
    cases stepEq
    obtain ⟨rfl, late⟩ := elapsed_of_pollCopy timedOut
    rw [now_moved] at late
    exact ⟨_, _, _, _, _, phase, late, rfl⟩
  · cases stepEq

theorem Timed.timesOutIdle_iff {action : TcpAction} (timed : connection.Timed config) :
    connection.TimesOutIdle config action ↔ connection.QuietOnceLong config action := by
  constructor
  · intro idle
    match action with
    | .tick => trivial
    | .pollOpen _ => trivial
    | .pollCopy _ _ (some _) => trivial
    | .pollCopy toClient toServer none =>
        intro since began long
        obtain ⟨_, _, phase⟩ := timed.phase_eq began
        have quiet := idle _ (step_of_elapsed config phase long toClient toServer) rfl
        exact quiet
  · intro quiet next stepEq timedOut
    obtain ⟨deadline, _, _, toClient, toServer, phase, late, rfl⟩ :=
      elapsed_of_step stepEq timedOut
    obtain ⟨since, began, set⟩ := timed.copying phase
    rw [Option.mem_def, step_of_elapsed config phase late, Option.some.injEq] at stepEq
    rw [← stepEq]
    exact quiet since began (set ▸ late)

/-- Along every trace of bytes and polls, the connection ends with the idle timeout only
when it has been idle for that long, exactly if no copy that has gone on for the idle
timeout has moved a byte in the last `idle_timeout` ticks when it is polled. -/
theorem times_out_idle_iff (config : TcpIngressConfig) (actions : List TcpAction) :
    Meets (step config) (TimesOutIdle config) (start config) actions ↔
      Meets (step config) (QuietOnceLong config) (start config) actions := by
  apply Meets.iff_of_invariant
  · exact fun timed stepEq => Timed.step timed stepEq
  · exact fun timed => timed.timesOutIdle_iff
  · exact timed_start config

/-- A connection that moves a byte at every tick, and is ended for being idle. -/
theorem busy_connection_times_out :
    ¬ Meets (step ⟨10, 2⟩) (TimesOutIdle ⟨10, 2⟩) (start ⟨10, 2⟩)
      [.pollOpen (some (.ok ())), .tick, .pollCopy 1 0 none, .tick, .pollCopy 1 0 none] := by
  decide

end TcpConnection

end FerroTunnel.Ingress
