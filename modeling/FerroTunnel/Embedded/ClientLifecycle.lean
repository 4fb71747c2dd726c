import FerroTunnel.Transition.Core
import Mathlib.Data.List.Basic

/-!
# Starting and stopping a client

A client keeps the handle of the background task that its start spawned.  A start is
rejected while there is a handle, whether or not the task still runs.  Only a shutdown and
a startup timeout give the handle up, so a client whose task has ended by itself, or was
stopped, cannot be started until it is shut down.

The calls take the client exclusively, so there is one at a time, but a caller may drop a
call that waits.  The tasks run on their own.
-/

namespace FerroTunnel.Embedded

open FerroTunnel.Transition

/-! ## The background task -/

/-- Where the client task is. -/
inductive TaskPhase
  | connecting
  | connected
  | sleeping
  | finished
deriving DecidableEq

/-- A background task, as far as its start and its end depend on it. -/
structure Task where
  phase : TaskPhase
  /-- The tunnel info was sent to the start that waits for it. -/
  published : Bool
  /-- The shutdown channel has changed, or its sender is gone. -/
  signalled : Bool
  aborted : Bool
deriving DecidableEq

/-- What happens to a task. -/
inductive TaskEvent
  | accepted
  | finishedNormally
  | failed
  | woke
  | noticedShutdown
  | cancelled
deriving DecidableEq

namespace Task

/-- A task that was spawned. -/
def spawned : Task :=
  ⟨.connecting, false, false, false⟩

/-- A connection attempt is made or its connection is up. -/
def isConnecting (task : Task) : Bool :=
  task.phase = .connecting || task.phase = .connected

/-- One event of the task. -/
def step (autoReconnect : Bool) : Step Task TaskEvent
  | task, .accepted =>
      if task.phase = .connecting then
        some { task with phase := .connected, published := true }
      else
        none
  | task, .finishedNormally =>
      if task.isConnecting then some { task with phase := .finished } else none
  | task, .failed =>
      if task.isConnecting then
        some { task with phase := if autoReconnect then .sleeping else .finished }
      else
        none
  | task, .woke =>
      if task.phase = .sleeping then some { task with phase := .connecting } else none
  | task, .noticedShutdown =>
      if task.isConnecting && task.signalled then some { task with phase := .finished } else none
  | task, .cancelled =>
      if task.aborted && task.phase ≠ .finished then
        some { task with phase := .finished }
      else
        none

end Task

/-! ## The client -/

/-- What `start` reads of the configuration. -/
structure ClientConfig where
  autoReconnect : Bool
  startupTimeout : Bool
deriving DecidableEq

/-- The call that the client is in. -/
inductive PendingCall
  | idle
  | starting (task : Nat)
  | shuttingDown (task : Nat)
deriving DecidableEq

/-- What `start` returns. -/
inductive StartResult
  | started
  | alreadyStarted
  | connectionError
  | timeout
deriving DecidableEq

/-- A client and the tasks it has spawned; a handle is the number of a task. -/
structure Client where
  config : ClientConfig
  shutdownTx : Option Nat
  task : Option Nat
  tasks : List Task
  pending : PendingCall
  /-- What the last start returned. -/
  lastStart : Option StartResult
  /-- Since a task was last spawned, a shutdown was called or its start timed out. -/
  released : Bool
deriving DecidableEq

/-- What a caller, or the runtime, does. -/
inductive ClientAction
  | start
  | startReturns
  | startTimesOut
  | stop
  | shutdown
  | shutdownReturns
  | dropCall
  | task (index : Nat) (event : TaskEvent)
deriving DecidableEq

namespace Client

/-- A client that was not started. -/
def new (config : ClientConfig) : Client where
  config := config
  shutdownTx := none
  task := none
  tasks := []
  pending := .idle
  lastStart := none
  released := true

/-- Send the shutdown signal, if there is a sender left. -/
def stop (client : Client) : Client :=
  match client.shutdownTx with
  | none => client
  | some index => { client with
      shutdownTx := none
      tasks := client.tasks.modify index fun task => { task with signalled := true } }

/-- The check at the beginning of a start. -/
def checkStart (client : Client) : Except String Unit :=
  if client.task.isSome then .error "client already started" else .ok ()

/-- A start up to where it waits for the tunnel info. -/
def start (client : Client) : Client :=
  match client.checkStart with
  | .error _ => { client with lastStart := some .alreadyStarted }
  | .ok () => { client with
      shutdownTx := some client.tasks.length
      task := some client.tasks.length
      tasks := client.tasks ++ [.spawned]
      pending := .starting client.tasks.length
      released := false }

/-- A start returns when the tunnel info was sent, or its sender is gone with the task. -/
def startReturns (client : Client) (task : Task) : Option Client :=
  if task.published then
    some { client with pending := .idle, lastStart := some .started }
  else if task.phase = .finished then
    some { client with pending := .idle, lastStart := some .connectionError }
  else
    none

/-- A start gives up: it signals the task, aborts it and drops its handle. -/
def startTimesOut (client : Client) (index : Nat) : Client :=
  let stopped := client.stop
  { stopped with
    task := none
    tasks := stopped.tasks.modify index fun task => { task with aborted := true }
    pending := .idle
    lastStart := some .timeout
    released := true }

/-- A shutdown up to where it waits for the task. -/
def shutdown (client : Client) : Client :=
  let stopped := client.stop
  match stopped.task with
  | none => { stopped with released := true }
  | some index => { stopped with task := none, pending := .shuttingDown index, released := true }

/-- One call, return or event. -/
def step : Step Client ClientAction
  | client, .start =>
      match client.pending with
      | .idle => some client.start
      | _ => none
  | client, .startReturns =>
      match client.pending with
      | .starting index => client.tasks[index]?.bind client.startReturns
      | _ => none
  | client, .startTimesOut =>
      match client.pending with
      | .starting index =>
          -- The timeout looks for the tunnel info before it looks at the time.
          if client.config.startupTimeout ∧
              ∀ task ∈ client.tasks[index]?, client.startReturns task = none then
            some (client.startTimesOut index)
          else
            none
      | _ => none
  | client, .stop =>
      match client.pending with
      | .idle => some client.stop
      | _ => none
  | client, .shutdown =>
      match client.pending with
      | .idle => some client.shutdown
      | _ => none
  | client, .shutdownReturns =>
      match client.pending with
      | .shuttingDown index =>
          if client.tasks[index]?.any fun task => task.phase = .finished then
            some { client with pending := .idle }
          else
            none
      | _ => none
  | client, .dropCall =>
      if client.pending = .idle then none else some { client with pending := .idle }
  | client, .task index event =>
      client.tasks[index]?.bind fun task =>
        (Task.step client.config.autoReconnect task event).map fun next =>
          { client with tasks := client.tasks.set index next }

/-- A start is rejected as already started only while a task of an earlier start runs. -/
def RejectsOnlyRunning (client : Client) (action : ClientAction) : Prop :=
  action = .start → client.pending = .idle →
    client.checkStart = .error "client already started" →
      ∃ task ∈ client.tasks, task.phase ≠ .finished

/-- A start is called only after the task of the last one was released by a shutdown or a
startup timeout, or while a task runs. -/
def StartsReleased (client : Client) (action : ClientAction) : Prop :=
  action = .start → client.pending = .idle →
    client.released = true ∨ ∃ task ∈ client.tasks, task.phase ≠ .finished

instance (client : Client) (action : ClientAction) :
    Decidable (RejectsOnlyRunning client action) :=
  inferInstanceAs (Decidable (_ → _ → _ → _))

instance (client : Client) (action : ClientAction) : Decidable (StartsReleased client action) :=
  inferInstanceAs (Decidable (_ → _ → _))

/-! ## The handle -/

/-- There is a handle exactly from a spawn to the next release, and a start that waits
waits for the task of the handle. -/
structure Held (client : Client) : Prop where
  handle : client.task.isSome = !client.released
  waits : ∀ index, client.pending = .starting index → client.task = some index

theorem held_new (config : ClientConfig) : (new config).Held where
  handle := rfl
  waits := fun _ starting => nomatch starting

variable {client next : Client}

theorem checkStart_eq_error_iff (client : Client) :
    client.checkStart = .error "client already started" ↔ client.task.isSome = true := by
  rw [checkStart]
  split
  · next some => exact iff_of_true rfl some
  · next none => exact iff_of_false (fun error => nomatch error) none

/-- A stop keeps the handle. -/
theorem stop_same (client : Client) : client.stop.task = client.task ∧
    client.stop.released = client.released ∧ client.stop.pending = client.pending := by
  rw [stop]
  split <;> exact ⟨rfl, rfl, rfl⟩

/-- A step that touches neither the handle nor its release, and begins no start, keeps what
is held. -/
theorem Held.of_same (held : client.Held) (task : next.task = client.task)
    (released : next.released = client.released)
    (pending : next.pending = client.pending ∨ next.pending = .idle) : next.Held := by
  constructor
  · rw [task, released, held.handle]
  · intro index starting
    rcases pending with same | idle
    · rw [task, held.waits index (same ▸ starting)]
    · rw [idle] at starting
      cases starting

theorem Held.start (held : client.Held) : client.start.Held := by
  rw [Client.start]
  split
  · exact held.of_same rfl rfl (.inl rfl)
  · constructor
    · rfl
    · rintro index ⟨⟩
      rfl

theorem Held.shutdown (client : Client) (idle : client.pending = .idle) :
    client.shutdown.Held := by
  obtain ⟨-, -, pending⟩ := client.stop_same
  rw [Client.shutdown]
  split
  · next none =>
    constructor
    · rw [none]
      rfl
    · intro index starting
      cases (pending.symm.trans starting).symm.trans idle
  · constructor
    · rfl
    · exact fun index starting => nomatch starting

theorem Held.startReturns {task : Task} (held : client.Held)
    (returned : client.startReturns task = some next) : next.Held := by
  rw [Client.startReturns] at returned
  split at returned
  · cases returned
    exact held.of_same rfl rfl (.inr rfl)
  · split at returned
    · cases returned
      exact held.of_same rfl rfl (.inr rfl)
    · cases returned

theorem Held.startTimesOut (client : Client) (index : Nat) : (client.startTimesOut index).Held where
  handle := rfl
  waits := fun _ starting => nomatch starting

theorem Held.step {action : ClientAction} (held : client.Held)
    (stepEq : Client.step client action = some next) : next.Held := by
  cases action with
  | start =>
      simp only [Client.step] at stepEq
      split at stepEq
      · cases stepEq
        exact held.start
      · cases stepEq
  | startReturns =>
      simp only [Client.step] at stepEq
      split at stepEq
      · obtain ⟨task, -, returned⟩ := Option.bind_eq_some_iff.mp stepEq
        exact held.startReturns returned
      · cases stepEq
  | startTimesOut =>
      simp only [Client.step] at stepEq
      split at stepEq
      · next index _ =>
        split at stepEq
        · cases stepEq
          exact Held.startTimesOut client index
        · cases stepEq
      · cases stepEq
  | stop =>
      simp only [Client.step] at stepEq
      split at stepEq
      · cases stepEq
        obtain ⟨task, released, pending⟩ := client.stop_same
        exact held.of_same task released (.inl pending)
      · cases stepEq
  | shutdown =>
      simp only [Client.step] at stepEq
      split at stepEq
      · next idle =>
        cases stepEq
        exact Held.shutdown client idle
      · cases stepEq
  | shutdownReturns =>
      simp only [Client.step] at stepEq
      split at stepEq
      · split at stepEq
        · cases stepEq
          exact held.of_same rfl rfl (.inr rfl)
        · cases stepEq
      · cases stepEq
  | dropCall =>
      simp only [Client.step] at stepEq
      split at stepEq
      · cases stepEq
      · cases stepEq
        exact held.of_same rfl rfl (.inr rfl)
  | task index event =>
      obtain ⟨task, -, mapped⟩ := Option.bind_eq_some_iff.mp stepEq
      obtain ⟨after, -, rfl⟩ := Option.map_eq_some_iff.mp mapped
      exact held.of_same rfl rfl (.inl rfl)

/-! ## Starting again -/

theorem Held.rejectsOnlyRunning_iff {action : ClientAction} (held : client.Held) :
    RejectsOnlyRunning client action ↔ StartsReleased client action := by
  rw [RejectsOnlyRunning, StartsReleased, checkStart_eq_error_iff, held.handle]
  cases client.released <;> simp

/-- Over all histories of calls, connection outcomes and dropped calls, a start is rejected
only while a task runs exactly when each start comes after a shutdown or a startup timeout
released the task of the last one, or while a task runs. -/
theorem rejectsOnlyRunning_iff_startsReleased (config : ClientConfig)
    (actions : List ClientAction) :
    Meets step RejectsOnlyRunning (new config) actions ↔
      Meets step StartsReleased (new config) actions := by
  apply Meets.iff_of_invariant _ _ (held_new config)
  · exact fun held stepEq => held.step stepEq
  · exact fun held => held.rejectsOnlyRunning_iff

/-- A client whose connection is refused cannot be started again. -/
theorem rejected_after_refusal :
    (exec step (new ⟨false, false⟩)
      [.start, .task 0 .failed, .startReturns, .start]).map Client.lastStart =
        some (some .alreadyStarted) ∧
    ¬ Meets step RejectsOnlyRunning (new ⟨false, false⟩)
      [.start, .task 0 .failed, .startReturns, .start] := by
  decide

end Client

end FerroTunnel.Embedded
