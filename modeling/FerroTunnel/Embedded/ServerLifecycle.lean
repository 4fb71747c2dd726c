import FerroTunnel.Channel.Watch
import FerroTunnel.Transition.Core
import FerroTunnel.Tunnel.StartUp

/-!
# Starting and stopping a server

A start spawns a task that spawns the services of the server and waits for the first of
them to end, or for the shutdown channel.  Then it aborts the others and ends itself.
Unlike that of a client, the start of a server is rejected only while its task runs.

A caller may drop a shutdown that waits.  The task then goes on without a handle until it
notices the signal, and a new one may be started beside it.
-/

namespace FerroTunnel.Embedded

open FerroTunnel.Channel
open FerroTunnel.Checked
open FerroTunnel.Transition
open FerroTunnel.Tunnel (ServerConfig)

/-- The errors of a server. -/
inductive ServerError
  | invalidState (message : String)
  | config (message : String)
  | connection (message : String)
deriving DecidableEq

/-! ## Services -/

/-- The services of a server. -/
inductive ServiceName
  | tunnel
  | ingress
  | http3
deriving DecidableEq

/-- The name in the messages. -/
def ServiceName.text : ServiceName → String
  | .tunnel => "Tunnel"
  | .ingress => "Ingress"
  | .http3 => "HTTP/3 ingress"

/-- How a task ends: it returns, or it is lost by a panic or an abort. -/
inductive TaskEnd
  | returned (result : Except ServerError Unit)
  | panicked (message : String)
  | cancelled (message : String)

/-- The task was aborted. -/
def TaskEnd.isCancelled : TaskEnd → Bool
  | .cancelled _ => true
  | _ => false

/-- A spawned service. -/
structure Service where
  ended : Option TaskEnd
  aborted : Bool

/-- A service that runs. -/
def Service.spawned : Service :=
  ⟨none, false⟩

/-- Where the task of the services is. -/
inductive ServicesPhase
  | spawned
  | selecting
  | finished (how : TaskEnd)

/-- The task of `run_services`, with its services and its shutdown channel. -/
structure ServicesTask where
  phase : ServicesPhase
  shutdown : Watch Bool
  services : ServiceName → Option Service

/-- What can happen to the task. -/
inductive ServicesEvent
  | launch
  /-- The resources of the server cannot be made. -/
  | panic (message : String)
  /-- The select finds a service ended, or the shutdown channel ready. -/
  | select (ready : Option ServiceName)
  | serviceEnds (name : ServiceName) (how : TaskEnd)

/-- What a task has returned; `name` names it in the error when it was lost. -/
def taskResult (name : String) : TaskEnd → Except ServerError Unit
  | .returned result => result
  | .panicked message | .cancelled message =>
      .error (.connection (name ++ " task panicked: " ++ message))

/-- The result of a service that ended. -/
def serviceResult (name : ServiceName) : TaskEnd → Except ServerError Unit :=
  taskResult name.text

namespace ServicesTask

/-- A task that was spawned. -/
def spawned : ServicesTask where
  phase := .spawned
  shutdown := .new false
  services := fun _ => none

/-- The task has ended. -/
def isFinished (task : ServicesTask) : Bool :=
  match task.phase with
  | .finished _ => true
  | _ => false

/-- The task was told to stop, or nobody is left to tell it. -/
def isSignalled (task : ServicesTask) : Bool :=
  (task.shutdown.changed 0).isSome

/-- `run_services` up to its select. -/
def launch (config : ServerConfig) (task : ServicesTask) : ServicesTask :=
  let both : ServiceName → Option Service := fun name =>
    if name = .http3 then none else some .spawned
  match config.http3BindAddr, config.http3CertPath, config.http3KeyPath with
  | none, _, _ => { task with phase := .selecting, services := both }
  | some _, none, _ => { task with
      phase := .finished (.returned (.error
        (.config "HTTP/3 ingress requires certificate path")))
      services := both }
  | some _, some _, none => { task with
      phase := .finished (.returned (.error (.config "HTTP/3 ingress requires key path")))
      services := both }
  | some _, some _, some _ => { task with
      phase := .selecting
      services := fun _ => some .spawned }

/-- Abort the services and return. -/
def finish (task : ServicesTask) (result : Except ServerError Unit) : ServicesTask where
  phase := .finished (.returned result)
  shutdown := task.shutdown
  services := fun name => (task.services name).map fun service => { service with aborted := true }

/-- A service that runs returns or panics, or it is cancelled after it was aborted. -/
def serviceEnds (task : ServicesTask) (name : ServiceName) (how : TaskEnd) :
    Option ServicesTask :=
  match task.services name with
  | some ⟨none, aborted⟩ =>
      if how.isCancelled && !aborted then none
      else some { task with
        services := Function.update task.services name (some ⟨some how, aborted⟩) }
  | _ => none

/-- One event of the task. -/
def step (config : ServerConfig) : Step ServicesTask ServicesEvent
  | task, .launch =>
      match task.phase with
      | .spawned => some (task.launch config)
      | _ => none
  | task, .panic message =>
      match task.phase with
      | .spawned =>
          -- There are no services yet.
          some { task with phase := .finished (.panicked message), services := fun _ => none }
      | _ => none
  | task, .select ready =>
      match task.phase, ready with
      | .selecting, none => if task.isSignalled then some (task.finish (.ok ())) else none
      | .selecting, some name =>
          ((task.services name).bind Service.ended).map fun how =>
            task.finish (serviceResult name how)
      | _, _ => none
  | task, .serviceEnds name how => task.serviceEnds name how

end ServicesTask

/-! ## The server -/

/-- A server and the tasks it has spawned; a handle is the number of a task. -/
structure Server where
  shutdownTx : Option Nat
  task : Option Nat
  tasks : List ServicesTask
  /-- The task that a shutdown waits for. -/
  pending : Option Nat
  /-- What the last start or shutdown has returned. -/
  returned : Except ServerError Unit
  dropped : Bool

/-- What a caller, or the runtime, does. -/
inductive ServerAction
  | start
  | stop
  | shutdown
  | shutdownReturns
  | dropCall
  | drop
  | task (index : Nat) (event : ServicesEvent)

namespace Server

/-- A server that was not started. -/
def new : Server where
  shutdownTx := none
  task := none
  tasks := []
  pending := none
  returned := .ok ()
  dropped := false

/-- Whether the services still run. -/
def isRunning (server : Server) : Bool :=
  server.task.any fun index => server.tasks[index]?.any fun task => !task.isFinished

/-- The check at the beginning of a start. -/
def checkStart (server : Server) : Except ServerError Unit :=
  if server.isRunning then .error (.invalidState "server already started") else .ok ()

/-- Give up the sender of the shutdown channel, after something is done to the channel. -/
def release (server : Server) (last : Watch Bool → Watch Bool) : Server :=
  match server.shutdownTx with
  | none => server
  | some index => { server with
      shutdownTx := none
      tasks := server.tasks.modify index fun task =>
        { task with shutdown := (last task.shutdown).dropSender } }

/-- The services are told to stop. -/
def stop (server : Server) : Server :=
  server.release fun channel => channel.send true

/-- A sender that is left is replaced with the handle. -/
def start (server : Server) : Server :=
  match server.checkStart with
  | .error error => { server with returned := .error error }
  | .ok () =>
      let released := server.release id
      { released with
        shutdownTx := some server.tasks.length
        task := some server.tasks.length
        tasks := released.tasks ++ [.spawned]
        returned := .ok () }

/-- A shutdown up to where it waits for the task. -/
def shutdown (server : Server) : Server :=
  { server.stop with task := none, pending := server.task, returned := .ok () }

/-- The shutdown returns what the task has returned. -/
def shutdownReturns (server : Server) (task : ServicesTask) : Option Server :=
  match task.phase with
  | .finished how => some { server with pending := none, returned := taskResult "Server" how }
  | _ => none

/-- The server is dropped. -/
def drop (server : Server) : Server :=
  { server.stop with task := none, dropped := true }

/-- The server can be called. -/
def isIdle (server : Server) : Bool :=
  server.pending.isNone && !server.dropped

/-- One call, return or event. -/
def step (config : ServerConfig) : Step Server ServerAction
  | server, .start => if server.isIdle then some server.start else none
  | server, .stop => if server.isIdle then some server.stop else none
  | server, .shutdown => if server.isIdle then some server.shutdown else none
  | server, .shutdownReturns =>
      server.pending.bind fun index => server.tasks[index]?.bind server.shutdownReturns
  | server, .dropCall =>
      if server.pending.isSome then some { server with pending := none } else none
  | server, .drop => if server.isIdle then some server.drop else none
  | server, .task index event =>
      server.tasks[index]?.bind fun task =>
        (task.step config event).map fun next =>
          { server with tasks := server.tasks.set index next }

end Server

/-! ## One task -/

variable {config : ServerConfig}

/-- A task that has ended leaves no service behind that was not told to end. -/
def ServicesTask.Reaped (task : ServicesTask) : Prop :=
  task.isFinished = true → ∀ name service, task.services name = some service →
    service.aborted = true

theorem ServicesTask.reaped_of_running {task : ServicesTask} (runs : task.isFinished = false) :
    task.Reaped := by
  intro finished
  cases runs.symm.trans finished

theorem ServicesTask.reaped_finish (task : ServicesTask) (result : Except ServerError Unit) :
    (task.finish result).Reaped := by
  intro _ name service found
  obtain ⟨before, -, rfl⟩ := Option.map_eq_some_iff.mp found
  rfl

/-- A valid configuration has the paths that the task asks for. -/
theorem ServicesTask.launch_runs (valid : config.validate = .ok ()) (task : ServicesTask) :
    (task.launch config).isFinished = false ∧
      (task.launch config).shutdown = task.shutdown := by
  simp only [ServerConfig.validate, bind_eq_ok_iff, rejectIf_eq_ok_iff] at valid
  obtain ⟨_, -, _, -, _, -, _, -, paths⟩ := valid
  unfold launch
  split
  · exact ⟨rfl, rfl⟩
  · rename_i bound missing
    exact absurd ⟨by simp [bound], .inl missing⟩ paths
  · rename_i bound _ missing
    exact absurd ⟨by simp [bound], .inr missing⟩ paths
  · exact ⟨rfl, rfl⟩

/-- A task ends once, and only it or the server's calls touch its shutdown channel. -/
theorem ServicesTask.step_cases {task next : ServicesTask} {event : ServicesEvent}
    (valid : config.validate = .ok ()) (reaped : task.Reaped)
    (stepEq : task.step config event = some next) :
    next.shutdown = task.shutdown ∧ next.Reaped ∧
      (next.isFinished = false → task.isFinished = false) := by
  cases event with
  | launch =>
      simp only [step] at stepEq
      split at stepEq <;> cases stepEq
      rename_i spawned
      obtain ⟨runs, same⟩ := launch_runs valid task
      exact ⟨same, reaped_of_running runs, fun _ => by rw [isFinished, spawned]⟩
  | panic message =>
      simp only [step] at stepEq
      split at stepEq <;> cases stepEq
      exact ⟨rfl, fun _ _ _ found => (by cases found), fun runs => by cases runs⟩
  | select ready =>
      simp only [step] at stepEq
      split at stepEq
      · split at stepEq <;> cases stepEq
        exact ⟨rfl, reaped_finish _ _, fun runs => by cases runs⟩
      · obtain ⟨how, -, rfl⟩ := Option.map_eq_some_iff.mp stepEq
        exact ⟨rfl, reaped_finish _ _, fun runs => by cases runs⟩
      · cases stepEq
  | serviceEnds name how =>
      simp only [step, serviceEnds] at stepEq
      split at stepEq
      · rename_i aborted found
        split at stepEq <;> cases stepEq
        refine ⟨rfl, ?_, id⟩
        intro finished other service serviceEq
        simp only [Function.update_apply] at serviceEq
        split at serviceEq
        · cases serviceEq
          exact reaped finished name ⟨none, aborted⟩ found
        · exact reaped finished other service serviceEq
      · cases stepEq

/-! ## Histories of calls -/

namespace Server

variable {server next : Server}

/-- A task that runs was told to stop, or it is the one whose handle and whose sender the
server has; and tasks that have ended leave nothing running. -/
structure Supervised (server : Server) : Prop where
  stopped : ∀ (index : Nat) (task : ServicesTask), server.tasks[index]? = some task →
    task.isFinished = false →
      task.isSignalled = true ∨ server.task = some index ∧ server.shutdownTx = some index
  reaped : ∀ task ∈ server.tasks, task.Reaped

/-- All tasks that run were told to stop. -/
def AllStopped (server : Server) : Prop :=
  ∀ (index : Nat) (task : ServicesTask), server.tasks[index]? = some task →
    task.isFinished = false → task.isSignalled = true

theorem supervised_new : new.Supervised where
  stopped index task found := by simp [new] at found
  reaped task member := by simp [new] at member

/-- Giving up the sender signals the task it belongs to and leaves the others alone. -/
theorem getElem?_release {last : Watch Bool → Watch Bool} {index : Nat} {task : ServicesTask}
    (found : (server.release last).tasks[index]? = some task) :
    (∃ before, server.tasks[index]? = some before ∧ task.phase = before.phase ∧
      task.services = before.services ∧ task.isSignalled = true) ∨
    (server.tasks[index]? = some task ∧ server.shutdownTx ≠ some index) := by
  unfold release at found
  split at found
  · rename_i none
    exact .inr ⟨found, by simp [none]⟩
  · rename_i sender some
    rw [List.getElem?_modify] at found
    obtain ⟨before, beforeAt, rfl⟩ := Option.map_eq_some_iff.mp found
    split
    · refine .inl ⟨before, beforeAt, rfl, rfl, ?_⟩
      exact Option.isSome_iff_ne_none.mpr (Watch.changed_ne_none_of_gone rfl 0)
    · rename_i different
      refine .inr ⟨beforeAt, ?_⟩
      rw [some]
      exact fun same => different (Option.some.inj same)

/-- What has ended stays reaped when the sender is given up. -/
theorem Supervised.reaped_release (supervised : server.Supervised)
    (last : Watch Bool → Watch Bool) : ∀ task ∈ (server.release last).tasks, task.Reaped := by
  intro task member
  obtain ⟨index, found⟩ := List.mem_iff_getElem?.mp member
  rcases getElem?_release found with ⟨before, beforeAt, phase, services, -⟩ | ⟨same, -⟩
  · have reaped := supervised.reaped before (List.mem_of_getElem? beforeAt)
    rwa [ServicesTask.Reaped, ServicesTask.isFinished, services, phase]
  · exact supervised.reaped task (List.mem_of_getElem? same)

/-- Once the sender is given up, every task that runs was told to stop. -/
theorem Supervised.allStopped (supervised : server.Supervised) (last : Watch Bool → Watch Bool) :
    (server.release last).AllStopped := by
  intro index task found runs
  rcases getElem?_release found with ⟨-, -, -, -, signalled⟩ | ⟨same, different⟩
  · exact signalled
  · rcases supervised.stopped index task same runs with signalled | held
    · exact signalled
    · exact absurd held.2 different

theorem AllStopped.supervised (stopped : server.AllStopped)
    (reaped : ∀ task ∈ server.tasks, task.Reaped) : server.Supervised :=
  ⟨fun index task found runs => .inl (stopped index task found runs), reaped⟩

/-- A start finds only tasks that have ended or were told to stop. -/
theorem Supervised.start (supervised : server.Supervised) : server.start.Supervised := by
  unfold Server.start
  split
  · exact ⟨supervised.stopped, supervised.reaped⟩
  · have stopped := supervised.allStopped id
    have length : (server.release id).tasks.length = server.tasks.length := by
      unfold release
      split <;> simp
    constructor
    · intro index task found runs
      rcases Nat.lt_trichotomy index server.tasks.length with before | rfl | after
      · rw [List.getElem?_append_left (length ▸ before)] at found
        exact .inl (stopped index task found runs)
      · exact .inr ⟨rfl, rfl⟩
      · have inside := (List.getElem?_eq_some_iff.mp found).1
        rw [List.length_append, length, List.length_singleton] at inside
        omega
    · intro task member
      rcases List.mem_append.mp member with old | new
      · exact supervised.reaped_release id task old
      · rw [List.mem_singleton.mp new]
        exact ServicesTask.reaped_of_running rfl

theorem Supervised.step {action : ServerAction} (valid : config.validate = .ok ())
    (supervised : server.Supervised) (stepEq : Server.step config server action = some next) :
    next.Supervised := by
  have stopped := supervised.allStopped fun channel => channel.send true
  have reaped := supervised.reaped_release fun channel => channel.send true
  cases action with
  | start =>
      simp only [Server.step] at stepEq
      split at stepEq <;> cases stepEq
      exact supervised.start
  | stop =>
      simp only [Server.step] at stepEq
      split at stepEq <;> cases stepEq
      exact stopped.supervised reaped
  | shutdown | drop =>
      simp only [Server.step] at stepEq
      split at stepEq <;> cases stepEq
      apply AllStopped.supervised
      · exact stopped
      · exact reaped
  | shutdownReturns =>
      obtain ⟨index, -, found⟩ := Option.bind_eq_some_iff.mp stepEq
      obtain ⟨task, -, returned⟩ := Option.bind_eq_some_iff.mp found
      unfold shutdownReturns at returned
      split at returned <;> cases returned
      exact ⟨supervised.stopped, supervised.reaped⟩
  | dropCall =>
      simp only [Server.step] at stepEq
      split at stepEq <;> cases stepEq
      exact ⟨supervised.stopped, supervised.reaped⟩
  | task index event =>
      obtain ⟨task, taskAt, mapped⟩ := Option.bind_eq_some_iff.mp stepEq
      obtain ⟨after, taskStep, rfl⟩ := Option.map_eq_some_iff.mp mapped
      obtain ⟨same, afterReaped, runsBefore⟩ := ServicesTask.step_cases valid
        (supervised.reaped task (List.mem_of_getElem? taskAt)) taskStep
      constructor
      · intro other found foundAt runs
        by_cases here : index = other
        · subst here
          rw [List.getElem?_set_self (List.getElem?_eq_some_iff.mp taskAt).1] at foundAt
          cases foundAt
          rw [ServicesTask.isSignalled, same]
          exact supervised.stopped index task taskAt (runsBefore runs)
        · rw [List.getElem?_set_ne here] at foundAt
          exact supervised.stopped other found foundAt runs
      · intro found member
        rcases List.mem_or_eq_of_mem_set member with old | rfl
        · exact supervised.reaped found old
        · exact afterReaped

end Server

/-- In every history of starts, stops, shutdowns that return or are dropped, and the drop of
the server, with services that return or panic at any time: a services task that runs was told
to stop or is the one the server has the handle of, and one that has ended has aborted all its
services.  A start is rejected while a task runs that was not told to stop, so no two such
tasks run. -/
theorem server_tasks_supervised {config : ServerConfig} (valid : config.validate = .ok ())
    {actions : List ServerAction} {server : Server}
    (run : exec (Server.step config) .new actions = some server) :
    server.Supervised ∧ ∀ task ∈ server.tasks, task.isFinished = false →
      task.isSignalled = false →
        server.checkStart = .error (.invalidState "server already started") := by
  have supervised : server.Supervised :=
    exec_invariant (fun supervised stepEq => supervised.step valid stepEq) Server.supervised_new run
  refine ⟨supervised, ?_⟩
  intro task member runs unsignalled
  obtain ⟨index, found⟩ := List.mem_iff_getElem?.mp member
  rcases supervised.stopped index task found runs with signalled | held
  · cases unsignalled.symm.trans signalled
  · have running : server.isRunning = true := by
      simp [Server.isRunning, held.1, found, runs]
    rw [Server.checkStart, if_pos running]

/-- A shutdown is dropped while it waits, and the server is started again beside the old task. -/
def startedBeside : List ServerAction :=
  [.start, .task 0 .launch, .shutdown, .dropCall, .start, .task 1 .launch]

theorem server_tasks_supervised_startedBeside :
    ∃ server, exec (Server.step { ServerConfig.default with token := "secret" }) .new
        startedBeside = some server ∧
      server.tasks.map (fun task => (task.isFinished, task.isSignalled)) =
        [(false, true), (false, false)] ∧
      server.checkStart = .error (.invalidState "server already started") := by
  have run : exec (Server.step { ServerConfig.default with token := "secret" }) .new
      startedBeside = some _ := rfl
  have supervised := server_tasks_supervised rfl run
  exact ⟨_, run, rfl, supervised.2 _ (List.mem_cons_of_mem _ List.mem_cons_self) rfl rfl⟩

end FerroTunnel.Embedded
