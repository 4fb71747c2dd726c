import FerroTunnel.Plugins.RequestHooks

/-!
# The chain of hooks

The registry runs the hooks of one kind in turn and stops at the first that does
not return `Continue`.  A hook may keep a state of its own between calls, so a
chain is run on a `world` that the hooks share.  `Ends` says what a chain ends
with by following it hook by hook, and is what every later result about a chain
is stated with.
-/

namespace FerroTunnel.Plugins

open FerroTunnel.Wire

/-- A plugin whose hooks act on a state. -/
structure StatefulPlugin (σ ρ κ η : Type) where
  name : String
  onRequest : κ → σ → ρ → σ × HookOutcome ρ
  onResponse : η → σ → Response → σ × HookOutcome Response
  needsResponseBody : Bool

/-- What a chain of hooks leaves behind. -/
structure ChainResult (σ μ : Type) where
  world : σ
  result : Except String PluginAction
  message : μ

section Chain

variable {σ μ π : Type}

/-- Run one kind of hook of the plugins in turn.  After an error the caller is left
with `blank`, which took the place of its message. -/
def executeHooks (hook : String) (name : π → String) (run : π → σ → μ → σ × HookOutcome μ)
    (blank : μ) : List π → σ → μ → ChainResult σ μ
  | [], world, current => ⟨world, .ok .proceed, current⟩
  | plugin :: rest, world, current =>
      match run plugin world current with
      | (later, .panicked) => ⟨later, .error (panicError (name plugin) hook), blank⟩
      | (later, .failed error) => ⟨later, .error (taskError (name plugin) hook error), blank⟩
      | (later, .finished _ (.error error)) => ⟨later, .error error, blank⟩
      | (later, .finished next (.ok .proceed)) =>
          executeHooks hook name run blank rest later next
      | (later, .finished next (.ok action)) => ⟨later, .ok action, next⟩

/-- Where the chain ends: `final` holds of what it leaves when every hook returns
`Continue`, and otherwise `stops` holds of how the first other hook ends. -/
def Ends (run : π → σ → μ → σ × HookOutcome μ) (stops : HookOutcome μ → Prop)
    (final : μ → Prop) : List π → σ → μ → Prop
  | [], _, current => final current
  | plugin :: rest, world, current =>
      match run plugin world current with
      | (later, .finished next (.ok .proceed)) => Ends run stops final rest later next
      | (_, outcome) => stops outcome

variable {run : π → σ → μ → σ × HookOutcome μ}

/-- A property of the outcome of a chain is one of where it ends. -/
theorem executeHooks_iff_ends {hook : String} {name : π → String} {blank : μ}
    {P : Except String PluginAction → μ → Prop} {stops : HookOutcome μ → Prop} {final : μ → Prop}
    (continued : ∀ message, P (.ok .proceed) message ↔ final message)
    (decided : ∀ action message, action ≠ .proceed →
      (P (.ok action) message ↔ stops (.finished message (.ok action))))
    (erred : ∀ message error, P (.error error) blank ↔ stops (.finished message (.error error)))
    (panicked : ∀ error, P (.error error) blank ↔ stops .panicked)
    (failed : ∀ text error, P (.error text) blank ↔ stops (.failed error)) (plugins : List π)
    (world : σ) (message : μ) :
    P (executeHooks hook name run blank plugins world message).result
        (executeHooks hook name run blank plugins world message).message ↔
      Ends run stops final plugins world message := by
  induction plugins generalizing world message with
  | nil => exact continued message
  | cons plugin rest ih =>
      rcases runEq : run plugin world message with
        ⟨later, ⟨next, error | action⟩ | _ | error⟩
      · simp only [executeHooks, Ends, runEq]
        exact erred next error
      · cases action with
        | proceed =>
            simp only [executeHooks, Ends, runEq]
            exact ih later next
        | _ =>
            simp only [executeHooks, Ends, runEq]
            exact decided _ next nofun
      · simp only [executeHooks, Ends, runEq]
        exact panicked _
      · simp only [executeHooks, Ends, runEq]
        exact failed _ error

/-- A chain of two parts: the second part runs when all hooks of the first return
`Continue`. -/
theorem executeHooks_append (hook : String) (name : π → String)
    (run : π → σ → μ → σ × HookOutcome μ) (blank : μ) (first second : List π) (world : σ)
    (message : μ) :
    executeHooks hook name run blank (first ++ second) world message =
      let earlier := executeHooks hook name run blank first world message
      if earlier.result = .ok .proceed then
        executeHooks hook name run blank second earlier.world earlier.message
      else earlier := by
  induction first generalizing world message with
  | nil => rfl
  | cons plugin rest ih =>
      rcases runEq : run plugin world message with
        ⟨later, ⟨next, error | action⟩ | _ | error⟩
      · simp [executeHooks, runEq]
      · cases action with
        | proceed =>
            simp only [List.cons_append, executeHooks, runEq]
            exact ih later next
        | _ => simp [executeHooks, runEq]
      · simp [executeHooks, runEq]
      · simp [executeHooks, runEq]

/-- What every hook keeps of the world, the chain keeps. -/
theorem executeHooks_world {hook : String} {name : π → String} {blank : μ} {P : σ → Prop}
    {plugins : List π}
    (kept : ∀ plugin ∈ plugins, ∀ world message, P world → P (run plugin world message).1)
    {world : σ} (message : μ) (holds : P world) :
    P (executeHooks hook name run blank plugins world message).world := by
  induction plugins generalizing world message with
  | nil => exact holds
  | cons plugin rest ih =>
      have later := kept plugin List.mem_cons_self world message holds
      rcases runEq : run plugin world message with
        ⟨after, ⟨next, error | action⟩ | _ | error⟩
      all_goals rw [runEq] at later
      · simp only [executeHooks, runEq]
        exact later
      · cases action with
        | proceed =>
            simp only [executeHooks, runEq]
            exact ih (fun other member => kept other (List.mem_cons_of_mem plugin member))
              next later
        | _ =>
            simp only [executeHooks, runEq]
            exact later
      · simp only [executeHooks, runEq]
        exact later
      · simp only [executeHooks, runEq]
        exact later

/-- The hook returns `Continue` whatever it is given. -/
def AlwaysContinues (run : σ → μ → σ × HookOutcome μ) : Prop :=
  ∀ world message, ∃ later next, run world message = (later, .finished next (.ok .proceed))

/-- A chain of hooks that always return `Continue` ends with `Continue`. -/
theorem executeHooks_of_continues {hook : String} {name : π → String} {blank : μ} {plugins : List π}
    (continues : ∀ plugin ∈ plugins, AlwaysContinues (run plugin)) (world : σ) (message : μ) :
    (executeHooks hook name run blank plugins world message).result = .ok .proceed := by
  induction plugins generalizing world message with
  | nil => rfl
  | cons plugin rest ih =>
      obtain ⟨later, next, runEq⟩ := continues plugin List.mem_cons_self world message
      simp only [executeHooks, runEq]
      exact ih (fun other member => continues other (List.mem_cons_of_mem plugin member)) later next

end Chain

section Registry

variable {σ ρ κ η : Type}

/-- The response that the registry puts in the place of its caller's. -/
def blankResponse : Response :=
  ⟨200, [], []⟩

/-- Run the response hooks of the plugins. -/
def executeResponseHooks (plugins : List (StatefulPlugin σ ρ κ η)) (ctx : η) (world : σ)
    (response : Response) : ChainResult σ Response :=
  executeHooks "on_response" StatefulPlugin.name (fun plugin => plugin.onResponse ctx)
    blankResponse plugins world response

/-- Run the request hooks of plugins that keep a state. -/
def executeRequestHooksOn (blank : ρ) (plugins : List (StatefulPlugin σ ρ κ η)) (ctx : κ)
    (world : σ) (request : ρ) : ChainResult σ ρ :=
  executeHooks "on_request" StatefulPlugin.name (fun plugin => plugin.onRequest ctx) blank plugins
    world request

/-- Some plugin inspects response bodies. -/
def needsResponseBuffering (plugins : List (StatefulPlugin σ ρ κ η)) : Bool :=
  plugins.any StatefulPlugin.needsResponseBody

end Registry

end FerroTunnel.Plugins
