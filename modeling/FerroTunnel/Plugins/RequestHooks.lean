import FerroTunnel.Wire.Frame

/-!
# Request hooks of plugins

`execute_request_hooks` runs the `on_request` hooks of the registered plugins in
turn, each in a task of its own, until one returns an action other than
`Continue`.  The two ingresses then forward the request or answer it
themselves.  Requests and contexts are left abstract: a hook may do anything
with them.

Both ingresses forward a request on `Modify`, which ends the chain like any
other action but `Continue`.
-/

namespace FerroTunnel.Plugins

open FerroTunnel.Wire

/-- What a hook returns; `proceed` is `Continue`. -/
inductive PluginAction
  | proceed
  | reject (status : UInt16) (reason : String)
  | modify
  | respond (status : UInt16) (headers : List (String × String)) (body : Bytes)
deriving DecidableEq

/-- How the task of a hook ends: with the request the hook leaves behind and its
result, by a panic, or for another reason. -/
inductive HookOutcome (ρ : Type)
  | finished (request : ρ) (action : Except String PluginAction)
  | panicked
  | failed (error : String)
deriving DecidableEq

/-- A plugin, as far as requests are concerned. -/
structure Plugin (ρ κ : Type) where
  name : String
  onRequest : ρ → κ → HookOutcome ρ

/-- One hook that was run, with the request it was given. -/
structure HookCall (ρ κ : Type) where
  plugin : Plugin ρ κ
  request : ρ
  outcome : HookOutcome ρ

/-- The result of running the hooks, the request they leave behind, and the hooks
that were run. -/
structure HooksRun (ρ κ : Type) where
  result : Except String PluginAction
  request : ρ
  calls : List (HookCall ρ κ)

variable {ρ κ : Type}

/-- The text of a hook whose task panicked. -/
def panicError (pluginName hook : String) : String :=
  s!"plugin `{pluginName}` panicked during {hook} hook"

/-- The text of a hook whose task failed. -/
def taskError (pluginName hook error : String) : String :=
  s!"plugin `{pluginName}` {hook} hook task failed: {error}"

/-- Run the hooks of the plugins.  After an error the caller is left with the
empty request `blank`, which took the place of its own. -/
def executeRequestHooks (blank : ρ) (ctx : κ) : List (Plugin ρ κ) → ρ → HooksRun ρ κ
  | [], current => ⟨.ok .proceed, current, []⟩
  | plugin :: rest, current =>
      let outcome := plugin.onRequest current ctx
      let call := ⟨plugin, current, outcome⟩
      match outcome with
      | .panicked => ⟨.error (panicError plugin.name "on_request"), blank, [call]⟩
      | .failed error => ⟨.error (taskError plugin.name "on_request" error), blank, [call]⟩
      | .finished _ (.error error) => ⟨.error error, blank, [call]⟩
      | .finished next (.ok .proceed) =>
          let later := executeRequestHooks blank ctx rest next
          { later with calls := call :: later.calls }
      | .finished next (.ok action) => ⟨.ok action, next, [call]⟩

/-! ## The ingresses -/

/-- A response of an ingress itself. -/
structure Response where
  status : UInt16
  headers : List (String × String)
  body : Bytes
deriving DecidableEq

/-- What an ingress does with a request after the hooks. -/
inductive Verdict (ρ : Type)
  | forward (request : ρ)
  | answer (response : Response)
deriving DecidableEq

/-- A status code, or the fallback for a number that is none. -/
def statusOr (status fallback : UInt16) : UInt16 :=
  if 100 ≤ status ∧ status < 1000 then status else fallback

/-- A response with a text. -/
def fullResponse (status : UInt16) (text : String) : Response :=
  ⟨status, [], text.toUTF8.toList⟩

/-- The verdict of an ingress that answers `Respond` by `respond`. -/
def verdict (respond : UInt16 → List (String × String) → Bytes → Response)
    (run : HooksRun ρ κ) : Verdict ρ :=
  match run.result with
  | .ok .proceed => .forward run.request
  | .ok .modify => .forward run.request
  | .ok (.reject status reason) => .answer (fullResponse (statusOr status 403) reason)
  | .ok (.respond status headers body) => .answer (respond status headers body)
  | .error _ => .answer (fullResponse 500 "Plugin processing error")

/-- The HTTP ingress fails on a header that is not valid. -/
def handleRequest (validHeader : String × String → Bool) (run : HooksRun ρ κ) : Verdict ρ :=
  verdict (fun status headers body =>
    if headers.all validHeader then
      ⟨statusOr status 200, headers, body⟩
    else
      fullResponse 500 "Failed to build plugin response") run

/-- The HTTP/3 ingress leaves out headers that are not valid. -/
def runRequestPlugins (validHeader : String × String → Bool) (run : HooksRun ρ κ) :
    Verdict ρ :=
  verdict (fun status headers body =>
    ⟨statusOr status 200, headers.filter validHeader, body⟩) run

/-- The two ingresses. -/
inductive Ingress
  | http
  | http3
deriving DecidableEq

/-- What an ingress does after the hooks. -/
def Ingress.verdict (validHeader : String × String → Bool) :
    Ingress → HooksRun ρ κ → Verdict ρ
  | .http, run => handleRequest validHeader run
  | .http3, run => runRequestPlugins validHeader run

/-! ## Forwarded requests -/

/-- A request is forwarded when the hooks end with `Continue` or `Modify`. -/
theorem Ingress.verdict_eq_forward_iff {validHeader : String × String → Bool}
    {ingress : Ingress} {run : HooksRun ρ κ} {forwarded : ρ} :
    ingress.verdict validHeader run = .forward forwarded ↔
      (run.result = .ok .proceed ∨ run.result = .ok .modify) ∧ run.request = forwarded := by
  rcases run with ⟨result, request, calls⟩
  cases ingress <;>
    simp only [Ingress.verdict, handleRequest, runRequestPlugins, Plugins.verdict] <;>
    split <;> simp_all

/-- The hooks that were run on a request: a first part of the plugins in order,
where each hook is given what the one before it left, and all but the last
continued. -/
inductive Passes (ctx : κ) : List (Plugin ρ κ) → ρ → List (HookCall ρ κ) → ρ → Prop
  | all {request} : Passes ctx [] request [] request
  | continued {plugin rest request next calls forwarded}
      (returned : plugin.onRequest request ctx = .finished next (.ok .proceed))
      (later : Passes ctx rest next calls forwarded) :
      Passes ctx (plugin :: rest) request
        (⟨plugin, request, plugin.onRequest request ctx⟩ :: calls) forwarded
  | modified {plugin rest request next}
      (returned : plugin.onRequest request ctx = .finished next (.ok .modify)) :
      Passes ctx (plugin :: rest) request [⟨plugin, request, plugin.onRequest request ctx⟩] next

/-- Hooks that end with `Continue` or `Modify` have passed the request on. -/
theorem passes_of_executeRequestHooks {blank : ρ} {ctx : κ} {plugins : List (Plugin ρ κ)}
    {request : ρ}
    (ended : (executeRequestHooks blank ctx plugins request).result = .ok .proceed ∨
      (executeRequestHooks blank ctx plugins request).result = .ok .modify) :
    Passes ctx plugins request (executeRequestHooks blank ctx plugins request).calls
      (executeRequestHooks blank ctx plugins request).request := by
  induction plugins generalizing request with
  | nil => exact .all
  | cons plugin rest ih =>
      rcases outcomeEq : plugin.onRequest request ctx with ⟨next, error | action⟩ | _ | error
      · simp [executeRequestHooks, outcomeEq] at ended
      · cases action with
        | proceed =>
            simp only [executeRequestHooks, outcomeEq] at ended ⊢
            rw [← outcomeEq]
            exact .continued outcomeEq (ih ended)
        | modify =>
            simp only [executeRequestHooks, outcomeEq]
            rw [← outcomeEq]
            exact .modified outcomeEq
        | reject status reason | respond status headers body =>
            simp [executeRequestHooks, outcomeEq] at ended
      · simp [executeRequestHooks, outcomeEq] at ended
      · simp [executeRequestHooks, outcomeEq] at ended

/-- The hook passes the request on to what comes after it. -/
def HookCall.Hands (call : HookCall ρ κ) (action : PluginAction) (next : ρ) : Prop :=
  call.outcome = .finished next (.ok action)

namespace Passes

variable {ctx : κ} {plugins : List (Plugin ρ κ)} {request forwarded : ρ}
  {calls : List (HookCall ρ κ)} (passes : Passes ctx plugins request calls forwarded)

include passes

/-- The hooks that were run are those of a first part of the plugins. -/
theorem registered : calls.map HookCall.plugin <+: plugins := by
  induction passes with
  | all => exact List.prefix_refl []
  | continued _ _ ih => exact List.prefix_cons_inj _ |>.mpr ih
  | modified _ => exact ⟨_, rfl⟩

/-- Each hook that was run returned `Continue` or `Modify`. -/
theorem admitted : ∀ call ∈ calls, ∃ next, call.Hands .proceed next ∨ call.Hands .modify next := by
  induction passes with
  | all => simp
  | continued returned _ ih =>
      rintro call (_ | ⟨_, member⟩)
      · exact ⟨_, .inl returned⟩
      · exact ih call member
  | modified returned =>
      rintro call (_ | ⟨_, member⟩)
      · exact ⟨_, .inr returned⟩
      · cases member

/-- All plugins were run, or the last hook that was run returned `Modify`. -/
theorem complete :
    calls.map HookCall.plugin = plugins ∨
      ∃ last next, calls.getLast? = some last ∧ last.Hands .modify next := by
  induction passes with
  | all => exact .inl rfl
  | continued _ _ ih =>
      rcases ih with allRun | ⟨last, next, lastEq, returned⟩
      · exact .inl (congrArg _ allRun)
      · apply Or.inr
        exact ⟨last, next, by simp [List.getLast?_cons, lastEq], returned⟩
  | modified returned => exact .inr ⟨_, _, rfl, returned⟩

end Passes

/-- A forwarded request has passed the hooks of the plugins in order, up to the
first that returned `Modify`; each hook that was run returned `Continue` or
`Modify`, and plugins are left out only after a `Modify`. -/
theorem forwarded_request_hooks (validHeader : String × String → Bool) (ingress : Ingress)
    (blank : ρ) (ctx : κ) (plugins : List (Plugin ρ κ)) (request forwarded : ρ)
    (forwards : ingress.verdict validHeader (executeRequestHooks blank ctx plugins request) =
      .forward forwarded) :
    let calls := (executeRequestHooks blank ctx plugins request).calls
    Passes ctx plugins request calls forwarded ∧
      calls.map HookCall.plugin <+: plugins ∧
      (∀ call ∈ calls, ∃ next, call.Hands .proceed next ∨ call.Hands .modify next) ∧
      (calls.map HookCall.plugin = plugins ∨
        ∃ last next, calls.getLast? = some last ∧ last.Hands .modify next) := by
  intro calls
  obtain ⟨ended, rfl⟩ := Ingress.verdict_eq_forward_iff.mp forwards
  have passes := passes_of_executeRequestHooks ended
  exact ⟨passes, passes.registered, passes.admitted, passes.complete⟩

/-- A plugin that counts the hooks a request has passed and returns an action. -/
def countingPlugin (name : String) (action : PluginAction) : Plugin Nat Unit :=
  ⟨name, fun request _ => .finished (request + 1) (.ok action)⟩

/-- A request that passes a logger and an authentication. -/
theorem forwarded_request_hooks_authenticated :
    let plugins := [countingPlugin "logger" .proceed, countingPlugin "auth" .proceed]
    let calls := (executeRequestHooks 0 () plugins 5).calls
    Passes () plugins 5 calls 7 ∧
      calls.map HookCall.plugin <+: plugins ∧
      (∀ call ∈ calls, ∃ next, call.Hands .proceed next ∨ call.Hands .modify next) ∧
      (calls.map HookCall.plugin = plugins ∨
        ∃ last next, calls.getLast? = some last ∧ last.Hands .modify next) :=
  forwarded_request_hooks (fun _ => true) .http 0 () _ 5 7 (by decide)

/-- Behind a plugin that returns `Modify`, an authentication that rejects every
request is not run, and both ingresses forward the request. -/
theorem authentication_bypassed :
    let plugins := [countingPlugin "rewrite" .modify,
      countingPlugin "auth" (.reject 401 "Unauthorized")]
    let run := executeRequestHooks 0 () plugins 5
    (∀ ingress : Ingress, ingress.verdict (fun _ => true) run = .forward 6) ∧
      run.calls.map (fun call => call.plugin.name) = ["rewrite"] ∧
      plugins.map Plugin.name = ["rewrite", "auth"] := by
  refine ⟨?_, rfl, rfl⟩
  rintro (_ | _) <;> rfl

end FerroTunnel.Plugins
