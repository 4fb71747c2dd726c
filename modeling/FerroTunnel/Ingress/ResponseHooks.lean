import FerroTunnel.Ingress.Headers
import FerroTunnel.Ingress.ResponseBody
import FerroTunnel.Plugins.Registry
import Mathlib.Data.List.TakeWhile

/-!
# Response hooks on the two ingresses

When a plugin wants to see response bodies, both ingresses collect the body of
an upstream response and run the response hooks on it.  The HTTP ingress then
sends what the hooks decided.  The HTTP/3 ingress sends what the hooks left
behind, whatever they decided.  The HTTP ingress runs no response hooks for gRPC
and for protocol switches.
-/

namespace FerroTunnel.Ingress

open FerroTunnel.Plugins
open FerroTunnel.Wire

variable {σ ρ κ η : Type}

/-- A response of the upstream as it arrives. -/
structure UpstreamResponse where
  status : UInt16
  headers : HeaderMap
  events : List BodyEvent
deriving DecidableEq

/-- The parts of the configuration that response handling reads. -/
structure IngressConfig where
  maxResponseSize : Nat
  altSvcHeader : Option HeaderValue

/-- Advertise HTTP/3. -/
def withAltSvcHeader (config : IngressConfig) (response : Response) : Response :=
  match config.altSvcHeader with
  | some value =>
      { response with headers := HeaderMap.insert response.headers "alt-svc" value }
  | none => response

/-- The bytes that are passed on of a body that is not collected. -/
def streamedBytes (events : List BodyEvent) : Bytes :=
  bodyBytes (events.takeWhile BodyEvent.isFrame)

/-- Pass a response on without collecting its body. -/
def streamResponse (config : IngressConfig) (upstream : UpstreamResponse) : Response :=
  withAltSvcHeader config
    ⟨upstream.status, upstream.headers, streamedBytes upstream.events⟩

/-- What the HTTP ingress sends after the response hooks. -/
def answerHooks (validHeader : String × String → Bool) (config : IngressConfig)
    (result : Except String PluginAction) (message : Response) : Response :=
  match result with
  | .ok .proceed | .ok .modify => withAltSvcHeader config message
  | .ok (.reject status reason) => fullResponse (statusOr status 403) reason
  | .ok (.respond status headers body) =>
      if headers.all validHeader then
        ⟨statusOr status 200, headers, body⟩
      else
        fullResponse 500 "Failed to build plugin response"
  | .error _ => fullResponse 500 "Plugin processing error"

/-- The HTTP ingress after the upstream has answered a request that is for gRPC, or
asks for a WebSocket. -/
def handleUpstreamResponse (validHeader : String × String → Bool) (config : IngressConfig)
    (plugins : List (StatefulPlugin σ ρ κ η)) (ctx : η) (world : σ) (isGrpc isWs : Bool)
    (upstream : UpstreamResponse) : σ × Response :=
  if isGrpc then
    (world, streamResponse config upstream)
  else if isWs ∧ upstream.status = 101 then
    (world, ⟨101, upstream.headers, []⟩)
  else if !needsResponseBuffering plugins then
    (world, streamResponse config upstream)
  else
    match collectBodyWithLimit config.maxResponseSize upstream.events with
    | .error error => (world, fullResponse error.status error.message)
    | .ok body =>
        let hooks :=
          executeResponseHooks plugins ctx world ⟨upstream.status, upstream.headers, body⟩
        (hooks.world, answerHooks validHeader config hooks.result hooks.message)

/-- The HTTP/3 ingress after the upstream has answered, when a plugin wants to see
the body. -/
def sendBufferedResponse (maxResponseSize : Nat) (plugins : List (StatefulPlugin σ ρ κ η))
    (ctx : η) (world : σ) (upstream : UpstreamResponse) : σ × Except String Response :=
  match collectUpstreamBody maxResponseSize upstream.events with
  | .error error => (world, .error error)
  | .ok body =>
      let hooks :=
        executeResponseHooks plugins ctx world ⟨upstream.status, upstream.headers, body⟩
      (hooks.world, .ok { hooks.message with
        headers := stripHopByHopHeaders hooks.message.headers })

/-! ## What the hooks decide -/

/-- The status and the body of a response. -/
def shown (response : Response) : UInt16 × Bytes :=
  (response.status, response.body)

/-- The status and the body that the hooks decide on: a decision replaces the
response of the upstream, and an error becomes a 500. -/
def decided (validHeader : String × String → Bool) (result : Except String PluginAction)
    (message : Response) : UInt16 × Bytes :=
  match result with
  | .ok .proceed | .ok .modify => shown message
  | .ok (.reject status reason) => (statusOr status 403, reason.toUTF8.toList)
  | .ok (.respond status headers body) =>
      if headers.all validHeader then
        (statusOr status 200, body)
      else
        (500, "Failed to build plugin response".toUTF8.toList)
  | .error _ => (500, "Plugin processing error".toUTF8.toList)

@[simp]
theorem shown_withAltSvcHeader (config : IngressConfig) (response : Response) :
    shown (withAltSvcHeader config response) = shown response := by
  unfold withAltSvcHeader
  split <;> rfl

/-- The HTTP ingress sends what the hooks decide on. -/
theorem shown_answerHooks (validHeader : String × String → Bool) (config : IngressConfig)
    (result : Except String PluginAction) (message : Response) :
    shown (answerHooks validHeader config result message) =
      decided validHeader result message := by
  rcases result with error | _ | ⟨status, reason⟩ | _ | ⟨status, headers, body⟩
  · rfl
  · exact shown_withAltSvcHeader config message
  · rfl
  · exact shown_withAltSvcHeader config message
  · simp only [answerHooks, decided]
    split <;> rfl

/-- What the HTTP ingress sends without running response hooks. -/
def bypassed (isGrpc isWs : Bool) (upstream : UpstreamResponse) : Option (UInt16 × Bytes) :=
  if isGrpc then
    some (upstream.status, bodyBytes upstream.events)
  else if isWs ∧ upstream.status = 101 then
    some (101, [])
  else
    none

/-- A hook that stops the chain with `Modify`, or with a decision whose status and
body are those of the response it leaves.  Where the HTTP ingress bypasses the
hooks, that response has to be the one it sends. -/
def Carries (validHeader : String × String → Bool) (bypass : Option (UInt16 × Bytes)) :
    HookOutcome Response → Prop
  | .finished left (.ok action) =>
      decided validHeader (.ok action) left = shown left ∧ ∀ sent ∈ bypass, shown left = sent
  | _ => False

/-! ## Agreement -/

/-- The HTTP ingress sends what bypasses the hooks, or else what they decide on. -/
theorem shown_handleUpstreamResponse {validHeader : String × String → Bool}
    {config : IngressConfig} {plugins : List (StatefulPlugin σ ρ κ η)} {ctx : η} {world : σ}
    {isGrpc isWs : Bool} {upstream : UpstreamResponse}
    (buffers : needsResponseBuffering plugins = true)
    (within : Collectable config.maxResponseSize upstream.events) :
    let hooks := executeResponseHooks plugins ctx world
      ⟨upstream.status, upstream.headers, bodyBytes upstream.events⟩
    shown (handleUpstreamResponse validHeader config plugins ctx world isGrpc isWs upstream).2 =
      (bypassed isGrpc isWs upstream).getD (decided validHeader hooks.result hooks.message) := by
  intro hooks
  have arrived : upstream.events.takeWhile BodyEvent.isFrame = upstream.events :=
    List.takeWhile_eq_self_iff.mpr (List.all_eq_true.mp within.1)
  unfold handleUpstreamResponse bypassed
  split
  · rw [streamResponse, shown_withAltSvcHeader, streamedBytes, arrived]
    rfl
  · split
    · rfl
    · rw [buffers, collectBodyWithLimit_of_collectable within]
      exact shown_answerHooks validHeader config hooks.result hooks.message

/-- The HTTP/3 ingress sends what the hooks leave behind. -/
theorem shown_sendBufferedResponse {maxResponseSize : Nat}
    {plugins : List (StatefulPlugin σ ρ κ η)} {ctx : η} {world : σ} {upstream : UpstreamResponse}
    (within : Collectable maxResponseSize upstream.events) :
    (sendBufferedResponse maxResponseSize plugins ctx world upstream).2.map shown =
      .ok (shown (executeResponseHooks plugins ctx world
        ⟨upstream.status, upstream.headers, bodyBytes upstream.events⟩).message) := by
  rw [sendBufferedResponse, collectUpstreamBody_of_collectable within]
  rfl

/-- For every list of plugins one of which wants to see bodies, and every upstream
response within the limit: both ingresses send the status and the body that the
response hooks decide on if and only if the chain of hooks ends with `Continue`
or `Modify`, or with a decision that says what the response already is, and
leaves what the HTTP ingress sends where that one bypasses the hooks. -/
theorem response_hooks_honoured_iff (validHeader : String × String → Bool)
    (config : IngressConfig) (plugins : List (StatefulPlugin σ ρ κ η)) (ctx : η) (world : σ)
    (isGrpc isWs : Bool) (upstream : UpstreamResponse)
    (buffers : needsResponseBuffering plugins = true)
    (within : Collectable config.maxResponseSize upstream.events) :
    let response : Response := ⟨upstream.status, upstream.headers, bodyBytes upstream.events⟩
    let hooks := executeResponseHooks plugins ctx world response
    let decision := decided validHeader hooks.result hooks.message
    (shown (handleUpstreamResponse validHeader config plugins ctx world isGrpc isWs upstream).2 =
        decision ∧
      (sendBufferedResponse config.maxResponseSize plugins ctx world upstream).2.map shown =
        .ok decision) ↔
      Ends (fun plugin => plugin.onResponse ctx)
        (Carries validHeader (bypassed isGrpc isWs upstream))
        (fun left => ∀ sent ∈ bypassed isGrpc isWs upstream, shown left = sent)
        plugins world response := by
  intro response hooks decision
  rw [shown_handleUpstreamResponse buffers within, shown_sendBufferedResponse within,
    Except.ok.injEq]
  have split : ((bypassed isGrpc isWs upstream).getD decision = decision ∧
        shown hooks.message = decision) ↔
      decision = shown hooks.message ∧
        ∀ sent ∈ bypassed isGrpc isWs upstream, shown hooks.message = sent := by
    cases bypassed isGrpc isWs upstream with
    | none => simp [eq_comm]
    | some sent =>
        simp only [Option.getD_some, Option.mem_def, Option.some.injEq, forall_eq']
        constructor
        · rintro ⟨rfl, left⟩
          exact ⟨left.symm, left⟩
        · rintro ⟨same, left⟩
          exact ⟨left.symm.trans same.symm, same.symm⟩
  rw [split]
  apply executeHooks_iff_ends
    (P := fun result message => decided validHeader result message = shown message ∧
      ∀ sent ∈ bypassed isGrpc isWs upstream, shown message = sent)
  · intro message
    simp [decided]
  · intro action message _
    rfl
  · intro message error
    simp [decided, shown, blankResponse, Carries]
  · intro error
    simp [decided, shown, blankResponse, Carries]
  · intro text error
    simp [decided, shown, blankResponse, Carries]

/-- A plugin that wants to see bodies, and whose response hook ends as given. -/
def inspector (outcome : Response → HookOutcome Response) :
    StatefulPlugin Unit Unit Unit Unit where
  name := "inspector"
  onRequest _ world request := (world, .finished request (.ok .proceed))
  onResponse _ world response := (world, outcome response)
  needsResponseBody := true

/-- A response of three bytes. -/
def threeBytes : UpstreamResponse :=
  ⟨200, [("content-type", "text/plain")], [.data [1, 2], .data [3]]⟩

theorem response_hooks_honoured_iff_redacted :
    let redactor := inspector fun response => .finished { response with body := [] } (.ok .modify)
    shown (handleUpstreamResponse (fun _ => true) ⟨3, none⟩ [redactor] () () false false
      threeBytes).2 = (200, []) ∧
    (sendBufferedResponse 3 [redactor] () () threeBytes).2.map shown = .ok (200, []) :=
  (response_hooks_honoured_iff (fun _ => true) ⟨3, none⟩
    [inspector fun response => .finished { response with body := [] } (.ok .modify)] () () false
    false threeBytes (by decide) (by decide)).mpr ⟨rfl, nofun⟩

/-- A rejected response and one whose hook panics: the HTTP ingress sends the
rejection and a 500, and the HTTP/3 ingress sends the response of the upstream
and an empty 200. -/
theorem decisions_dropped :
    let rejecter := inspector fun response => .finished response (.ok (.reject 451 "no"))
    let crasher := inspector fun _ => .panicked
    shown (handleUpstreamResponse (fun _ => true) ⟨3, none⟩ [rejecter] () () false false
      threeBytes).2 = (451, [110, 111]) ∧
    (sendBufferedResponse 3 [rejecter] () () threeBytes).2.map shown = .ok (200, [1, 2, 3]) ∧
    (shown (handleUpstreamResponse (fun _ => true) ⟨3, none⟩ [crasher] () () false false
      threeBytes).2).1 = 500 ∧
    (sendBufferedResponse 3 [crasher] () () threeBytes).2.map shown = .ok (200, []) := by
  refine ⟨?_, ?_, ?_, ?_⟩
  · decide +kernel
  · rfl
  · rfl
  · rfl

end FerroTunnel.Ingress
