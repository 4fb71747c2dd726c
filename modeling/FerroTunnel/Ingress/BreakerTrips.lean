import FerroTunnel.Ingress.Serving
import FerroTunnel.Plugins.CircuitBreaker

/-!
# The circuit breaker behind the ingress

The breaker counts the responses that its response hook is shown.  It does not
ask to see response bodies, and the HTTP ingress runs no response hook at all
when no plugin asks for that.  So the breaker works only next to another plugin
that does.
-/

namespace FerroTunnel.Ingress

open FerroTunnel.Plugins
open FerroTunnel.Time
open FerroTunnel.Transition

variable {σ : Type}

/-- What the breaker keeps, and what the other plugins keep. -/
abbrev WithBreaker (σ : Type) := CircuitBreaker × σ

/-- The breaker's clock of whole seconds. -/
def Clocked.secs (world : Clocked σ) : Nat :=
  world.clock / nanosPerSec

/-- `CircuitBreakerPlugin`, which leaves `needs_response_body` as it is. -/
def circuitBreakerPlugin (config : CircuitBreakerConfig) : IngressPlugin (WithBreaker σ) where
  name := "circuit-breaker"
  onRequest _ world request :=
    let result := world.kept.1.onRequest config world.secs
    ({ world with kept := (result.1, world.kept.2) }, .finished request (.ok result.2))
  onResponse _ world response :=
    ({ world with
        kept := (world.kept.1.onResponse config world.secs response.status, world.kept.2) },
      .finished response (.ok .proceed))
  needsResponseBody := false

/-- A hook of another plugin, which reads the clock and keeps its own state only. -/
def besideHook {μ : Type} (run : Clocked σ → μ → Clocked σ × HookOutcome μ)
    (world : Clocked (WithBreaker σ)) (message : μ) : Clocked (WithBreaker σ) × HookOutcome μ :=
  let result := run ⟨world.clock, world.kept.2⟩ message
  ({ world with kept := (world.kept.1, result.1.kept) }, result.2)

/-- Another plugin. -/
def besideBreaker (plugin : IngressPlugin σ) : IngressPlugin (WithBreaker σ) where
  name := plugin.name
  onRequest ctx := besideHook (plugin.onRequest ctx)
  onResponse ctx := besideHook (plugin.onResponse ctx)
  needsResponseBody := plugin.needsResponseBody

/-- A list of plugins that contains the breaker. -/
def withBreaker (config : CircuitBreakerConfig) (earlier later : List (IngressPlugin σ)) :
    List (IngressPlugin (WithBreaker σ)) :=
  earlier.map besideBreaker ++ circuitBreakerPlugin config :: later.map besideBreaker

/-- Both hooks of the plugin always return `Continue`. -/
def Continues (plugin : IngressPlugin σ) : Prop :=
  (∀ ctx, AlwaysContinues (plugin.onRequest ctx)) ∧ ∀ ctx, AlwaysContinues (plugin.onResponse ctx)

/-! ## What the hooks do to the breaker -/

section Hooks

variable {μ : Type} {hook : String} {blank : μ} {config : CircuitBreakerConfig}
  {earlier later : List (IngressPlugin σ)} {world : Clocked (WithBreaker σ)}

theorem besideHook_continues {run : Clocked σ → μ → Clocked σ × HookOutcome μ}
    (continues : AlwaysContinues run) : AlwaysContinues (besideHook run) := by
  intro world message
  obtain ⟨after, next, runEq⟩ := continues ⟨world.clock, world.kept.2⟩ message
  refine ⟨⟨world.clock, (world.kept.1, after.kept)⟩, next, ?_⟩
  simp only [besideHook, runEq]

variable (hook : String) (blank : μ)
  (run : IngressPlugin (WithBreaker σ) → Clocked (WithBreaker σ) → μ →
    Clocked (WithBreaker σ) × HookOutcome μ)
  (beside : ∀ plugin, ∃ alone, run (besideBreaker plugin) = besideHook alone)

include beside

/-- The other plugins leave the breaker and the clock alone. -/
theorem executeHooks_beside (plugins : List (IngressPlugin σ)) (world : Clocked (WithBreaker σ))
    (message : μ) :
    (executeHooks hook StatefulPlugin.name run blank (plugins.map besideBreaker) world
        message).world.kept.1 = world.kept.1 ∧
      (executeHooks hook StatefulPlugin.name run blank (plugins.map besideBreaker) world
        message).world.clock = world.clock := by
  apply executeHooks_world
    (P := fun after : Clocked (WithBreaker σ) =>
      after.kept.1 = world.kept.1 ∧ after.clock = world.clock)
  · intro plugin member before message holds
    obtain ⟨other, -, rfl⟩ := List.mem_map.mp member
    obtain ⟨alone, runEq⟩ := beside other
    rw [runEq]
    exact holds
  · exact ⟨rfl, rfl⟩

/-- The chain comes to the breaker with the breaker and the clock as they were, and with
what the plugins before it leave of the message. -/
theorem executeHooks_withBreaker
    (continues : ∀ plugin ∈ earlier, AlwaysContinues (run (besideBreaker plugin))) (message : μ) :
    ∃ before : Clocked (WithBreaker σ), before.kept.1 = world.kept.1 ∧ before.clock = world.clock ∧
      executeHooks hook StatefulPlugin.name run blank (withBreaker config earlier later) world
          message =
        executeHooks hook StatefulPlugin.name run blank
          (circuitBreakerPlugin config :: later.map besideBreaker) before
          (executeHooks hook StatefulPlugin.name run blank (earlier.map besideBreaker) world
            message).message := by
  have first : (executeHooks hook StatefulPlugin.name run blank (earlier.map besideBreaker) world
      message).result = .ok .proceed := by
    apply executeHooks_of_continues
    intro plugin member
    obtain ⟨other, otherIn, rfl⟩ := List.mem_map.mp member
    exact continues other otherIn
  obtain ⟨breaker, clock⟩ := executeHooks_beside hook blank run beside earlier world message
  refine ⟨_, breaker, clock, ?_⟩
  rw [withBreaker, executeHooks_append]
  exact if_pos first

omit beside

/-- The response hooks show the breaker the status that the plugins before it leave. -/
theorem executeResponseHooks_withBreaker (config : CircuitBreakerConfig)
    (later : List (IngressPlugin σ)) (continues : ∀ plugin ∈ earlier, Continues plugin)
    (ctx : ResponseContext) (world : Clocked (WithBreaker σ)) (response : Response) :
    let seen := (executeResponseHooks (earlier.map besideBreaker) ctx world response).message
    let chain := executeResponseHooks (withBreaker config earlier later) ctx world response
    chain.world.kept.1 = world.kept.1.onResponse config world.secs seen.status ∧
      chain.world.clock = world.clock := by
  intro seen chain
  have beside (plugin : IngressPlugin σ) :
      ∃ alone, (besideBreaker plugin).onResponse ctx = besideHook alone :=
    ⟨plugin.onResponse ctx, rfl⟩
  obtain ⟨before, breaker, clock, chainEq⟩ := executeHooks_withBreaker "on_response" blankResponse
    (fun plugin => plugin.onResponse ctx) beside
    (fun plugin member => besideHook_continues ((continues plugin member).2 ctx)) response
  have rest := executeHooks_beside "on_response" blankResponse
    (fun plugin => plugin.onResponse ctx) beside later
    { before with kept := (before.kept.1.onResponse config before.secs seen.status, before.kept.2) }
    seen
  have same : chain = _ := chainEq
  have secs : world.secs = before.secs := by rw [Clocked.secs, Clocked.secs, clock]
  rw [same, secs, ← clock, ← breaker]
  exact rest

/-- The request hooks ask the breaker, and end with its rejection if it does not allow the
request. -/
theorem executeRequestHooksOn_withBreaker (config : CircuitBreakerConfig)
    (later : List (IngressPlugin σ)) (continues : ∀ plugin ∈ earlier, Continues plugin)
    (ctx : RequestContext) (world : Clocked (WithBreaker σ)) (request : RequestHead) :
    let chain :=
      executeRequestHooksOn blankRequest (withBreaker config earlier later) ctx world request
    chain.world.kept.1 = (world.kept.1.shouldAllow config world.secs).1 ∧
      chain.world.clock = world.clock ∧
      ((world.kept.1.shouldAllow config world.secs).2 = false → chain.result =
        .ok (.reject 503 "Service temporarily unavailable (circuit breaker open)")) := by
  intro chain
  have beside (plugin : IngressPlugin σ) :
      ∃ alone, (besideBreaker plugin).onRequest ctx = besideHook alone :=
    ⟨plugin.onRequest ctx, rfl⟩
  obtain ⟨before, breaker, clock, chainEq⟩ := executeHooks_withBreaker "on_request" blankRequest
    (fun plugin => plugin.onRequest ctx) beside
    (fun plugin member => besideHook_continues ((continues plugin member).1 ctx)) request
  have same : chain = _ := chainEq
  have secs : world.secs = before.secs := by rw [Clocked.secs, Clocked.secs, clock]
  rw [same, secs, ← clock, ← breaker]
  rcases allowEq : before.kept.1.shouldAllow config before.secs with ⟨after, allowed⟩
  cases allowed with
  | false =>
      simp only [executeHooks, circuitBreakerPlugin, CircuitBreaker.onRequest, allowEq]
      simp
  | true =>
      simp only [executeHooks, circuitBreakerPlugin, CircuitBreaker.onRequest, allowEq]
      obtain ⟨kept, ticks⟩ := executeHooks_beside "on_request" blankRequest
        (fun plugin => plugin.onRequest ctx) beside later
        { before with kept := (after, before.kept.2) }
        (executeHooks "on_request" StatefulPlugin.name (fun plugin => plugin.onRequest ctx)
          blankRequest (earlier.map besideBreaker) world request).message
      exact ⟨kept, ticks, fun rejected => by cases rejected⟩

end Hooks

/-! ## Requests and responses -/

section Serving

variable {validHeader : String × String → Bool} {ingress : IngressConfig}
  {config : CircuitBreakerConfig} {earlier later : List (IngressPlugin σ)}
  {world : Clocked (WithBreaker σ)}

/-- A request that reaches the hooks asks the breaker. -/
theorem beginRequest_withBreaker (validHeader : String × String → Bool)
    (config : CircuitBreakerConfig) (later : List (IngressPlugin σ))
    (continues : ∀ plugin ∈ earlier, Continues plugin) (world : Clocked (WithBreaker σ))
    (arrival : Arrival) :
    let begun := beginRequest validHeader (withBreaker config earlier later) world arrival
    (begun.1.kept.1 = world.kept.1 ∨
        begun.1.kept.1 = (world.kept.1.shouldAllow config world.secs).1) ∧
      begun.1.clock = world.clock := by
  intro begun
  simp only [begun, beginRequest]
  split
  · exact ⟨.inl rfl, rfl⟩
  · split
    · exact ⟨.inl rfl, rfl⟩
    · rename_i tunnelId _
      obtain ⟨breaker, clock, -⟩ := executeRequestHooksOn_withBreaker config later continues
        ⟨tunnelId, arrival.sessionId, arrival.remoteAddr, world.clock⟩ world arrival.head
      split
      · exact ⟨.inr breaker, clock⟩
      · exact ⟨.inr breaker, clock⟩

/-- A request that the breaker does not allow is answered with a 503. -/
theorem beginRequest_of_rejected (continues : ∀ plugin ∈ earlier, Continues plugin)
    {arrival : Arrival} {tunnelId : String} (served : arrival.head.path ≠ "/health")
    (host : parseAndNormalizeHost (arrival.head.headers.get "host") = .ok tunnelId)
    (rejected : (world.kept.1.shouldAllow config world.secs).2 = false) :
    (beginRequest validHeader (withBreaker config earlier later) world arrival).2 =
      .error (fullResponse 503 "Service temporarily unavailable (circuit breaker open)") := by
  obtain ⟨-, -, answered⟩ := executeRequestHooksOn_withBreaker config later continues
    ⟨tunnelId, arrival.sessionId, arrival.remoteAddr, world.clock⟩ world arrival.head
  have result := answered rejected
  simp only [beginRequest, if_neg served, host, handleRequest, verdict, result]
  rfl

/-- The response is one that the ingress runs response hooks on, when it runs any, and the
plugins before the breaker leave it with a failure status. -/
def ReachesBreaker (ingress : IngressConfig) (config : CircuitBreakerConfig)
    (earlier : List (IngressPlugin σ)) (world : Clocked (WithBreaker σ)) (exchange : Exchange)
    (upstream : UpstreamResponse) : Prop :=
  isGrpc exchange.head.headers = false ∧ ¬ (exchange.isWs = true ∧ upstream.status = 101) ∧
    Collectable ingress.maxResponseSize upstream.events ∧
    CircuitBreaker.isFailureStatus config
      (executeResponseHooks (earlier.map besideBreaker)
        (exchange.responseContext world.clock upstream.status) world
        ⟨upstream.status, upstream.headers, bodyBytes upstream.events⟩).message.status = true

instance (ingress : IngressConfig) (config : CircuitBreakerConfig)
    (earlier : List (IngressPlugin σ)) (world : Clocked (WithBreaker σ)) (exchange : Exchange)
    (upstream : UpstreamResponse) :
    Decidable (ReachesBreaker ingress config earlier world exchange upstream) :=
  inferInstanceAs (Decidable (_ ∧ _ ∧ _ ∧ _))

/-- The breaker is shown a response, or not. -/
theorem finishRequest_withBreaker (validHeader : String × String → Bool)
    (ingress : IngressConfig) (config : CircuitBreakerConfig) (later : List (IngressPlugin σ))
    (continues : ∀ plugin ∈ earlier, Continues plugin) (world : Clocked (WithBreaker σ))
    (exchange : Exchange) (upstream : UpstreamResponse) :
    let finished := finishRequest validHeader ingress (withBreaker config earlier later) world
      exchange upstream
    (finished.1.kept.1 = world.kept.1 ∨
        ∃ status, finished.1.kept.1 = world.kept.1.onResponse config world.secs status) ∧
      finished.1.clock = world.clock := by
  intro finished
  simp only [finished, finishRequest, handleUpstreamResponse]
  split
  · exact ⟨.inl rfl, rfl⟩
  · split
    · exact ⟨.inl rfl, rfl⟩
    · split
      · exact ⟨.inl rfl, rfl⟩
      · split
        · exact ⟨.inl rfl, rfl⟩
        · rename_i body _
          obtain ⟨breaker, clock⟩ := executeResponseHooks_withBreaker config later continues
            (exchange.responseContext world.clock upstream.status) world
            ⟨upstream.status, upstream.headers, body⟩
          exact ⟨.inr ⟨_, breaker⟩, clock⟩

/-- A failure that reaches the breaker is recorded. -/
theorem finishRequest_of_reaches (validHeader : String × String → Bool)
    (continues : ∀ plugin ∈ earlier, Continues plugin)
    (buffers : needsResponseBuffering (withBreaker config earlier later) = true)
    {exchange : Exchange} {upstream : UpstreamResponse}
    (reaches : ReachesBreaker ingress config earlier world exchange upstream) :
    let finished := finishRequest validHeader ingress (withBreaker config earlier later) world
      exchange upstream
    finished.1.kept.1 = world.kept.1.recordFailure config world.secs ∧
      finished.1.clock = world.clock := by
  obtain ⟨plain, stays, collectable, failing⟩ := reaches
  obtain ⟨breaker, clock⟩ := executeResponseHooks_withBreaker config later continues
    (exchange.responseContext world.clock upstream.status) world
    ⟨upstream.status, upstream.headers, bodyBytes upstream.events⟩
  simp only [CircuitBreaker.onResponse, failing, if_true] at breaker
  simp only [finishRequest, handleUpstreamResponse, plain, buffers, if_neg stays,
    collectBodyWithLimit_of_collectable collectable]
  exact ⟨breaker, clock⟩

/-- Without a plugin that asks for bodies, the breaker sees nothing. -/
theorem finishRequest_of_unbuffered (validHeader : String × String → Bool)
    (ingress : IngressConfig) (world : Clocked (WithBreaker σ))
    {plugins : List (IngressPlugin (WithBreaker σ))}
    (streams : needsResponseBuffering plugins = false) (exchange : Exchange)
    (upstream : UpstreamResponse) :
    (finishRequest validHeader ingress plugins world exchange upstream).1 = world := by
  simp only [finishRequest, handleUpstreamResponse, streams]
  split
  · rfl
  · split
    · rfl
    · rfl

/-! ## Runs -/

variable {serving next : Serving (WithBreaker σ)}

/-- The breaker of the ingress. -/
def Serving.breaker (serving : Serving (WithBreaker σ)) : CircuitBreaker :=
  serving.world.kept.1

/-- The guard of a run in which every response reaches the breaker as a failure. -/
def EachReachesBreaker (ingress : IngressConfig) (config : CircuitBreakerConfig)
    (earlier : List (IngressPlugin σ)) (serving : Serving (WithBreaker σ)) : ServingAction → Prop
  | .response k upstream =>
      ∀ exchange ∈ serving.exchanges[k]?,
        ReachesBreaker ingress config earlier serving.world exchange upstream
  | _ => True

instance (ingress : IngressConfig) (config : CircuitBreakerConfig)
    (earlier : List (IngressPlugin σ)) (serving : Serving (WithBreaker σ)) :
    (action : ServingAction) →
      Decidable (EachReachesBreaker ingress config earlier serving action)
  | .response k upstream => inferInstanceAs (Decidable (∀ exchange ∈ serving.exchanges[k]?,
      ReachesBreaker ingress config earlier serving.world exchange upstream))
  | .wait _ | .request _ => isTrue trivial

/-- A request keeps what the breaker has counted. -/
theorem counts_request (validHeader : String × String → Bool) (later : List (IngressPlugin σ))
    (continues : ∀ plugin ∈ earlier, Continues plugin) {failures : Nat}
    (counts : world.kept.1.Counts config failures) (arrival : Arrival) :
    (beginRequest validHeader (withBreaker config earlier later) world
      arrival).1.kept.1.Counts config failures := by
  obtain ⟨same | asked, -⟩ :=
    beginRequest_withBreaker validHeader config later continues world arrival
  · rw [same]
    exact counts
  · rw [asked]
    exact counts.shouldAllow world.secs

variable {actions : List ServingAction}

/-- In every state that is reached, a closed breaker has not counted too many failures. -/
theorem counts_run (positive : 1 ≤ config.failureThreshold)
    (continues : ∀ plugin ∈ earlier, Continues plugin) {others : σ}
    (run : exec (Serving.step validHeader ingress (withBreaker config earlier later))
      (.initial (.new, others)) actions = some serving) : serving.breaker.Counts config 0 := by
  refine @exec_invariant _ _ _ _ (fun serving => serving.breaker.Counts config 0) _ ?_ _
    (CircuitBreaker.Counts.new positive) run
  intro state action after counts stepEq
  cases action with
  | wait nanos =>
      cases stepEq
      exact counts
  | request arrival =>
      cases stepEq
      exact counts_request validHeader later continues counts arrival
  | response k upstream =>
      obtain ⟨exchange, -, rfl⟩ := Option.map_eq_some_iff.mp stepEq
      obtain ⟨same | ⟨status, shown⟩, -⟩ := finishRequest_withBreaker validHeader ingress config
        later continues state.world exchange upstream
      · rw [Serving.breaker, same]
        exact counts
      · rw [Serving.breaker, shown, CircuitBreaker.onResponse]
        split
        · intro closed
          exact ⟨Nat.zero_le _, ((counts.recordFailure state.world.secs).1 closed).2⟩
        · exact CircuitBreaker.Counts.recordSuccess positive

/-- A run in which every response reaches the breaker as a failure adds their number to what
the breaker has counted. -/
theorem counts_streak (continues : ∀ plugin ∈ earlier, Continues plugin)
    (buffers : needsResponseBuffering (withBreaker config earlier later) = true) {failures : Nat}
    (counts : serving.breaker.Counts config failures)
    (reaches : Meets (Serving.step validHeader ingress (withBreaker config earlier later))
      (EachReachesBreaker ingress config earlier) serving actions)
    (run : exec (Serving.step validHeader ingress (withBreaker config earlier later)) serving
      actions = some next) :
    next.breaker.Counts config
      (failures + (actions.filterMap ServingAction.upstream?).length) := by
  induction actions generalizing serving failures with
  | nil =>
      cases run
      exact counts
  | cons action rest ih =>
      obtain ⟨middle, stepEq, restRun⟩ := exec_cons_eq_some_iff.mp run
      have restReaches := reaches.2 middle stepEq
      cases action with
      | wait nanos =>
          cases stepEq
          apply ih _ restReaches restRun
          exact counts
      | request arrival =>
          cases stepEq
          apply ih _ restReaches restRun
          exact counts_request validHeader later continues counts arrival
      | response k upstream =>
          obtain ⟨exchange, exchangeAt, same⟩ := Option.map_eq_some_iff.mp stepEq
          obtain ⟨recorded, -⟩ := finishRequest_of_reaches validHeader continues buffers
            (reaches.1 exchange exchangeAt)
          have counted : middle.breaker.Counts config (failures + 1) := by
            rw [← same, Serving.breaker, recorded]
            exact (counts.recordFailure serving.world.secs).1
          have summed := ih counted restReaches restRun
          rw [Nat.add_assoc, Nat.add_comm 1] at summed
          exact summed

/-- Without a plugin that asks for bodies, the breaker stays as it was made. -/
theorem untouched_run (continues : ∀ plugin ∈ earlier, Continues plugin)
    (streams : needsResponseBuffering (withBreaker config earlier later) = false) {others : σ}
    (run : exec (Serving.step validHeader ingress (withBreaker config earlier later))
      (.initial (.new, others)) actions = some serving) : serving.breaker = .new := by
  refine @exec_invariant _ _ _ _ (fun serving => serving.breaker = .new) _ ?_ _ rfl run
  intro state action after untouched stepEq
  cases action with
  | wait nanos =>
      cases stepEq
      exact untouched
  | request arrival =>
      cases stepEq
      obtain ⟨same | asked, -⟩ :=
        beginRequest_withBreaker validHeader config later continues state.world arrival
      · exact same.trans untouched
      · rw [Serving.breaker] at untouched
        rw [untouched] at asked
        exact asked
  | response k upstream =>
      obtain ⟨exchange, -, rfl⟩ := Option.map_eq_some_iff.mp stepEq
      rw [Serving.breaker, finishRequest_of_unbuffered validHeader ingress _ streams]
      exact untouched

/-- As many responses with a failure status as open the breaker, the last of them at the
end, with requests in between. -/
structure FailureStreak (config : CircuitBreakerConfig) (front : List ServingAction)
    (last : UpstreamResponse) : Prop where
  length : (front.filterMap ServingAction.upstream?).length + 1 = config.failureThreshold.toNat
  failing : ∀ upstream ∈ last :: front.filterMap ServingAction.upstream?,
    CircuitBreaker.isFailureStatus config upstream.status = true

/-- After a streak of failures that reach it, the breaker is open since the last of them. -/
theorem opened_streak (continues : ∀ plugin ∈ earlier, Continues plugin)
    (buffers : needsResponseBuffering (withBreaker config earlier later) = true)
    {front : List ServingAction} {k : Nat} {last : UpstreamResponse}
    (counts : serving.breaker.Counts config 0) (streak : FailureStreak config front last)
    (reaches : Meets (Serving.step validHeader ingress (withBreaker config earlier later))
      (EachReachesBreaker ingress config earlier) serving (front ++ [.response k last]))
    (run : exec (Serving.step validHeader ingress (withBreaker config earlier later)) serving
      (front ++ [.response k last]) = some next) :
    next.breaker.state = .opened ∧ next.breaker.lastFailureTime = next.world.secs := by
  rw [exec_append] at run
  obtain ⟨middle, frontRun, lastRun⟩ := Option.bind_eq_some_iff.mp run
  obtain ⟨final, stepEq, same⟩ := exec_cons_eq_some_iff.mp lastRun
  cases same
  obtain ⟨exchange, exchangeAt, rfl⟩ := Option.map_eq_some_iff.mp stepEq
  have counted := counts_streak continues buffers counts reaches.append_left frontRun
  obtain ⟨recorded, clock⟩ := finishRequest_of_reaches validHeader continues buffers
    ((reaches.of_append frontRun).1 exchange exchangeAt)
  obtain ⟨full, notHalf⟩ := counted.recordFailure middle.world.secs
  have secs : (finishRequest validHeader ingress (withBreaker config earlier later) middle.world
      exchange last).1.secs = middle.world.secs := by
    rw [Clocked.secs, clock, Clocked.secs]
  rw [Nat.zero_add, streak.length] at full
  rw [Serving.breaker, recorded, secs]
  constructor
  · cases state : (middle.world.kept.1.recordFailure config middle.world.secs).state with
    | opened => rfl
    | halfOpen => exact absurd state notHalf
    | closed =>
        obtain ⟨reached, below⟩ := full state
        exact absurd (UInt32.lt_iff_toNat_lt.mp below) (Nat.not_lt.mpr reached)
  · exact CircuitBreaker.lastFailureTime_recordFailure ..

end Serving

/-- For every list of plugins that contains the breaker and in which the others always
continue, every run of the ingress up to a state in which the breaker is closed, and
every streak of failures from there that reach the breaker: the breaker is then open,
and a request that reaches the hooks before the whole seconds of `open_duration` are
over is answered with a 503 and not forwarded, if and only if some plugin asks to see
response bodies. -/
theorem breaker_trips_iff (validHeader : String × String → Bool) (ingress : IngressConfig)
    (config : CircuitBreakerConfig) (positive : 1 ≤ config.failureThreshold)
    (earlier later : List (IngressPlugin σ))
    (continues : ∀ plugin ∈ earlier ++ later, Continues plugin) (others : σ)
    (history front : List ServingAction) (k : Nat) (last : UpstreamResponse)
    (before after : Serving (WithBreaker σ))
    (reached : exec (Serving.step validHeader ingress (withBreaker config earlier later))
      (.initial (.new, others)) history = some before)
    (streak : FailureStreak config front last)
    (served : exec (Serving.step validHeader ingress (withBreaker config earlier later)) before
      (front ++ [.response k last]) = some after)
    (reaches : Meets (Serving.step validHeader ingress (withBreaker config earlier later))
      (EachReachesBreaker ingress config earlier) before (front ++ [.response k last]))
    (wait : Nat) (arrival : Arrival) (tunnelId : String)
    (path : arrival.head.path ≠ "/health")
    (host : parseAndNormalizeHost (arrival.head.headers.get "host") = .ok tunnelId)
    (within : (after.world.wait wait).secs - after.world.secs < config.openDuration.asSecs) :
    (after.breaker.state = .opened ∧
      (beginRequest validHeader (withBreaker config earlier later) (after.world.wait wait)
        arrival).2 =
        .error (fullResponse 503 "Service temporarily unavailable (circuit breaker open)")) ↔
    needsResponseBuffering (withBreaker config earlier later) = true := by
  have first : ∀ plugin ∈ earlier, Continues plugin :=
    fun plugin member => continues plugin (List.mem_append_left later member)
  constructor
  · rintro ⟨opened, -⟩
    by_contra streams
    have run : exec (Serving.step validHeader ingress (withBreaker config earlier later))
        (.initial (.new, others)) (history ++ (front ++ [.response k last])) = some after := by
      rw [exec_append, reached]
      exact served
    rw [untouched_run first (Bool.eq_false_of_not_eq_true streams) run] at opened
    cases opened
  · intro buffers
    obtain ⟨opened, since⟩ := opened_streak first buffers (counts_run positive first reached)
      streak reaches served
    constructor
    · exact opened
    · apply beginRequest_of_rejected first path host
      have waiting : CircuitBreaker.elapsed config (after.world.wait wait).secs
          after.breaker.lastFailureTime = false := by
        rw [CircuitBreaker.elapsed, since]
        exact decide_eq_false (Nat.not_le.mpr within)
      change (after.breaker.shouldAllow config (after.world.wait wait).secs).2 = false
      rw [CircuitBreaker.shouldAllow, opened]
      simp only [waiting]
      rfl

/-- A plugin that asks to see response bodies and does nothing. -/
def bodyObserver : IngressPlugin Unit where
  name := "observer"
  onRequest _ world request := (world, .finished request (.ok .proceed))
  onResponse _ world response := (world, .finished response (.ok .proceed))
  needsResponseBody := true

/-- One failure opens the breaker for ten seconds. -/
def touchyConfig : CircuitBreakerConfig :=
  ⟨1, .fromSecs 10, 1, [500]⟩

/-- An ordinary request. -/
def getApp : Arrival :=
  ⟨⟨"GET", "/", [("host", "app")]⟩, "s", "127.0.0.1:9"⟩

/-- The ingress with the given plugins besides the breaker, after a request and its failed
response. -/
def afterFailure (later : List (IngressPlugin Unit)) : Option (Serving (WithBreaker Unit)) :=
  exec (Serving.step (fun _ => true) ⟨1000, none⟩ (withBreaker touchyConfig [] later))
    (.initial (.new, ())) [.request getApp, .response 0 ⟨500, [], []⟩]

theorem breaker_trips_iff_observed :
    ∃ after, afterFailure [bodyObserver] = some after ∧ after.breaker.state = .opened ∧
      (beginRequest (fun _ => true) (withBreaker touchyConfig [] [bodyObserver])
        (after.world.wait 5000000000) getApp).2 =
          .error (fullResponse 503 "Service temporarily unavailable (circuit breaker open)") := by
  have continues : ∀ plugin ∈ [] ++ [bodyObserver], Continues plugin := by
    intro plugin member
    rw [List.mem_singleton.mp member]
    exact ⟨fun _ world request => ⟨world, request, rfl⟩,
      fun _ world response => ⟨world, response, rfl⟩⟩
  have streak : FailureStreak touchyConfig [] ⟨500, [], []⟩ := ⟨rfl, by decide⟩
  refine ⟨_, rfl, ?_⟩
  exact (breaker_trips_iff (fun _ => true) ⟨1000, none⟩ touchyConfig (by decide) []
    [bodyObserver] continues () [.request getApp] [] 0 ⟨500, [], []⟩ _ _ rfl streak rfl
    (by decide +kernel) 5000000000 getApp "app" (by decide) (by decide) (by decide)).mpr (by decide)

/-- The breaker alone lets the next request through. -/
theorem lonely_breaker_stays_closed :
    ∃ after, afterFailure [] = some after ∧ after.breaker.state = .closed ∧
      ∃ exchange, (beginRequest (fun _ => true) (withBreaker touchyConfig [] [])
        (after.world.wait 5000000000) getApp).2 = .ok exchange := by
  refine ⟨_, rfl, rfl, _, rfl⟩

end FerroTunnel.Ingress
