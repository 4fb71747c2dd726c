import FerroTunnel.Ingress.Gateway
import FerroTunnel.Tunnel.Registration

/-!
# Requests stay in their tunnel

A stream is opened for a request only over the multiplexer of a session that was
registered under the tunnel id of the request, whatever the hooks do to the
request and however the calls on the store are interleaved with the lookup.
The tunnel id is the one of the host that the request came with: a hook that
changes the `Host` header does not send the request elsewhere.
-/

namespace FerroTunnel.Ingress

open FerroTunnel.Plugins
open FerroTunnel.Transition
open FerroTunnel.Tunnel
open FerroTunnel.Wire

variable {σ μ : Type}

/-! ## Steps of one request -/

/-- The request that is forwarded for a pending one. -/
def Pending.Forwards (setup : Setup σ) (pending : Pending) (forward : HttpRequest) : Prop :=
  let isGrpc := isGrpc pending.request.headers
  match pending.ingress with
  | .http =>
      contentLengthExceeds pending.request.headers (setup.config .http).maxRequestBodySize = false ∧
        forward = forwardRequest setup.parseUri pending.isWs isGrpc pending.request
  | .http3 => buildForwardRequest setup.parseUri pending.request pending.host isGrpc = .ok forward

/-- The request has opened its stream, or will not open one. -/
def RequestTask.isPast : RequestTask μ → Bool
  | .routing _ _ | .opening _ _ _ _ _ => false
  | _ => true

/-- What one step of a request can do, with the stream it opens. -/
inductive TaskStep (setup : Setup σ) (calls : List (Call μ)) (k : Nat) :
    RequestTask μ → RequestTask μ → Option (OpenedStream μ) → Prop
  | route {pending call tunnelId session multiplexer forward}
      (looked : calls[call]? = some (.getByTunnelIdReturned tunnelId (some session)))
      (ready : session.multiplexer = some multiplexer)
      (forwards : pending.Forwards setup forward) :
      TaskStep setup calls k (.routing pending call)
        (.opening pending multiplexer pending.protocol (isGrpc pending.request.headers) forward)
        none
  | opened {pending multiplexer protocol isGrpc forward} :
      TaskStep setup calls k (.opening pending multiplexer protocol isGrpc forward)
        (.handshaking pending isGrpc) (some ⟨k, multiplexer, protocol, forward⟩)
  | pass {task next} (past : next.isPast = true) : TaskStep setup calls k task next none

theorem Pending.isPast_reply (pending : Pending) (response : Response) :
    (pending.reply response : RequestTask μ).isPast = true := by
  unfold reply
  split <;> rfl

variable {setup : Setup σ} {tunnelId : String} {pool : StorePool μ}

theorem Pending.route_step {calls : List (Call μ)} {pending : Pending} {call : Nat}
    {result : Option (Session μ)} (k : Nat)
    (looked : calls[call]? = some (.getByTunnelIdReturned tunnelId result)) :
    TaskStep setup calls k (.routing pending call) (pending.route setup result) none := by
  cases result with
  | none => exact .pass rfl
  | some session =>
      cases ready : session.multiplexer with
      | none =>
          simp only [route, ready]
          exact .pass rfl
      | some multiplexer =>
          cases side : pending.ingress with
          | http =>
              simp only [route, ready, side, forwardHttp]
              split
              · exact .pass rfl
              · apply TaskStep.route looked ready
                simp_all [Forwards]
          | http3 =>
              simp only [route, ready, side, forwardHttp3]
              split
              · exact .pass rfl
              · apply TaskStep.route looked ready
                simp_all [Forwards]

theorem Pending.isPast_shakeHands (pending : Pending) (isGrpc : Bool) (outcome : Attempt Unit) :
    (pending.shakeHands isGrpc outcome : RequestTask μ).isPast = true := by
  cases outcome with
  | done => rfl
  | failed | elapsed => exact pending.isPast_reply _

theorem Pending.isPast_receive (setup : Setup σ) (world : Clocked σ) (pending : Pending)
    (isGrpc oversized : Bool) (outcome : Attempt UpstreamResponse) :
    (pending.receive setup world isGrpc oversized outcome :
      Clocked σ × RequestTask μ).2.isPast = true := by
  cases outcome with
  | done upstream =>
      simp only [receive]
      split <;> rfl
  | failed | elapsed => exact pending.isPast_reply _

namespace Gateway

variable {setup : Setup σ} {gateway after : Gateway σ μ}

theorem taskNext_step {task next : RequestTask μ} {event : TaskEvent} {world : Clocked σ}
    (k : Nat) (nextEq : gateway.taskNext setup task event = some (world, next)) :
    TaskStep setup gateway.pool.calls k task next (opens k task event) := by
  cases task with
  | routing pending call =>
      cases event with
      | routed =>
          simp only [taskNext] at nextEq
          split at nextEq
          · rename_i looked
            cases nextEq
            exact pending.route_step k looked
          · cases nextEq
      | _ => cases nextEq
  | opening pending multiplexer protocol isGrpc forward =>
      cases event with
      | opened succeeded =>
          cases succeeded with
          | true =>
              cases nextEq
              exact .opened
          | false =>
              cases nextEq
              exact .pass (pending.isPast_reply _)
      | _ => cases nextEq
  | handshaking pending isGrpc =>
      cases event with
      | handshaken outcome =>
          cases nextEq
          exact .pass (pending.isPast_shakeHands isGrpc outcome)
      | _ => cases nextEq
  | sending pending isGrpc =>
      cases event with
      | responded outcome oversized =>
          have received :=
            pending.isPast_receive (μ := μ) setup gateway.world isGrpc oversized outcome
          rw [Option.some.inj nextEq] at received
          exact .pass received
      | _ => cases nextEq
  | replying response =>
      cases event with
      | returned given =>
          cases nextEq
          exact .pass rfl
      | _ => cases nextEq
  | relaying pending upstream =>
      cases event with
      | returned given =>
          cases given <;>
          · cases nextEq
            exact .pass rfl
      | _ => cases nextEq
  | finished answer => cases nextEq

end Gateway

/-! ## Lookups -/

/-- The call looks the tunnel up. -/
def Looks (tunnelId : String) : Call μ → Prop
  | .getByTunnelId looked | .getByTunnelIdSession looked _ | .getByTunnelIdReturned looked _ =>
      looked = tunnelId
  | _ => False

theorem Looks.next {call call' : Call μ} {store store' : SessionStore μ} {visited : Option Uuid}
    (looks : Looks tunnelId call) (nextEq : call.next store visited = some (store', call')) :
    Looks tunnelId call' := by
  cases call with
  | getByTunnelId looked =>
      simp only [Call.next] at nextEq
      split at nextEq <;>
      · cases nextEq
        exact looks
  | getByTunnelIdSession looked id =>
      cases nextEq
      exact looks
  | getByTunnelIdReturned looked result => cases nextEq
  | _ => exact looks.elim

/-- The call at this place looks the tunnel up. -/
def LooksAt (tunnelId : String) (calls : List (Call μ)) (k : Nat) : Prop :=
  ∃ call, calls[k]? = some call ∧ Looks tunnelId call

theorem LooksAt.append {calls : List (Call μ)} {k : Nat} (looks : LooksAt tunnelId calls k)
    (later : List (Call μ)) : LooksAt tunnelId (calls ++ later) k := by
  obtain ⟨call, callAt, looksUp⟩ := looks
  exact ⟨call, List.getElem?_append_left (List.getElem?_eq_some_iff.mp callAt).1 ▸ callAt, looksUp⟩

theorem LooksAt.step {after : StorePool μ} {action : StoreAction μ} {k : Nat}
    (looks : LooksAt tunnelId pool.calls k) (stepEq : pool.step action = some after) :
    LooksAt tunnelId after.calls k := by
  cases action with
  | start request =>
      rw [Pool.step_start stepEq]
      exact looks.append _
  | advance moved visited =>
      obtain ⟨call, shared, call', movedAt, nextEq, rfl⟩ := Pool.step_advance stepEq
      obtain ⟨looking, callAt, looksUp⟩ := looks
      by_cases same : moved = k
      · subst same
        rw [movedAt] at callAt
        cases callAt
        exact ⟨call', List.getElem?_set_self (List.getElem?_eq_some_iff.mp movedAt).1,
          looksUp.next nextEq⟩
      · exact ⟨looking, (List.getElem?_set_ne same).trans callAt, looksUp⟩

/-! ## Runs -/

/-- What an admitted request keeps of the incoming one. -/
structure Incoming.Admits (setup : Setup σ) (incoming : Incoming) (pending : Pending) : Prop where
  admitted : ∃ world later, admitRequest setup world incoming = (later, .ok pending)
  ingress : pending.ingress = incoming.ingress
  tunnelId : incoming.tunnelId = .ok pending.ctx.tunnelId
  isWs : pending.isWs = (incoming.ingress = .http && isWebsocketUpgrade incoming.request.headers)
  host : pending.host = incoming.host.getD ""

theorem admits_of_admitRequest {world later : Clocked σ} {incoming : Incoming} {pending : Pending}
    (admitted : admitRequest setup world incoming = (later, .ok pending)) :
    incoming.Admits setup pending := by
  have whole := admitted
  unfold admitRequest at admitted
  split at admitted
  · cases admitted
  · split at admitted
    · cases admitted
    · rename_i tunnelIdEq
      simp only at admitted
      split at admitted
      · cases admitted
      · cases admitted
        exact ⟨⟨world, _, whole⟩, rfl, tunnelIdEq, rfl, rfl⟩

/-- The stream carries what was made of the request, over a multiplexer that was registered for
the tunnel of the request. -/
def OpenedStream.Serves (setup : Setup σ) (roles : List (Role μ)) (incoming : Incoming)
    (stream : OpenedStream μ) : Prop :=
  ∃ pending, incoming.Admits setup pending ∧ pending.Forwards setup stream.forward ∧
    stream.protocol = pending.protocol ∧
    Registered roles pending.ctx.tunnelId (some stream.multiplexer)

/-- A request that has not opened its stream is on the way to its own tunnel. -/
def Entry.Confined (setup : Setup σ) (pool : StorePool μ) (entry : Entry μ) : Prop :=
  match entry.task with
  | .routing pending call =>
      entry.incoming.Admits setup pending ∧ LooksAt pending.ctx.tunnelId pool.calls call
  | .opening _ multiplexer protocol _ forward =>
      ∀ k, OpenedStream.Serves setup pool.roles entry.incoming ⟨k, multiplexer, protocol, forward⟩
  | _ => True

theorem Entry.confined_of_isPast {entry : Entry μ} (past : entry.task.isPast = true) :
    entry.Confined setup pool := by
  obtain ⟨incoming, task⟩ := entry
  cases task with
  | routing | opening => cases past
  | _ => trivial

/-- What was registered stays so, and lookups go on. -/
structure Evolves (pool after : StorePool μ) : Prop where
  registered : ∀ {tunnelId multiplexer}, Registered pool.roles tunnelId multiplexer →
    Registered after.roles tunnelId multiplexer
  looks : ∀ {tunnelId k}, LooksAt tunnelId pool.calls k → LooksAt tunnelId after.calls k

theorem evolves_of_step {after : StorePool μ} {action : StoreAction μ}
    (stepEq : pool.step action = some after) : Evolves pool after where
  registered registered := StorePool.registered_step registered stepEq
  looks looks := looks.step stepEq

theorem OpenedStream.Serves.evolve {later : StorePool μ} {incoming : Incoming}
    {stream : OpenedStream μ} (serves : stream.Serves setup pool.roles incoming)
    (evolves : Evolves pool later) : stream.Serves setup later.roles incoming := by
  obtain ⟨pending, admits, forwards, protocolEq, registered⟩ := serves
  exact ⟨pending, admits, forwards, protocolEq, evolves.registered registered⟩

theorem Entry.Confined.evolve {later : StorePool μ} {entry : Entry μ}
    (confined : entry.Confined setup pool) (evolves : Evolves pool later) :
    entry.Confined setup later := by
  obtain ⟨incoming, task⟩ := entry
  cases task with
  | routing pending call => exact ⟨confined.1, evolves.looks confined.2⟩
  | opening => exact fun k => (confined k).evolve evolves
  | _ => trivial

namespace Gateway

variable {setup : Setup σ} {gateway after : Gateway σ μ}

/-- Every request is served over the tunnel that its host names, on one stream, and is past
opening another. -/
structure Isolated (setup : Setup σ) (gateway : Gateway σ μ) : Prop where
  known : Identified gateway.pool.shared gateway.pool.roles
  sourced : Sourced gateway.pool.shared gateway.pool.roles
  confined : ∀ entry ∈ gateway.entries, entry.Confined setup gateway.pool
  once : (gateway.streams.map OpenedStream.request).Nodup
  serves : ∀ stream ∈ gateway.streams, ∃ entry, gateway.entries[stream.request]? = some entry ∧
    entry.task.isPast = true ∧ stream.Serves setup gateway.pool.roles entry.incoming

theorem isolated_initial (kept : σ) : (initial kept : Gateway σ μ).Isolated setup where
  known := StorePool.identified_initial
  sourced := StorePool.sourced_initial
  confined entry member := by cases member
  once := List.nodup_nil
  serves stream member := by cases member

variable {action : GatewayAction μ} (isolated : gateway.Isolated setup)

include isolated

theorem Isolated.wait (world : Clocked σ) : Isolated setup { gateway with world := world } :=
  ⟨isolated.known, isolated.sourced, isolated.confined, isolated.once, isolated.serves⟩

theorem Isolated.store {action : StoreAction μ} {pool : StorePool μ}
    (fresh : gateway.pool.FreshIds action) (stepEq : gateway.pool.step action = some pool) :
    Isolated setup { gateway with pool := pool } where
  known := StorePool.identified_step isolated.known fresh stepEq
  sourced := StorePool.sourced_step isolated.sourced stepEq
  confined entry member := (isolated.confined entry member).evolve (evolves_of_step stepEq)
  once := isolated.once
  serves stream member := by
    obtain ⟨entry, entryAt, past, serves⟩ := isolated.serves stream member
    exact ⟨entry, entryAt, past, serves.evolve (evolves_of_step stepEq)⟩

theorem Isolated.enter {entry : Entry μ} (confined : entry.Confined setup gateway.pool) :
    Isolated setup { gateway with entries := gateway.entries ++ [entry] } where
  known := isolated.known
  sourced := isolated.sourced
  confined other member := by
    rcases List.mem_append.mp member with old | new
    · exact isolated.confined other old
    · rw [List.mem_singleton.mp new]
      exact confined
  once := isolated.once
  serves stream member := by
    obtain ⟨other, otherAt, serves⟩ := isolated.serves stream member
    have inside := (List.getElem?_eq_some_iff.mp otherAt).1
    exact ⟨other, (List.getElem?_append_left inside).trans otherAt, serves⟩

theorem Isolated.arrive (incoming : Incoming) : (gateway.arrive setup incoming).Isolated setup := by
  unfold Gateway.arrive
  split
  · rename_i world answer _
    have confined : Entry.Confined setup gateway.pool ⟨incoming, .finished answer⟩ := trivial
    exact (isolated.wait world).enter confined
  · rename_i world pending admitted
    -- the lookup starts as a call on the store
    have started : gateway.pool.step (.start (.getByTunnelId pending.ctx.tunnelId)) = some
        { gateway.pool with
          calls := gateway.pool.calls ++ [.getByTunnelId pending.ctx.tunnelId] } := rfl
    have fresh : gateway.pool.FreshIds (.start (.getByTunnelId pending.ctx.tunnelId)) := by
      intro session none
      cases none
    apply ((isolated.wait world).store fresh started).enter
    exact ⟨admits_of_admitRequest admitted, _, List.getElem?_concat_length, rfl⟩

omit isolated

/-- The task of a request goes on. -/
theorem Isolated.task (isolated : gateway.Isolated setup) {k : Nat} {entry : Entry μ}
    {next : RequestTask μ} (entryAt : gateway.entries[k]? = some entry)
    (confined : Entry.Confined setup gateway.pool { entry with task := next })
    (stays : entry.task.isPast = true → next.isPast = true) :
    Isolated setup { gateway with
      entries := gateway.entries.set k { entry with task := next } } where
  known := isolated.known
  sourced := isolated.sourced
  confined other member := by
    rcases List.mem_or_eq_of_mem_set member with old | rfl
    · exact isolated.confined other old
    · exact confined
  once := isolated.once
  serves stream member := by
    obtain ⟨other, otherAt, past, serves⟩ := isolated.serves stream member
    by_cases same : k = stream.request
    · subst same
      rw [entryAt] at otherAt
      cases otherAt
      exact ⟨_, List.getElem?_set_self (List.getElem?_eq_some_iff.mp entryAt).1, stays past, serves⟩
    · exact ⟨other, (List.getElem?_set_ne same).trans otherAt, past, serves⟩

include isolated

/-- A stream is opened for a request that had none. -/
theorem Isolated.open {stream : OpenedStream μ} {entry : Entry μ}
    (entryAt : gateway.entries[stream.request]? = some entry)
    (first : ∀ other ∈ gateway.streams, other.request ≠ stream.request)
    (past : entry.task.isPast = true)
    (serves : stream.Serves setup gateway.pool.roles entry.incoming) :
    Isolated setup { gateway with streams := gateway.streams ++ [stream] } where
  known := isolated.known
  sourced := isolated.sourced
  confined := isolated.confined
  once := by
    rw [List.map_append, List.map_singleton, ← List.concat_eq_append]
    refine List.Nodup.concat (fun before => ?_) isolated.once
    obtain ⟨other, member, same⟩ := List.mem_map.mp before
    exact first other member same
  serves other member := by
    rcases List.mem_append.mp member with old | new
    · exact isolated.serves other old
    · rw [List.mem_singleton.mp new]
      exact ⟨entry, entryAt, past, serves⟩

/-- The session that a lookup has found was registered for the tunnel of the request. -/
theorem Isolated.registered {call : Nat} {tunnelId looked : String} {session : Session μ}
    {multiplexer : μ} (looks : LooksAt tunnelId gateway.pool.calls call)
    (found : gateway.pool.calls[call]? = some (.getByTunnelIdReturned looked (some session)))
    (ready : session.multiplexer = some multiplexer) :
    Registered gateway.pool.roles tunnelId (some multiplexer) := by
  obtain ⟨looking, callAt, looksUp⟩ := looks
  rw [found] at callAt
  cases callAt
  have answered : .answered looked (some session) ∈ gateway.pool.roles :=
    List.mem_map.mpr ⟨_, List.mem_of_getElem? found, rfl⟩
  have tunnelEq : session.tunnelId = looked := isolated.known.answered answered
  have registered := isolated.sourced.answered answered
  rwa [tunnelEq, ready, looksUp] at registered

theorem Isolated.advance {k : Nat} {entry : Entry μ} {next : RequestTask μ}
    {opened : Option (OpenedStream μ)} {world : Clocked σ}
    (entryAt : gateway.entries[k]? = some entry)
    (stepped : TaskStep setup gateway.pool.calls k entry.task next opened) :
    Isolated setup { gateway with
      world := world
      entries := gateway.entries.set k { entry with task := next }
      streams := gateway.streams ++ opened.toList } := by
  have confined := isolated.confined entry (List.mem_of_getElem? entryAt)
  obtain ⟨incoming, task⟩ := entry
  cases stepped with
  | route looked ready forwards =>
      obtain ⟨admits, looks⟩ := confined
      rw [Option.toList_none, List.append_nil]
      apply (isolated.wait world).task entryAt
      · intro k
        exact ⟨_, admits, forwards, rfl, isolated.registered looks looked ready⟩
      · intro past
        cases past
  | @opened pending _ _ isGrpc _ =>
      have past : Entry.Confined setup gateway.pool ⟨incoming, .handshaking pending isGrpc⟩ :=
        trivial
      have passed := (isolated.wait world).task entryAt past (fun _ => rfl)
      apply passed.open (List.getElem?_set_self (List.getElem?_eq_some_iff.mp entryAt).1) _ rfl
      · exact confined k
      · -- a request with a stream would be past this
        intro other member same
        obtain ⟨opener, openerAt, opened, -⟩ := isolated.serves other member
        rw [same, entryAt] at openerAt
        cases openerAt
        cases opened
  | pass past =>
      rw [Option.toList_none, List.append_nil]
      exact (isolated.wait world).task entryAt (Entry.confined_of_isPast past) (fun _ => past)

theorem Isolated.step (fresh : gateway.FreshIds action)
    (stepEq : gateway.step setup action = some after) : after.Isolated setup := by
  cases action with
  | wait nanos =>
      cases stepEq
      exact isolated.wait _
  | store action =>
      obtain ⟨pool, stepped, rfl⟩ := Option.map_eq_some_iff.mp stepEq
      exact isolated.store fresh stepped
  | arrive incoming =>
      cases stepEq
      exact isolated.arrive incoming
  | advance k event =>
      obtain ⟨entry, entryAt, mapped⟩ := Option.bind_eq_some_iff.mp stepEq
      obtain ⟨⟨world, next⟩, nextEq, rfl⟩ := Option.map_eq_some_iff.mp mapped
      exact isolated.advance entryAt (taskNext_step k nextEq)

omit isolated

theorem isolated_run {kept : σ} {actions : List (GatewayAction μ)}
    (run : exec (step setup) (initial kept) actions = some gateway)
    (fresh : Meets (step setup) FreshIds (initial kept) actions) : gateway.Isolated setup :=
  exec_invariant_of_meets Isolated.step (isolated_initial kept) fresh run

/-- In every run of the two ingresses over a store, with fresh session ids, at most one stream is
opened for a request, and every stream runs over a multiplexer with which a session was registered
under the tunnel id of its request. -/
theorem streams_stay_in_tunnel (setup : Setup σ) (kept : σ) (actions : List (GatewayAction μ))
    (gateway : Gateway σ μ) (run : exec (step setup) (initial kept) actions = some gateway)
    (fresh : Meets (step setup) FreshIds (initial kept) actions) :
    (gateway.streams.map OpenedStream.request).Nodup ∧
    ∀ stream ∈ gateway.streams, ∃ entry tunnelId,
      gateway.entries[stream.request]? = some entry ∧
      entry.incoming.tunnelId = .ok tunnelId ∧
      Registered gateway.pool.roles tunnelId (some stream.multiplexer) := by
  have isolated := isolated_run run fresh
  refine ⟨isolated.once, fun stream member => ?_⟩
  obtain ⟨entry, entryAt, -, pending, admits, -, -, registered⟩ := isolated.serves stream member
  exact ⟨entry, pending.ctx.tunnelId, entryAt, admits.tunnelId, registered⟩

/-- A plugin that changes the host of every request. -/
def hostChanger : StatefulPlugin (Clocked Unit) HttpRequest RequestContext ResponseContext where
  name := "host-changer"
  onRequest _ world request :=
    (world, .finished { request with headers := request.headers.insert "host" "b" } (.ok .modify))
  onResponse _ world response := (world, .finished response (.ok .proceed))
  needsResponseBody := false

/-- An ingress with that plugin. -/
def hostChangerSetup : Setup Unit where
  validHeader _ := true
  parseUri text := .error text
  plugins := [hostChanger]
  config _ := ⟨⟨1024, none⟩, 1024⟩

/-- Two tunnels are registered, and a request for the first arrives. -/
def requestToFirst : List (GatewayAction Nat) :=
  [.store (.start (.add ⟨1, "a", 0, [], some 7⟩)), .store (.start (.add ⟨2, "b", 0, [], some 8⟩)),
    .store (.advance 0 none), .store (.advance 1 none), .store (.advance 1 none),
    .arrive ⟨.http, ⟨"GET", ⟨none, none, some "/"⟩, .http11, [("host", "A:80")]⟩, "r", "peer"⟩,
    .store (.advance 2 none), .store (.advance 0 none), .store (.advance 2 none),
    .advance 0 .routed, .advance 0 (.opened true)]

theorem streams_stay_in_tunnel_changedHost :
    ∃ gateway, exec (step hostChangerSetup) (initial ()) requestToFirst = some gateway ∧
      gateway.streams.map (fun stream => (stream.multiplexer, stream.forward.headers)) =
        [(7, [("host", "b")])] ∧
      ∀ stream ∈ gateway.streams, ∃ entry tunnelId,
        gateway.entries[stream.request]? = some entry ∧
        entry.incoming.tunnelId = .ok tunnelId ∧
        Registered gateway.pool.roles tunnelId (some stream.multiplexer) := by
  have fresh : Meets (step hostChangerSetup) FreshIds (initial ()) requestToFirst := by
    decide +kernel
  obtain ⟨gateway, run, streamsEq⟩ :
      ∃ gateway, exec (step hostChangerSetup) (initial ()) requestToFirst = some gateway ∧
        gateway.streams.map (fun stream => (stream.multiplexer, stream.forward.headers)) =
          [(7, [("host", "b")])] := by
    rw [← Option.map_eq_some_iff]
    decide +kernel
  exact ⟨gateway, run, streamsEq, (streams_stay_in_tunnel _ _ _ gateway run fresh).2⟩

end Gateway

end FerroTunnel.Ingress
