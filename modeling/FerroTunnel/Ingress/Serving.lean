import FerroTunnel.Ingress.Host
import FerroTunnel.Ingress.ResponseHooks
import FerroTunnel.Transition.Core

/-!
# Requests on the HTTP ingress

`handle_request` answers health checks itself, derives the tunnel id from the
`Host` header, runs the request hooks and, unless they decide otherwise,
forwards the request.  When the upstream answers, the response is passed on,
through the response hooks where those run.

Any number of requests are served at the same time: the ingress keeps the
exchanges that wait for the upstream, and an upstream answers them in any order
or not at all.  What the plugins keep is a part of the state, and so is the
clock, which hooks may read.
-/

namespace FerroTunnel.Ingress

open FerroTunnel.Plugins
open FerroTunnel.Transition

/-- A request as the hooks see it. -/
structure RequestHead where
  method : String
  path : String
  headers : HeaderMap
deriving DecidableEq

/-- The request that the registry puts in the place of its caller's. -/
def blankRequest : RequestHead :=
  ⟨"GET", "/", []⟩

/-- What the request hooks are told. -/
structure RequestContext where
  tunnelId : String
  sessionId : String
  remoteAddr : String
  timestamp : Nat
deriving DecidableEq

/-- What the response hooks are told. -/
structure ResponseContext where
  tunnelId : String
  sessionId : String
  statusCode : UInt16
  durationMs : Nat
deriving DecidableEq

/-- What plugins act on: the clock in nanoseconds, which they read, and what they keep. -/
structure Clocked (σ : Type) where
  clock : Nat
  kept : σ
deriving DecidableEq

/-- Time passes. -/
def Clocked.wait {σ : Type} (world : Clocked σ) (nanos : Nat) : Clocked σ :=
  { world with clock := world.clock + nanos }

/-- A plugin of an ingress. -/
abbrev IngressPlugin (σ : Type) :=
  StatefulPlugin (Clocked σ) RequestHead RequestContext ResponseContext

/-- Equality up to ASCII case. -/
def eqIgnoreAsciiCase (first second : List Char) : Bool :=
  first.map Char.toLower = second.map Char.toLower

/-- The request is for gRPC. -/
def isGrpc (headers : HeaderMap) : Bool :=
  ((headers.get "content-type").bind HeaderValue.toStr).any fun value =>
    "application/grpc".toList.isPrefixOf value.toList

/-- The request asks for a WebSocket. -/
def isWebsocketUpgrade (headers : HeaderMap) : Bool :=
  let upgrade := ((headers.get "upgrade").bind HeaderValue.toStr).any fun value =>
    eqIgnoreAsciiCase value.toList "websocket".toList
  let connection := ((headers.get "connection").bind HeaderValue.toStr).any fun value =>
    (split ',' value.toList).any fun part => eqIgnoreAsciiCase (trim part) "upgrade".toList
  upgrade && connection

/-- A request as it arrives, with the id drawn for it and the address of its sender. -/
structure Arrival where
  head : RequestHead
  sessionId : String
  remoteAddr : String
deriving DecidableEq

/-- A forwarded request that waits for the answer of the upstream. -/
structure Exchange where
  ctx : RequestContext
  isWs : Bool
  head : RequestHead
deriving DecidableEq

variable {σ : Type}

/-- The ingress up to the point where a request is forwarded or answered. -/
def beginRequest (validHeader : String × String → Bool) (plugins : List (IngressPlugin σ))
    (world : Clocked σ) (arrival : Arrival) : Clocked σ × Except Response Exchange :=
  if arrival.head.path = "/health" then
    (world, .error (fullResponse 200 "OK"))
  else
    match parseAndNormalizeHost (arrival.head.headers.get "host") with
    | .error message => (world, .error (fullResponse 400 message))
    | .ok tunnelId =>
        let ctx : RequestContext :=
          ⟨tunnelId, arrival.sessionId, arrival.remoteAddr, world.clock⟩
        let hooks := executeRequestHooksOn blankRequest plugins ctx world arrival.head
        let run : HooksRun RequestHead RequestContext := ⟨hooks.result, hooks.message, []⟩
        match handleRequest validHeader run with
        | .forward head =>
            (hooks.world, .ok ⟨ctx, isWebsocketUpgrade arrival.head.headers, head⟩)
        | .answer response => (hooks.world, .error response)

/-- The context of the response hooks. -/
def Exchange.responseContext (exchange : Exchange) (clock : Nat) (status : UInt16) :
    ResponseContext where
  tunnelId := exchange.ctx.tunnelId
  sessionId := exchange.ctx.sessionId
  statusCode := status
  durationMs := min ((clock - exchange.ctx.timestamp) / 1000000) (2 ^ 64 - 1)

/-- The ingress after the upstream has answered an exchange. -/
def finishRequest (validHeader : String × String → Bool) (config : IngressConfig)
    (plugins : List (IngressPlugin σ)) (world : Clocked σ) (exchange : Exchange)
    (upstream : UpstreamResponse) : Clocked σ × Response :=
  handleUpstreamResponse validHeader config plugins
    (exchange.responseContext world.clock upstream.status) world (isGrpc exchange.head.headers)
    exchange.isWs upstream

/-- The ingress with the exchanges that wait for the upstream. -/
structure Serving (σ : Type) where
  world : Clocked σ
  exchanges : List Exchange
deriving DecidableEq

/-- What happens at an ingress. -/
inductive ServingAction
  | wait (nanos : Nat)
  | request (arrival : Arrival)
  | response (exchange : Nat) (upstream : UpstreamResponse)
deriving DecidableEq

/-- The upstream response that arrives, if one does. -/
def ServingAction.upstream? : ServingAction → Option UpstreamResponse
  | .response _ upstream => some upstream
  | _ => none

namespace Serving

/-- An ingress that serves nothing. -/
def initial (kept : σ) : Serving σ where
  world := ⟨0, kept⟩
  exchanges := []

/-- A request has been forwarded or answered. -/
def begun (serving : Serving σ) (result : Clocked σ × Except Response Exchange) : Serving σ where
  world := result.1
  exchanges := serving.exchanges ++ result.2.toOption.toList

/-- One event at an ingress. -/
def step (validHeader : String × String → Bool) (config : IngressConfig)
    (plugins : List (IngressPlugin σ)) : Step (Serving σ) ServingAction
  | serving, .wait nanos => some { serving with world := serving.world.wait nanos }
  | serving, .request arrival =>
      some (serving.begun (beginRequest validHeader plugins serving.world arrival))
  | serving, .response k upstream =>
      (serving.exchanges[k]?).map fun exchange =>
        { world := (finishRequest validHeader config plugins serving.world exchange upstream).1
          exchanges := serving.exchanges.eraseIdx k }

end Serving

end FerroTunnel.Ingress
