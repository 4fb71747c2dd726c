import FerroTunnel.Ingress.Serving
import FerroTunnel.Text.Number
import FerroTunnel.Tunnel.Ownership
import Mathlib.Data.UInt

/-!
# Requests through the tunnels

A request that the hooks of an ingress let pass is sent through the tunnel that
its host names: the session is looked up in the store, a stream is opened over
its multiplexer, an HTTP connection is set up on the stream, and the request is
sent on it.  Every one of these may fail, and the ingress then answers itself.

The HTTP/3 ingress follows the same order.  It gives a request up where it
finds no host, it does not look at the declared length, and from the lookup on
its answers wait for the task that reads the request body to give back the
stream.

Requests are served side by side, on both ingresses, over one store.  The calls
that other parts of the server make on the store go on between any two steps of
a request.
-/

namespace FerroTunnel.Ingress

open FerroTunnel.Plugins
open FerroTunnel.Text
open FerroTunnel.Transition
open FerroTunnel.Tunnel
open FerroTunnel.Wire

/-! ## Forwarded requests -/

/-- A URI in its parts. -/
structure Uri where
  scheme : Option String
  authority : Option String
  pathAndQuery : Option String
deriving DecidableEq

/-- The path without the query. -/
def Uri.path (uri : Uri) : String :=
  match uri.pathAndQuery with
  | none => ""
  | some text =>
      let path := text.toList.takeWhile (· ≠ '?')
      if path = [] then "/" else String.ofList path

/-- The text of the absolute URI for a host. -/
def Uri.absolute (scheme host : String) (uri : Uri) : String :=
  scheme ++ "://" ++ host ++ uri.pathAndQuery.getD "/"

/-- The versions of HTTP. -/
inductive Version
  | http11
  | http2
  | http3
deriving DecidableEq

/-- A request without its body. -/
structure HttpRequest where
  method : String
  uri : Uri
  version : Version
  headers : HeaderMap
deriving DecidableEq

/-- The request that the registry puts in the place of its caller's. -/
def blankHttpRequest : HttpRequest :=
  ⟨"GET", ⟨none, none, some "/"⟩, .http11, []⟩

/-- The request declares a body larger than `maxSize`. -/
def contentLengthExceeds (headers : HeaderMap) (maxSize : Nat) : Bool :=
  match (headers.get "content-length").bind HeaderValue.toStr with
  | none => false
  | some value =>
      match parseUnsigned (2 ^ 64) value.toList with
      | .error _ => false
      | .ok length => maxSize < length

/-- Ask a gRPC upstream for trailers. -/
def addGrpcTeTrailers (headers : HeaderMap) : HeaderMap :=
  headers.insert "te" "trailers"

/-- The request that the HTTP ingress forwards. -/
def forwardRequest (parseUri : String → Except String Uri) (isWs isGrpc : Bool)
    (request : HttpRequest) : HttpRequest :=
  let headers :=
    if isWs then request.headers
    else if isGrpc then addGrpcTeTrailers (stripHopByHopHeaders request.headers)
    else stripHopByHopHeaders request.headers
  let uri :=
    if isGrpc ∧ request.uri.authority = none then
      match (headers.get "host").bind HeaderValue.toStr with
      | none => request.uri
      | some host => (parseUri (request.uri.absolute "http" host)).toOption.getD request.uri
    else request.uri
  { request with uri := uri, headers := headers }

/-- The request that the HTTP/3 ingress forwards. -/
def buildForwardRequest (parseUri : String → Except String Uri) (request : HttpRequest)
    (host : HeaderValue) (isGrpc : Bool) : Except String HttpRequest :=
  let headers := (stripHopByHopHeaders request.headers).insert "host" host
  if isGrpc then
    let request := { request with version := .http2, headers := addGrpcTeTrailers headers }
    if request.uri.authority = none then
      match HeaderValue.toStr host with
      | none => .error "Invalid Host header for gRPC request"
      | some text =>
          match parseUri (request.uri.absolute "https" text) with
          | .error error => .error ("Invalid gRPC URI: " ++ error)
          | .ok uri => .ok { request with uri := uri }
    else .ok request
  else
    match request.uri.pathAndQuery with
    | some pathAndQuery =>
        .ok { request with
          uri := ⟨none, none, some pathAndQuery⟩
          version := .http11
          headers := headers }
    | none => .ok { request with headers := headers }

/-! ## One request -/

/-- The limits of an ingress. -/
structure GatewayConfig extends IngressConfig where
  maxRequestBodySize : Nat

/-- What both ingresses are set up with. -/
structure Setup (σ : Type) where
  validHeader : String × String → Bool
  /-- How a text is read as a URI. -/
  parseUri : String → Except String Uri
  plugins : List (StatefulPlugin (Clocked σ) HttpRequest RequestContext ResponseContext)
  config : Ingress → GatewayConfig

/-- A request as it arrives, with the id drawn for it and the address of its sender. -/
structure Incoming where
  ingress : Ingress
  request : HttpRequest
  sessionId : String
  remoteAddr : String
deriving DecidableEq

/-- How the handling of a request ends: with a response, with an error and no response, or
without either where the stream was lost on which to answer. -/
inductive Answer
  | response (response : Response)
  | error (message : String)
  | unsent
deriving DecidableEq

/-- A request that the hooks have let pass. -/
structure Pending where
  ingress : Ingress
  ctx : RequestContext
  isWs : Bool
  host : HeaderValue
  request : HttpRequest
deriving DecidableEq

/-- What an attempt with a time limit comes to. -/
inductive Attempt (α : Type)
  | done (value : α)
  | failed
  | elapsed
deriving DecidableEq

/-- Where the handling of a request stands. -/
inductive RequestTask (μ : Type)
  | routing (pending : Pending) (call : Nat)
  | opening (pending : Pending) (multiplexer : μ) (protocol : Protocol) (isGrpc : Bool)
      (forward : HttpRequest)
  | handshaking (pending : Pending) (isGrpc : Bool)
  | sending (pending : Pending) (isGrpc : Bool)
  | replying (response : Response)
  | relaying (pending : Pending) (upstream : UpstreamResponse)
  | finished (answer : Answer)
deriving DecidableEq

/-- What a request goes on with: the result of its lookup, of opening a stream, of the handshake
or of sending the request, or the stream that the reader of the request body gives back. -/
inductive TaskEvent
  | routed
  | opened (succeeded : Bool)
  | handshaken (outcome : Attempt Unit)
  | responded (outcome : Attempt UpstreamResponse) (oversized : Bool)
  | returned (given : Bool)
deriving DecidableEq

variable {σ μ : Type}

/-- The host that the ingress reads off the request. -/
def Incoming.host (incoming : Incoming) : Option HeaderValue :=
  let header := incoming.request.headers.get "host"
  match incoming.ingress with
  | .http => header
  | .http3 => hostHeaderValue header incoming.request.uri.authority

/-- The tunnel id of a request. -/
def Incoming.tunnelId (incoming : Incoming) : Except String String :=
  parseAndNormalizeHost incoming.host

/-- The HTTP ingress rejects a request without a usable host, the HTTP/3 ingress gives it up. -/
def Incoming.refuseHost (incoming : Incoming) (message : String) : Answer :=
  match incoming.ingress with
  | .http => .response (fullResponse 400 message)
  | .http3 => .error message

/-- `handle_request` up to the lookup of the session. -/
def admitRequest (setup : Setup σ) (world : Clocked σ) (incoming : Incoming) :
    Clocked σ × Except Answer Pending :=
  if incoming.request.uri.path = "/health" then
    (world, .error (.response (fullResponse 200 "OK")))
  else
    match incoming.tunnelId with
    | .error message => (world, .error (incoming.refuseHost message))
    | .ok tunnelId =>
        let ctx : RequestContext :=
          ⟨tunnelId, incoming.sessionId, incoming.remoteAddr, world.clock⟩
        let hooks :=
          executeRequestHooksOn blankHttpRequest setup.plugins ctx world incoming.request
        match incoming.ingress.verdict setup.validHeader
            (⟨hooks.result, hooks.message, []⟩ : HooksRun HttpRequest RequestContext) with
        | .answer response => (hooks.world, .error (.response response))
        | .forward request =>
            (hooks.world, .ok {
              ingress := incoming.ingress
              ctx := ctx
              isWs := incoming.ingress = .http && isWebsocketUpgrade incoming.request.headers
              host := incoming.host.getD ""
              request := request })

/-- The protocol that the stream is opened for. -/
def Pending.protocol (pending : Pending) : Protocol :=
  if pending.isWs then .webSocket
  else if isGrpc pending.request.headers then .grpc
  else .http

namespace Pending

/-- The HTTP/3 ingress answers on the stream that the reader of the body gives back. -/
def reply (pending : Pending) (response : Response) : RequestTask μ :=
  match pending.ingress with
  | .http => .finished (.response response)
  | .http3 => .replying response

/-- The HTTP ingress with the multiplexer of the session. -/
def forwardHttp (setup : Setup σ) (pending : Pending) (multiplexer : μ) : RequestTask μ :=
  let isGrpc := isGrpc pending.request.headers
  if contentLengthExceeds pending.request.headers (setup.config .http).maxRequestBodySize then
    .finished (.response (fullResponse 413 "Request body too large"))
  else
    .opening pending multiplexer pending.protocol isGrpc
      (forwardRequest setup.parseUri pending.isWs isGrpc pending.request)

/-- The HTTP/3 ingress with the multiplexer of the session. -/
def forwardHttp3 (setup : Setup σ) (pending : Pending) (multiplexer : μ) : RequestTask μ :=
  let isGrpc := isGrpc pending.request.headers
  match buildForwardRequest setup.parseUri pending.request pending.host isGrpc with
  | .error error => .replying (fullResponse 400 error)
  | .ok forward => .opening pending multiplexer pending.protocol isGrpc forward

/-- The session of the request has been looked up. -/
def route (setup : Setup σ) (pending : Pending) : Option (Session μ) → RequestTask μ
  | none => .finished (.response (fullResponse 404 "Tunnel not found"))
  | some session =>
      match session.multiplexer with
      | none => .finished (.response (fullResponse 502 "Tunnel not ready"))
      | some multiplexer =>
          match pending.ingress with
          | .http => pending.forwardHttp setup multiplexer
          | .http3 => pending.forwardHttp3 setup multiplexer

/-- An HTTP connection has been set up on the stream, or not. -/
def shakeHands (pending : Pending) (isGrpc : Bool) : Attempt Unit → RequestTask μ
  | .done () => .sending pending isGrpc
  | .failed => pending.reply (fullResponse 502
      (if isGrpc then "gRPC tunnel handshake failed" else "Tunnel handshake failed"))
  | .elapsed => pending.reply (fullResponse 504
      (if isGrpc then "gRPC tunnel handshake timeout" else "Tunnel handshake timeout"))

/-- The context of the response hooks. -/
def responseContext (pending : Pending) (clock : Nat) (status : UInt16) : ResponseContext where
  tunnelId := pending.ctx.tunnelId
  sessionId := pending.ctx.sessionId
  statusCode := status
  durationMs := min ((clock - pending.ctx.timestamp) / 1000000) (2 ^ 64 - 1)

/-- The upstream has answered the request, or not. -/
def receive (setup : Setup σ) (world : Clocked σ) (pending : Pending) (isGrpc oversized : Bool) :
    Attempt UpstreamResponse → Clocked σ × RequestTask μ
  | .done upstream =>
      match pending.ingress with
      | .http =>
          let served := handleUpstreamResponse setup.validHeader
            (setup.config .http).toIngressConfig setup.plugins
            (pending.responseContext world.clock upstream.status) world isGrpc pending.isWs upstream
          (served.1, .finished (.response served.2))
      | .http3 => (world, .relaying pending upstream)
  | .failed =>
      let response :=
        if pending.ingress = .http ∧ oversized then fullResponse 413 "Request body too large"
        else fullResponse 502 (if isGrpc then "gRPC request failed" else "Failed to send request")
      (world, pending.reply response)
  | .elapsed => (world, pending.reply (fullResponse 504
      (if isGrpc then "gRPC upstream response timeout" else "Upstream response timeout")))

/-- The HTTP/3 ingress passes the response of the upstream on. -/
def sendUpstreamResponse (setup : Setup σ) (world : Clocked σ) (pending : Pending)
    (upstream : UpstreamResponse) : Clocked σ × Answer :=
  if needsResponseBuffering setup.plugins then
    let sent := sendBufferedResponse (setup.config .http3).maxResponseSize setup.plugins
      (pending.responseContext world.clock upstream.status) world upstream
    match sent.2 with
    | .error error => (sent.1, .error error)
    | .ok response => (sent.1, .response response)
  else
    (world, .response ⟨upstream.status, stripHopByHopHeaders upstream.headers,
      streamedBytes upstream.events⟩)

end Pending

/-! ## All requests -/

/-- A request with where its handling stands. -/
structure Entry (μ : Type) where
  incoming : Incoming
  task : RequestTask μ
deriving DecidableEq

/-- A stream that was opened for a request. -/
structure OpenedStream (μ : Type) where
  request : Nat
  multiplexer : μ
  protocol : Protocol
  forward : HttpRequest
deriving DecidableEq

/-- An ingress with its session store. -/
structure Gateway (σ μ : Type) where
  pool : StorePool μ
  world : Clocked σ
  entries : List (Entry μ)
  streams : List (OpenedStream μ)

/-- Time passes, something happens to the store, a request arrives or goes on. -/
inductive GatewayAction (μ : Type)
  | wait (nanos : Nat)
  | store (action : StoreAction μ)
  | arrive (incoming : Incoming)
  | advance (request : Nat) (event : TaskEvent)

namespace Gateway

/-- A gateway without sessions. -/
def initial (kept : σ) : Gateway σ μ where
  pool := .initial
  world := ⟨0, kept⟩
  entries := []
  streams := []

/-- A request arrives: if it is admitted, a lookup of its tunnel starts. -/
def arrive (setup : Setup σ) (gateway : Gateway σ μ) (incoming : Incoming) : Gateway σ μ :=
  match admitRequest setup gateway.world incoming with
  | (world, .error answer) =>
      { gateway with
        world := world
        entries := gateway.entries ++ [⟨incoming, .finished answer⟩] }
  | (world, .ok pending) =>
      { gateway with
        world := world
        pool := { gateway.pool with
          calls := gateway.pool.calls ++ [.getByTunnelId pending.ctx.tunnelId] }
        entries := gateway.entries ++
          [⟨incoming, .routing pending gateway.pool.calls.length⟩] }

/-- The next task of a request, with the world that its hooks leave. -/
def taskNext (setup : Setup σ) (gateway : Gateway σ μ) :
    RequestTask μ → TaskEvent → Option (Clocked σ × RequestTask μ)
  | .routing pending call, .routed =>
      match gateway.pool.calls[call]? with
      | some (.getByTunnelIdReturned _ result) => some (gateway.world, pending.route setup result)
      | _ => none
  | .opening pending _ _ isGrpc _, .opened true => some (gateway.world, .handshaking pending isGrpc)
  | .opening pending _ _ _ _, .opened false =>
      some (gateway.world, pending.reply (fullResponse 500 "Failed to open stream"))
  | .handshaking pending isGrpc, .handshaken outcome =>
      some (gateway.world, pending.shakeHands isGrpc outcome)
  | .sending pending isGrpc, .responded outcome oversized =>
      some (pending.receive setup gateway.world isGrpc oversized outcome)
  | .replying response, .returned given =>
      some (gateway.world, .finished (if given then .response response else .unsent))
  | .relaying pending upstream, .returned true =>
      let sent := pending.sendUpstreamResponse setup gateway.world upstream
      some (sent.1, .finished sent.2)
  | .relaying _ _, .returned false =>
      some (gateway.world, .finished (.error "body reader task dropped unexpectedly"))
  | _, _ => none

/-- The stream that a request opens. -/
def opens (request : Nat) : RequestTask μ → TaskEvent → Option (OpenedStream μ)
  | .opening _ multiplexer protocol _ forward, .opened true =>
      some ⟨request, multiplexer, protocol, forward⟩
  | _, _ => none

/-- One event of the gateway. -/
def step (setup : Setup σ) : Step (Gateway σ μ) (GatewayAction μ)
  | gateway, .wait nanos => some { gateway with world := gateway.world.wait nanos }
  | gateway, .store action =>
      (gateway.pool.step action).map fun pool => { gateway with pool := pool }
  | gateway, .arrive incoming => some (gateway.arrive setup incoming)
  | gateway, .advance k event =>
      (gateway.entries[k]?).bind fun entry =>
        (gateway.taskNext setup entry.task event).map fun next =>
          { gateway with
            world := next.1
            entries := gateway.entries.set k { entry with task := next.2 }
            streams := gateway.streams ++ (opens k entry.task event).toList }

/-- The ids of new sessions have not been used before. -/
def FreshIds (gateway : Gateway σ μ) : GatewayAction μ → Prop
  | .store action => gateway.pool.FreshIds action
  | _ => True

instance (gateway : Gateway σ μ) : (action : GatewayAction μ) → Decidable (gateway.FreshIds action)
  | .wait _ => isTrue trivial
  | .store action => inferInstanceAs (Decidable (gateway.pool.FreshIds action))
  | .arrive _ => isTrue trivial
  | .advance _ _ => isTrue trivial

end Gateway

end FerroTunnel.Ingress
