import FerroTunnel.Tunnel.UniqueOwner

/-!
# The tunnel server

Each accepted connection holds a session permit and is served by a task of its
own, `handle_connection` over TCP and `handle_quic_connection` over QUIC.  A
task is given by the await it stands at.  It registers a session with the store
when the handshake is accepted, and ends in one of several ways; the permit is
released when it ends.  The cleanup task and the ingress call the same store.

`process_frame` has no error to return, so handling a frame other than a
heartbeat always leads back to the message loop.
-/

namespace FerroTunnel.Tunnel

open FerroTunnel.Transition
open FerroTunnel.Wire

variable {μ : Type}

/-- The errors of a tunnel. -/
inductive TunnelError
  | protocol (message : String)
  | connection (message : String)
  | timeout (message : String)
  | authentication (message : String)
  | io
deriving DecidableEq

/-- The transports of a server. -/
inductive Transport
  | tcp
  | quic
deriving DecidableEq

/-- What the first frame of a connection leads to. -/
inductive Handshake (μ : Type)
  | failed (error : TunnelError)
  | unexpected
  | rejected (status : HandshakeStatus)
  | authenticated (session : Session μ)

/-- Where the task of a connection stands. -/
inductive Phase (μ : Type)
  | handshake
  | rejecting (status : HandshakeStatus)
  | adding (session : Session μ) (call : Nat)
  | denying (session : Session μ)
  | acknowledging (session : Session μ)
  | receiving (session : Session μ)
  | touching (session : Session μ) (call : Nat) (frame : Frame)
  | replying (session : Session μ)
  | processing (session : Session μ) (frame : Frame)
  | removing (session : Session μ) (call : Nat) (result : Except TunnelError Unit)
  | returned (session : Option (Session μ)) (result : Except TunnelError Unit)

/-- What the task of a connection waits for. -/
inductive Event (μ : Type)
  | handshake (outcome : Handshake μ)
  | added
  | sent (result : Except TunnelError Unit)
  | received (item : Option (Except TunnelError Frame)) (now : Nat)
  | touched
  | throttled (now : Nat)
  | processed
  | closed (result : Except TunnelError Unit)
  | removed

/-- Make a call on the store. -/
def StorePool.begin (pool : StorePool μ) (request : Request μ) : StorePool μ :=
  { pool with calls := pool.calls ++ [request.start] }

namespace Phase

/-- The session of the task, once it has one. -/
def session? : Phase μ → Option (Session μ)
  | .handshake | .rejecting _ => none
  | .adding session _ | .denying session | .acknowledging session | .receiving session
  | .touching session _ _ | .replying session | .processing session _ | .removing session _ _ =>
      some session
  | .returned session _ => session

/-- The connection is over. -/
def isReturned : Phase μ → Bool
  | .returned _ _ => true
  | _ => false

/-- The frame is a heartbeat. -/
def isHeartbeat : Frame → Bool
  | .heartbeat _ => true
  | _ => false

/-- Call `remove` and then return. -/
def remove (pool : StorePool μ) (session : Session μ) (result : Except TunnelError Unit) :
    StorePool μ × Phase μ :=
  (pool.begin (.remove session.id), .removing session pool.calls.length result)

/-- Leave the message loop with an error.  Over QUIC the session is removed
after the control loop in any case; over TCP the error is returned at once. -/
def fail (transport : Transport) (pool : StorePool μ) (session : Session μ)
    (error : TunnelError) : StorePool μ × Phase μ :=
  match transport with
  | .tcp => (pool, .returned (some session) (.error error))
  | .quic => remove pool session (.error error)

/-- The error for a first frame that is not a handshake. -/
def expectedHandshake : Transport → TunnelError
  | .tcp => .protocol "Expected handshake"
  | .quic => .protocol "Expected handshake on QUIC control stream"

/-- The task goes on to its next await. -/
def on (transport : Transport) (pool : StorePool μ) :
    Phase μ → Event μ → Option (StorePool μ × Phase μ)
  | .handshake, .handshake (.failed error) => some (pool, .returned none (.error error))
  | .handshake, .handshake .unexpected =>
      some (pool, .returned none (.error (expectedHandshake transport)))
  | .handshake, .handshake (.rejected status) => some (pool, .rejecting status)
  | .rejecting _, .sent result => some (pool, .returned none result)
  | .handshake, .handshake (.authenticated session) =>
      some (pool.begin (.add session), .adding session pool.calls.length)
  | .adding session call, .added =>
      match pool.calls[call]? with
      | some (.addReturned _ (.ok ())) => some (pool, .acknowledging session)
      | some (.addReturned _ (.error _)) => some (pool, .denying session)
      | _ => none
  | .denying session, .sent (.ok ()) =>
      some (pool, .returned (some session)
        (.error (.protocol s!"Tunnel ID '{session.tunnelId}' already in use")))
  | .denying session, .sent (.error error) =>
      some (pool, .returned (some session) (.error error))
  | .acknowledging session, .sent (.ok ()) => some (pool, .receiving session)
  | .acknowledging session, .sent (.error error) =>
      some (pool, .returned (some session) (.error error))
  | .receiving session, .received none _ =>
      match transport with
      | .tcp => some (remove pool session (.ok ()))
      | .quic => some (remove pool session (.error (.connection "QUIC control stream closed")))
  | .receiving session, .received (some (.error error)) _ =>
      some (fail transport pool session error)
  | .receiving session, .received (some (.ok frame)) now =>
      some (pool.begin (.updateHeartbeat session.id now),
        .touching session pool.calls.length frame)
  | .touching session call frame, .touched =>
      match pool.calls[call]? with
      | some (.updateHeartbeatReturned false) =>
          some (fail transport pool session (.protocol "Session not found"))
      | some (.updateHeartbeatReturned true) =>
          if isHeartbeat frame then
            some (pool, .replying session)
          else
            match transport with
            | .tcp => some (pool, .processing session frame)
            | .quic => some (pool, .receiving session)
      | _ => none
  | .replying session, .sent (.ok ()) => some (pool, .receiving session)
  | .replying session, .sent (.error error) => some (fail transport pool session error)
  | .processing session frame, .throttled now =>
      some (pool.begin (.updateHeartbeat session.id now), .processing session frame)
  | .processing session _, .processed => some (pool, .receiving session)
  | .receiving session, .closed result =>
      match transport with
      | .tcp => none
      | .quic => some (remove pool session result)
  | .replying session, .closed result =>
      match transport with
      | .tcp => none
      | .quic => some (remove pool session result)
  | .removing session call result, .removed =>
      match pool.calls[call]? with
      | some (.removeReturned _) => some (pool, .returned (some session) result)
      | _ => none
  | _, _ => none

end Phase

/-- A connection and the task that serves it. -/
structure Connection (μ : Type) where
  transport : Transport
  phase : Phase μ

/-- A server with its connections. -/
structure Server (μ : Type) where
  maxSessions : Nat
  availableSessions : Nat
  pool : StorePool μ
  connections : List (Connection μ)

/-- What can happen to the server. -/
inductive ServerAction (μ : Type)
  | accept (transport : Transport)
  | event (connection : Nat) (event : Event μ)
  | advance (call : Nat) (visited : Option Uuid)
  | cleanupStaleSessions (now timeout : Nat)
  | getByTunnelId (tunnelId : String)

namespace Server

/-- A server without connections. -/
def new (maxSessions : Nat) : Server μ where
  maxSessions := maxSessions
  availableSessions := maxSessions
  pool := .initial
  connections := []

/-- Accept a connection if there is a permit for it; otherwise it is dropped. -/
def accept (server : Server μ) (transport : Transport) : Server μ :=
  match server.availableSessions with
  | 0 => server
  | available + 1 =>
      { server with
        availableSessions := available
        connections := server.connections ++ [⟨transport, .handshake⟩] }

/-- A connection's task goes on; a task that returns drops its permit. -/
def event (server : Server μ) (c : Nat) (event : Event μ) : Option (Server μ) :=
  (server.connections[c]?).bind fun connection =>
    (connection.phase.on connection.transport server.pool event).map fun result =>
      { server with
        pool := result.1
        connections := server.connections.set c { connection with phase := result.2 }
        availableSessions :=
          if result.2.isReturned then server.availableSessions + 1
          else server.availableSessions }

/-- One event of the server. -/
def step : Step (Server μ) (ServerAction μ)
  | server, .accept transport => some (server.accept transport)
  | server, .event c event => server.event c event
  | server, .advance k visited =>
      (server.pool.step (.advance k visited)).map fun pool => { server with pool := pool }
  | server, .cleanupStaleSessions now timeout =>
      some { server with pool := server.pool.begin (.cleanupStaleSessions now timeout) }
  | server, .getByTunnelId tunnelId =>
      some { server with pool := server.pool.begin (.getByTunnelId tunnelId) }

/-- The number of stored sessions. -/
def sessionCount (server : Server μ) : Nat :=
  server.pool.shared.count

end Server

end FerroTunnel.Tunnel
