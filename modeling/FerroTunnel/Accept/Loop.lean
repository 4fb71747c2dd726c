import FerroTunnel.Channel.Watch
import FerroTunnel.Transition.Core
import FerroTunnel.Tunnel.AcceptBackoff

/-!
# The accept loops

The tunnel server, the two HTTP ingresses and the TCP ingress each run a loop that
accepts connections, takes a permit for each and serves it in a task of its own.  A
connection that finds no permit is dropped.  The loops differ in three places: the
tunnel server completes the TLS or QUIC handshake of a connection before it accepts
the next one; an ingress over TCP ends with the first error that is not transient; and
the HTTP/3 ingress ends when its shutdown channel changes.

The state of a loop also records where each connection went.
-/

namespace FerroTunnel.Accept

open FerroTunnel.Channel
open FerroTunnel.Time
open FerroTunnel.Transition
open FerroTunnel.Tunnel

/-! ## Errors -/

/-- The kinds of I/O errors that the accept loops tell apart. -/
inductive ErrorKind
  | interrupted
  | wouldBlock
  | connectionAborted
  | connectionReset
  | connectionRefused
  | other
deriving DecidableEq

/-- An I/O error of `accept`. -/
structure AcceptError where
  kind : ErrorKind
  rawOsError : Option Nat
deriving DecidableEq

/-- Too many open files in the system. -/
def ENFILE : Nat := 23

/-- Too many open files in the process. -/
def EMFILE : Nat := 24

/-- No file descriptor was left. -/
def isFdExhaustion (error : AcceptError) : Bool :=
  error.rawOsError = some EMFILE || error.rawOsError = some ENFILE

/-- The errors after which a listener goes on. -/
def isTransientAcceptError (error : AcceptError) : Bool :=
  error.kind = .interrupted || error.kind = .wouldBlock || error.kind = .connectionAborted ||
    error.kind = .connectionReset || isFdExhaustion error

/-- Why no connection was accepted: an error, or the end of a QUIC endpoint. -/
inductive AcceptFailure
  | io (error : AcceptError)
  | endpointClosed
deriving DecidableEq

/-! ## The loop -/

/-- Where the loops differ. -/
structure LoopConfig where
  maxConnections : Nat
  /-- Accepting a connection includes its handshake. -/
  shakesHands : Bool
  /-- A connection needs a tunnel that takes it. -/
  needsTunnel : Bool
  /-- The failures that end the loop. -/
  ends : AcceptFailure → Bool

/-- A connection, by the order of arrival. -/
abbrev Peer := Nat

/-- How the server parts with a connection. -/
inductive Parting
  /-- No permit was left; the number of connections served then. -/
  | refused (serving : Nat)
  /-- There was no tunnel for it. -/
  | unroutable
  | handshakeFailed
  | finished
deriving DecidableEq

/-- What the loop is waiting for. -/
inductive LoopPhase
  | accepting
  | shakingHands (peer : Peer)
  | sleeping (delay : Duration)
  /-- The loop has returned, normally or with the failure. -/
  | ended (result : Except AcceptFailure Unit)
  | panicked

/-- An accept loop. -/
structure AcceptLoop where
  phase : LoopPhase
  backoff : AcceptBackoff
  permits : Nat
  /-- The shutdown channel with the count that the loop has seen. -/
  shutdown : Option (Watch Bool × Nat)
  arrivals : Nat
  backlog : List Peer
  running : List Peer
  parted : List (Peer × Parting)

/-- What can happen to the loop. -/
inductive LoopAction
  | connect
  /-- The loop is polled; whether a tunnel is found for the connection it takes. -/
  | poll (found : Bool)
  | fail (failure : AcceptFailure) (draw : Draw)
  | handshake (result : Except AcceptError Unit) (draw : Draw) (found : Bool)
  | wake
  | finish (peer : Peer)
  | sendShutdown
  | dropShutdown

namespace AcceptLoop

/-- The loop when it begins. -/
def start (config : LoopConfig) (shutdown : Option (Watch Bool × Nat)) : AcceptLoop where
  phase := .accepting
  backoff := .default
  permits := config.maxConnections
  shutdown := shutdown
  arrivals := 0
  backlog := []
  running := []
  parted := []

/-- The loop is done: its listener is gone. -/
def isOver (loop : AcceptLoop) : Bool :=
  match loop.phase with
  | .ended _ => true
  | .panicked => true
  | _ => false

/-- The shutdown channel is ready, changed or closed. -/
def isShutDown (loop : AcceptLoop) : Bool :=
  match loop.shutdown with
  | none => false
  | some (watch, seen) => (watch.changed seen).isSome

/-- Take a permit for an accepted connection, find it a tunnel if it needs one, and serve
it. -/
def grant (config : LoopConfig) (loop : AcceptLoop) (peer : Peer) (found : Bool) : AcceptLoop :=
  if loop.permits = 0 then
    { loop with
      phase := .accepting
      parted := loop.parted ++ [(peer, .refused loop.running.length)] }
  else if config.needsTunnel && !found then
    -- The permit is dropped with the connection.
    { loop with phase := .accepting, parted := loop.parted ++ [(peer, .unroutable)] }
  else
    { loop with
      phase := .accepting
      permits := loop.permits - 1
      running := loop.running ++ [peer] }

/-- The accept has failed: return, or back off. -/
def failed (config : LoopConfig) (loop : AcceptLoop) (failure : AcceptFailure) (draw : Draw) :
    AcceptLoop :=
  if config.ends failure then
    { loop with phase := .ended (.error failure) }
  else
    match loop.backoff.recordFailure draw with
    | .error _ => { loop with phase := .panicked }
    | .ok ((delay, _), backoff) => { loop with phase := .sleeping delay, backoff := backoff }

/-- Take the next connection of the listener. -/
def accept (config : LoopConfig) (loop : AcceptLoop) (found : Bool) : Option AcceptLoop :=
  match loop.backlog with
  | [] => none
  | peer :: rest =>
      if config.shakesHands then
        some { loop with phase := .shakingHands peer, backlog := rest }
      else
        some (grant config { loop with backlog := rest, backoff := loop.backoff.reset } peer found)

/-- One event of the loop. -/
def step (config : LoopConfig) : Step AcceptLoop LoopAction
  | loop, .connect =>
      if loop.isOver then
        none
      else
        some { loop with backlog := loop.backlog ++ [loop.arrivals], arrivals := loop.arrivals + 1 }
  | loop, .poll found =>
      match loop.phase with
      | .accepting =>
          -- The select is biased: the shutdown channel comes first.
          if loop.isShutDown then some { loop with phase := .ended (.ok ()) }
          else loop.accept config found
      | _ => none
  | loop, .fail failure draw =>
      match loop.phase with
      | .accepting => if loop.isShutDown then none else some (loop.failed config failure draw)
      | _ => none
  | loop, .handshake result draw found =>
      match loop.phase, result with
      | .shakingHands peer, .ok () =>
          some (grant config { loop with backoff := loop.backoff.reset } peer found)
      | .shakingHands peer, .error error =>
          some (failed config { loop with
            parted := loop.parted ++ [(peer, .handshakeFailed)] } (.io error) draw)
      | _, _ => none
  | loop, .wake =>
      match loop.phase with
      | .sleeping _ => some { loop with phase := .accepting }
      | _ => none
  | loop, .finish peer =>
      if peer ∈ loop.running then
        some { loop with
          running := loop.running.erase peer
          permits := loop.permits + 1
          parted := loop.parted ++ [(peer, .finished)] }
      else
        none
  | loop, .sendShutdown =>
      match loop.shutdown with
      | some (watch, seen) =>
          if watch.senderGone then none
          else some { loop with shutdown := some (watch.send true, seen) }
      | none => none
  | loop, .dropShutdown =>
      match loop.shutdown with
      | some (watch, seen) => some { loop with shutdown := some (watch.dropSender, seen) }
      | none => none

/-- What each step of a loop can do. -/
inductive Steps (config : LoopConfig) (loop : AcceptLoop) : LoopAction → AcceptLoop → Prop
  | connect (goesOn : loop.isOver = false) : Steps config loop .connect
      { loop with backlog := loop.backlog ++ [loop.arrivals], arrivals := loop.arrivals + 1 }
  | shutDown {found} (accepting : loop.phase = .accepting) (shut : loop.isShutDown = true) :
      Steps config loop (.poll found) { loop with phase := .ended (.ok ()) }
  | take {found peer rest} (accepting : loop.phase = .accepting)
      (quiet : loop.isShutDown = false) (backlog : loop.backlog = peer :: rest)
      (shakes : config.shakesHands = true) :
      Steps config loop (.poll found) { loop with phase := .shakingHands peer, backlog := rest }
  | grant {found peer rest} (accepting : loop.phase = .accepting)
      (quiet : loop.isShutDown = false) (backlog : loop.backlog = peer :: rest)
      (leaves : config.shakesHands = false) :
      Steps config loop (.poll found)
        (grant config { loop with backlog := rest, backoff := loop.backoff.reset } peer found)
  | fail {failure draw} (accepting : loop.phase = .accepting) (quiet : loop.isShutDown = false) :
      Steps config loop (.fail failure draw) (loop.failed config failure draw)
  | shaken {draw found peer} (shaking : loop.phase = .shakingHands peer) :
      Steps config loop (.handshake (.ok ()) draw found)
        (grant config { loop with backoff := loop.backoff.reset } peer found)
  | unshaken {error draw found peer} (shaking : loop.phase = .shakingHands peer) :
      Steps config loop (.handshake (.error error) draw found)
        (failed config { loop with parted := loop.parted ++ [(peer, .handshakeFailed)] }
          (.io error) draw)
  | wake {delay} (sleeping : loop.phase = .sleeping delay) :
      Steps config loop .wake { loop with phase := .accepting }
  | finish {peer} (served : peer ∈ loop.running) : Steps config loop (.finish peer)
      { loop with
        running := loop.running.erase peer
        permits := loop.permits + 1
        parted := loop.parted ++ [(peer, .finished)] }
  | sendShutdown {watch seen} (watched : loop.shutdown = some (watch, seen))
      (there : watch.senderGone = false) :
      Steps config loop .sendShutdown { loop with shutdown := some (watch.send true, seen) }
  | dropShutdown {watch seen} (watched : loop.shutdown = some (watch, seen)) :
      Steps config loop .dropShutdown { loop with shutdown := some (watch.dropSender, seen) }

theorem steps_of_step {config : LoopConfig} {loop next : AcceptLoop} {action : LoopAction}
    (stepEq : step config loop action = some next) : Steps config loop action next := by
  cases action with
  | connect =>
      simp only [step] at stepEq
      split at stepEq <;> cases stepEq
      exact .connect (Bool.eq_false_iff.mpr ‹_›)
  | poll found =>
      simp only [step] at stepEq
      split at stepEq
      · split at stepEq
        · cases stepEq
          exact .shutDown ‹_› ‹_›
        · rename_i quiet
          simp only [accept] at stepEq
          split at stepEq
          · cases stepEq
          · split at stepEq <;> cases stepEq
            · exact .take ‹_› (Bool.eq_false_iff.mpr quiet) ‹_› ‹_›
            · exact .grant ‹_› (Bool.eq_false_iff.mpr quiet) ‹_› (Bool.eq_false_iff.mpr ‹_›)
      · cases stepEq
  | fail failure draw =>
      simp only [step] at stepEq
      split at stepEq
      · split at stepEq <;> cases stepEq
        exact .fail ‹_› (Bool.eq_false_iff.mpr ‹_›)
      · cases stepEq
  | handshake result draw found =>
      simp only [step] at stepEq
      split at stepEq <;> cases stepEq
      · exact .shaken ‹_›
      · exact .unshaken ‹_›
  | wake =>
      simp only [step] at stepEq
      split at stepEq <;> cases stepEq
      exact .wake ‹_›
  | finish peer =>
      simp only [step] at stepEq
      split at stepEq <;> cases stepEq
      exact .finish ‹_›
  | sendShutdown =>
      simp only [step] at stepEq
      split at stepEq
      · split at stepEq <;> cases stepEq
        exact .sendShutdown ‹_› (Bool.eq_false_iff.mpr ‹_›)
      · cases stepEq
  | dropShutdown =>
      simp only [step] at stepEq
      split at stepEq <;> cases stepEq
      exact .dropShutdown ‹_›

end AcceptLoop

/-! ## The loops of the program -/

/-- `HttpIngress::start`, after the listener is bound. -/
def HttpIngress.start (maxConnections : Nat) : LoopConfig where
  maxConnections := maxConnections
  shakesHands := false
  needsTunnel := false
  ends
    | .io error => !isTransientAcceptError error
    | .endpointClosed => true

/-- `TcpIngress::start`: a connection needs a tunnel with the capability `tcp`. -/
def TcpIngress.start (maxConnections : Nat) : LoopConfig :=
  { HttpIngress.start maxConnections with needsTunnel := true }

/-- `Http3Ingress::start_with_shutdown`: the handshake is left to the task of the
connection, and the end of the endpoint is the only failure. -/
def Http3Ingress.startWithShutdown (maxConnections : Nat) : LoopConfig where
  maxConnections := maxConnections
  shakesHands := false
  needsTunnel := false
  ends _ := true

/-- `Http3Ingress::start`: the sender of the shutdown channel is dropped at once. -/
def Http3Ingress.start (maxConnections : Nat) : AcceptLoop :=
  .start (startWithShutdown maxConnections) (some ((Watch.new false).dropSender, 0))

/-- The transports of a client. -/
inductive TransportConfig
  | tcp
  | tls
  | quic
deriving DecidableEq

/-- `TunnelServer::run` over TCP or TLS, and `TunnelServer::run_quic`.  No failure ends
these loops. -/
def TunnelServer.run (transport : TransportConfig) (maxSessions : Nat) : LoopConfig where
  maxConnections := maxSessions
  shakesHands := transport ≠ .tcp
  needsTunnel := false
  ends _ := false

end FerroTunnel.Accept
