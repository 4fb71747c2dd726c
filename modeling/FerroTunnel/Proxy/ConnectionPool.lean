import FerroTunnel.Transition.Loans

/-!
# The connections of the local proxy

`LocalProxyService` forwards a request over an HTTP/1.1 connection to the local
service: it takes the idle connection that was used last, or makes a new one,
sends the request, and puts the connection back when the head of the response
has arrived.  The body is read by whoever the response is returned to.

A call performs one locked section, or one exchange with the connection, at a
time.  Connections are numbered in the order in which they are made.
-/

namespace FerroTunnel.Proxy

open FerroTunnel.Transition

/-- The parts of the configuration that HTTP/1.1 connections depend on; times are in
nanoseconds. -/
structure PoolConfig where
  maxIdlePerHost : Nat
  idleTimeout : Nat
deriving DecidableEq

/-- The defaults of the pool. -/
def PoolConfig.default : PoolConfig where
  maxIdlePerHost := 32
  idleTimeout := 90 * 1000000000

/-- An idle connection. -/
structure PooledH1Connection where
  sender : Nat
  lastUsed : Nat
deriving DecidableEq

/-- The pool, the number of connections that were made, and those that are closed. -/
structure ConnectionPool where
  clock : Nat
  made : Nat
  closed : List Nat
  h1Pool : List PooledH1Connection
deriving DecidableEq

/-- What one turn of the loop of `acquire_h1` finds. -/
inductive Acquired
  | reused (sender : Nat)
  | discarded
  | empty
deriving DecidableEq

namespace ConnectionPool

/-- An empty pool. -/
def new : ConnectionPool where
  clock := 0
  made := 0
  closed := []
  h1Pool := []

variable (config : PoolConfig) (pool : ConnectionPool)

/-- The connection was closed. -/
def isClosed (sender : Nat) : Bool :=
  pool.closed.contains sender

/-- The connection can still be used. -/
def isValid (conn : PooledH1Connection) : Bool :=
  !pool.isClosed conn.sender && decide (pool.clock - conn.lastUsed < config.idleTimeout)

/-- One turn of the loop of `acquire_h1`. -/
def acquireH1 : ConnectionPool × Acquired :=
  match pool.h1Pool.getLast? with
  | some conn =>
      let rest := { pool with h1Pool := pool.h1Pool.dropLast }
      if pool.isValid config conn then (rest, .reused conn.sender) else (rest, .discarded)
  | none => (pool, .empty)

/-- The rest of `acquire_h1`, when a connection is made. -/
def connect : ConnectionPool × Nat :=
  ({ pool with made := pool.made + 1 }, pool.made)

/-- The locked section of `release_h1`. -/
def releaseH1 (sender : Nat) : ConnectionPool :=
  if pool.h1Pool.length ≥ config.maxIdlePerHost then pool
  else { pool with h1Pool := pool.h1Pool ++ [⟨sender, pool.clock⟩] }

/-- Expired connections are dropped. -/
def evictExpired : ConnectionPool :=
  { pool with h1Pool := pool.h1Pool.filter (pool.isValid config) }

end ConnectionPool

/-- Where a call stands.  `body` counts the frames of the response body that have not been
read yet. -/
inductive LocalCall
  | acquire (isUpgrade : Bool)
  | connect (isUpgrade : Bool)
  | send (isUpgrade : Bool) (sender : Nat)
  | awaiting (isUpgrade : Bool) (sender : Nat)
  | release (sender body : Nat)
  | releaseLocked (sender body : Nat)
  | returned (sender body : Nat)
  | upgraded (sender : Nat)
  | failed
deriving DecidableEq

/-- What a call meets outside: nothing, a new connection, the head of the response with
the length of its body, a failure, or a reader of the body. -/
inductive Outside
  | proceed
  | connected
  | head (status : UInt16) (body : Nat)
  | broken
  | read
deriving DecidableEq

/-- What a call does next. -/
def LocalCall.next (config : PoolConfig) (pool : ConnectionPool) :
    LocalCall → Outside → Option (ConnectionPool × LocalCall)
  | .acquire isUpgrade, .proceed =>
      match pool.acquireH1 config with
      | (rest, .reused sender) => some (rest, .send isUpgrade sender)
      | (rest, .discarded) => some (rest, .acquire isUpgrade)
      | (rest, .empty) => some (rest, .connect isUpgrade)
  | .connect isUpgrade, .connected => some (pool.connect.1, .send isUpgrade pool.connect.2)
  | .connect _, .broken => some (pool, .failed)
  | .send isUpgrade sender, .proceed => some (pool, .awaiting isUpgrade sender)
  | .awaiting isUpgrade sender, .head status body =>
      if isUpgrade ∧ status = 101 then some (pool, .upgraded sender)
      else some (pool, .release sender body)
  | .awaiting _ _, .broken => some (pool, .failed)
  | .release sender body, .proceed =>
      if pool.isClosed sender then some (pool, .returned sender body)
      else some (pool, .releaseLocked sender body)
  | .releaseLocked sender body, .proceed =>
      some (pool.releaseH1 config sender, .returned sender body)
  | .returned sender (body + 1), .read => some (pool, .returned sender body)
  | _, _ => none

/-- The call is in an exchange over the connection: it has sent its request, and the body
of the response has not been read to its end. -/
def LocalCall.Busy (sender : Nat) : LocalCall → Prop
  | .awaiting _ used => used = sender
  | .release used body | .releaseLocked used body | .returned used body =>
      used = sender ∧ body ≠ 0
  | .upgraded used => used = sender
  | _ => False

/-- The frames left to read of a response that was returned over the connection. -/
def LocalCall.unread (sender : Nat) : LocalCall → Nat
  | .returned used body => if used = sender then body else 0
  | _ => 0

/-- The service with all calls ever made. -/
abbrev LocalProxyService := Pool ConnectionPool LocalCall

/-- A call is made or goes on, time passes, a connection is closed, or expired connections
are evicted. -/
inductive ServiceAction
  | call (isUpgrade : Bool)
  | advance (call : Nat) (outside : Outside)
  | wait (duration : Nat)
  | close (sender : Nat)
  | evict
deriving DecidableEq

namespace LocalProxyService

/-- A service without calls. -/
def new : LocalProxyService where
  shared := .new
  calls := []

/-- One call, or one step of a call. -/
def step (config : PoolConfig) : Step LocalProxyService ServiceAction
  | service, .call isUpgrade =>
      some { service with calls := service.calls ++ [.acquire isUpgrade] }
  | service, .advance k outside =>
      (service.calls[k]?).bind fun call =>
        (call.next config service.shared outside).map fun result =>
          { shared := result.1, calls := service.calls.set k result.2 }
  | service, .wait duration =>
      some { service with
        shared := { service.shared with clock := service.shared.clock + duration } }
  | service, .close sender =>
      some { service with
        shared := { service.shared with closed := sender :: service.shared.closed } }
  | service, .evict => some { service with shared := service.shared.evictExpired config }

/-- A connection that `acquire_h1` would hand out is in no exchange. -/
def HandsOutIdle (config : PoolConfig) (service : LocalProxyService) : Prop :=
  ∀ rest sender, service.shared.acquireH1 config = (rest, .reused sender) →
    ∀ call ∈ service.calls, ¬ call.Busy sender

/-- Every response that was returned over a connection which lies idle has been read to its
end. -/
def BodiesRead (service : LocalProxyService) : Prop :=
  ∀ conn ∈ service.shared.h1Pool, ∀ call ∈ service.calls, call.unread conn.sender = 0

instance (service : LocalProxyService) : Decidable service.BodiesRead :=
  inferInstanceAs (Decidable (∀ conn ∈ service.shared.h1Pool, ∀ call ∈ service.calls, _))

end LocalProxyService

end FerroTunnel.Proxy
