import FerroTunnel.Map.Lookup
import FerroTunnel.Transition.Pool
import FerroTunnel.Wire.Frame

/-!
# The session store

`SessionStore` keeps the sessions by their id and an index from tunnel ids to
session ids.  Both are concurrent maps, and each operation on one of them is
atomic, but a method performs several of them.  A call of a method is therefore
given by the map operation it performs next, and the calls of the store form a
pool.

An iteration over the sessions meets stored sessions one at a time, in an
order of its own, while other calls go on.
-/

namespace FerroTunnel.Tunnel

open FerroTunnel.Transition
open FerroTunnel.Wire

/-- An active client session. -/
structure Session (μ : Type) where
  id : Uuid
  tunnelId : String
  lastHeartbeat : Nat
  capabilities : List String
  multiplexer : Option μ
deriving DecidableEq

/-- Note activity of the client. -/
def Session.updateHeartbeat {μ : Type} (session : Session μ) (now : Nat) : Session μ :=
  { session with lastHeartbeat := now }

/-- Why a session is refused. -/
inductive SessionStoreError
  | tunnelIdAlreadyExists (tunnelId : String)
deriving DecidableEq

/-- Sessions, and their ids by tunnel. -/
structure SessionStore (μ : Type) where
  sessions : Finmap fun _ : Uuid => Session μ
  tunnelIndex : Finmap fun _ : String => Uuid

namespace SessionStore

variable {μ : Type}

/-- An empty store. -/
def new : SessionStore μ where
  sessions := ∅
  tunnelIndex := ∅

/-- Take the index entry of the session's tunnel, unless another session has
it. -/
def claimEntry (store : SessionStore μ) (session : Session μ) :
    Except SessionStoreError (SessionStore μ) :=
  match store.tunnelIndex.lookup session.tunnelId with
  | some owner =>
      if owner ≠ session.id then
        .error (.tunnelIdAlreadyExists session.tunnelId)
      else
        .ok store
  | none =>
      .ok { store with tunnelIndex := store.tunnelIndex.insert session.tunnelId session.id }

/-- The session is stored. -/
def insertSession (store : SessionStore μ) (session : Session μ) : SessionStore μ :=
  { store with sessions := store.sessions.insert session.id session }

/-- The session is deleted. -/
def removeSession (store : SessionStore μ) (id : Uuid) : SessionStore μ :=
  { store with sessions := store.sessions.erase id }

/-- The tunnel leads to the session. -/
def insertIndex (store : SessionStore μ) (session : Session μ) : SessionStore μ :=
  { store with tunnelIndex := store.tunnelIndex.insert session.tunnelId session.id }

/-- The tunnel leads nowhere. -/
def removeIndex (store : SessionStore μ) (tunnelId : String) : SessionStore μ :=
  { store with tunnelIndex := store.tunnelIndex.erase tunnelId }

/-- The number of stored sessions. -/
def count (store : SessionStore μ) : Nat :=
  store.sessions.keys.card

end SessionStore

/-- A method of the store, as it is called. -/
inductive Request (μ : Type)
  | add (session : Session μ)
  | addOrReplace (session : Session μ)
  | getByTunnelId (tunnelId : String)
  | updateHeartbeat (id : Uuid) (now : Nat)
  | remove (id : Uuid)
  | cleanupStaleSessions (now timeout : Nat)
deriving DecidableEq

/-- Where a call stands: the map operation it performs next, or what it has
returned. -/
inductive Call (μ : Type)
  | add (session : Session μ)
  | addInsert (session : Session μ)
  | addReturned (session : Session μ) (result : Except SessionStoreError Unit)
  | addOrReplace (session : Session μ)
  | addOrReplaceRemoveOld (session : Session μ) (oldSessionId : Uuid)
  | addOrReplaceIndex (session : Session μ)
  | addOrReplaceInsert (session : Session μ)
  | addOrReplaceReturned (session : Session μ)
  | getByTunnelId (tunnelId : String)
  | getByTunnelIdSession (tunnelId : String) (id : Uuid)
  | getByTunnelIdReturned (tunnelId : String) (result : Option (Session μ))
  | updateHeartbeat (id : Uuid) (now : Nat)
  | updateHeartbeatReturned (found : Bool)
  | remove (id : Uuid)
  | removeIndex (session : Session μ)
  | removeReturned (result : Option (Session μ))
  | cleanupScan (now timeout : Nat) (toRemove : List Uuid)
  | cleanupRemove (count : Nat) (toRemove : List Uuid)
  | cleanupRemoveIndex (session : Session μ) (count : Nat) (toRemove : List Uuid)
  | cleanupReturned (count : Nat)

/-- A call as it begins. -/
def Request.start {μ : Type} : Request μ → Call μ
  | .add session => .add session
  | .addOrReplace session => .addOrReplace session
  | .getByTunnelId tunnelId => .getByTunnelId tunnelId
  | .updateHeartbeat id now => .updateHeartbeat id now
  | .remove id => .remove id
  | .cleanupStaleSessions now timeout => .cleanupScan now timeout []

namespace Call

variable {μ : Type}

/-- The call has returned. -/
def isReturned : Call μ → Bool
  | .addReturned _ _ | .addOrReplaceReturned _ | .getByTunnelIdReturned _ _
  | .updateHeartbeatReturned _ | .removeReturned _ | .cleanupReturned _ => true
  | _ => false

/-- The next map operation of a call.  `visited` is the session an iteration
meets next, or `none` at its end; the other operations do not use it. -/
def next (store : SessionStore μ) (visited : Option Uuid) :
    Call μ → Option (SessionStore μ × Call μ)
  | .add session =>
      match store.claimEntry session with
      | .error error => some (store, .addReturned session (.error error))
      | .ok claimed => some (claimed, .addInsert session)
  | .addInsert session => some (store.insertSession session, .addReturned session (.ok ()))
  | .addOrReplace session =>
      match store.tunnelIndex.lookup session.tunnelId with
      | some oldSessionId =>
          if oldSessionId ≠ session.id then
            some (store.removeIndex session.tunnelId,
              .addOrReplaceRemoveOld session oldSessionId)
          else
            some (store.removeIndex session.tunnelId, .addOrReplaceIndex session)
      | none => some (store, .addOrReplaceIndex session)
  | .addOrReplaceRemoveOld session oldSessionId =>
      some (store.removeSession oldSessionId, .addOrReplaceIndex session)
  | .addOrReplaceIndex session => some (store.insertIndex session, .addOrReplaceInsert session)
  | .addOrReplaceInsert session =>
      some (store.insertSession session, .addOrReplaceReturned session)
  | .getByTunnelId tunnelId =>
      match store.tunnelIndex.lookup tunnelId with
      | none => some (store, .getByTunnelIdReturned tunnelId none)
      | some id => some (store, .getByTunnelIdSession tunnelId id)
  | .getByTunnelIdSession tunnelId id =>
      some (store, .getByTunnelIdReturned tunnelId (store.sessions.lookup id))
  | .updateHeartbeat id now =>
      match store.sessions.lookup id with
      | none => some (store, .updateHeartbeatReturned false)
      | some session =>
          some ({ store with sessions := store.sessions.insert id (session.updateHeartbeat now) },
            .updateHeartbeatReturned true)
  | .remove id =>
      match store.sessions.lookup id with
      | none => some (store, .removeReturned none)
      | some session => some (store.removeSession id, .removeIndex session)
  | .removeIndex session =>
      some (store.removeIndex session.tunnelId, .removeReturned (some session))
  | .cleanupScan now timeout toRemove =>
      match visited with
      | none => some (store, .cleanupRemove toRemove.length toRemove)
      | some id =>
          match store.sessions.lookup id with
          | none => none
          | some session =>
              if now - session.lastHeartbeat > timeout then
                some (store, .cleanupScan now timeout (toRemove ++ [id]))
              else
                some (store, .cleanupScan now timeout toRemove)
  | .cleanupRemove count [] => some (store, .cleanupReturned count)
  | .cleanupRemove count (id :: toRemove) =>
      match store.sessions.lookup id with
      | none => some (store, .cleanupRemove count toRemove)
      | some session =>
          some (store.removeSession id, .cleanupRemoveIndex session count toRemove)
  | .cleanupRemoveIndex session count toRemove =>
      some (store.removeIndex session.tunnelId, .cleanupRemove count toRemove)
  | _ => none

end Call

/-- The store with every call ever made on it. -/
abbrev StorePool (μ : Type) := Pool (SessionStore μ) (Call μ)

/-- A call is made on the store, or performs its next map operation. -/
abbrev StoreAction (μ : Type) := PoolAction (Request μ) (Option Uuid)

namespace StorePool

variable {μ : Type}

/-- A new store. -/
def initial : StorePool μ where
  shared := .new
  calls := []

/-- One call, or one map operation. -/
def step : Step (StorePool μ) (StoreAction μ) :=
  Pool.step Request.start fun store call visited => call.next store visited

/-- No call is in progress. -/
def Quiescent (pool : StorePool μ) : Prop :=
  ∀ call ∈ pool.calls, call.isReturned = true

instance (pool : StorePool μ) : Decidable pool.Quiescent :=
  inferInstanceAs (Decidable (∀ call ∈ pool.calls, call.isReturned = true))

end StorePool

end FerroTunnel.Tunnel
