import FerroTunnel.Tunnel.ShardedStore

/-!
# Calls on the sharded store

Like the calls on the plain store, a call on the sharded store performs one map
operation at a time.
-/

namespace FerroTunnel.Tunnel

open FerroTunnel.Transition
open FerroTunnel.Wire

variable {μ : Type}

/-- Where a call on the sharded store stands.  A method by tunnel id runs in the shard of
the tunnel; a method by session id goes through the shards, and `shard` is the one it
looks at next. -/
inductive ShardedCall (μ : Type) (n : Nat)
  | inShard (i : Fin n) (call : Call μ)
  | updateHeartbeat (id : Uuid) (now shard : Nat)
  | updateHeartbeatReturned (found : Bool)
  | remove (id : Uuid) (shard : Nat)
  | removeIndex (i : Fin n) (session : Session μ)
  | removeReturned (result : Option (Session μ))
  | cleanupScan (now timeout shard : Nat) (toRemove : List Uuid)
  | cleanupRemove (count : Nat) (toRemove : List Uuid) (shard : Nat)
  | cleanupRemoveIndex (i : Fin n) (session : Session μ) (count : Nat) (toRemove : List Uuid)
  | cleanupReturned (count : Nat)

namespace ShardedCall

variable {n : Nat}

/-- A call as it begins. -/
def start [NeZero n] (hash : String → Nat) : Request μ → ShardedCall μ n
  | .add session => .inShard (shardIndex hash n session.tunnelId) (.add session)
  | .addOrReplace session => .inShard (shardIndex hash n session.tunnelId) (.addOrReplace session)
  | .getByTunnelId tunnelId => .inShard (shardIndex hash n tunnelId) (.getByTunnelId tunnelId)
  | .updateHeartbeat id now => .updateHeartbeat id now 0
  | .remove id => .remove id 0
  | .cleanupStaleSessions now timeout => .cleanupScan now timeout 0 []

/-- The next map operation of a call. -/
def next (store : ShardedSessionStore μ n) (visited : Option Uuid) :
    ShardedCall μ n → Option (ShardedSessionStore μ n × ShardedCall μ n)
  | .inShard i call =>
      (call.next (store.shards i) visited).map fun result =>
        (store.set i result.1, .inShard i result.2)
  | .updateHeartbeat id now shard =>
      if inside : shard < n then
        match (store.shards ⟨shard, inside⟩).updateHeartbeat id now with
        | (_, none) => some (store, .updateHeartbeat id now (shard + 1))
        | (updated, some _) => some (store.set ⟨shard, inside⟩ updated, .updateHeartbeatReturned true)
      else
        some (store, .updateHeartbeatReturned false)
  | .remove id shard =>
      if inside : shard < n then
        match (store.shards ⟨shard, inside⟩).get id with
        | none => some (store, .remove id (shard + 1))
        | some session =>
            some (store.set ⟨shard, inside⟩ ((store.shards ⟨shard, inside⟩).removeSession id),
              .removeIndex ⟨shard, inside⟩ session)
      else
        some (store, .removeReturned none)
  | .removeIndex i session =>
      some (store.set i ((store.shards i).removeIndex session.tunnelId),
        .removeReturned (some session))
  | .cleanupScan now timeout shard toRemove =>
      if inside : shard < n then
        match visited with
        | none => some (store, .cleanupScan now timeout (shard + 1) toRemove)
        | some id =>
            match (store.shards ⟨shard, inside⟩).get id with
            | none => none
            | some session =>
                if now - session.lastHeartbeat > timeout then
                  some (store, .cleanupScan now timeout shard (toRemove ++ [id]))
                else
                  some (store, .cleanupScan now timeout shard toRemove)
      else
        some (store, .cleanupRemove toRemove.length toRemove 0)
  | .cleanupRemove count [] _ => some (store, .cleanupReturned count)
  | .cleanupRemove count (id :: toRemove) shard =>
      if inside : shard < n then
        match (store.shards ⟨shard, inside⟩).get id with
        | none => some (store, .cleanupRemove count (id :: toRemove) (shard + 1))
        | some session =>
            some (store.set ⟨shard, inside⟩ ((store.shards ⟨shard, inside⟩).removeSession id),
              .cleanupRemoveIndex ⟨shard, inside⟩ session count toRemove)
      else
        some (store, .cleanupRemove count toRemove 0)
  | .cleanupRemoveIndex i session count toRemove =>
      some (store.set i ((store.shards i).removeIndex session.tunnelId),
        .cleanupRemove count toRemove 0)
  | .updateHeartbeatReturned _ | .removeReturned _ | .cleanupReturned _ => none

end ShardedCall

end FerroTunnel.Tunnel
