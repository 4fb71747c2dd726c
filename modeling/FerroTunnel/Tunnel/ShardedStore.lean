import FerroTunnel.Map.Lookup
import FerroTunnel.Map.Partition
import FerroTunnel.Tunnel.StoreMethods
import Mathlib.Algebra.BigOperators.Fin
import Mathlib.Data.Finset.Sort
import Mathlib.Data.List.Perm.Basic

/-!
# The sharded session store

`ShardedSessionStore` keeps `n` pairs of maps and puts a session into the shard
that the hash of its tunnel id selects.  Operations by tunnel id go to that
shard; operations by session id search the shards in order.  The hash function
is a parameter.
-/

namespace FerroTunnel.Tunnel

open FerroTunnel.Wire

variable {μ : Type}

/-- One shard: an index of tunnel ids and the sessions by id. -/
abbrev SessionShard (μ : Type) := SessionStore μ

/-- A store in shards. -/
structure ShardedSessionStore (μ : Type) (n : Nat) where
  shards : Fin n → SessionShard μ

/-- The shard of a tunnel. -/
def shardIndex (hash : String → Nat) (n : Nat) [NeZero n] (tunnelId : String) : Fin n :=
  Fin.ofNat n (hash tunnelId)

namespace ShardedSessionStore

variable {n : Nat}

/-- Empty shards. -/
def withShards (n : Nat) : ShardedSessionStore μ n where
  shards _ := .new

/-- Replace a shard. -/
def set (store : ShardedSessionStore μ n) (i : Fin n) (shard : SessionShard μ) :
    ShardedSessionStore μ n where
  shards := Function.update store.shards i shard

/-- Adds a session to the shard of its tunnel. -/
def add [NeZero n] (hash : String → Nat) (store : ShardedSessionStore μ n)
    (session : Session μ) : ShardedSessionStore μ n × Except SessionStoreError Unit :=
  let i := shardIndex hash n session.tunnelId
  let (shard, result) := (store.shards i).add session
  (store.set i shard, result)

/-- Replaces a session in the shard of its tunnel. -/
def addOrReplace [NeZero n] (hash : String → Nat) (store : ShardedSessionStore μ n)
    (session : Session μ) : ShardedSessionStore μ n :=
  let i := shardIndex hash n session.tunnelId
  store.set i ((store.shards i).addOrReplace session)

/-- The first shard that holds the session. -/
def holder (store : ShardedSessionStore μ n) (id : Uuid) : Option (Fin n) :=
  (List.finRange n).find? fun i => ((store.shards i).get id).isSome

/-- Looks an id up in the shard that holds it. -/
def get (store : ShardedSessionStore μ n) (id : Uuid) : Option (Session μ) :=
  match store.holder id with
  | none => none
  | some i => (store.shards i).get id

/-- Looks a tunnel up in its shard. -/
def getByTunnelId [NeZero n] (hash : String → Nat) (store : ShardedSessionStore μ n)
    (tunnelId : String) : Option (Session μ) :=
  (store.shards (shardIndex hash n tunnelId)).getByTunnelId tunnelId

/-- `get_mut`, with the heartbeat of the session it finds updated. -/
def updateHeartbeat (store : ShardedSessionStore μ n) (id : Uuid) (now : Nat) :
    ShardedSessionStore μ n × Option (Session μ) :=
  match store.holder id with
  | none => (store, none)
  | some i =>
      let (shard, result) := (store.shards i).updateHeartbeat id now
      (store.set i shard, result)

/-- Removes a session from the shard that holds it. -/
def remove (store : ShardedSessionStore μ n) (id : Uuid) :
    ShardedSessionStore μ n × Option (Session μ) :=
  match store.holder id with
  | none => (store, none)
  | some i =>
      let (shard, result) := (store.shards i).remove id
      (store.set i shard, result)

/-- The number of sessions in all shards. -/
def count (store : ShardedSessionStore μ n) : Nat :=
  ((List.finRange n).map fun i => (store.shards i).count).sum

/-- The stale sessions of all shards, in the order the iterations meet them. -/
def staleSessions (store : ShardedSessionStore μ n) (iterations : Fin n → Iteration μ)
    (now timeout : Nat) : List Uuid :=
  (List.finRange n).flatMap fun i =>
    (store.shards i).staleSessions (iterations i) now timeout

/-- Remove sessions one after another. -/
def removeAll (store : ShardedSessionStore μ n) (ids : List Uuid) : ShardedSessionStore μ n :=
  ids.foldl (fun store id => (store.remove id).1) store

/-- Removes the stale sessions of all shards. -/
def cleanupStaleSessions (store : ShardedSessionStore μ n) (iterations : Fin n → Iteration μ)
    (now timeout : Nat) : ShardedSessionStore μ n × Nat :=
  let toRemove := store.staleSessions iterations now timeout
  (store.removeAll toRemove, toRemove.length)

/-- A multiplexer with the capability, in the first shard that has one. -/
def findMultiplexerWithCapability (store : ShardedSessionStore μ n)
    (iterations : Fin n → Iteration μ) (capability : String) : Option μ :=
  (List.finRange n).findSome? fun i =>
    (store.shards i).findMultiplexerWithCapability (iterations i) capability

variable (store : ShardedSessionStore μ n)

include store

theorem sessions_set (i : Fin n) (shard : SessionShard μ) :
    (fun j => ((store.set i shard).shards j).sessions) =
      Function.update (fun j => (store.shards j).sessions) i shard.sessions :=
  funext fun j => Function.apply_update (fun _ shard => SessionStore.sessions shard) _ _ _ j

theorem tunnelIndex_set (i : Fin n) (shard : SessionShard μ) :
    (fun j => ((store.set i shard).shards j).tunnelIndex) =
      Function.update (fun j => (store.shards j).tunnelIndex) i shard.tunnelIndex :=
  funext fun j => Function.apply_update (fun _ shard => SessionStore.tunnelIndex shard) _ _ _ j

@[simp]
theorem shards_set (i : Fin n) (shard : SessionShard μ) : (store.set i shard).shards i = shard :=
  Function.update_self ..

@[simp]
theorem set_set (i : Fin n) (first second : SessionShard μ) :
    (store.set i first).set i second = store.set i second :=
  congrArg mk (Function.update_idem ..)

@[simp]
theorem set_self (i : Fin n) : store.set i (store.shards i) = store :=
  congrArg mk (Function.update_eq_self ..)

end ShardedSessionStore

/-! ## The simulation relation -/

/-- The sharded store keeps the maps of the plain one, every index entry in the shard
of its tunnel and every session in the shard of the tunnel that `name` gives its
id.  Stored sessions and index entries agree with `name`. -/
structure Splits {n : Nat} [NeZero n] (hash : String → Nat) (name : Uuid → String)
    (store : SessionStore μ) (sharded : ShardedSessionStore μ n) : Prop where
  sessions : Map.Partition (fun id => shardIndex hash n (name id)) store.sessions
    fun i => (sharded.shards i).sessions
  index : Map.Partition (shardIndex hash n) store.tunnelIndex
    fun i => (sharded.shards i).tunnelIndex
  named : ∀ {id session}, store.sessions.lookup id = some session →
    session.id = id ∧ session.tunnelId = name id
  owned : ∀ {tunnelId id}, store.tunnelIndex.lookup tunnelId = some id → name id = tunnelId

namespace Splits

variable {n : Nat} [NeZero n] {hash : String → Nat} {name : Uuid → String}
  {store : SessionStore μ} {sharded : ShardedSessionStore μ n}

theorem new : Splits hash name (.new : SessionStore μ) (.withShards n) where
  sessions := .empty _
  index := .empty _
  named found := by simp [SessionStore.new] at found
  owned found := by simp [SessionStore.new] at found

variable (splits : Splits hash name store sharded)

include splits

/-- The shard of a tunnel has its index entry. -/
theorem lookup_index (tunnelId : String) :
    (sharded.shards (shardIndex hash n tunnelId)).tunnelIndex.lookup tunnelId =
      store.tunnelIndex.lookup tunnelId :=
  splits.index.lookup_place tunnelId

theorem get_shard_eq (i : Fin n) (id : Uuid) :
    (sharded.shards i).get id =
      if shardIndex hash n (name id) = i then store.get id else none :=
  splits.sessions i id

/-- The shard of an id's tunnel has its session. -/
theorem get_shard (id : Uuid) :
    (sharded.shards (shardIndex hash n (name id))).get id = store.get id :=
  splits.sessions.lookup_place id

/-! ### Map operations -/

variable {session : Session μ}

theorem insertSession (named : session.tunnelId = name session.id) :
    Splits hash name (store.insertSession session)
      (sharded.set (shardIndex hash n session.tunnelId)
        ((sharded.shards (shardIndex hash n session.tunnelId)).insertSession session)) where
  sessions := by
    rw [ShardedSessionStore.sessions_set, named]
    exact splits.sessions.insert session.id session
  index := by
    rw [ShardedSessionStore.tunnelIndex_set]
    simpa [SessionStore.insertSession] using splits.index
  named found := by
    rcases Map.lookup_insert_cases found with ⟨rfl, rfl⟩ | before
    · exact ⟨rfl, named⟩
    · exact splits.named before
  owned := splits.owned

theorem removeSession (id : Uuid) :
    Splits hash name (store.removeSession id)
      (sharded.set (shardIndex hash n (name id))
        ((sharded.shards (shardIndex hash n (name id))).removeSession id)) where
  sessions := by
    rw [ShardedSessionStore.sessions_set]
    exact splits.sessions.erase id
  index := by
    rw [ShardedSessionStore.tunnelIndex_set]
    simpa [SessionStore.removeSession] using splits.index
  named found := splits.named (Map.lookup_of_lookup_erase found)
  owned := splits.owned

theorem insertIndex (named : session.tunnelId = name session.id) :
    Splits hash name (store.insertIndex session)
      (sharded.set (shardIndex hash n session.tunnelId)
        ((sharded.shards (shardIndex hash n session.tunnelId)).insertIndex session)) where
  sessions := by
    rw [ShardedSessionStore.sessions_set]
    simpa [SessionStore.insertIndex] using splits.sessions
  index := by
    rw [ShardedSessionStore.tunnelIndex_set]
    exact splits.index.insert session.tunnelId session.id
  named := splits.named
  owned found := by
    rcases Map.lookup_insert_cases found with ⟨rfl, rfl⟩ | before
    · exact named.symm
    · exact splits.owned before

theorem removeIndex (tunnelId : String) :
    Splits hash name (store.removeIndex tunnelId)
      (sharded.set (shardIndex hash n tunnelId)
        ((sharded.shards (shardIndex hash n tunnelId)).removeIndex tunnelId)) where
  sessions := by
    rw [ShardedSessionStore.sessions_set]
    simpa [SessionStore.removeIndex] using splits.sessions
  index := by
    rw [ShardedSessionStore.tunnelIndex_set]
    exact splits.index.erase tunnelId
  named := splits.named
  owned found := splits.owned (Map.lookup_of_lookup_erase found)

/-! ### Methods -/

theorem add (named : session.tunnelId = name session.id) :
    Splits hash name (store.add session).1 (sharded.add hash session).1 ∧
      (sharded.add hash session).2 = (store.add session).2 := by
  have entry := splits.lookup_index session.tunnelId
  simp only [ShardedSessionStore.add, SessionStore.add, SessionStore.claimEntry, entry]
  cases store.tunnelIndex.lookup session.tunnelId with
  | none =>
      refine ⟨?_, rfl⟩
      have inserted := (splits.insertIndex named).insertSession named
      rw [ShardedSessionStore.shards_set, ShardedSessionStore.set_set] at inserted
      exact inserted
  | some owner =>
      by_cases own : owner = session.id
      · simp only [own, ne_eq, not_true_eq_false, if_false]
        exact ⟨splits.insertSession named, trivial⟩
      · simp only [own, ne_eq, not_false_eq_true, if_true, ShardedSessionStore.set_self]
        exact ⟨splits, trivial⟩

theorem addOrReplace (named : session.tunnelId = name session.id) :
    Splits hash name (store.addOrReplace session) (sharded.addOrReplace hash session) := by
  have entry := splits.lookup_index session.tunnelId
  have finish : ∀ {cleared : SessionStore μ} {shard : SessionShard μ},
      Splits hash name cleared (sharded.set (shardIndex hash n session.tunnelId) shard) →
      Splits hash name ((cleared.insertIndex session).insertSession session)
        (sharded.set (shardIndex hash n session.tunnelId)
          ((shard.insertIndex session).insertSession session)) := by
    intro cleared shard before
    simpa using (before.insertIndex named).insertSession named
  simp only [ShardedSessionStore.addOrReplace, SessionStore.addOrReplace, entry]
  cases indexed : store.tunnelIndex.lookup session.tunnelId with
  | none =>
      apply finish
      rw [ShardedSessionStore.set_self]
      exact splits
  | some oldSessionId =>
      have removed := splits.removeIndex session.tunnelId
      by_cases own : oldSessionId = session.id
      · simp only [own, ne_eq, not_true_eq_false, if_false]
        exact finish removed
      · simp only [own, ne_eq, not_false_eq_true, if_true]
        apply finish
        have evicted := removed.removeSession oldSessionId
        rw [splits.owned indexed] at evicted
        simpa using evicted

/-- The search by id finds the shard of the id's tunnel, if the session is stored. -/
theorem holder_eq (id : Uuid) :
    sharded.holder id =
      if (store.get id).isSome then some (shardIndex hash n (name id)) else none := by
  have only : ∀ i, ((sharded.shards i).get id).isSome = true →
      shardIndex hash n (name id) = i := by
    intro i holds
    obtain ⟨session, found⟩ := Option.isSome_iff_exists.mp holds
    exact splits.sessions.place_eq found
  rw [ShardedSessionStore.holder]
  cases searched : (List.finRange n).find? fun i => ((sharded.shards i).get id).isSome with
  | none =>
      have absent := List.find?_eq_none.mp searched (shardIndex hash n (name id))
        (List.mem_finRange _)
      rw [splits.get_shard] at absent
      rw [if_neg absent]
  | some i =>
      have holds := List.find?_some searched
      obtain rfl := only i holds
      rw [splits.get_shard] at holds
      rw [if_pos holds]

theorem get (id : Uuid) :
    sharded.get id = store.get id := by
  rw [ShardedSessionStore.get, splits.holder_eq]
  cases found : store.get id with
  | none => rfl
  | some session => exact (splits.get_shard id).trans found

theorem getByTunnelId (tunnelId : String) :
    sharded.getByTunnelId hash tunnelId = store.getByTunnelId tunnelId := by
  rw [ShardedSessionStore.getByTunnelId, SessionStore.getByTunnelId, SessionStore.getByTunnelId,
    splits.lookup_index]
  cases indexed : store.tunnelIndex.lookup tunnelId with
  | none => rfl
  | some id =>
      have owned := splits.owned indexed
      subst owned
      exact splits.get_shard id

theorem updateHeartbeat (id : Uuid) (now : Nat) :
    Splits hash name (store.updateHeartbeat id now).1 (sharded.updateHeartbeat id now).1 ∧
      (sharded.updateHeartbeat id now).2 = (store.updateHeartbeat id now).2 := by
  rw [ShardedSessionStore.updateHeartbeat, splits.holder_eq, SessionStore.updateHeartbeat]
  cases found : store.get id with
  | none => exact ⟨splits, rfl⟩
  | some session =>
      obtain ⟨rfl, tunnelEq⟩ := splits.named found
      have inShard := splits.get_shard session.id
      rw [found] at inShard
      simp only [Option.isSome_some, if_true, SessionStore.updateHeartbeat, inShard, and_true]
      have named : (session.updateHeartbeat now).tunnelId =
          name (session.updateHeartbeat now).id := tunnelEq
      have touched := splits.insertSession named
      rw [named] at touched
      exact touched

theorem remove (id : Uuid) :
    Splits hash name (store.remove id).1 (sharded.remove id).1 ∧
      (sharded.remove id).2 = (store.remove id).2 := by
  rw [ShardedSessionStore.remove, splits.holder_eq, SessionStore.remove]
  cases found : store.get id with
  | none => exact ⟨splits, rfl⟩
  | some session =>
      obtain ⟨-, tunnelEq⟩ := splits.named found
      have inShard := splits.get_shard id
      rw [found] at inShard
      simp only [Option.isSome_some, if_true, SessionStore.remove, inShard, and_true, tunnelEq]
      simpa using (splits.removeSession id).removeIndex (name id)

theorem count : sharded.count = store.count := by
  rw [ShardedSessionStore.count, ← Fin.sum_univ_def]
  exact splits.sessions.sum_card

theorem removeAll (ids : List Uuid) :
    Splits hash name (store.removeAll ids) (sharded.removeAll ids) := by
  induction ids generalizing store sharded with
  | nil => exact splits
  | cons id rest ih => exact ih (splits.remove id).1

/-- A session is stale in the shard of its tunnel and in no other. -/
theorem isStale_shard_iff (now timeout : Nat) (i : Fin n) (id : Uuid) :
    (sharded.shards i).isStale now timeout id = true ↔
      shardIndex hash n (name id) = i ∧ store.isStale now timeout id = true := by
  rw [SessionStore.isStale, SessionStore.isStale, splits.get_shard_eq]
  by_cases here : shardIndex hash n (name id) = i
  · simp [here]
  · simp [here]

/-- The shards list the stale sessions of the plain store, in another order. -/
theorem staleSessions_perm (iteration : Iteration μ)
    (iterations : Fin n → Iteration μ) (now timeout : Nat) :
    (store.staleSessions iteration now timeout).Perm
      (sharded.staleSessions iterations now timeout) := by
  have nodup : (sharded.staleSessions iterations now timeout).Nodup := by
    apply List.nodup_flatMap.mpr
    refine ⟨fun i _ => SessionStore.nodup_staleSessions, ?_⟩
    refine (List.nodup_finRange n).imp fun {i j} differs => ?_
    intro id inFirst inSecond
    have first := (splits.isStale_shard_iff now timeout i id).mp
      (SessionStore.mem_staleSessions.mp inFirst)
    have second := (splits.isStale_shard_iff now timeout j id).mp
      (SessionStore.mem_staleSessions.mp inSecond)
    exact differs (first.1.symm.trans second.1)
  apply (List.perm_ext_iff_of_nodup SessionStore.nodup_staleSessions nodup).mpr
  intro id
  rw [SessionStore.mem_staleSessions, ShardedSessionStore.staleSessions, List.mem_flatMap]
  constructor
  · intro stale
    exact ⟨shardIndex hash n (name id), List.mem_finRange _, SessionStore.mem_staleSessions.mpr
      ((splits.isStale_shard_iff now timeout _ id).mpr ⟨rfl, stale⟩)⟩
  · rintro ⟨i, -, listed⟩
    exact ((splits.isStale_shard_iff now timeout i id).mp
      (SessionStore.mem_staleSessions.mp listed)).2

theorem cleanupStaleSessions (iteration : Iteration μ)
    (iterations : Fin n → Iteration μ) (now timeout : Nat) :
    Splits hash name (store.cleanupStaleSessions iteration now timeout).1
        (sharded.cleanupStaleSessions iterations now timeout).1 ∧
      (sharded.cleanupStaleSessions iterations now timeout).2 =
        (store.cleanupStaleSessions iteration now timeout).2 := by
  have perm := splits.staleSessions_perm iteration iterations now timeout
  constructor
  · rw [SessionStore.cleanupStaleSessions, SessionStore.removeAll_perm perm]
    exact splits.removeAll _
  · exact perm.length_eq.symm

theorem findMultiplexerWithCapability
    (iteration : Iteration μ) (iterations : Fin n → Iteration μ) (capability : String) :
    (sharded.findMultiplexerWithCapability iterations capability).isSome =
      (store.findMultiplexerWithCapability iteration capability).isSome := by
  rw [Bool.eq_iff_iff, SessionStore.isSome_findMultiplexerWithCapability,
    ShardedSessionStore.findMultiplexerWithCapability, List.findSome?_isSome_iff]
  simp only [SessionStore.isSome_findMultiplexerWithCapability]
  constructor
  · rintro ⟨i, -, id, found⟩
    refine ⟨id, ?_⟩
    rw [SessionStore.multiplexerWith, splits.get_shard_eq] at found
    by_cases here : shardIndex hash n (name id) = i
    · rw [if_pos here] at found
      exact found
    · rw [if_neg here] at found
      cases found
  · rintro ⟨id, found⟩
    refine ⟨shardIndex hash n (name id), List.mem_finRange _, id, ?_⟩
    rw [SessionStore.multiplexerWith, splits.get_shard]
    exact found

end Splits

/-! ## Refinement -/

/-- A method of the stores with its arguments. -/
inductive Operation (μ : Type)
  | add (session : Session μ)
  | addOrReplace (session : Session μ)
  | get (id : Uuid)
  | getByTunnelId (tunnelId : String)
  | updateHeartbeat (id : Uuid) (now : Nat)
  | remove (id : Uuid)
  | count
  | cleanupStaleSessions (now timeout : Nat)
  | findMultiplexerWithCapability (capability : String)

/-- What a method returns. -/
inductive Outcome (μ : Type)
  | added (result : Except SessionStoreError Unit)
  | replaced
  | session (found : Option (Session μ))
  | number (count : Nat)
  | multiplexer (found : Option μ)
deriving DecidableEq

/-- The same result; of two searches for a multiplexer, both find one or neither does. -/
def Outcome.Agrees : Outcome μ → Outcome μ → Prop
  | .multiplexer first, .multiplexer second => first.isSome = second.isSome
  | first, second => first = second

/-- The session that an operation presents. -/
def Operation.session? : Operation μ → Option (Session μ)
  | .add session => some session
  | .addOrReplace session => some session
  | _ => none

/-- An operation on one store. -/
def SessionStore.perform (iteration : Iteration μ) (store : SessionStore μ) :
    Operation μ → SessionStore μ × Outcome μ
  | .add session => ((store.add session).1, .added (store.add session).2)
  | .addOrReplace session => (store.addOrReplace session, .replaced)
  | .get id => (store, .session (store.get id))
  | .getByTunnelId tunnelId => (store, .session (store.getByTunnelId tunnelId))
  | .updateHeartbeat id now =>
      ((store.updateHeartbeat id now).1, .session (store.updateHeartbeat id now).2)
  | .remove id => ((store.remove id).1, .session (store.remove id).2)
  | .count => (store, .number store.count)
  | .cleanupStaleSessions now timeout =>
      ((store.cleanupStaleSessions iteration now timeout).1,
        .number (store.cleanupStaleSessions iteration now timeout).2)
  | .findMultiplexerWithCapability capability =>
      (store, .multiplexer (store.findMultiplexerWithCapability iteration capability))

/-- An operation on the shards. -/
def ShardedSessionStore.perform {n : Nat} [NeZero n] (hash : String → Nat)
    (iterations : Fin n → Iteration μ) (store : ShardedSessionStore μ n) :
    Operation μ → ShardedSessionStore μ n × Outcome μ
  | .add session => ((store.add hash session).1, .added (store.add hash session).2)
  | .addOrReplace session => (store.addOrReplace hash session, .replaced)
  | .get id => (store, .session (store.get id))
  | .getByTunnelId tunnelId => (store, .session (store.getByTunnelId hash tunnelId))
  | .updateHeartbeat id now =>
      ((store.updateHeartbeat id now).1, .session (store.updateHeartbeat id now).2)
  | .remove id => ((store.remove id).1, .session (store.remove id).2)
  | .count => (store, .number store.count)
  | .cleanupStaleSessions now timeout =>
      ((store.cleanupStaleSessions iterations now timeout).1,
        .number (store.cleanupStaleSessions iterations now timeout).2)
  | .findMultiplexerWithCapability capability =>
      (store, .multiplexer (store.findMultiplexerWithCapability iterations capability))

/-- An operation, with the orders in which the maps of the plain and of the sharded
store are iterated. -/
structure Invocation (μ : Type) (n : Nat) where
  operation : Operation μ
  iteration : Iteration μ
  iterations : Fin n → Iteration μ

variable {n : Nat}

/-- The results of a sequence of operations on the plain store. -/
def SessionStore.outcomes : SessionStore μ → List (Invocation μ n) → List (Outcome μ)
  | _, [] => []
  | store, invocation :: rest =>
      (store.perform invocation.iteration invocation.operation).2 ::
        (store.perform invocation.iteration invocation.operation).1.outcomes rest

/-- The results of a sequence of operations on the sharded store. -/
def ShardedSessionStore.outcomes [NeZero n] (hash : String → Nat) :
    ShardedSessionStore μ n → List (Invocation μ n) → List (Outcome μ)
  | _, [] => []
  | store, invocation :: rest =>
      (store.perform hash invocation.iterations invocation.operation).2 ::
        (store.perform hash invocation.iterations invocation.operation).1.outcomes hash rest

/-- No session id is presented with two tunnel ids. -/
def NamedOnce (invocations : List (Invocation μ n)) : Prop :=
  ∀ first ∈ invocations, ∀ second ∈ invocations, ∀ session ∈ first.operation.session?,
    ∀ other ∈ second.operation.session?, session.id = other.id →
      session.tunnelId = other.tunnelId

instance (invocations : List (Invocation μ n)) : Decidable (NamedOnce invocations) :=
  inferInstanceAs (Decidable (∀ first ∈ invocations, ∀ second ∈ invocations,
    ∀ session ∈ first.operation.session?, ∀ other ∈ second.operation.session?, _ → _))

/-- The tunnel id with which a session id is presented first. -/
def nameOf (invocations : List (Invocation μ n)) (id : Uuid) : String :=
  match (invocations.filterMap (·.operation.session?)).find? (·.id = id) with
  | some session => session.tunnelId
  | none => ""

theorem NamedOnce.tunnelId_eq {invocations : List (Invocation μ n)}
    (namedOnce : NamedOnce invocations) {invocation : Invocation μ n}
    (member : invocation ∈ invocations) {session : Session μ}
    (presented : session ∈ invocation.operation.session?) :
    session.tunnelId = nameOf invocations session.id := by
  have listed : session ∈ invocations.filterMap (·.operation.session?) :=
    List.mem_filterMap.mpr ⟨invocation, member, presented⟩
  rw [nameOf]
  cases found : (invocations.filterMap (·.operation.session?)).find? (·.id = session.id) with
  | none =>
      have absent := List.find?_eq_none.mp found session listed
      simp at absent
  | some first =>
      obtain ⟨other, otherMember, firstPresented⟩ :=
        List.mem_filterMap.mp (List.mem_of_find?_eq_some found)
      have sameId : first.id = session.id := by simpa using List.find?_some found
      exact namedOnce _ member _ otherMember _ presented _ firstPresented sameId.symm

/-- Each operation keeps the stores in step and returns the same. -/
theorem Splits.perform [NeZero n] {hash : String → Nat} {name : Uuid → String}
    {store : SessionStore μ} {sharded : ShardedSessionStore μ n}
    (splits : Splits hash name store sharded) (iteration : Iteration μ)
    (iterations : Fin n → Iteration μ) {operation : Operation μ}
    (named : ∀ session ∈ operation.session?, session.tunnelId = name session.id) :
    Splits hash name (store.perform iteration operation).1
        (sharded.perform hash iterations operation).1 ∧
      (store.perform iteration operation).2.Agrees
        (sharded.perform hash iterations operation).2 := by
  cases operation with
  | add session =>
      obtain ⟨kept, same⟩ := splits.add (named session rfl)
      exact ⟨kept, congrArg Outcome.added same.symm⟩
  | addOrReplace session => exact ⟨splits.addOrReplace (named session rfl), rfl⟩
  | get id => exact ⟨splits, congrArg Outcome.session (splits.get id).symm⟩
  | getByTunnelId tunnelId =>
      exact ⟨splits, congrArg Outcome.session (splits.getByTunnelId tunnelId).symm⟩
  | updateHeartbeat id now =>
      obtain ⟨kept, same⟩ := splits.updateHeartbeat id now
      exact ⟨kept, congrArg Outcome.session same.symm⟩
  | remove id =>
      obtain ⟨kept, same⟩ := splits.remove id
      exact ⟨kept, congrArg Outcome.session same.symm⟩
  | count => exact ⟨splits, congrArg Outcome.number splits.count.symm⟩
  | cleanupStaleSessions now timeout =>
      obtain ⟨kept, same⟩ := splits.cleanupStaleSessions iteration iterations now timeout
      exact ⟨kept, congrArg Outcome.number same.symm⟩
  | findMultiplexerWithCapability capability =>
      exact ⟨splits, (splits.findMultiplexerWithCapability iteration iterations capability).symm⟩

theorem Splits.outcomes [NeZero n] {hash : String → Nat} {name : Uuid → String}
    {store : SessionStore μ} {sharded : ShardedSessionStore μ n}
    (splits : Splits hash name store sharded) {invocations : List (Invocation μ n)}
    (named : ∀ invocation ∈ invocations,
      ∀ session ∈ invocation.operation.session?, session.tunnelId = name session.id) :
    List.Forall₂ Outcome.Agrees (store.outcomes invocations)
      (sharded.outcomes hash invocations) := by
  induction invocations generalizing store sharded with
  | nil => exact .nil
  | cons invocation rest ih =>
      obtain ⟨kept, agrees⟩ := splits.perform invocation.iteration invocation.iterations
        (named invocation List.mem_cons_self)
      exact .cons agrees (ih kept fun other member => named other (List.mem_cons_of_mem _ member))

/-- For every number of shards, hash function and sequence of operations, with every
order of iteration, in which no session id is presented with two tunnel ids, the
sharded store returns what the plain one returns. -/
theorem sharded_refines (n : Nat) [NeZero n] (hash : String → Nat)
    (invocations : List (Invocation μ n)) (namedOnce : NamedOnce invocations) :
    List.Forall₂ Outcome.Agrees ((SessionStore.new : SessionStore μ).outcomes invocations)
      ((ShardedSessionStore.withShards n).outcomes hash invocations) := by
  have splits : Splits hash (nameOf invocations) (.new : SessionStore μ) (.withShards n) := .new
  exact splits.outcomes fun _ member _ presented => namedOnce.tunnelId_eq member presented

/-- The order of the ids as numbers. -/
def Precedes (first second : Uuid) : Prop :=
  first.toNat ≤ second.toNat

instance : DecidableRel Precedes :=
  fun first second => inferInstanceAs (Decidable (first.toNat ≤ second.toNat))

instance : IsTrans Uuid Precedes :=
  ⟨fun _ _ _ => Nat.le_trans⟩

instance : Std.Antisymm Precedes :=
  ⟨fun _ _ below above => BitVec.eq_of_toNat_eq (Nat.le_antisymm below above)⟩

instance : Std.Total Precedes :=
  ⟨fun first second => Nat.le_total first.toNat second.toNat⟩

/-- Meet the sessions in the order of their ids. -/
def byId : Iteration μ where
  visits sessions := sessions.keys.sort Precedes
  nodup sessions := sessions.keys.sort_nodup Precedes
  mem_visits := by simp [Finmap.mem_keys]

/-- Two sessions contend for a tunnel, and the one that holds it is cleaned up; a third one has
a tunnel in the other shard. -/
def contention : List (Invocation Unit 2) :=
  [.add ⟨1, "app", 0, ["tcp"], some ()⟩, .add ⟨2, "app", 0, [], none⟩,
    .addOrReplace ⟨3, "site", 5, [], none⟩, .updateHeartbeat 3 9, .get 3, .getByTunnelId "app",
    .findMultiplexerWithCapability "tcp", .count, .cleanupStaleSessions 10 5, .remove 3].map
    fun operation => ⟨operation, byId, fun _ => byId⟩

theorem sharded_refines_contention :
    (ShardedSessionStore.withShards 2).outcomes String.length contention =
        [.added (.ok ()), .added (.error (.tunnelIdAlreadyExists "app")), .replaced,
          .session (some ⟨3, "site", 9, [], none⟩), .session (some ⟨3, "site", 9, [], none⟩),
          .session (some ⟨1, "app", 0, ["tcp"], some ()⟩), .multiplexer (some ()), .number 2,
          .number 1, .session (some ⟨3, "site", 9, [], none⟩)] ∧
      List.Forall₂ Outcome.Agrees ((SessionStore.new : SessionStore Unit).outcomes contention)
        ((ShardedSessionStore.withShards 2).outcomes String.length contention) :=
  ⟨by decide +kernel, sharded_refines 2 String.length contention (by decide)⟩

end FerroTunnel.Tunnel
