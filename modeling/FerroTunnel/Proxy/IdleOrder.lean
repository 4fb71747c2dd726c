import FerroTunnel.Proxy.ConnectionPool

/-!
# The order of the idle connections

Connections are put back at the end of the pool with the time at which this
happens, and are taken from its end.  So the pool stays in the order in which
its connections were used, whatever else is taken out of it, and the connection
at the end is the freshest one.  When that one is too old, all of them are: the
loop of `acquire_h1` throws away no connection that could have been used.
-/

namespace FerroTunnel.Proxy

open FerroTunnel.Transition

/-- What an operation does to the idle connections. -/
inductive IdleMove (config : PoolConfig) (pool pool' : ConnectionPool) : Prop
  | keep (clock : pool'.clock = pool.clock) (idle : pool'.h1Pool = pool.h1Pool)
  | pop (clock : pool'.clock = pool.clock) (conn : PooledH1Connection)
      (idle : pool.h1Pool = pool'.h1Pool ++ [conn])
  | push (clock : pool'.clock = pool.clock) (sender : Nat)
      (room : pool.h1Pool.length < config.maxIdlePerHost)
      (idle : pool'.h1Pool = pool.h1Pool ++ [⟨sender, pool.clock⟩])

namespace ConnectionPool

variable {config : PoolConfig} {pool pool' : ConnectionPool}

/-- One turn of the loop looks at the last connection, if there is one. -/
theorem acquireH1_concat {rest : List PooledH1Connection} {conn : PooledH1Connection}
    (idle : pool.h1Pool = rest ++ [conn]) :
    pool.acquireH1 config =
      if pool.isValid config conn then ({ pool with h1Pool := rest }, .reused conn.sender)
      else ({ pool with h1Pool := rest }, .discarded) := by
  simp [acquireH1, idle]

theorem acquireH1_nil (idle : pool.h1Pool = []) : pool.acquireH1 config = (pool, .empty) := by
  simp [acquireH1, idle]

theorem acquireH1_move (config : PoolConfig) (pool : ConnectionPool) :
    IdleMove config pool (pool.acquireH1 config).1 := by
  rcases List.eq_nil_or_concat pool.h1Pool with nil | ⟨rest, conn, idle⟩
  · rw [acquireH1_nil nil]
    exact .keep rfl rfl
  · rw [List.concat_eq_append] at idle
    rw [acquireH1_concat idle]
    split
    · exact .pop rfl conn idle
    · exact .pop rfl conn idle

theorem releaseH1_move (config : PoolConfig) (pool : ConnectionPool) (sender : Nat) :
    IdleMove config pool (pool.releaseH1 config sender) := by
  unfold releaseH1
  split
  · exact .keep rfl rfl
  · rename_i room
    exact .push rfl sender (Nat.lt_of_not_le room) rfl

end ConnectionPool

theorem LocalCall.next_idleMove {config : PoolConfig} {pool pool' : ConnectionPool}
    {call call' : LocalCall} {outside : Outside}
    (nextEq : call.next config pool outside = some (pool', call')) :
    IdleMove config pool pool' := by
  cases call with
  | acquire isUpgrade =>
      cases outside with
      | proceed =>
          have move := pool.acquireH1_move config
          simp only [next] at nextEq
          split at nextEq <;>
          · rename_i acquired
            rw [acquired] at move
            cases nextEq
            exact move
      | _ => cases nextEq
  | connect isUpgrade =>
      cases outside with
      | connected | broken =>
          cases nextEq
          exact .keep rfl rfl
      | _ => cases nextEq
  | send isUpgrade sender =>
      cases outside with
      | proceed =>
          cases nextEq
          exact .keep rfl rfl
      | _ => cases nextEq
  | awaiting isUpgrade sender =>
      cases outside with
      | head status body =>
          simp only [next] at nextEq
          split at nextEq <;>
          · cases nextEq
            exact .keep rfl rfl
      | broken =>
          cases nextEq
          exact .keep rfl rfl
      | _ => cases nextEq
  | release sender body =>
      cases outside with
      | proceed =>
          simp only [next] at nextEq
          split at nextEq <;>
          · cases nextEq
            exact .keep rfl rfl
      | _ => cases nextEq
  | releaseLocked sender body =>
      cases outside with
      | proceed =>
          cases nextEq
          exact pool.releaseH1_move config sender
      | _ => cases nextEq
  | returned sender body =>
      cases outside with
      | read =>
          cases body with
          | zero => cases nextEq
          | succ body =>
              cases nextEq
              exact .keep rfl rfl
      | _ => cases body <;> cases nextEq
  | _ => cases outside <;> cases nextEq

/-! ## Runs -/

/-- The pool holds no more than it may, in the order in which its connections were used. -/
structure ConnectionPool.Ordered (config : PoolConfig) (pool : ConnectionPool) : Prop where
  sorted : pool.h1Pool.Pairwise fun first second => first.lastUsed ≤ second.lastUsed
  past : ∀ conn ∈ pool.h1Pool, conn.lastUsed ≤ pool.clock
  bounded : pool.h1Pool.length ≤ config.maxIdlePerHost

namespace ConnectionPool.Ordered

variable {config : PoolConfig} {pool pool' : ConnectionPool} (ordered : pool.Ordered config)

include ordered

/-- Connections are taken out. -/
theorem sublist (fewer : pool'.h1Pool.Sublist pool.h1Pool) (clock : pool'.clock = pool.clock) :
    pool'.Ordered config where
  sorted := ordered.sorted.sublist fewer
  past conn member := by
    rw [clock]
    exact ordered.past conn (fewer.subset member)
  bounded := Nat.le_trans fewer.length_le ordered.bounded

/-- A connection is put back at the time of the clock. -/
theorem push {sender : Nat} (room : pool.h1Pool.length < config.maxIdlePerHost)
    (idle : pool'.h1Pool = pool.h1Pool ++ [⟨sender, pool.clock⟩])
    (clock : pool'.clock = pool.clock) : pool'.Ordered config where
  sorted := by
    rw [idle, List.pairwise_append]
    refine ⟨ordered.sorted, List.pairwise_singleton _ _, ?_⟩
    intro conn member other otherIn
    rw [List.mem_singleton.mp otherIn]
    exact ordered.past conn member
  past conn member := by
    rw [idle] at member
    rw [clock]
    rcases List.mem_append.mp member with old | new
    · exact ordered.past conn old
    · cases List.mem_singleton.mp new
      exact Nat.le_refl _
  bounded := by
    rw [idle, List.length_append]
    exact room

theorem move (move : IdleMove config pool pool') : pool'.Ordered config := by
  cases move with
  | keep clock idle => exact ordered.sublist (idle ▸ List.Sublist.refl _) clock
  | pop clock conn idle =>
      apply ordered.sublist _ clock
      rw [idle]
      exact List.sublist_append_left _ _
  | push clock sender room idle => exact ordered.push room idle clock

theorem wait (duration : Nat) : Ordered config { pool with clock := pool.clock + duration } where
  sorted := ordered.sorted
  past conn member := Nat.le_trans (ordered.past conn member) (Nat.le_add_right _ _)
  bounded := ordered.bounded

/-- The last connection is the freshest. -/
theorem lastUsed_le {rest : List PooledH1Connection} {conn : PooledH1Connection}
    (idle : pool.h1Pool = rest ++ [conn]) :
    ∀ other ∈ pool.h1Pool, other.lastUsed ≤ conn.lastUsed := by
  intro other member
  have sorted := ordered.sorted
  rw [idle] at sorted member
  rcases List.mem_append.mp member with old | last
  · exact (List.pairwise_append.mp sorted).2.2 other old conn List.mem_cons_self
  · cases List.mem_singleton.mp last
    exact Nat.le_refl _

end ConnectionPool.Ordered

theorem LocalProxyService.ordered_step {config : PoolConfig} {service next : LocalProxyService}
    {action : ServiceAction} (ordered : service.shared.Ordered config)
    (stepEq : LocalProxyService.step config service action = some next) :
    next.shared.Ordered config := by
  cases action with
  | call isUpgrade =>
      cases stepEq
      exact ordered
  | advance k outside =>
      obtain ⟨call, -, mapped⟩ := Option.bind_eq_some_iff.mp stepEq
      obtain ⟨⟨pool', call'⟩, nextEq, rfl⟩ := Option.map_eq_some_iff.mp mapped
      exact ordered.move (LocalCall.next_idleMove nextEq)
  | wait duration =>
      cases stepEq
      exact ordered.wait duration
  | close sender =>
      cases stepEq
      exact ⟨ordered.sorted, ordered.past, ordered.bounded⟩
  | evict =>
      cases stepEq
      exact ordered.sublist List.filter_sublist rfl

/-- A turn of the loop of `acquire_h1` reuses the freshest connection, which is open and has not
expired.  It throws one away only if this was closed or no connection of the pool is still to be
used, and it finds nothing only in an empty pool. -/
def ConnectionPool.AcquiresFreshest (config : PoolConfig) (pool : ConnectionPool) : Prop :=
  match pool.acquireH1 config with
  | (rest, .reused sender) =>
      ∃ conn, conn.sender = sender ∧ pool.h1Pool = rest.h1Pool ++ [conn] ∧
        pool.isClosed sender = false ∧ pool.clock - conn.lastUsed < config.idleTimeout ∧
        ∀ other ∈ pool.h1Pool, other.lastUsed ≤ conn.lastUsed
  | (rest, .discarded) =>
      ∃ conn, pool.h1Pool = rest.h1Pool ++ [conn] ∧
        (pool.isClosed conn.sender = true ∨
          ∀ other ∈ pool.h1Pool, config.idleTimeout ≤ pool.clock - other.lastUsed)
  | (_, .empty) => pool.h1Pool = []

theorem ConnectionPool.Ordered.acquiresFreshest {config : PoolConfig} {pool : ConnectionPool}
    (ordered : pool.Ordered config) : pool.AcquiresFreshest config := by
  unfold ConnectionPool.AcquiresFreshest
  rcases List.eq_nil_or_concat pool.h1Pool with nil | ⟨rest, conn, idle⟩
  · rw [ConnectionPool.acquireH1_nil nil]
    exact nil
  · rw [List.concat_eq_append] at idle
    have freshest := ordered.lastUsed_le idle
    rw [ConnectionPool.acquireH1_concat idle]
    cases valid : pool.isValid config conn with
    | true =>
        simp only [ConnectionPool.isValid, Bool.and_eq_true, Bool.not_eq_true',
          decide_eq_true_eq] at valid
        exact ⟨conn, rfl, idle, valid.1, valid.2, freshest⟩
    | false =>
        refine ⟨conn, idle, ?_⟩
        simp only [ConnectionPool.isValid, Bool.and_eq_false_iff, Bool.not_eq_false',
          decide_eq_false_iff_not, Nat.not_lt] at valid
        rcases valid with closed | expired
        · exact .inl closed
        · right
          intro other member
          have older := freshest other member
          omega

/-- In every run of any number of calls, with connections that close and expire at any time and
with evictions in between: the pool holds at most `max_idle_per_host` connections, in the order of
their last use, and `acquire_h1` hands out the freshest connection and throws none away that could
be used. -/
theorem idle_connections_ordered {config : PoolConfig} {actions : List ServiceAction}
    {service : LocalProxyService}
    (run : exec (LocalProxyService.step config) .new actions = some service) :
    service.shared.Ordered config ∧ service.shared.AcquiresFreshest config := by
  have initial : LocalProxyService.new.shared.Ordered config :=
    ⟨.nil, fun _ member => (by cases member), Nat.zero_le _⟩
  have ordered : service.shared.Ordered config :=
    exec_invariant (fun ordered stepEq => LocalProxyService.ordered_step ordered stepEq) initial run
  exact ⟨ordered, ordered.acquiresFreshest⟩

/-- Two exchanges over two connections, the second put back a second after the first. -/
def twoExchanges : List ServiceAction :=
  [.call false, .advance 0 .proceed, .advance 0 .connected, .advance 0 .proceed,
   .call false, .advance 1 .proceed, .advance 1 .connected, .advance 1 .proceed,
   .advance 0 (.head 200 0), .advance 0 .proceed, .advance 0 .proceed, .wait 1000000000,
   .advance 1 (.head 200 0), .advance 1 .proceed, .advance 1 .proceed]

theorem idle_connections_ordered_twoExchanges :
    ∃ service, exec (LocalProxyService.step .default) .new twoExchanges = some service ∧
      service.shared.h1Pool = [⟨0, 0⟩, ⟨1, 1000000000⟩] ∧
      service.shared.Ordered .default ∧ service.shared.AcquiresFreshest .default := by
  have run : exec (LocalProxyService.step .default) .new twoExchanges = some _ := rfl
  exact ⟨_, run, rfl, idle_connections_ordered run⟩

end FerroTunnel.Proxy
