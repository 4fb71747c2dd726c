import FerroTunnel.Proxy.ConnectionPool

/-!
# One exchange at a time

The pool hands out a connection that is open and was used lately.  Until a
connection is put back it is held by one call, and then it lies idle.  But it is
put back before the body of the response has been read, which the pool does not
know of.  So `acquire_h1` hands out a connection that is in no exchange whenever
the bodies that were returned over the idle ones have been read.
-/

namespace FerroTunnel.Proxy

open FerroTunnel.Transition

/-- The call has the connection to itself: from the moment it is handed out until it is put
back or dropped. -/
def LocalCall.Holds (call : LocalCall) (sender : Nat) : Prop :=
  match call with
  | .send _ used | .awaiting _ used | .upgraded used => used = sender
  | .release used _ | .releaseLocked used _ => used = sender
  | _ => False

/-- A call in an exchange still has the connection, or its response has not been read. -/
theorem LocalCall.Busy.holds {call : LocalCall} {sender : Nat} (busy : call.Busy sender) :
    call.Holds sender ∨ call.unread sender ≠ 0 := by
  cases call with
  | awaiting isUpgrade used | upgraded used => exact .inl busy
  | release used body | releaseLocked used body => exact .inl busy.1
  | returned used body =>
      right
      rw [LocalCall.unread, if_pos busy.1]
      exact busy.2
  | _ => cases busy

/-- What a call can do to the connections it holds and to the idle ones. -/
inductive CallMove (pool : ConnectionPool) (call : LocalCall) (pool' : ConnectionPool)
    (call' : LocalCall) : Prop
  | keep (made : pool'.made = pool.made) (idle : pool'.h1Pool.Sublist pool.h1Pool)
      (kept : ∀ sender, call'.Holds sender → call.Holds sender)
  | reuse (made : pool'.made = pool.made) (conn : PooledH1Connection)
      (idle : pool.h1Pool = pool'.h1Pool ++ [conn])
      (only : ∀ sender, call'.Holds sender → sender = conn.sender)
  | connect (made : pool'.made = pool.made + 1) (idle : pool'.h1Pool = pool.h1Pool)
      (only : ∀ sender, call'.Holds sender → sender = pool.made)
  | giveBack (made : pool'.made = pool.made) (conn : PooledH1Connection)
      (idle : pool'.h1Pool = pool.h1Pool ++ [conn]) (held : call.Holds conn.sender)
      (none : ∀ sender, ¬ call'.Holds sender)

section Moves

variable {config : PoolConfig} {pool pool' : ConnectionPool}

theorem ConnectionPool.acquireH1_cases (config : PoolConfig) (pool : ConnectionPool) :
    (∃ conn rest, pool.h1Pool = rest ++ [conn] ∧
      (pool.acquireH1 config = ({ pool with h1Pool := rest }, .reused conn.sender) ∨
        pool.acquireH1 config = ({ pool with h1Pool := rest }, .discarded))) ∨
    pool.acquireH1 config = (pool, .empty) := by
  rcases List.eq_nil_or_concat pool.h1Pool with nil | ⟨rest, conn, idle⟩
  · right
    rw [acquireH1, nil]
    rfl
  · left
    rw [List.concat_eq_append] at idle
    refine ⟨conn, rest, idle, ?_⟩
    rw [acquireH1, idle]
    simp only [List.getLast?_append, List.getLast?_singleton, Option.some_or, List.dropLast_concat]
    split
    · exact .inl rfl
    · exact .inr rfl

theorem CallMove.stay {call call' : LocalCall}
    (kept : ∀ sender, call'.Holds sender → call.Holds sender) : CallMove pool call pool call' :=
  .keep rfl (List.Sublist.refl _) kept

/-- One operation of a call. -/
theorem LocalCall.next_move {call call' : LocalCall} {outside : Outside}
    (nextEq : call.next config pool outside = some (pool', call')) :
    CallMove pool call pool' call' := by
  cases call with
  | acquire isUpgrade =>
      cases outside with
      | proceed =>
          simp only [next] at nextEq
          rcases pool.acquireH1_cases config with ⟨conn, rest, idle, reused | discarded⟩ | empty
          · rw [reused] at nextEq
            cases nextEq
            exact .reuse rfl conn idle fun sender held => held.symm
          · rw [discarded] at nextEq
            cases nextEq
            refine .keep rfl ?_ fun sender held => held
            rw [idle]
            exact List.sublist_append_left rest [conn]
          · rw [empty] at nextEq
            cases nextEq
            exact .stay fun sender held => held
      | _ => cases nextEq
  | connect isUpgrade =>
      cases outside with
      | connected =>
          cases nextEq
          exact .connect rfl rfl fun sender held => held.symm
      | broken =>
          cases nextEq
          exact .stay fun sender held => held
      | _ => cases nextEq
  | send isUpgrade used =>
      cases outside with
      | proceed =>
          cases nextEq
          exact .stay fun sender held => held
      | _ => cases nextEq
  | awaiting isUpgrade used =>
      cases outside with
      | head status body =>
          simp only [next] at nextEq
          split at nextEq
          · cases nextEq
            exact .stay fun sender held => held
          · cases nextEq
            exact .stay fun sender held => held
      | broken =>
          cases nextEq
          exact .stay fun sender held => held.elim
      | _ => cases nextEq
  | release used body =>
      cases outside with
      | proceed =>
          simp only [next] at nextEq
          split at nextEq
          · cases nextEq
            exact .stay fun sender held => held.elim
          · cases nextEq
            exact .stay fun sender held => held
      | _ => cases nextEq
  | releaseLocked used body =>
      cases outside with
      | proceed =>
          simp only [next, ConnectionPool.releaseH1] at nextEq
          split at nextEq
          · cases nextEq
            exact .stay fun sender held => held.elim
          · cases nextEq
            exact .giveBack rfl ⟨used, pool.clock⟩ rfl rfl fun sender held => held
      | _ => cases nextEq
  | returned used body =>
      cases outside with
      | read =>
          cases body with
          | zero => cases nextEq
          | succ left =>
              cases nextEq
              exact .stay fun sender held => held
      | _ => cases body <;> cases nextEq
  | upgraded used | failed => cases outside <;> cases nextEq

end Moves

namespace LocalProxyService

variable {config : PoolConfig} {service next : LocalProxyService}

/-- The connections that lie idle. -/
def idle (service : LocalProxyService) : List Nat :=
  service.shared.h1Pool.map PooledH1Connection.sender

/-- Every connection is held by at most one call or lies idle, and has been made. -/
structure Invariant (service : LocalProxyService) : Prop where
  loans : Loans LocalCall.Holds service.calls service.idle
  idleMade : ∀ sender ∈ service.idle, sender < service.shared.made
  heldMade : ∀ call ∈ service.calls, ∀ sender, call.Holds sender → sender < service.shared.made

theorem Invariant.new : Invariant new where
  loans := .nil _
  idleMade sender member := by cases member
  heldMade call member := by cases member

theorem Invariant.evict (invariant : Invariant service) (config : PoolConfig) :
    Invariant { service with shared := service.shared.evictExpired config } := by
  have fewer : (List.map PooledH1Connection.sender
      (service.shared.evictExpired config).h1Pool).Sublist service.idle :=
    List.filter_sublist.map _
  constructor
  · exact invariant.loans.sublist fewer
  · intro sender member
    exact invariant.idleMade sender (fewer.subset member)
  · exact invariant.heldMade

theorem Invariant.advance (invariant : Invariant service) {k : Nat} {call call' : LocalCall}
    {pool' : ConnectionPool} (callAt : service.calls[k]? = some call)
    (move : CallMove service.shared call pool' call') :
    Invariant { shared := pool', calls := service.calls.set k call' } := by
  have callIn := List.mem_of_getElem? callAt
  have heldMade (holdsMade : ∀ sender, call'.Holds sender → sender < pool'.made)
      (grows : service.shared.made ≤ pool'.made) : ∀ other ∈ service.calls.set k call',
      ∀ sender, other.Holds sender → sender < pool'.made := by
    intro other member sender held
    rcases List.mem_or_eq_of_mem_set member with old | rfl
    · exact Nat.lt_of_lt_of_le (invariant.heldMade other old sender held) grows
    · exact holdsMade sender held
  cases move with
  | keep made idle kept =>
      have fewer := idle.map PooledH1Connection.sender
      constructor
      · exact (invariant.loans.keep callAt kept).sublist fewer
      · intro sender member
        rw [made]
        exact invariant.idleMade sender (fewer.subset member)
      · apply heldMade
        · intro sender held
          rw [made]
          exact invariant.heldMade call callIn sender (kept sender held)
        · exact Nat.le_of_eq made.symm
  | reuse made conn idle only =>
      have idleEq : service.idle = pool'.h1Pool.map PooledH1Connection.sender ++ [conn.sender] := by
        rw [LocalProxyService.idle, idle, List.map_append, List.map_singleton]
      have loans := invariant.loans
      rw [idleEq] at loans
      constructor
      · exact loans.take callAt only
      · intro sender member
        rw [made]
        exact invariant.idleMade sender (idleEq ▸ List.mem_append_left _ member)
      · apply heldMade
        · intro sender held
          rw [only sender held, made]
          exact invariant.idleMade conn.sender
            (idleEq ▸ List.mem_append_right _ List.mem_cons_self)
        · exact Nat.le_of_eq made.symm
  | connect made idle only =>
      have idleEq : pool'.h1Pool.map PooledH1Connection.sender = service.idle :=
        congrArg (List.map PooledH1Connection.sender) idle
      constructor
      · change Loans _ _ (pool'.h1Pool.map PooledH1Connection.sender)
        rw [idleEq]
        apply invariant.loans.gain callAt _ _ only
        · intro other member held
          exact Nat.lt_irrefl _ (invariant.heldMade other member _ held)
        · intro member
          exact Nat.lt_irrefl _ (invariant.idleMade _ member)
      · intro sender member
        rw [made]
        exact Nat.lt_succ_of_lt (invariant.idleMade sender (idleEq ▸ member))
      · apply heldMade
        · intro sender held
          rw [only sender held, made]
          exact Nat.lt_succ_self _
        · rw [made]
          exact Nat.le_succ _
  | giveBack made conn idle held none =>
      have idleEq : pool'.h1Pool.map PooledH1Connection.sender = service.idle ++ [conn.sender] := by
        rw [idle, List.map_append, List.map_singleton]
        rfl
      constructor
      · change Loans _ _ (pool'.h1Pool.map PooledH1Connection.sender)
        rw [idleEq]
        exact invariant.loans.giveBack callAt held none
      · intro sender member
        have split : sender ∈ service.idle ++ [conn.sender] := by
          rw [← idleEq]
          exact member
        rw [made]
        rcases List.mem_append.mp split with old | given
        · exact invariant.idleMade sender old
        · rw [List.mem_singleton.mp given]
          exact invariant.heldMade call callIn conn.sender held
      · apply heldMade
        · intro sender holding
          exact absurd holding (none sender)
        · exact Nat.le_of_eq made.symm

theorem Invariant.step {action : ServiceAction} (invariant : Invariant service)
    (stepEq : LocalProxyService.step config service action = some next) : Invariant next := by
  cases action with
  | call isUpgrade =>
      cases stepEq
      constructor
      · exact invariant.loans.start fun sender held => held
      · exact invariant.idleMade
      · intro call member sender held
        rcases List.mem_append.mp member with old | new
        · exact invariant.heldMade call old sender held
        · rw [List.mem_singleton.mp new] at held
          cases held
  | advance k outside =>
      obtain ⟨call, callAt, mapped⟩ := Option.bind_eq_some_iff.mp stepEq
      obtain ⟨⟨pool', call'⟩, nextEq, rfl⟩ := Option.map_eq_some_iff.mp mapped
      exact invariant.advance callAt (LocalCall.next_move nextEq)
  | wait duration | close sender =>
      cases stepEq
      exact ⟨invariant.loans, invariant.idleMade, invariant.heldMade⟩
  | evict =>
      cases stepEq
      exact invariant.evict config

/-- A connection that is handed out lay idle. -/
theorem mem_idle_of_acquireH1 {rest : ConnectionPool} {sender : Nat}
    (acquired : service.shared.acquireH1 config = (rest, .reused sender)) :
    sender ∈ service.idle := by
  rcases service.shared.acquireH1_cases config with
    ⟨conn, others, idle, reused | discarded⟩ | empty
  · rw [reused] at acquired
    cases acquired
    rw [LocalProxyService.idle, idle, List.map_append]
    exact List.mem_append_right _ List.mem_cons_self
  · rw [discarded] at acquired
    cases acquired
  · rw [empty] at acquired
    cases acquired

end LocalProxyService

/-- In every state that any number of calls and readers reach: when the bodies of all responses
that were returned over idle connections have been read to their end, `acquire_h1` hands out no
connection that is in an exchange. -/
theorem hands_out_idle (config : PoolConfig) (actions : List ServiceAction)
    (service : LocalProxyService)
    (run : exec (LocalProxyService.step config) .new actions = some service)
    (read : service.BodiesRead) : service.HandsOutIdle config := by
  have invariant : LocalProxyService.Invariant service :=
    exec_invariant (fun invariant stepEq => invariant.step stepEq) .new run
  intro rest sender acquired call member busy
  have idle := LocalProxyService.mem_idle_of_acquireH1 acquired
  rcases busy.holds with held | unread
  · exact invariant.loans.free sender idle call member held
  · obtain ⟨conn, pooled, rfl⟩ := List.mem_map.mp idle
    exact unread (read conn pooled call member)

/-- A first request is sent over a new connection, its response has a body of the given
length, and the connection is put back. -/
def firstExchange (body : Nat) : List ServiceAction :=
  [.call false, .advance 0 .proceed, .advance 0 .connected, .advance 0 .proceed,
   .advance 0 (.head 200 body), .advance 0 .proceed, .advance 0 .proceed]

/-- A body of two frames has been read when the next call comes. -/
theorem hands_out_idle_sequential :
    ∃ service, exec (LocalProxyService.step .default) .new
        (firstExchange 2 ++ [.advance 0 .read, .advance 0 .read, .call false]) = some service ∧
      (service.shared.acquireH1 .default).2 = .reused 0 ∧ service.HandsOutIdle .default := by
  refine ⟨_, rfl, rfl, ?_⟩
  exact hands_out_idle .default
    (firstExchange 2 ++ [.advance 0 .read, .advance 0 .read, .call false]) _ rfl (by decide)

/-- The body of a response has two frames to be read, and `acquire_h1` hands its connection
out to the next call. -/
theorem busy_connection_reused :
    ∃ service, exec (LocalProxyService.step .default) .new (firstExchange 2) = some service ∧
      ¬ service.HandsOutIdle .default ∧
      ∃ later, exec (LocalProxyService.step .default) service [.call false, .advance 1 .proceed] =
        some later ∧ later.calls = [.returned 0 2, .send false 0] := by
  refine ⟨_, rfl, ?_, _, rfl, rfl⟩
  intro idle
  exact idle _ 0 rfl (.returned 0 2) List.mem_cons_self ⟨rfl, by decide⟩

end FerroTunnel.Proxy
