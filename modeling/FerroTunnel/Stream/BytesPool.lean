import FerroTunnel.Text.Number
import FerroTunnel.Transition.Core
import Mathlib.Data.UInt

/-!
# The pool of byte buffers

Each thread keeps a stack of buffers.  `acquire_bytes` takes the last one, or allocates
one if there is none; `release_bytes` puts a buffer back if it is not too large and the
stack is not full.

A buffer that is too small is grown by `reserve` with the capacity that is missing.  But
`reserve` counts from the length of the buffer, not from its capacity, and the buffer has
just been cleared: so the call may leave it as it is.
-/

namespace FerroTunnel.Stream

open FerroTunnel.Text
open FerroTunnel.Transition

/-! ## Configuration -/

/-- How many buffers a pool keeps. -/
def DEFAULT_MAX_POOL_SIZE : Nat := 32

/-- How large they may be. -/
def DEFAULT_MAX_POOLED_CAPACITY : Nat := 64 * 1024

/-- How large a new buffer is. -/
def DEFAULT_BUFFER_CAPACITY : Nat := 4096

/-- The limits of a pool. -/
structure PoolConfig where
  maxPoolSize : Nat
  maxPooledCapacity : Nat
  defaultBufferCapacity : Nat
deriving DecidableEq

/-- A positive number of an environment variable, or its default. -/
def envOr (env : String → Option String) (name : String) (fallback : Nat) : Nat :=
  (((env name).bind fun text => (parseUnsigned (2 ^ 64) text.toList).toOption).filter
    fun n => n > 0).getD fallback

/-- The limits from the environment. -/
def loadConfig (env : String → Option String) : PoolConfig where
  maxPoolSize := envOr env "FERROTUNNEL_POOL_MAX_SIZE" DEFAULT_MAX_POOL_SIZE
  maxPooledCapacity :=
    envOr env "FERROTUNNEL_POOL_MAX_CAPACITY_BYTES" DEFAULT_MAX_POOLED_CAPACITY
  defaultBufferCapacity :=
    envOr env "FERROTUNNEL_POOL_DEFAULT_CAPACITY_BYTES" DEFAULT_BUFFER_CAPACITY

/-! ## Buffers -/

/-- A buffer holds at most as many bytes as its capacity. -/
structure BytesMut where
  bytes : List UInt8
  capacity : Nat
  length_le : bytes.length ≤ capacity
deriving DecidableEq

theorem length_nil_le (capacity : Nat) : ([] : List UInt8).length ≤ capacity :=
  Nat.zero_le capacity

/-- A buffer without bytes. -/
def BytesMut.empty (capacity : Nat) : BytesMut where
  bytes := []
  capacity := capacity
  length_le := length_nil_le capacity

/-- The buffer without its bytes. -/
def BytesMut.clear (buffer : BytesMut) : BytesMut :=
  .empty buffer.capacity

/-- How buffers get their capacity.  A reservation makes room behind the bytes of the
buffer and does not take capacity away. -/
structure Allocator where
  withCapacity : Nat → Nat
  le_withCapacity : ∀ capacity, capacity ≤ withCapacity capacity
  reserved : BytesMut → Nat → Nat
  enough : ∀ buffer additional, buffer.bytes.length + additional ≤ reserved buffer additional
  keeps : ∀ buffer additional, buffer.capacity ≤ reserved buffer additional

/-- The allocator that never gives more than it must. -/
def Allocator.exact : Allocator where
  withCapacity capacity := capacity
  le_withCapacity capacity := Nat.le_refl capacity
  reserved buffer additional := max buffer.capacity (buffer.bytes.length + additional)
  enough _ _ := Nat.le_max_right _ _
  keeps _ _ := Nat.le_max_left _ _

/-- A new buffer. -/
def BytesMut.withCapacity (allocator : Allocator) (capacity : Nat) : BytesMut :=
  .empty (allocator.withCapacity capacity)

/-- The buffer with more room. -/
def BytesMut.reserve (allocator : Allocator) (additional : Nat) (buffer : BytesMut) : BytesMut where
  bytes := buffer.bytes
  capacity := allocator.reserved buffer additional
  length_le := Nat.le_trans buffer.length_le (allocator.keeps buffer additional)

/-! ## The pool -/

/-- The buffers of a thread, the next one to be taken last. -/
abbrev BytesPool := List BytesMut

variable (allocator : Allocator) (config : PoolConfig)

/-- Takes a buffer from the pool. -/
def acquireBytes (capacity : Nat) (pool : BytesPool) : BytesMut × BytesPool :=
  let minCap := max capacity config.defaultBufferCapacity
  match pool.getLast? with
  | none => (BytesMut.withCapacity allocator minCap, pool)
  | some last =>
      let b := last.clear
      if b.capacity < minCap then
        (b.reserve allocator (minCap - b.capacity), pool.dropLast)
      else
        (b, pool.dropLast)

/-- Gives a buffer back to the pool. -/
def releaseBytes (bytes : BytesMut) (pool : BytesPool) : BytesPool :=
  if bytes.capacity ≤ config.maxPooledCapacity then
    if pool.length < config.maxPoolSize then
      pool ++ [bytes]
    else
      pool
  else
    pool

/-- A call on the thread; any buffer may be released. -/
inductive PoolCall
  | acquire (capacity : Nat)
  | release (bytes : BytesMut)
deriving DecidableEq

/-- One call on the pool. -/
def poolStep : Step BytesPool PoolCall
  | pool, .acquire capacity => some (acquireBytes allocator config capacity pool).2
  | pool, .release bytes => some (releaseBytes config bytes pool)

/-! ## What a call gives and leaves -/

variable {allocator : Allocator} {config : PoolConfig} {pool next : BytesPool} {capacity : Nat}

/-- The pool that a call leaves does not depend on how buffers get their capacity. -/
theorem acquireBytes_snd (allocator : Allocator) (config : PoolConfig) (capacity : Nat)
    (pool : BytesPool) : (acquireBytes allocator config capacity pool).2 = pool.dropLast := by
  rw [acquireBytes]
  cases last : pool.getLast? with
  | none =>
      rw [List.getLast?_eq_none_iff.mp last]
      rfl
  | some b =>
      simp only
      split <;> rfl

theorem poolStep_congr (first second : Allocator) (config : PoolConfig) :
    poolStep first config = poolStep second config := by
  funext pool call
  cases call with
  | acquire capacity => rw [poolStep, poolStep, acquireBytes_snd, acquireBytes_snd]
  | release bytes => rfl

theorem bytes_acquireBytes (allocator : Allocator) (config : PoolConfig) (capacity : Nat)
    (pool : BytesPool) : (acquireBytes allocator config capacity pool).1.bytes = [] := by
  rw [acquireBytes]
  split
  · rfl
  · simp only
    split <;> rfl

/-- The capacity of a buffer that is taken from the pool. -/
theorem capacity_acquireBytes {last : BytesMut} (top : pool.getLast? = some last) :
    (acquireBytes allocator config capacity pool).1.capacity =
      if last.capacity < max capacity config.defaultBufferCapacity then
        allocator.reserved last.clear
          (max capacity config.defaultBufferCapacity - last.capacity)
      else
        last.capacity := by
  simp only [acquireBytes, top, apply_ite Prod.fst, apply_ite BytesMut.capacity]
  rfl

/-! ## The bounds of the pool -/

/-- The pool is not too large, and none of its buffers is. -/
structure PoolBounded (config : PoolConfig) (pool : BytesPool) : Prop where
  size : pool.length ≤ config.maxPoolSize
  capacities : ∀ b ∈ pool, b.capacity ≤ config.maxPooledCapacity

theorem PoolBounded.nil (config : PoolConfig) : PoolBounded config [] where
  size := Nat.zero_le _
  capacities := List.forall_mem_nil _

theorem PoolBounded.dropLast (bounded : PoolBounded config pool) :
    PoolBounded config pool.dropLast where
  size := by
    rw [List.length_dropLast]
    exact Nat.le_trans (Nat.sub_le _ _) bounded.size
  capacities b member := bounded.capacities b (List.dropLast_subset _ member)

theorem PoolBounded.releaseBytes (bounded : PoolBounded config pool) (bytes : BytesMut) :
    PoolBounded config (releaseBytes config bytes pool) := by
  rw [Stream.releaseBytes]
  split
  · rename_i small
    split
    · rename_i room
      constructor
      · rw [List.length_append, List.length_singleton]
        exact room
      · intro b member
        rcases List.mem_append.mp member with old | new
        · exact bounded.capacities b old
        · rw [List.mem_singleton.mp new]
          exact small
    · exact bounded
  · exact bounded

theorem PoolBounded.step {call : PoolCall} (bounded : PoolBounded config pool)
    (stepEq : poolStep allocator config pool call = some next) : PoolBounded config next := by
  cases call with
  | acquire capacity =>
      rw [poolStep, acquireBytes_snd, Option.some.injEq] at stepEq
      rw [← stepEq]
      exact bounded.dropLast
  | release bytes =>
      rw [poolStep, Option.some.injEq] at stepEq
      rw [← stepEq]
      exact bounded.releaseBytes bytes

/-! ## Buffers as large as asked -/

/-- A buffer that is given out is empty and as large as was asked. -/
def AsAsked (allocator : Allocator) (config : PoolConfig) (pool : BytesPool) : PoolCall → Prop
  | .acquire capacity =>
      (acquireBytes allocator config capacity pool).1.bytes = [] ∧
        capacity ≤ (acquireBytes allocator config capacity pool).1.capacity
  | .release _ => True

/-- The buffer on top of the pool is as large as asked already, or has no capacity of its
own, or leaves as much as is asked of the default capacity. -/
def TopServes (config : PoolConfig) (pool : BytesPool) : PoolCall → Prop
  | .acquire capacity =>
      ∀ last ∈ pool.getLast?,
        capacity ≤ last.capacity ∨ last.capacity = 0 ∨
          capacity + last.capacity ≤ config.defaultBufferCapacity
  | .release _ => True

/-- Every allocator gives a large enough buffer, if the top of the pool serves. -/
theorem asAsked_of_topServes (allocator : Allocator) {call : PoolCall}
    (serves : TopServes config pool call) : AsAsked allocator config pool call := by
  cases call with
  | release bytes => trivial
  | acquire capacity =>
      refine ⟨bytes_acquireBytes allocator config capacity pool, ?_⟩
      cases top : pool.getLast? with
      | none =>
          simp only [acquireBytes, top]
          exact Nat.le_trans (Nat.le_max_left _ _) (allocator.le_withCapacity _)
      | some last =>
          have reserved := allocator.enough last.clear
            (max capacity config.defaultBufferCapacity - last.capacity)
          have kept := allocator.keeps last.clear
            (max capacity config.defaultBufferCapacity - last.capacity)
          change 0 + _ ≤ _ at reserved
          change last.capacity ≤ _ at kept
          have given := serves last top
          rw [capacity_acquireBytes top]
          split <;> omega

/-- The allocator that gives no more than it must needs the top of the pool to serve. -/
theorem topServes_of_asAsked {call : PoolCall} (asked : AsAsked .exact config pool call) :
    TopServes config pool call := by
  cases call with
  | release bytes => trivial
  | acquire capacity =>
      intro last top
      have large := asked.2
      rw [capacity_acquireBytes top] at large
      have given : Allocator.exact.reserved last.clear
          (max capacity config.defaultBufferCapacity - last.capacity) =
            max last.capacity
              (0 + (max capacity config.defaultBufferCapacity - last.capacity)) := rfl
      rw [given] at large
      split at large <;> omega

/-- In every history of calls on one thread the pool stays within its bounds.  Whatever
the allocator, each buffer is given out empty and as large as asked, exactly if the buffer
on top of the pool serves at each call. -/
theorem acquired_as_asked_iff (config : PoolConfig) (calls : List PoolCall) :
    (∀ allocator, Always (poolStep allocator config) (PoolBounded config) [] calls ∧
        Meets (poolStep allocator config) (AsAsked allocator config) [] calls) ↔
      Meets (poolStep .exact config) (TopServes config) [] calls := by
  constructor
  · intro every
    exact (every .exact).2.imp topServes_of_asAsked
  · intro serves allocator
    constructor
    · exact .of_invariant PoolBounded.step (.nil config) calls
    · rw [poolStep_congr allocator .exact]
      exact serves.imp (asAsked_of_topServes allocator)

/-- A buffer of the default capacity is released, and the next request, for twice that
capacity, gets it as it is. -/
theorem acquired_too_small :
    ¬ Meets (poolStep .exact (loadConfig fun _ => none))
      (AsAsked .exact (loadConfig fun _ => none)) []
      [.release (.empty 4096), .acquire 8192] := by
  intro meets
  have large := (meets.2 _ rfl).1.2
  exact absurd large (by decide)

end FerroTunnel.Stream
