import FerroTunnel.Stream.Multiplexer

/-!
# Allocation of stream ids

Both kinds of multiplexers take stream ids from an atomic counter that advances
by two and stops short of the end of the id space.  A client counts from one
and a server from two.  Over any sequence of allocations at the two ends, what
is returned before and after exhaustion follows from three facts: each
allocation is `allocateFrom` of the counter it finds, counters never go back,
and they keep their parity.
-/

namespace FerroTunnel.Stream

/-! ## The counter -/

/-- `u32::checked_add`. -/
def checkedAdd (value increment : UInt32) : Option UInt32 :=
  if value.toNat + increment.toNat < 2 ^ 32 then some (value + increment) else none

/-- `AtomicU32::fetch_update`: store the updated value and return the previous
one, or leave the value and return it as an error. -/
def fetchUpdate (update : UInt32 → Option UInt32) (value : UInt32) :
    Except UInt32 UInt32 × UInt32 :=
  match update value with
  | some next => (.ok value, next)
  | none => (.error value, value)

/-- Allocate an id from a counter; the result and the counter after it. -/
def allocateFrom (counter : UInt32) : Except String UInt32 × UInt32 :=
  match fetchUpdate (checkedAdd · 2) counter with
  | (.ok id, next) => (.ok id, next)
  | (.error _, next) => (.error "stream ID space exhausted", next)

/-- An allocation returns the counter and advances it without wrapping, or
fails and leaves it. -/
theorem allocateFrom_cases (counter : UInt32) :
    (allocateFrom counter = (.ok counter, counter + 2) ∧ counter.toNat + 2 < 2 ^ 32 ∧
      (counter + 2).toNat = counter.toNat + 2) ∨
    (allocateFrom counter = (.error "stream ID space exhausted", counter) ∧
      2 ^ 32 ≤ counter.toNat + 2) := by
  have two : (2 : UInt32).toNat = 2 := rfl
  by_cases room : counter.toNat + 2 < 2 ^ 32
  · left
    constructor
    · simp only [allocateFrom, fetchUpdate, checkedAdd, two, room, if_true]
    constructor
    · exact room
    · rw [UInt32.toNat_add, two, Nat.mod_eq_of_lt room]
  · right
    constructor
    · simp only [allocateFrom, fetchUpdate, checkedAdd, two, room, if_false]
    · exact Nat.not_lt.mp room

/-! ## The multiplexers -/

/-- The multiplexer over QUIC streams; it keeps no streams of its own. -/
structure QuicMultiplexer where
  nextStreamId : UInt32
deriving DecidableEq

namespace QuicMultiplexer

/-- The multiplexer of a fresh connection. -/
def new (isClient : Bool) : QuicMultiplexer :=
  ⟨if isClient then 1 else 2⟩

/-- Allocate a stream id; the id space is never wrapped. -/
def allocateStreamId (mux : QuicMultiplexer) : Except String UInt32 × QuicMultiplexer :=
  let (result, next) := allocateFrom mux.nextStreamId
  (result, ⟨next⟩)

end QuicMultiplexer

/-- The multiplexer over frames allocates from its counter in the same way. -/
theorem Multiplexer.allocateStreamId_eq (mux : Multiplexer) :
    mux.allocateStreamId =
      match allocateFrom mux.nextStreamId with
      | (.ok id, next) => .ok (id, { mux with nextStreamId := next })
      | (.error e, _) => .error e := by
  rcases allocateFrom_cases mux.nextStreamId with ⟨allocated, room, -⟩ | ⟨exhausted, full⟩
  · rw [allocated, allocateStreamId, if_pos room]
  · rw [exhausted, allocateStreamId, if_neg (Nat.not_lt.mpr full)]

/-- A multiplexer over either transport. -/
inductive AnyMultiplexer
  | tcp (mux : Multiplexer)
  | quic (mux : QuicMultiplexer)

namespace AnyMultiplexer

/-- The counter of a multiplexer. -/
def nextStreamId : AnyMultiplexer → UInt32
  | .tcp mux => mux.nextStreamId
  | .quic mux => mux.nextStreamId

/-- The allocation of either multiplexer. -/
def allocateStreamId : AnyMultiplexer → Except String UInt32 × AnyMultiplexer
  | .tcp mux =>
      match mux.allocateStreamId with
      | .ok (id, mux) => (.ok id, .tcp mux)
      | .error e => (.error e, .tcp mux)
  | .quic mux =>
      let (result, mux) := mux.allocateStreamId
      (result, .quic mux)

/-- A multiplexer of a fresh connection. -/
def IsNew (isClient : Bool) (mux : AnyMultiplexer) : Prop :=
  mux = .tcp (.new isClient) ∨ mux = .quic (.new isClient)

/-- Either multiplexer allocates from its counter. -/
theorem allocateStreamId_eq (mux : AnyMultiplexer) :
    (mux.allocateStreamId.1, mux.allocateStreamId.2.nextStreamId) =
      allocateFrom mux.nextStreamId := by
  cases mux with
  | tcp mux =>
      simp only [allocateStreamId, Multiplexer.allocateStreamId_eq, nextStreamId]
      rcases allocateFrom_cases mux.nextStreamId with ⟨allocated, -⟩ | ⟨exhausted, -⟩
      · rw [allocated]
      · rw [exhausted]
  | quic mux => rfl

end AnyMultiplexer

/-! ## Allocations at both ends -/

/-- An allocation: where it was made, the counter found and left there, and the
result. -/
structure Allocation where
  isClient : Bool
  before : UInt32
  outcome : Except String UInt32
  after : UInt32

/-- Make allocations at the two ends in the given order. -/
def allocateAll : (Bool → AnyMultiplexer) → List Bool → List Allocation
  | _, [] => []
  | muxes, isClient :: rest =>
      let (outcome, mux) := (muxes isClient).allocateStreamId
      ⟨isClient, (muxes isClient).nextStreamId, outcome, mux.nextStreamId⟩ ::
        allocateAll (Function.update muxes isClient mux) rest

/-- The parity of the ids of an end. -/
def parity (isClient : Bool) : Nat :=
  if isClient then 1 else 0

/-- What every allocation does to the counter it finds. -/
def Allocation.FromCounter (allocation : Allocation) : Prop :=
  (allocation.outcome, allocation.after) = allocateFrom allocation.before

theorem fromCounter_of_mem {muxes : Bool → AnyMultiplexer} {calls : List Bool}
    {allocation : Allocation} (made : allocation ∈ allocateAll muxes calls) :
    allocation.FromCounter := by
  induction calls generalizing muxes with
  | nil => cases made
  | cons isClient rest ih =>
      rcases List.mem_cons.mp made with rfl | later
      · exact (muxes isClient).allocateStreamId_eq
      · exact ih later

namespace Allocation.FromCounter

variable {allocation first later : Allocation} (made : allocation.FromCounter)

include made

/-- A successful allocation returns the counter it found and has room above. -/
theorem of_ok {id : UInt32} (ok : allocation.outcome = .ok id) :
    id = allocation.before ∧ allocation.after.toNat = id.toNat + 2 := by
  unfold FromCounter at made
  rcases allocateFrom_cases allocation.before with ⟨allocated, -, afterEq⟩ | ⟨exhausted, -⟩
  · rw [allocated] at made
    obtain ⟨outcomeEq, counterEq⟩ := Prod.mk.inj made
    rw [ok] at outcomeEq
    cases outcomeEq
    rw [counterEq]
    exact ⟨rfl, afterEq⟩
  · rw [exhausted] at made
    rw [ok] at made
    cases (Prod.mk.inj made).1

/-- A failed allocation found no room and left the counter. -/
theorem of_error {e : String} (failed : allocation.outcome = .error e) :
    allocation.after = allocation.before ∧ 2 ^ 32 ≤ allocation.before.toNat + 2 := by
  unfold FromCounter at made
  rcases allocateFrom_cases allocation.before with ⟨allocated, -⟩ | ⟨exhausted, full⟩
  · rw [allocated, failed] at made
    cases (Prod.mk.inj made).1
  · rw [exhausted] at made
    exact ⟨(Prod.mk.inj made).2, full⟩

/-- Without room an allocation fails. -/
theorem error_of_full (full : 2 ^ 32 ≤ allocation.before.toNat + 2) :
    allocation.outcome = .error "stream ID space exhausted" := by
  unfold FromCounter at made
  rcases allocateFrom_cases allocation.before with ⟨-, room, -⟩ | ⟨exhausted, -⟩
  · omega
  · rw [exhausted] at made
    exact (Prod.mk.inj made).1

/-- The counter never goes back. -/
theorem before_le_after : allocation.before.toNat ≤ allocation.after.toNat := by
  cases outcomeEq : allocation.outcome with
  | ok id =>
      obtain ⟨rfl, afterEq⟩ := made.of_ok outcomeEq
      omega
  | error e => rw [(made.of_error outcomeEq).1]

/-- The counter keeps its parity. -/
theorem parity_after : allocation.after.toNat % 2 = allocation.before.toNat % 2 := by
  cases outcomeEq : allocation.outcome with
  | ok id =>
      obtain ⟨rfl, afterEq⟩ := made.of_ok outcomeEq
      omega
  | error e => rw [(made.of_error outcomeEq).1]

end Allocation.FromCounter

/-- Every allocation finds a counter no smaller than the one the run began with,
and of the same parity. -/
theorem before_of_mem {muxes : Bool → AnyMultiplexer} {calls : List Bool}
    {allocation : Allocation} (made : allocation ∈ allocateAll muxes calls) :
    (muxes allocation.isClient).nextStreamId.toNat ≤ allocation.before.toNat ∧
      allocation.before.toNat % 2 = (muxes allocation.isClient).nextStreamId.toNat % 2 := by
  induction calls generalizing muxes with
  | nil => cases made
  | cons isClient rest ih =>
      rcases List.mem_cons.mp made with rfl | later
      · exact ⟨Nat.le_refl _, rfl⟩
      · obtain ⟨grown, sameParity⟩ := ih later
        by_cases here : allocation.isClient = isClient
        · rw [here, Function.update_self] at grown sameParity
          rw [here]
          have head : Allocation.FromCounter ⟨isClient, (muxes isClient).nextStreamId,
              (muxes isClient).allocateStreamId.1,
              (muxes isClient).allocateStreamId.2.nextStreamId⟩ :=
            (muxes isClient).allocateStreamId_eq
          exact ⟨head.before_le_after.trans grown, sameParity.trans head.parity_after⟩
        · rw [Function.update_of_ne here] at grown sameParity
          exact ⟨grown, sameParity⟩

/-- A later allocation at the same end finds a counter no smaller than the one an
earlier allocation left. -/
theorem pairwise_after_le_before (muxes : Bool → AnyMultiplexer) (calls : List Bool) :
    (allocateAll muxes calls).Pairwise fun first later =>
      first.isClient = later.isClient → first.after.toNat ≤ later.before.toNat := by
  induction calls generalizing muxes with
  | nil => exact .nil
  | cons isClient rest ih =>
      apply List.Pairwise.cons
      · intro later made same
        obtain ⟨grown, -⟩ := before_of_mem made
        rw [← same, Function.update_self] at grown
        exact grown
      · exact ih _

/-- The counters of fresh connections start at the parity of their end. -/
theorem AnyMultiplexer.IsNew.parity {isClient : Bool} {mux : AnyMultiplexer}
    (isNew : mux.IsNew isClient) : mux.nextStreamId.toNat % 2 = Stream.parity isClient := by
  rcases isNew with rfl | rfl <;> cases isClient <;> rfl

/-- Over every sequence of allocations made in any order at the two ends of a
connection, of either transport: the ids returned at one end increase strictly
and keep its parity, no id is returned at both ends, no allocation wraps, and a
failed allocation leaves the counter and is followed by failures only. -/
theorem stream_ids_never_collide (muxes : Bool → AnyMultiplexer)
    (isNew : ∀ isClient, (muxes isClient).IsNew isClient) (calls : List Bool) :
    ((allocateAll muxes calls).Pairwise fun first later =>
      first.isClient = later.isClient → ∀ id id', first.outcome = .ok id →
        later.outcome = .ok id' → id < id') ∧
    (∀ allocation ∈ allocateAll muxes calls, ∀ id, allocation.outcome = .ok id →
      id.toNat % 2 = parity allocation.isClient ∧
        allocation.after.toNat = id.toNat + 2) ∧
    (∀ first ∈ allocateAll muxes calls, ∀ second ∈ allocateAll muxes calls,
      first.isClient ≠ second.isClient → ∀ id, first.outcome = .ok id →
        second.outcome ≠ .ok id) ∧
    (∀ allocation ∈ allocateAll muxes calls, ∀ e, allocation.outcome = .error e →
      allocation.after = allocation.before) ∧
    ((allocateAll muxes calls).Pairwise fun first later =>
      first.isClient = later.isClient → ∀ e, first.outcome = .error e →
        later.outcome = .error "stream ID space exhausted" ∧ later.after = later.before) := by
  have keepsParity : ∀ allocation ∈ allocateAll muxes calls, ∀ id,
      allocation.outcome = .ok id → id.toNat % 2 = parity allocation.isClient := by
    intro allocation made id ok
    obtain ⟨rfl, -⟩ := (fromCounter_of_mem made).of_ok ok
    exact (before_of_mem made).2.trans (isNew allocation.isClient).parity
  have ordered := pairwise_after_le_before muxes calls
  constructor
  · apply ordered.imp_of_mem
    intro first later firstMade laterMade grown same id id' firstOk laterOk
    obtain ⟨-, advanced⟩ := (fromCounter_of_mem firstMade).of_ok firstOk
    obtain ⟨rfl, -⟩ := (fromCounter_of_mem laterMade).of_ok laterOk
    rw [UInt32.lt_iff_toNat_lt]
    have := grown same
    omega
  constructor
  · intro allocation made id ok
    exact ⟨keepsParity allocation made id ok, ((fromCounter_of_mem made).of_ok ok).2⟩
  constructor
  · intro first firstMade second secondMade differ id firstOk secondOk
    have sameParity := (keepsParity first firstMade id firstOk).symm.trans
      (keepsParity second secondMade id secondOk)
    revert differ sameParity
    cases first.isClient <;> cases second.isClient <;> simp [parity]
  constructor
  · intro allocation made e failed
    exact ((fromCounter_of_mem made).of_error failed).1
  · apply ordered.imp_of_mem
    intro first later firstMade laterMade grown same e failed
    obtain ⟨unchanged, full⟩ := (fromCounter_of_mem firstMade).of_error failed
    have laterFull : 2 ^ 32 ≤ later.before.toNat + 2 := by
      have := grown same
      rw [unchanged] at this
      omega
    have laterFailed := (fromCounter_of_mem laterMade).error_of_full laterFull
    exact ⟨laterFailed, ((fromCounter_of_mem laterMade).of_error laterFailed).1⟩

/-- A client over frames and a server over QUIC. -/
def mixedEnds : Bool → AnyMultiplexer
  | true => .tcp (.new true)
  | false => .quic (.new false)

/-- The client opens streams 1 and 3, the server stream 2 in between. -/
theorem stream_ids_never_collide_mixedEnds :
    (allocateAll mixedEnds [true, false, true]).map Allocation.outcome =
      [.ok 1, .ok 2, .ok 3] ∧
    (allocateAll mixedEnds [true, false, true]).Pairwise fun first later =>
      first.isClient = later.isClient → ∀ id id', first.outcome = .ok id →
        later.outcome = .ok id' → id < id' := by
  constructor
  · rfl
  · have isNew (isClient : Bool) : (mixedEnds isClient).IsNew isClient := by
      cases isClient with
      | true => exact .inl rfl
      | false => exact .inr rfl
    exact (stream_ids_never_collide mixedEnds isNew [true, false, true]).1

end FerroTunnel.Stream
