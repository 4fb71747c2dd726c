import FerroTunnel.Transition.Holdings
import Mathlib.Data.Multiset.Range

/-!
# The HTTP/2 connection of the local proxy

Requests over HTTP/2 share one connection, which `acquire_h2` keeps in a cell
under a lock.  A call that finds no ready connection there dials with the lock
released, looks again when it has a connection of its own, and stores this
only if the cell still holds no ready one; otherwise it drops its own and takes
the stored one.

Any number of calls do this at the same time, connections are closed at any
moment, and a call may be dropped wherever it waits.  Of `is_ready` it is assumed
only that a connection which is not ready does not become so again.
-/

namespace FerroTunnel.Proxy

open FerroTunnel.Transition

/-- Why a call gets no connection. -/
inductive ConnectionPoolError
  | connection (message : String)
  | handshake (message : String)
deriving DecidableEq

/-- Which connections hyper reports as ready after those in the list were closed. -/
structure Readiness where
  isReady : List Nat → Nat → Bool
  /-- Readiness that is lost does not come back. -/
  ends : ∀ {closed sender other},
    isReady (sender :: closed) other = true → isReady closed other = true

/-- The cell with the shared connection; connections are numbered in the order in which they
are made. -/
structure H2Cell where
  hyper : Readiness
  made : Nat
  closed : List Nat
  h2Connection : Option Nat
  /-- Connections that were overwritten in the cell. -/
  replaced : List Nat
  /-- Connections of their own that calls have dropped. -/
  dropped : List Nat

namespace H2Cell

/-- The cell before any call. -/
def new (hyper : Readiness) : H2Cell where
  hyper := hyper
  made := 0
  closed := []
  h2Connection := none
  replaced := []
  dropped := []

/-- The connection is ready now. -/
def isReady (cell : H2Cell) (sender : Nat) : Bool :=
  cell.hyper.isReady cell.closed sender

/-- The stored connection, if it is ready. -/
def reusable (cell : H2Cell) : Option Nat :=
  cell.h2Connection.filter cell.isReady

/-- A call drops a connection of its own. -/
def drop (cell : H2Cell) (own : Nat) : H2Cell :=
  { cell with dropped := own :: cell.dropped }

/-- A call stores a connection of its own. -/
def store (cell : H2Cell) (own : Nat) : H2Cell :=
  { cell with
    h2Connection := some own
    replaced := cell.h2Connection.toList ++ cell.replaced }

/-- The connections that no call keeps for itself. -/
def kept (cell : H2Cell) : Multiset Nat :=
  cell.h2Connection.toList + cell.replaced + cell.dropped

end H2Cell

/-- Where a call of `acquire_h2` stands. -/
inductive AcquireH2
  | inspect
  | connect
  | handshake
  | recheck (own : Nat)
  | returned (sender : Nat)
  | failed (error : ConnectionPoolError)
  | cancelled
deriving DecidableEq

/-- What a call meets: the lock, a connection or handshake that succeeds or fails, or the end
of its caller. -/
inductive Dialing
  | locked
  | succeeded
  | refused (message : String)
  | cancel
deriving DecidableEq

/-- What a call does next. -/
def AcquireH2.next (cell : H2Cell) : AcquireH2 → Dialing → Option (H2Cell × AcquireH2)
  | .inspect, .locked =>
      match cell.reusable with
      | some sender => some (cell, .returned sender)
      | none => some (cell, .connect)
  | .inspect, .cancel => some (cell, .cancelled)
  | .connect, .succeeded => some (cell, .handshake)
  | .connect, .refused message => some (cell, .failed (.connection message))
  | .connect, .cancel => some (cell, .cancelled)
  | .handshake, .succeeded => some ({ cell with made := cell.made + 1 }, .recheck cell.made)
  | .handshake, .refused message => some (cell, .failed (.handshake message))
  | .handshake, .cancel => some (cell, .cancelled)
  | .recheck own, .locked =>
      match cell.reusable with
      | some existing => some (cell.drop own, .returned existing)
      | none => some (cell.store own, .returned own)
  | .recheck own, .cancel => some (cell.drop own, .cancelled)
  | _, _ => none

/-- The connections that a call keeps for itself. -/
def AcquireH2.held : AcquireH2 → Multiset Nat
  | .recheck own => {own}
  | _ => 0

/-- All calls ever made, over one cell. -/
abbrev H2Pool := Pool H2Cell AcquireH2

/-- What happens next: a call begins or goes on, or a connection is closed. -/
inductive H2Action
  | acquire
  | advance (call : Nat) (outside : Dialing)
  | close (sender : Nat)
deriving DecidableEq

namespace H2Pool

/-- The pool before any call. -/
def new (hyper : Readiness) : H2Pool where
  shared := .new hyper
  calls := []

/-- One step of one call, or of the connections. -/
def step : Step H2Pool H2Action
  | pool, .acquire => some { pool with calls := pool.calls ++ [.inspect] }
  | pool, .advance k outside =>
      (pool.calls[k]?).bind fun call =>
        (call.next pool.shared outside).map fun result =>
          { shared := result.1, calls := pool.calls.set k result.2 }
  | pool, .close sender =>
      some { pool with shared := { pool.shared with closed := sender :: pool.shared.closed } }

end H2Pool

/-! ## What one call does to the cell -/

/-- A call keeps the cell and what it holds and may find the stored connection, makes a
connection, drops its own, or stores its own where none is ready. -/
inductive AcquireMove (cell : H2Cell) (call : AcquireH2) : H2Cell → AcquireH2 → Prop
  | stay {call' : AcquireH2} (held : call'.held = call.held)
      (found : ∀ sender, call' = .returned sender → cell.h2Connection = some sender) :
      AcquireMove cell call cell call'
  | make (held : call.held = 0) :
      AcquireMove cell call { cell with made := cell.made + 1 } (.recheck cell.made)
  | drop {own : Nat} {call' : AcquireH2} (held : call.held = {own}) (free : call'.held = 0)
      (found : ∀ sender, call' = .returned sender → cell.h2Connection = some sender) :
      AcquireMove cell call (cell.drop own) call'
  | store {own : Nat} (held : call.held = {own}) (stale : cell.reusable = none) :
      AcquireMove cell call (cell.store own) (.returned own)

theorem AcquireMove.pause {cell : H2Cell} {call call' : AcquireH2}
    (held : call'.held = call.held) (unreturned : ∀ sender, call' ≠ .returned sender) :
    AcquireMove cell call cell call' :=
  .stay held fun sender returned => absurd returned (unreturned sender)

theorem H2Cell.h2Connection_of_reusable {cell : H2Cell} {sender : Nat}
    (reusable : cell.reusable = some sender) : cell.h2Connection = some sender :=
  (Option.filter_eq_some_iff.mp reusable).1

theorem AcquireH2.next_move {cell cell' : H2Cell} {call call' : AcquireH2} {outside : Dialing}
    (nextEq : call.next cell outside = some (cell', call')) :
    AcquireMove cell call cell' call' := by
  cases call with
  | inspect =>
      cases outside with
      | locked =>
          simp only [next] at nextEq
          split at nextEq
          · rename_i sender reusable
            cases nextEq
            refine .stay rfl ?_
            rintro _ ⟨⟩
            exact cell.h2Connection_of_reusable reusable
          · cases nextEq
            exact .pause rfl (by simp)
      | cancel =>
          cases nextEq
          exact .pause rfl (by simp)
      | _ => cases nextEq
  | connect =>
      cases outside with
      | locked => cases nextEq
      | _ =>
          cases nextEq
          exact .pause rfl (by simp)
  | handshake =>
      cases outside with
      | locked => cases nextEq
      | succeeded =>
          cases nextEq
          exact .make rfl
      | _ =>
          cases nextEq
          exact .pause rfl (by simp)
  | recheck own =>
      cases outside with
      | locked =>
          simp only [next] at nextEq
          split at nextEq
          · rename_i existing reusable
            cases nextEq
            refine .drop rfl rfl ?_
            rintro _ ⟨⟩
            exact cell.h2Connection_of_reusable reusable
          · rename_i stale
            cases nextEq
            exact .store rfl stale
      | cancel =>
          cases nextEq
          exact .drop rfl rfl (by simp)
      | _ => cases nextEq
  | _ => cases outside <;> cases nextEq

/-! ## All interleavings -/

namespace H2Pool

variable {pool after : H2Pool}

/-- All connections that were made, by where they are. -/
def placed (pool : H2Pool) : Multiset Nat :=
  holdings AcquireH2.held pool.calls + pool.shared.kept

/-- The calls share one ready connection at a time, and no connection gets lost. -/
structure Shared (pool : H2Pool) : Prop where
  /-- A connection that was handed out and is still ready is the stored one. -/
  returned : ∀ sender, .returned sender ∈ pool.calls → pool.shared.isReady sender = true →
    pool.shared.h2Connection = some sender
  /-- Only connections that are not ready are replaced. -/
  replaced : ∀ sender ∈ pool.shared.replaced, pool.shared.isReady sender = false
  /-- Each connection that was made is held by a call which has not stored it yet, or stored, or
  was replaced, or was dropped, and only one of these. -/
  placed : pool.placed = Multiset.range pool.shared.made

theorem shared_new (hyper : Readiness) : (new hyper).Shared where
  returned sender member := by cases member
  replaced sender member := by cases member
  placed := rfl

theorem Shared.acquire (shared : pool.Shared) :
    Shared { pool with calls := pool.calls ++ [.inspect] } where
  returned sender member := by
    apply shared.returned sender
    simpa using member
  replaced := shared.replaced
  placed := by
    rw [← shared.placed]
    simp [H2Pool.placed, holdings_concat, AcquireH2.held]

theorem Shared.close (shared : pool.Shared) (sender : Nat) :
    Shared { pool with shared := { pool.shared with closed := sender :: pool.shared.closed } } where
  returned other member ready := shared.returned other member (pool.shared.hyper.ends ready)
  replaced other member := by
    rw [Bool.eq_false_iff]
    intro ready
    cases (shared.replaced other member).symm.trans (pool.shared.hyper.ends ready)
  placed := shared.placed

variable {cell : H2Cell} {call call' : AcquireH2}

/-- A stored connection that is not reusable is not ready. -/
theorem not_isReady_of_stale {sender : Nat} (stale : cell.reusable = none)
    (stored : cell.h2Connection = some sender) : cell.isReady sender = false := by
  simpa [H2Cell.reusable, stored] using stale

/-- A call moves connections between itself and the cell, and may make one. -/
theorem kept_move {cell' : H2Cell} (move : AcquireMove cell call cell' call') :
    call'.held + cell'.kept + Multiset.range cell.made =
      call.held + cell.kept + Multiset.range cell'.made := by
  cases move with
  | stay held => rw [held]
  | make held =>
      have one : AcquireH2.held (.recheck cell.made) = {cell.made} := rfl
      simp only [one, held, H2Cell.kept, Multiset.range_succ, ← Multiset.singleton_add]
      abel
  | @drop own _ held free =>
      have split : ((own :: cell.dropped : List Nat) : Multiset Nat) =
          {own} + cell.dropped := rfl
      simp only [held, free, H2Cell.kept, H2Cell.drop, split]
      abel
  | @store own held =>
      have stored : (((some own).toList : List Nat) : Multiset Nat) = {own} := rfl
      have none : AcquireH2.held (.returned own) = 0 := rfl
      simp only [held, none, H2Cell.kept, H2Cell.store, stored, ← Multiset.coe_add]
      abel

theorem placed_move {k : Nat} (callAt : pool.calls[k]? = some call)
    (move : AcquireMove pool.shared call cell call')
    (placed : pool.placed = Multiset.range pool.shared.made) :
    H2Pool.placed { shared := cell, calls := pool.calls.set k call' } =
      Multiset.range cell.made := by
  have moved : _ + call.held = _ + call'.held := holdings_set callAt call'
  have kept := kept_move move
  rw [← placed] at kept
  apply add_right_cancel (b := call.held + pool.shared.kept)
  rw [add_comm (Multiset.range cell.made), ← kept]
  calc holdings AcquireH2.held (pool.calls.set k call') + cell.kept + (call.held + pool.shared.kept)
      = holdings AcquireH2.held (pool.calls.set k call') + call.held + cell.kept +
          pool.shared.kept := by abel
    _ = call'.held + cell.kept + pool.placed := by
        rw [moved, H2Pool.placed]
        abel

/-- A call that is given a connection is given the one that is then stored. -/
theorem stored_of_returned {cell' : H2Cell} {sender : Nat}
    (move : AcquireMove cell call cell' (.returned sender)) : cell'.h2Connection = some sender := by
  cases move with
  | stay _ found | drop _ _ found => exact found sender rfl
  | store => rfl

/-- A ready connection stays stored. -/
theorem stored_of_isReady {cell' : H2Cell} {sender : Nat} (move : AcquireMove cell call cell' call')
    (stored : cell.h2Connection = some sender) (ready : cell.isReady sender = true) :
    cell'.h2Connection = some sender := by
  cases move with
  | store _ stale => cases ready.symm.trans (not_isReady_of_stale stale stored)
  | _ => exact stored

theorem isReady_of_move {cell' : H2Cell} (move : AcquireMove cell call cell' call') :
    cell'.isReady = cell.isReady := by
  cases move <;> rfl

theorem Shared.move {k : Nat} (shared : pool.Shared) (callAt : pool.calls[k]? = some call)
    (move : AcquireMove pool.shared call cell call') :
    Shared { shared := cell, calls := pool.calls.set k call' } := by
  constructor
  · intro sender member ready
    rw [isReady_of_move move] at ready
    rcases List.mem_or_eq_of_mem_set member with old | rfl
    · exact stored_of_isReady move (shared.returned sender old ready) ready
    · exact stored_of_returned move
  · intro sender member
    rw [isReady_of_move move]
    cases move with
    | store _ stale =>
        rcases List.mem_append.mp member with stored | old
        · exact not_isReady_of_stale stale (Option.mem_toList.mp stored)
        · exact shared.replaced sender old
    | _ => exact shared.replaced sender member
  · exact placed_move callAt move shared.placed

theorem Shared.step {action : H2Action} (shared : pool.Shared)
    (stepEq : pool.step action = some after) : after.Shared := by
  cases action with
  | acquire =>
      cases stepEq
      exact shared.acquire
  | advance k outside =>
      obtain ⟨call, callAt, mapped⟩ := Option.bind_eq_some_iff.mp stepEq
      obtain ⟨⟨cell, call'⟩, nextEq, rfl⟩ := Option.map_eq_some_iff.mp mapped
      exact shared.move callAt (AcquireH2.next_move nextEq)
  | close sender =>
      cases stepEq
      exact shared.close sender

end H2Pool

/-- However the calls of `acquire_h2` are interleaved, whenever connections close and whatever
becomes of the dials, all calls that were given a connection which is still ready were given the
same one, and it is the stored one; a stored connection is replaced only when it is no longer
ready; and every connection made is stored, replaced or dropped, or belongs to one call that
still decides about it. -/
theorem h2_connection_shared (hyper : Readiness) {actions : List H2Action} {pool : H2Pool}
    (run : exec H2Pool.step (.new hyper) actions = some pool) :
    (∀ first second, .returned first ∈ pool.calls → .returned second ∈ pool.calls →
      pool.shared.isReady first = true → pool.shared.isReady second = true → first = second) ∧
    pool.Shared := by
  have shared : pool.Shared :=
    exec_invariant (fun shared stepEq => shared.step stepEq) (H2Pool.shared_new hyper) run
  refine ⟨?_, shared⟩
  intro first second firstIn secondIn firstReady secondReady
  have storedFirst := shared.returned first firstIn firstReady
  have storedSecond := shared.returned second secondIn secondReady
  exact Option.some.inj (storedFirst.symm.trans storedSecond)

/-- Connections are ready until they are closed. -/
def untilClosed : Readiness where
  isReady closed sender := !closed.contains sender
  ends ready := by
    simp only [List.contains_cons, Bool.not_or, Bool.and_eq_true] at ready
    exact ready.2

/-- Two calls dial at the same time; the second finds the connection of the first. -/
def racingDials : List H2Action :=
  [.acquire, .acquire, .advance 0 .locked, .advance 1 .locked, .advance 0 .succeeded,
   .advance 1 .succeeded, .advance 0 .succeeded, .advance 1 .succeeded, .advance 1 .locked,
   .advance 0 .locked]

theorem h2_connection_shared_racingDials :
    ∃ pool, exec H2Pool.step (.new untilClosed) racingDials = some pool ∧
      pool.calls = [.returned 1, .returned 1] ∧ pool.shared.dropped = [0] ∧ pool.Shared := by
  have values : (exec H2Pool.step (.new untilClosed) racingDials).map
      (fun pool => (pool.calls, pool.shared.dropped)) =
        some ([.returned 1, .returned 1], [0]) := by
    decide
  obtain ⟨pool, run, shown⟩ := Option.map_eq_some_iff.mp values
  exact ⟨pool, run, congrArg Prod.fst shown, congrArg Prod.snd shown,
    (h2_connection_shared untilClosed run).2⟩

end FerroTunnel.Proxy
