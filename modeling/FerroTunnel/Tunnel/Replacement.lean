import FerroTunnel.Tunnel.Routing

/-!
# Replacing a session

`add_or_replace` is four map operations: it deletes the index entry of the
tunnel, deletes the session it led to, writes a new index entry and inserts the
new session.  `remove` deletes a session and then the index entry of its tunnel,
whoever owns that entry by then.  The maps stay together in the runs whose
operations leave alone the index entry of a session that another call is at
work on, and there are runs in which they do not.
-/

namespace FerroTunnel.Tunnel

open FerroTunnel.Transition
open FerroTunnel.Wire

variable {μ : Type}

namespace StorePool

/-- In every run with fresh ids and undisturbed map operations, once all calls
have returned each session is the one its tunnel leads to, and each index entry
leads to a session of its tunnel. -/
theorem replacement_consistent (pool : StorePool μ) (actions : List (StoreAction μ))
    (run : exec step initial actions = some pool)
    (fresh : Meets step FreshIds initial actions)
    (undisturbed : Meets step Undisturbed initial actions)
    (returned : pool.Quiescent) : pool.shared.MutuallyInverse := by
  have preserved : ∀ {current : StorePool μ} {action next},
      (Identified current.shared current.roles ∧ Routed current.shared current.roles) →
      (current.FreshIds action ∧ current.Undisturbed action) →
      current.step action = some next →
      Identified next.shared next.roles ∧ Routed next.shared next.roles := by
    rintro current action next ⟨known, routed⟩ ⟨freshNow, undisturbedNow⟩ stepEq
    exact ⟨identified_step known freshNow stepEq,
      routed_step routed known undisturbedNow stepEq⟩
  obtain ⟨-, routed⟩ := exec_invariant_of_meets preserved
    ⟨identified_initial, routed_initial⟩ (fresh.and undisturbed) run
  exact mutuallyInverse_of_quiescent routed returned

/-- A client connects and is replaced when it connects again; the old connection
then removes its session. -/
def reconnect : List (StoreAction Unit) :=
  [.start (.add ⟨1, "app", 0, [], none⟩), .advance 0 none, .advance 0 none,
   .start (.addOrReplace ⟨2, "app", 0, [], none⟩), .advance 1 none, .advance 1 none,
   .advance 1 none, .advance 1 none,
   .start (.remove 1), .advance 2 none]

theorem replacement_consistent_reconnect :
    ∃ pool, exec step initial reconnect = some pool ∧ pool.shared.MutuallyInverse := by
  refine ⟨_, rfl, replacement_consistent _ reconnect rfl ?_ ?_ ?_⟩
  · decide +kernel
  · decide +kernel
  · decide

/-- The old connection removes its session while the client is being replaced:
its second map operation comes last. -/
def removalDuringReplacement : List (StoreAction Unit) :=
  [.start (.add ⟨1, "app", 0, [], none⟩), .advance 0 none, .advance 0 none,
   .start (.remove 1), .advance 1 none,
   .start (.addOrReplace ⟨2, "app", 0, [], none⟩), .advance 2 none, .advance 2 none,
   .advance 2 none, .advance 2 none,
   .advance 1 none]

/-- Two connections of one client replace each other at the same time. -/
def crossedReplacements : List (StoreAction Unit) :=
  [.start (.addOrReplace ⟨1, "app", 0, [], none⟩), .start (.addOrReplace ⟨2, "app", 0, [], none⟩),
   .advance 0 none, .advance 1 none, .advance 0 none, .advance 1 none,
   .advance 0 none, .advance 1 none]

/-- A removal racing with a replacement leaves the new session without an index
entry, and of two racing replacements a session that no tunnel leads to stays
behind. -/
theorem replacement_races :
    (∃ pool, exec step initial removalDuringReplacement = some pool ∧
      Meets step FreshIds initial removalDuringReplacement ∧ pool.Quiescent ∧
      pool.shared.sessions.lookup 2 = some ⟨2, "app", 0, [], none⟩ ∧
      pool.shared.tunnelIndex.lookup "app" = none) ∧
    (∃ pool, exec step initial crossedReplacements = some pool ∧
      Meets step FreshIds initial crossedReplacements ∧ pool.Quiescent ∧
      pool.shared.sessions.lookup 1 = some ⟨1, "app", 0, [], none⟩ ∧
      pool.shared.tunnelIndex.lookup "app" = some 2) := by
  constructor
  · exact ⟨_, rfl, by decide +kernel, by decide, rfl, rfl⟩
  · exact ⟨_, rfl, by decide +kernel, by decide, rfl, rfl⟩

end StorePool

end FerroTunnel.Tunnel
