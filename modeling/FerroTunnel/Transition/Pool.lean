import FerroTunnel.Transition.Core
import Mathlib.Data.List.Basic

/-!
# Calls in progress over shared state

Any number of calls work on one shared state.  A call is a sequential program
given by where it stands: `next` performs its next atomic operation, which may
depend on an input from outside, and is undefined once the call has returned.
A pool interleaves the operations of its calls in every order.  A call that
has returned stays in the pool, so the pool remembers every call ever made.

The lemmas say what one advancing call does to a property of some call, and to
a property that at most one call has.
-/

namespace FerroTunnel.Transition

universe u v w x

/-- Shared state and the calls made on it, in the order they were made. -/
structure Pool (σ : Type u) (γ : Type v) where
  shared : σ
  calls : List γ

/-- A new call is made, or a call performs its next operation. -/
inductive PoolAction (ρ : Type w) (ι : Type x)
  | start (request : ρ)
  | advance (call : Nat) (input : ι)
deriving DecidableEq

variable {σ : Type u} {γ : Type v} {ρ : Type w} {ι : Type x}

/-- Interleave calls that begin with `start` and go on with `next`. -/
def Pool.step (start : ρ → γ) (next : σ → γ → ι → Option (σ × γ)) :
    Step (Pool σ γ) (PoolAction ρ ι)
  | pool, .start request => some { pool with calls := pool.calls ++ [start request] }
  | pool, .advance k input =>
      (pool.calls[k]?).bind fun call =>
        (next pool.shared call input).map fun result =>
          { shared := result.1, calls := pool.calls.set k result.2 }

theorem Pool.step_start {start : ρ → γ} {next : σ → γ → ι → Option (σ × γ)}
    {pool after : Pool σ γ} {request : ρ}
    (stepEq : pool.step start next (.start request) = some after) :
    after = { pool with calls := pool.calls ++ [start request] } :=
  (Option.some.inj stepEq).symm

theorem Pool.step_advance {start : ρ → γ} {next : σ → γ → ι → Option (σ × γ)}
    {pool after : Pool σ γ} {k : Nat} {input : ι}
    (stepEq : pool.step start next (.advance k input) = some after) :
    ∃ call shared call', pool.calls[k]? = some call ∧
      next pool.shared call input = some (shared, call') ∧
      after = { shared := shared, calls := pool.calls.set k call' } := by
  obtain ⟨call, callAt, mapped⟩ := Option.bind_eq_some_iff.mp stepEq
  obtain ⟨⟨shared, call'⟩, nextEq, afterEq⟩ := Option.map_eq_some_iff.mp mapped
  exact ⟨call, shared, call', callAt, nextEq, afterEq.symm⟩

/-! ## Places -/

/-- What stands in a list after a place is set was put there or stood there before. -/
theorem getElem?_set_cases {calls : List γ} {k j : Nat} {call found : γ}
    (foundAt : (calls.set k call)[j]? = some found) :
    (j = k ∧ found = call) ∨ (j ≠ k ∧ calls[j]? = some found) := by
  rw [List.getElem?_set] at foundAt
  split at foundAt
  · rename_i here
    split at foundAt
    · exact .inl ⟨here.symm, (Option.some.inj foundAt).symm⟩
    · cases foundAt
  · rename_i elsewhere
    exact .inr ⟨Ne.symm elsewhere, foundAt⟩

/-- What stands in a longer list is new or stood there before. -/
theorem getElem?_concat_cases {calls : List γ} {j : Nat} {call found : γ}
    (foundAt : (calls ++ [call])[j]? = some found) :
    (j < calls.length ∧ calls[j]? = some found) ∨ (j = calls.length ∧ found = call) := by
  rw [List.getElem?_append] at foundAt
  split at foundAt
  · exact .inl ⟨‹_›, foundAt⟩
  · rename_i outside
    rw [List.getElem?_singleton] at foundAt
    split at foundAt
    · exact .inr ⟨by omega, (Option.some.inj foundAt).symm⟩
    · cases foundAt

/-! ## Properties of some call -/

/-- A property that the advancing call keeps is still a property of some call. -/
theorem exists_mem_set {calls : List γ} {k : Nat} {call call' : γ} {P : γ → Prop}
    (callAt : calls[k]? = some call) (kept : P call → P call')
    (holds : ∃ c ∈ calls, P c) : ∃ c ∈ calls.set k call', P c := by
  obtain ⟨c, member, has⟩ := holds
  obtain ⟨j, cAt⟩ := List.mem_iff_getElem?.mp member
  by_cases same : k = j
  · subst same
    obtain rfl : call = c := Option.some.inj (callAt.symm.trans cAt)
    have inside : k < calls.length := (List.getElem?_eq_some_iff.mp callAt).1
    exact ⟨call', List.mem_set inside call', kept has⟩
  · refine ⟨c, List.mem_iff_getElem?.mpr ⟨j, ?_⟩, has⟩
    rw [List.getElem?_set_ne same, cAt]

/-- A new call takes nothing from the others. -/
theorem exists_mem_concat {calls : List γ} {P : γ → Prop} (call : γ)
    (holds : ∃ c ∈ calls, P c) : ∃ c ∈ calls ++ [call], P c := by
  obtain ⟨c, member, has⟩ := holds
  exact ⟨c, List.mem_append_left _ member, has⟩

/-! ## Properties of at most one call -/

/-- At most one call has the property. -/
def AtMostOne (calls : List γ) (P : γ → Prop) : Prop :=
  ∀ ⦃i j : Nat⦄ ⦃c d : γ⦄, calls[i]? = some c → calls[j]? = some d → P c → P d → i = j

namespace AtMostOne

variable {calls : List γ} {P : γ → Prop}

theorem eq (unique : AtMostOne calls P) {c d : γ} (cMem : c ∈ calls) (dMem : d ∈ calls)
    (hasC : P c) (hasD : P d) : c = d := by
  obtain ⟨i, cAt⟩ := List.mem_iff_getElem?.mp cMem
  obtain ⟨j, dAt⟩ := List.mem_iff_getElem?.mp dMem
  obtain rfl := unique cAt dAt hasC hasD
  exact Option.some.inj (cAt.symm.trans dAt)

theorem nil (P : γ → Prop) : AtMostOne [] P := by
  intro i j c d cAt
  simp at cAt

/-- An advancing call that had the property may keep it; one that had it not may
gain it if no call had it. -/
theorem set (unique : AtMostOne calls P) {k : Nat} {call call' : γ}
    (callAt : calls[k]? = some call)
    (gains : P call' → P call ∨ ∀ c ∈ calls, ¬ P c) : AtMostOne (calls.set k call') P := by
  have only : ∀ {j d}, j ≠ k → calls[j]? = some d → P d → ¬ P call' := by
    intro j d differs dAt hasD hasCall
    rcases gains hasCall with had | absent
    · exact differs (unique dAt callAt hasD had)
    · exact absent d (List.mem_of_getElem? dAt) hasD
  intro i j c d cAt dAt hasC hasD
  rcases getElem?_set_cases cAt with ⟨iEq, rfl⟩ | ⟨iNe, cOld⟩ <;>
    rcases getElem?_set_cases dAt with ⟨jEq, rfl⟩ | ⟨jNe, dOld⟩
  · exact iEq.trans jEq.symm
  · exact absurd hasC (only jNe dOld hasD)
  · exact absurd hasD (only iNe cOld hasC)
  · exact unique cOld dOld hasC hasD

/-- A new call may have the property if no call had it. -/
theorem concat (unique : AtMostOne calls P) {call : γ}
    (gains : P call → ∀ c ∈ calls, ¬ P c) : AtMostOne (calls ++ [call]) P := by
  intro i j c d cAt dAt hasC hasD
  rcases getElem?_concat_cases cAt with ⟨-, cOld⟩ | ⟨iEq, rfl⟩ <;>
    rcases getElem?_concat_cases dAt with ⟨-, dOld⟩ | ⟨jEq, rfl⟩
  · exact unique cOld dOld hasC hasD
  · exact absurd hasC (gains hasD c (List.mem_of_getElem? cOld))
  · exact absurd hasD (gains hasC d (List.mem_of_getElem? dOld))
  · exact iEq.trans jEq.symm

end AtMostOne

end FerroTunnel.Transition
