import FerroTunnel.Transition.Pool
import Mathlib.Data.List.Basic
import Mathlib.Logic.Function.Basic

/-!
# Sweeps over a shared map

A sweep removes old entries from a map in two passes: the first lists the keys
of the old entries, the second removes what the listed keys hold by then.  Other
parties work on the map between the operations of a sweep, among them other
sweeps.

If nobody else changes an entry that a sweep has listed, the second pass finds
every listed entry as the first pass saw it.  So every entry that a sweep
removes is old, and it removes as many entries as it has listed.
-/

namespace FerroTunnel.Map

open FerroTunnel.Transition

universe u v

variable {κ : Type u} {β : Type v} [DecidableEq κ]

/-- Where a party stands; `listed` are the keys it has still to remove. -/
inductive Sweep (κ : Type u)
  | bystander
  | scanning (listed : List κ)
  | removing (count : Nat) (listed : List κ)
  | returned (count : Nat)
deriving DecidableEq

/-- The keys that a sweep has listed and not removed yet. -/
def Sweep.listed : Sweep κ → List κ
  | .bystander => []
  | .scanning listed => listed
  | .removing _ listed => listed
  | .returned _ => []

/-- The count of a sweep fits the number of entries it has removed so far. -/
def Sweep.Counts (removals : Nat) : Sweep κ → Prop
  | .bystander => removals = 0
  | .scanning _ => removals = 0
  | .removing count listed => count = removals + listed.length
  | .returned count => count = removals

/-- One operation of a party, with the entry it removes as a sweep. -/
inductive SweepStep (old : β → Prop) (entries entries' : κ → Option β) :
    Sweep κ → Sweep κ → Option β → Prop
  | bystander : SweepStep old entries entries' .bystander .bystander none
  | stay {sweep} (same : entries' = entries) : SweepStep old entries entries' sweep sweep none
  | list {listed key value} (same : entries' = entries) (found : entries key = some value)
      (isOld : old value) (new : key ∉ listed) :
      SweepStep old entries entries' (.scanning listed) (.scanning (listed ++ [key])) none
  | turn {listed} (same : entries' = entries) :
      SweepStep old entries entries' (.scanning listed) (.removing listed.length listed) none
  | take {count key listed value} (found : entries key = some value)
      (gone : entries' = Function.update entries key none) :
      SweepStep old entries entries' (.removing count (key :: listed)) (.removing count listed)
        (some value)
  | miss {count key listed} (same : entries' = entries) (absent : entries key = none) :
      SweepStep old entries entries' (.removing count (key :: listed)) (.removing count listed)
        none
  | finish {count} (same : entries' = entries) :
      SweepStep old entries entries' (.removing count []) (.returned count) none

/-- Every listed entry is still there and old, every removed entry was old for the
sweep that removed it, and all counts fit.  `old k` is what the party at `k` takes
for old; `removed` are the removed entries, each with the party that removed
it. -/
structure Sound (old : Nat → β → Prop) (entries : κ → Option β) (sweeps : List (Sweep κ))
    (removed : List (Nat × β)) : Prop where
  listed : ∀ {k : Nat} {sweep : Sweep κ}, sweeps[k]? = some sweep →
    ∀ key ∈ sweep.listed, ∃ value, entries key = some value ∧ old k value
  nodup : ∀ {k : Nat} {sweep : Sweep κ}, sweeps[k]? = some sweep → sweep.listed.Nodup
  counted : ∀ {k : Nat} {sweep : Sweep κ}, sweeps[k]? = some sweep →
    sweep.Counts (removed.countP fun removal => removal.1 = k)
  aged : ∀ {k value}, (k, value) ∈ removed → k < sweeps.length ∧ old k value

namespace SweepStep

variable {old : β → Prop} {entries entries' : κ → Option β} {sweep sweep' : Sweep κ}
  {evicted : Option β} (stepped : SweepStep old entries entries' sweep sweep' evicted)

include stepped

theorem mono {older : β → Prop} (weaker : ∀ value, old value → older value) :
    SweepStep older entries entries' sweep sweep' evicted := by
  cases stepped with
  | bystander => exact .bystander
  | stay same => exact .stay same
  | list same found isOld new => exact .list same found (weaker _ isOld) new
  | turn same => exact .turn same
  | take found gone => exact .take found gone
  | miss same absent => exact .miss same absent
  | finish same => exact .finish same

/-- What a sweep still lists, it listed before or lists now as old. -/
theorem listed_after (nodup : sweep.listed.Nodup)
    (before : ∀ key ∈ sweep.listed, ∃ value, entries key = some value ∧ old value) :
    ∀ key ∈ sweep'.listed, ∃ value, entries' key = some value ∧ old value := by
  cases stepped with
  | bystander | finish same => exact fun key member => absurd member List.not_mem_nil
  | stay same | turn same =>
      rw [same]
      exact before
  | list same found isOld new =>
      rw [same]
      intro key member
      rcases List.mem_append.mp member with earlier | last
      · exact before key earlier
      · rw [List.mem_singleton.mp last]
        exact ⟨_, found, isOld⟩
  | @take count taken listed value found gone =>
      intro key member
      have differs : key ≠ taken := by
        rintro rfl
        exact (List.nodup_cons.mp nodup).1 member
      rw [gone, Function.update_of_ne differs]
      exact before key (List.mem_cons_of_mem _ member)
  | miss same absent =>
      rw [same]
      exact fun key member => before key (List.mem_cons_of_mem _ member)

theorem nodup_after (nodup : sweep.listed.Nodup) : sweep'.listed.Nodup := by
  cases stepped with
  | bystander | stay | turn => exact nodup
  | list same found isOld new =>
      apply List.nodup_append.mpr
      refine ⟨nodup, List.pairwise_singleton .., ?_⟩
      rintro earlier member last lastMem rfl
      exact new (List.mem_singleton.mp lastMem ▸ member)
  | take | miss => exact (List.nodup_cons.mp nodup).2
  | finish => exact List.nodup_nil

/-- Only a listed entry that is there is removed, and the count goes on to fit. -/
theorem counts_after (before : ∀ key ∈ sweep.listed, ∃ value, entries key = some value ∧ old value)
    {removals : Nat} (counts : sweep.Counts removals) :
    sweep'.Counts (removals + evicted.toList.length) ∧ ∀ value ∈ evicted, old value := by
  cases stepped with
  | bystander | stay | list | finish => exact ⟨counts, by simp⟩
  | turn =>
      constructor
      · have none : removals = 0 := counts
        simp [Sweep.Counts, none]
      · simp
  | take found gone =>
      constructor
      · have sum : _ = removals + _ := counts
        simp only [Sweep.Counts, List.length_cons] at sum ⊢
        simp only [Option.toList_some, List.length_singleton]
        omega
      · intro value taken
        cases taken
        obtain ⟨stored, storedEq, isOld⟩ := before _ List.mem_cons_self
        rw [found] at storedEq
        cases storedEq
        exact isOld
  | miss same absent =>
      obtain ⟨stored, storedEq, -⟩ := before _ List.mem_cons_self
      rw [absent] at storedEq
      cases storedEq

end SweepStep

namespace Sound

variable {old : Nat → β → Prop} {entries entries' : κ → Option β} {sweeps : List (Sweep κ)}
  {removed : List (Nat × β)}

omit [DecidableEq κ] in
theorem initial (old : Nat → β → Prop) (entries : κ → Option β) :
    Sound old entries ([] : List (Sweep κ)) [] where
  listed sweepAt := by simp at sweepAt
  nodup sweepAt := by simp at sweepAt
  counted sweepAt := by simp at sweepAt
  aged member := by simp at member

/-- A party performs an operation and spares what the others have listed. -/
theorem advance (sound : Sound old entries sweeps removed) {k : Nat} {sweep sweep' : Sweep κ}
    {evicted : Option β} (sweepAt : sweeps[k]? = some sweep)
    (stepped : SweepStep (old k) entries entries' sweep sweep' evicted)
    (spares : ∀ {j : Nat} {other : Sweep κ}, j ≠ k → sweeps[j]? = some other →
      ∀ key ∈ other.listed, entries' key = entries key) :
    Sound old entries' (sweeps.set k sweep')
      (removed ++ evicted.toList.map fun value => (k, value)) := by
  have inside : k < sweeps.length := (List.getElem?_eq_some_iff.mp sweepAt).1
  have before := sound.listed sweepAt
  obtain ⟨counts, isOld⟩ := stepped.counts_after before (sound.counted sweepAt)
  have ownCount : (removed ++ evicted.toList.map fun value => (k, value)).countP
      (fun removal => removal.1 = k) =
      removed.countP (fun removal => removal.1 = k) + evicted.toList.length := by
    cases evicted <;> simp
  have otherCount : ∀ {j}, j ≠ k → (removed ++ evicted.toList.map fun value => (k, value)).countP
      (fun removal => removal.1 = j) = removed.countP fun removal => removal.1 = j := by
    intro j differs
    cases evicted <;> simp [Ne.symm differs]
  constructor
  · intro j other otherAt
    rcases getElem?_set_cases otherAt with ⟨rfl, rfl⟩ | ⟨differs, otherAt⟩
    · exact stepped.listed_after (sound.nodup sweepAt) before
    · intro key member
      rw [spares differs otherAt key member]
      exact sound.listed otherAt key member
  · intro j other otherAt
    rcases getElem?_set_cases otherAt with ⟨rfl, rfl⟩ | ⟨-, otherAt⟩
    · exact stepped.nodup_after (sound.nodup sweepAt)
    · exact sound.nodup otherAt
  · intro j other otherAt
    rcases getElem?_set_cases otherAt with ⟨rfl, rfl⟩ | ⟨differs, otherAt⟩
    · rw [ownCount]
      exact counts
    · rw [otherCount differs]
      exact sound.counted otherAt
  · intro j value member
    rw [List.length_set]
    rcases List.mem_append.mp member with earlier | last
    · exact sound.aged earlier
    · obtain ⟨taken, takenMem, same⟩ := List.mem_map.mp last
      cases same
      exact ⟨inside, isOld _ (Option.mem_toList.mp takenMem)⟩

omit [DecidableEq κ] in
/-- A new party has listed nothing. -/
theorem start (sound : Sound old entries sweeps removed) {old' : Nat → β → Prop}
    {sweep : Sweep κ} (fresh : sweep = .bystander ∨ sweep = .scanning [])
    (same : ∀ k < sweeps.length, old' k = old k) :
    Sound old' entries (sweeps ++ [sweep]) removed := by
  have nothing : sweep.listed = [] := by
    rcases fresh with rfl | rfl <;> rfl
  constructor
  · intro j other otherAt key member
    rcases getElem?_concat_cases otherAt with ⟨inside, otherAt⟩ | ⟨-, rfl⟩
    · rw [same j inside]
      exact sound.listed otherAt key member
    · rw [nothing] at member
      cases member
  · intro j other otherAt
    rcases getElem?_concat_cases otherAt with ⟨-, otherAt⟩ | ⟨-, rfl⟩
    · exact sound.nodup otherAt
    · rw [nothing]
      exact List.nodup_nil
  · intro j other otherAt
    rcases getElem?_concat_cases otherAt with ⟨-, otherAt⟩ | ⟨rfl, rfl⟩
    · exact sound.counted otherAt
    · have none : removed.countP (fun removal => removal.1 = sweeps.length) = 0 := by
        apply List.countP_eq_zero.mpr
        rintro ⟨j, value⟩ member
        simpa using Nat.ne_of_lt (sound.aged member).1
      rw [none]
      rcases fresh with rfl | rfl <;> rfl
  · intro j value member
    obtain ⟨inside, isOld⟩ := sound.aged member
    rw [same j inside, List.length_append]
    exact ⟨Nat.lt_add_right _ inside, isOld⟩

end Sound

end FerroTunnel.Map
