import Mathlib.Data.Finmap
import Mathlib.Data.Finset.Sort

/-!
# Lookups in finite maps after an update

Mathlib says what a lookup gives after an insertion or an erasure, at the key
and away from it.  Invariants over maps need the other direction: where an
entry found after an update comes from.
-/

namespace FerroTunnel.Map

universe u v

variable {κ : Type u} {β : Type v} [DecidableEq κ] {entries : Finmap fun _ : κ => β}

/-- An erasure adds no entry. -/
theorem lookup_of_lookup_erase {key erased : κ} {value : β}
    (found : (entries.erase erased).lookup key = some value) :
    entries.lookup key = some value := by
  by_cases same : key = erased
  · subst same
    rw [Finmap.lookup_erase] at found
    cases found
  · rwa [Finmap.lookup_erase_ne same] at found

/-- An entry found after an erasure is not the erased one. -/
theorem ne_of_lookup_erase {key erased : κ} {value : β}
    (found : (entries.erase erased).lookup key = some value) : key ≠ erased := by
  rintro rfl
  rw [Finmap.lookup_erase] at found
  cases found

/-- An entry found after an insertion is the inserted one or was there before. -/
theorem lookup_insert_cases {key inserted : κ} {value added : β}
    (found : (entries.insert inserted added).lookup key = some value) :
    (key = inserted ∧ value = added) ∨ entries.lookup key = some value := by
  by_cases same : key = inserted
  · subst same
    rw [Finmap.lookup_insert] at found
    cases found
    exact .inl ⟨rfl, rfl⟩
  · rw [Finmap.lookup_insert_of_ne _ same] at found
    exact .inr found

/-- A test that is made of every item, without stopping at the first that passes. -/
theorem foldl_or_eq_true_iff {α : Type u} {test : α → Bool} {start : Bool} {items : List α} :
    items.foldl (fun found item => found || test item) start = true ↔
      start = true ∨ ∃ item ∈ items, test item = true := by
  induction items generalizing start with
  | nil => simp
  | cons item rest ih =>
      simp only [List.mem_cons, exists_eq_or_imp]
      rw [List.foldl_cons, ih, Bool.or_eq_true, or_assoc]

/-- A test that some entry of the map passes. -/
theorem any_eq_true_iff (test : κ → β → Bool) :
    entries.any test = true ↔ ∃ key value, entries.lookup key = some value ∧ test key value := by
  have entry (pair : Sigma fun _ : κ => β) :
      entries.lookup pair.1 = some pair.2 ↔ pair ∈ entries.entries :=
    Finmap.mem_lookup_iff
  have passes : entries.any test = true ↔
      ∃ pair ∈ entries.entries, test pair.1 pair.2 = true := by
    rcases entries with ⟨pairs, nodup⟩
    induction pairs using Quotient.inductionOn with
    | h pairs =>
        have found : pairs.foldl (fun found pair => found || test pair.1 pair.2) false = true ↔ _ :=
          foldl_or_eq_true_iff
        simpa [Finmap.any, Finmap.foldl] using found
  rw [passes]
  constructor
  · rintro ⟨pair, member, passed⟩
    exact ⟨pair.1, pair.2, (entry pair).mpr member, passed⟩
  · rintro ⟨key, value, found, passed⟩
    exact ⟨⟨key, value⟩, (entry ⟨key, value⟩).mp found, passed⟩

section Sorted

variable {κ : Type u} [LinearOrder κ]

/-- The entries of a map in the order of their keys. -/
def sortedEntries (entries : Finmap fun _ : κ => β) : List (κ × β) :=
  entries.keys.sort.filterMap fun key => (entries.lookup key).map (key, ·)

theorem mem_sortedEntries {entries : Finmap fun _ : κ => β} {key : κ} {value : β} :
    (key, value) ∈ sortedEntries entries ↔ entries.lookup key = some value := by
  rw [sortedEntries, List.mem_filterMap]
  constructor
  · rintro ⟨other, -, found⟩
    obtain ⟨stored, lookupEq, equal⟩ := Option.map_eq_some_iff.mp found
    cases equal
    exact lookupEq
  · intro lookupEq
    refine ⟨key, ?_, by rw [lookupEq, Option.map_some]⟩
    exact (Finset.mem_sort _).mpr (Finmap.mem_keys.mpr (Finmap.mem_iff.mpr ⟨value, lookupEq⟩))

theorem sortedEntries_nodup (entries : Finmap fun _ : κ => β) :
    ((sortedEntries entries).map Prod.fst).Nodup := by
  rw [sortedEntries, List.map_filterMap]
  apply List.Nodup.filterMap _ (entries.keys.sort_nodup _)
  intro first second key fromFirst fromSecond
  simp only [Option.map_map, Option.mem_def, Option.map_eq_some_iff, Function.comp_apply]
    at fromFirst fromSecond
  obtain ⟨_, _, rfl⟩ := fromFirst
  obtain ⟨_, _, equal⟩ := fromSecond
  exact equal.symm

end Sorted

end FerroTunnel.Map
