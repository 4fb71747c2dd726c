import Mathlib.Algebra.BigOperators.Group.Finset.Basic
import Mathlib.Data.Fintype.BigOperators
import Mathlib.Data.Finmap

/-!
# A map kept in parts

A map may be kept as a family of smaller ones, with every key in the part that a
function of the key selects.  The file relates the parts to the whole: lookups,
insertions and erasures act on the part of their key, a search through the parts
finds what the whole holds, and the sizes of the parts add up.
-/

namespace FerroTunnel.Map

universe u v w

variable {κ : Type u} {β : Type v} {ι : Type w} [DecidableEq κ] [DecidableEq ι]
  {place : κ → ι} {whole : Finmap fun _ : κ => β} {parts : ι → Finmap fun _ : κ => β}

/-- The parts hold the entries of the whole, each in its place, and no others. -/
def Partition (place : κ → ι) (whole : Finmap fun _ : κ => β)
    (parts : ι → Finmap fun _ : κ => β) : Prop :=
  ∀ i key, (parts i).lookup key = if place key = i then whole.lookup key else none

namespace Partition

theorem empty (place : κ → ι) : Partition place (∅ : Finmap fun _ : κ => β) fun _ => ∅ := by
  intro i key
  simp

variable (split : Partition place whole parts)

include split

theorem lookup_place (key : κ) : (parts (place key)).lookup key = whole.lookup key := by
  rw [split, if_pos rfl]

theorem place_eq {i : ι} {key : κ} {value : β} (found : (parts i).lookup key = some value) :
    place key = i := by
  rw [split] at found
  by_contra elsewhere
  rw [if_neg elsewhere] at found
  cases found

theorem insert (key : κ) (value : β) :
    Partition place (whole.insert key value)
      (Function.update parts (place key) ((parts (place key)).insert key value)) := by
  intro i other
  by_cases here : i = place key
  · subst here
    rw [Function.update_self]
    by_cases same : other = key
    · subst same
      rw [Finmap.lookup_insert, Finmap.lookup_insert, if_pos rfl]
    · rw [Finmap.lookup_insert_of_ne _ same, Finmap.lookup_insert_of_ne _ same, split]
  · rw [Function.update_of_ne here, split]
    by_cases same : other = key
    · subst same
      rw [if_neg (Ne.symm here), if_neg (Ne.symm here)]
    · rw [Finmap.lookup_insert_of_ne _ same]

theorem erase (key : κ) :
    Partition place (whole.erase key)
      (Function.update parts (place key) ((parts (place key)).erase key)) := by
  intro i other
  by_cases here : i = place key
  · subst here
    rw [Function.update_self]
    by_cases same : other = key
    · subst same
      rw [Finmap.lookup_erase, Finmap.lookup_erase, ite_self]
    · rw [Finmap.lookup_erase_ne same, Finmap.lookup_erase_ne same, split]
  · rw [Function.update_of_ne here, split]
    by_cases same : other = key
    · subst same
      rw [if_neg (Ne.symm here), if_neg (Ne.symm here)]
    · rw [Finmap.lookup_erase_ne same]

theorem keys_eq (i : ι) : (parts i).keys = whole.keys.filter fun key => place key = i := by
  ext key
  rw [Finset.mem_filter, Finmap.mem_keys, Finmap.mem_keys, Finmap.mem_iff, Finmap.mem_iff, split]
  by_cases here : place key = i
  · simp [here]
  · simp [here]

/-- The sizes of the parts add up to the size of the whole. -/
theorem sum_card [Fintype ι] : ∑ i, (parts i).keys.card = whole.keys.card := by
  simp only [split.keys_eq]
  exact (Finset.card_eq_sum_card_fiberwise fun _ _ => Finset.mem_univ _).symm

end Partition

end FerroTunnel.Map
