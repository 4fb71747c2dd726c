import Mathlib.Data.List.Sort

/-!
# Stability of insertion sort, by projection

A stable sort never exchanges elements that compare as equal.  The form of
this fact that a queueing argument needs is about projections: if any two
selected elements are related by the sorting relation in both directions, the
selected subsequence is the same before and after sorting.

When elements are sorted by a key, the selected element that comes first is the
earliest of those with the least key.
-/

namespace FerroTunnel.Order

universe u

variable {α : Type u} (r : α → α → Prop) [DecidableRel r]

/-- Inserting a selected element in front of related elements keeps it in
front of them; inserting an unselected one does not disturb the selection. -/
theorem filter_orderedInsert (select : α → Bool) (a : α) (l : List α)
    (related : select a → ∀ b ∈ l, select b → r a b) :
    (l.orderedInsert r a).filter select = (a :: l).filter select := by
  induction l with
  | nil => rfl
  | cons b rest ih =>
      have relatedRest : select a → ∀ c ∈ rest, select c → r a c :=
        fun selected c member => related selected c (List.mem_cons_of_mem b member)
      rw [List.orderedInsert]
      split
      · rfl
      · rename_i unrelated
        rw [List.filter_cons, ih relatedRest]
        by_cases selectedB : select b
        · have unselectedA : select a = false := by
            by_contra selectedA
            rw [Bool.not_eq_false] at selectedA
            exact unrelated (related selectedA b List.mem_cons_self selectedB)
          simp [selectedB, unselectedA]
        · simp [List.filter_cons, selectedB]

/-- Insertion sort leaves the subsequence of mutually related elements as it
was. -/
theorem filter_insertionSort (select : α → Bool) (l : List α)
    (related : ∀ a ∈ l, ∀ b ∈ l, select a → select b → r a b) :
    (l.insertionSort r).filter select = l.filter select := by
  induction l with
  | nil => rfl
  | cons a rest ih =>
      have relatedRest : ∀ b ∈ rest, ∀ c ∈ rest, select b → select c → r b c :=
        fun b memberB c memberC => related b (List.mem_cons_of_mem a memberB) c
          (List.mem_cons_of_mem a memberC)
      rw [List.insertionSort_cons, filter_orderedInsert]
      · rw [List.filter_cons, List.filter_cons, ih relatedRest]
      · intro selected b member
        have memberRest : b ∈ rest := (List.mem_insertionSort r).mp member
        exact related a List.mem_cons_self b (List.mem_cons_of_mem a memberRest) selected

/-! ## Sorting block by block -/

/-- Sorting each block moves elements within their blocks only. -/
theorem perm_flatten_map_insertionSort (blocks : List (List α)) :
    (blocks.map (List.insertionSort r)).flatten.Perm blocks.flatten := by
  induction blocks with
  | nil => exact .refl _
  | cons block rest ih =>
      rw [List.map_cons, List.flatten_cons, List.flatten_cons]
      exact (List.perm_insertionSort r block).append ih

/-- Sorting each block leaves the subsequence of mutually related elements. -/
theorem filter_flatten_map_insertionSort (select : α → Bool) (blocks : List (List α))
    (related : ∀ a ∈ blocks.flatten, ∀ b ∈ blocks.flatten, select a → select b → r a b) :
    (blocks.map (List.insertionSort r)).flatten.filter select = blocks.flatten.filter select := by
  induction blocks with
  | nil => rfl
  | cons block rest ih =>
      rw [List.flatten_cons] at related
      have relatedBlock : ∀ a ∈ block, ∀ b ∈ block, select a → select b → r a b :=
        fun a memberA b memberB => related a (List.mem_append_left _ memberA) b
          (List.mem_append_left _ memberB)
      have relatedRest : ∀ a ∈ rest.flatten, ∀ b ∈ rest.flatten, select a → select b → r a b :=
        fun a memberA b memberB => related a (List.mem_append_right _ memberA) b
          (List.mem_append_right _ memberB)
      rw [List.map_cons, List.flatten_cons, List.flatten_cons, List.filter_append,
        List.filter_append, filter_insertionSort r select block relatedBlock, ih relatedRest]

/-! ## The first element after sorting -/

section Key

variable {β : Type*} [LinearOrder β] (key : α → β) (select : α → Bool)

/-- No selected element comes before `x` when the list is sorted: those with the
same key stand after it. -/
def LeadsByKey (l : List α) (x : α) : Prop :=
  ∃ before after, l = before ++ x :: after ∧ select x = true ∧
    (∀ y ∈ before, select y → key x < key y) ∧ ∀ y ∈ after, select y → key x ≤ key y

variable {key select}

theorem LeadsByKey.mem {l : List α} {x : α} (leads : LeadsByKey key select l x) : x ∈ l := by
  obtain ⟨before, after, rfl, -⟩ := leads
  exact List.mem_append_right _ List.mem_cons_self

theorem LeadsByKey.le {l : List α} {x y : α} (leads : LeadsByKey key select l x)
    (member : y ∈ l) (selected : select y) : key x ≤ key y := by
  obtain ⟨before, after, rfl, -, below, above⟩ := leads
  rcases List.mem_append.mp member with earlier | later
  · exact (below y earlier selected).le
  · rcases List.mem_cons.mp later with rfl | later
    · exact le_rfl
    · exact above y later selected

/-- What leads a longer list is its first element or leads the rest. -/
theorem leadsByKey_cons_iff {a x : α} {l : List α} :
    LeadsByKey key select (a :: l) x ↔
      (x = a ∧ select a = true ∧ ∀ y ∈ l, select y → key a ≤ key y) ∨
      (LeadsByKey key select l x ∧ (select a → key x < key a)) := by
  constructor
  · rintro ⟨_ | ⟨first, before⟩, after, split, selected, below, above⟩
    · cases split
      exact .inl ⟨rfl, selected, above⟩
    · cases split
      refine .inr ⟨⟨before, after, rfl, selected, ?_, above⟩, below a List.mem_cons_self⟩
      exact fun y member => below y (List.mem_cons_of_mem _ member)
  · rintro (⟨rfl, selected, above⟩ | ⟨⟨before, after, rfl, selected, below, above⟩, first⟩)
    · exact ⟨[], l, rfl, selected, nofun, above⟩
    · refine ⟨a :: before, after, rfl, selected, ?_, above⟩
      intro y member
      rcases List.mem_cons.mp member with rfl | member
      · exact first
      · exact below y member

variable (key select)

/-- Inserting an element by its key makes it the first selected one exactly when
its key is at most that of the former first. -/
theorem find?_orderedInsert (a : α) (l : List α)
    (sorted : l.Pairwise fun b c => key b ≤ key c) :
    (l.orderedInsert (fun b c => key b ≤ key c) a).find? select =
      if select a then
        match l.find? select with
        | none => some a
        | some b => if key a ≤ key b then some a else some b
      else l.find? select := by
  induction l with
  | nil => cases selected : select a <;> simp [selected]
  | cons b rest ih =>
      obtain ⟨least, sortedRest⟩ := List.pairwise_cons.mp sorted
      rw [List.orderedInsert]
      split
      · rename_i small
        cases selectedA : select a with
        | false => simp [selectedA]
        | true =>
            cases first : (b :: rest).find? select with
            | none => simp [selectedA]
            | some c =>
                have above : key a ≤ key c := by
                  rcases List.mem_cons.mp (List.mem_of_find?_eq_some first) with rfl | later
                  · exact small
                  · exact small.trans (least c later)
                simp [selectedA, above]
      · rename_i large
        cases selectedB : select b with
        | false => simp [selectedB, ih sortedRest]
        | true => cases selectedA : select a <;> simp [selectedB, large]

/-- The first selected element of a list sorted by key. -/
theorem find?_insertionSort_eq_some_iff (l : List α) (x : α) :
    (l.insertionSort fun b c => key b ≤ key c).find? select = some x ↔
      LeadsByKey key select l x := by
  induction l generalizing x with
  | nil => simp [LeadsByKey]
  | cons a rest ih =>
      have sorted : (rest.insertionSort fun b c => key b ≤ key c).Pairwise
          fun b c => key b ≤ key c :=
        List.pairwise_insertionSort _ _
      rw [List.insertionSort_cons, find?_orderedInsert key select a _ sorted,
        leadsByKey_cons_iff]
      cases selected : select a with
      | false => simp [ih]
      | true =>
          cases first : (rest.insertionSort fun b c => key b ≤ key c).find? select with
          | none =>
              have nothing : ∀ y ∈ rest, ¬ select y = true := by
                intro y member
                exact List.find?_eq_none.mp first y ((List.mem_insertionSort _).mpr member)
              have noLeader : ¬ LeadsByKey key select rest x := by
                intro leads
                rw [← ih, first] at leads
                cases leads
              simp only [↓reduceIte, Option.some.injEq, noLeader, false_and, or_false, true_and]
              constructor
              · rintro rfl
                exact ⟨rfl, fun y member chosen => absurd chosen (nothing y member)⟩
              · rintro ⟨rfl, -⟩
                rfl
          | some h =>
              have leads := (ih h).mp first
              have unique : LeadsByKey key select rest x → x = h := by
                intro other
                rw [← ih, first] at other
                exact (Option.some.inj other).symm
              have selectedH : select h = true := by
                obtain ⟨_, _, _, chosen, _⟩ := leads
                exact chosen
              simp only [↓reduceIte, true_and, forall_const]
              by_cases small : key a ≤ key h
              · rw [if_pos small, Option.some.injEq]
                constructor
                · rintro rfl
                  exact .inl ⟨rfl, fun y member chosen => small.trans (leads.le member chosen)⟩
                · rintro (⟨rfl, -⟩ | ⟨other, less⟩)
                  · rfl
                  · rw [unique other] at less
                    exact absurd small (not_le.mpr less)
              · rw [if_neg small, Option.some.injEq]
                constructor
                · rintro rfl
                  exact .inr ⟨leads, not_le.mp small⟩
                · rintro (⟨-, above⟩ | ⟨other, -⟩)
                  · exact absurd (above h leads.mem selectedH) small
                  · exact (unique other).symm

end Key

end FerroTunnel.Order
