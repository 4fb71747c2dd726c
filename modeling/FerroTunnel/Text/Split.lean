import Mathlib.Data.List.TakeWhile

/-!
# Texts in two parts

What stands before the first separator of a list, and a list parted at the first
occurrence of a pattern or at the last occurrence of a separator.
-/

namespace FerroTunnel.Text

universe u

variable {α : Type u} [DecidableEq α] {separator : α} {list before after : List α}

/-- What stands before the first separator. -/
theorem head?_splitOn (separator : α) (list : List α) :
    (list.splitOn separator).head? = some (list.takeWhile (· ≠ separator)) := by
  induction list with
  | nil => simp
  | cons c rest ih =>
      by_cases same : c = separator
      · simp [same, List.splitOn_cons_eq_if_modifyHead]
      · simp [same, List.splitOn_cons_eq_if_modifyHead, List.head?_modifyHead, ih]

theorem notMem_takeWhile (separator : α) (list : List α) :
    separator ∉ list.takeWhile (· ≠ separator) := by
  intro member
  have differs := List.mem_takeWhile_imp (p := fun c => decide (c ≠ separator)) member
  exact of_decide_eq_true differs rfl

theorem takeWhile_append_separator (free : separator ∉ before) (after : List α) :
    (before ++ separator :: after).takeWhile (· ≠ separator) = before := by
  have all : ∀ c ∈ before, decide (c ≠ separator) = true := by
    intro c member
    apply decide_eq_true
    rintro rfl
    exact free member
  rw [List.takeWhile_append_of_pos all]
  simp

/-- What stands before and after the first occurrence of a pattern. -/
def splitAtFirst (pattern : List α) : List α → Option (List α × List α)
  | [] => none
  | c :: rest =>
      if pattern <+: c :: rest then
        some ([], (c :: rest).drop pattern.length)
      else
        (splitAtFirst pattern rest).map fun (before, after) => (c :: before, after)

theorem eq_of_splitAtFirst {pattern : List α}
    (parted : splitAtFirst pattern list = some (before, after)) :
    list = before ++ pattern ++ after := by
  induction list generalizing before with
  | nil => cases parted
  | cons c rest ih =>
      rw [splitAtFirst] at parted
      split at parted
      · rename_i here
        cases parted
        exact (List.prefix_iff_eq_append.mp here).symm
      · simp only [Option.map_eq_some_iff, Prod.exists, Prod.mk.injEq] at parted
        obtain ⟨front, _, later, rfl, rfl⟩ := parted
        rw [ih later]
        rfl

/-- What stands before and after the last separator. -/
def splitAtLast (separator : α) : List α → Option (List α × List α)
  | [] => none
  | c :: rest =>
      match splitAtLast separator rest with
      | some (before, after) => some (c :: before, after)
      | none => if c = separator then some ([], rest) else none

theorem splitAtLast_eq_none_iff : splitAtLast separator list = none ↔ separator ∉ list := by
  induction list with
  | nil => simp [splitAtLast]
  | cons c rest ih =>
      rw [splitAtLast]
      cases later : splitAtLast separator rest with
      | none =>
          have free := ih.mp later
          simp [free, eq_comm]
      | some parts =>
          have member : separator ∈ rest := by
            by_contra free
            rw [ih.mpr free] at later
            cases later
          simp [member]

theorem eq_of_splitAtLast (parted : splitAtLast separator list = some (before, after)) :
    list = before ++ separator :: after ∧ separator ∉ after := by
  induction list generalizing before with
  | nil => cases parted
  | cons c rest ih =>
      rw [splitAtLast] at parted
      split at parted
      · rename_i later
        cases parted
        obtain ⟨restEq, free⟩ := ih later
        exact ⟨congrArg _ restEq, free⟩
      · rename_i none
        rw [Option.ite_none_right_eq_some] at parted
        obtain ⟨rfl, parts⟩ := parted
        cases parts
        exact ⟨rfl, splitAtLast_eq_none_iff.mp none⟩

end FerroTunnel.Text
