import Mathlib.Data.Set.Basic

/-!
# Checked computations

Validation code is a sequence of early returns: each check either rejects with
an error or lets the next check run.  The file names the single check and
characterizes the successful outcome of sequences and of loops of checks, so
that a validator's accepted inputs can be read off without replaying it.
-/

namespace FerroTunnel.Checked

universe u v w

variable {ε : Type u} {α : Type v} {β : Type v}

/-- `if condition { return Err(failure) }`. -/
def rejectIf (condition : Prop) [Decidable condition] (failure : ε) : Except ε Unit :=
  if condition then .error failure else .ok ()

@[simp]
theorem rejectIf_eq_ok_iff {condition : Prop} [Decidable condition] {failure : ε} {u : Unit} :
    rejectIf condition failure = .ok u ↔ ¬condition := by
  unfold rejectIf
  split <;> simp_all

/-- A sequence succeeds exactly when both of its parts do. -/
@[simp]
theorem bind_eq_ok_iff {first : Except ε α} {next : α → Except ε β} {b : β} :
    (first >>= next) = .ok b ↔ ∃ a, first = .ok a ∧ next a = .ok b := by
  cases first with
  | error failure | ok a => simp [bind, Except.bind]

/-- A loop of checks succeeds exactly when each of them does. -/
@[simp]
theorem forM_eq_ok_iff {check : α → Except ε Unit} {items : List α} {u : Unit} :
    (forM items check) = .ok u ↔ ∀ item ∈ items, check item = .ok () := by
  induction items with
  | nil => simp [pure, Except.pure]
  | cons item rest ih =>
      rw [List.forM_cons, bind_eq_ok_iff, ih, List.forall_mem_cons]
      constructor
      · rintro ⟨_, first, others⟩
        exact ⟨first, others⟩
      · rintro ⟨first, others⟩
        exact ⟨(), first, others⟩

end FerroTunnel.Checked
