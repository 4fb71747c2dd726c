import Mathlib.Data.Option.Basic

/-!
# Runs of labelled partial transitions

A system is presented by an executable transition function: an action either
yields the next state or is not enabled.  A run is a list of actions, so every
interleaving of concurrent parties is one list and every reachable state is
the result of executing some list.

The file supplies the induction rules that safety arguments over runs use.
Invariants may be stated for all runs, or only for the runs whose actions meet
a guard in the states in which they are taken.
-/

namespace FerroTunnel.Transition

universe u v w

/-- A partial transition labelled by actions; `none` is a disabled action. -/
abbrev Step (σ : Type u) (α : Type v) := σ → α → Option σ

variable {σ : Type u} {α : Type v}

/-- Execute a list of actions from left to right. -/
def exec (step : Step σ α) : σ → List α → Option σ
  | state, [] => some state
  | state, action :: rest => (step state action).bind fun next => exec step next rest

variable {step : Step σ α} {state : σ} {guard : σ → α → Prop} {Inv : σ → Prop} {actions : List α}

theorem exec_cons_eq_some_iff {final : σ} {action : α} {rest : List α} :
    exec step state (action :: rest) = some final ↔
      ∃ next, step state action = some next ∧ exec step next rest = some final := by
  simp only [exec]
  exact Option.bind_eq_some_iff

/-- A run goes on where its first part ends. -/
theorem exec_append (step : Step σ α) (state : σ) (actions later : List α) :
    exec step state (actions ++ later) =
      (exec step state actions).bind fun middle => exec step middle later := by
  induction actions generalizing state with
  | nil => rfl
  | cons action rest ih =>
      simp only [List.cons_append, exec, Option.bind_assoc, ih]

/-- Every action of the run meets `guard` in the state in which it is taken. -/
def Meets (step : Step σ α) (guard : σ → α → Prop) : σ → List α → Prop
  | _, [] => True
  | state, action :: rest =>
      guard state action ∧ ∀ next, step state action = some next → Meets step guard next rest

instance Meets.decidable {step : Step σ α} {guard : σ → α → Prop}
    [∀ state action, Decidable (guard state action)] :
    (state : σ) → (actions : List α) → Decidable (Meets step guard state actions)
  | _, [] => isTrue trivial
  | state, action :: rest =>
      match stepEq : step state action with
      | none => decidable_of_iff (guard state action) (by simp [Meets, stepEq])
      | some next =>
          have : Decidable (Meets step guard next rest) := Meets.decidable next rest
          decidable_of_iff (guard state action ∧ Meets step guard next rest)
            (by simp [Meets, stepEq])

/-- Every action of the run preserves what a guarded step preserves. -/
theorem exec_invariant_of_meets
    (preserved : ∀ {state action next}, Inv state → guard state action →
      step state action = some next → Inv next)
    {final : σ} (initial : Inv state) (meets : Meets step guard state actions)
    (run : exec step state actions = some final) : Inv final := by
  induction actions generalizing state with
  | nil =>
      cases run
      exact initial
  | cons action rest ih =>
      obtain ⟨next, stepEq, tailRun⟩ := exec_cons_eq_some_iff.mp run
      exact ih (preserved initial meets.1 stepEq) (meets.2 next stepEq) tailRun

/-- What a whole run meets, its last part meets from where it starts. -/
theorem Meets.of_append {middle : σ} {later : List α}
    (meets : Meets step guard state (actions ++ later))
    (run : exec step state actions = some middle) : Meets step guard middle later := by
  induction actions generalizing state with
  | nil =>
      cases run
      exact meets
  | cons action rest ih =>
      obtain ⟨next, stepEq, tailRun⟩ := exec_cons_eq_some_iff.mp run
      exact ih (meets.2 next stepEq) tailRun

/-- What a whole run meets, its first part meets. -/
theorem Meets.append_left {later : List α} (meets : Meets step guard state (actions ++ later)) :
    Meets step guard state actions := by
  induction actions generalizing state with
  | nil => trivial
  | cons action rest ih => exact ⟨meets.1, fun next stepEq => ih (meets.2 next stepEq)⟩

/-- A run that meets two guards meets both at once. -/
theorem Meets.and {first second : σ → α → Prop} (meetsFirst : Meets step first state actions)
    (meetsSecond : Meets step second state actions) :
    Meets step (fun state action => first state action ∧ second state action) state actions := by
  induction actions generalizing state with
  | nil => trivial
  | cons action rest ih =>
      exact ⟨⟨meetsFirst.1, meetsSecond.1⟩, fun next stepEq =>
        ih (meetsFirst.2 next stepEq) (meetsSecond.2 next stepEq)⟩

/-- A guard that keeps an invariant and, with it, implies another guard is met
only by runs that meet the other one too. -/
theorem Meets.imp_of_invariant {implied : σ → α → Prop}
    (preserved : ∀ {state action next}, Inv state → guard state action →
      step state action = some next → Inv next)
    (implies : ∀ {state action}, Inv state → guard state action → implied state action)
    (initial : Inv state) (meets : Meets step guard state actions) :
    Meets step implied state actions := by
  induction actions generalizing state with
  | nil => trivial
  | cons action rest ih =>
      constructor
      · exact implies initial meets.1
      · intro next stepEq
        exact ih (preserved initial meets.1 stepEq) (meets.2 next stepEq)

/-- A guard that implies another is met only by runs that meet the other one too. -/
theorem Meets.imp {implied : σ → α → Prop}
    (implies : ∀ {state action}, guard state action → implied state action)
    (meets : Meets step guard state actions) : Meets step implied state actions := by
  induction actions generalizing state with
  | nil => trivial
  | cons action rest ih =>
      constructor
      · exact implies meets.1
      · intro next stepEq
        exact ih (meets.2 next stepEq)

/-- A guard that follows from an invariant of all steps is met by every run. -/
theorem Meets.of_invariant
    (preserved : ∀ {state action next}, Inv state → step state action = some next → Inv next)
    (holds : ∀ {state action}, Inv state → guard state action) (initial : Inv state)
    (actions : List α) : Meets step guard state actions := by
  induction actions generalizing state with
  | nil => trivial
  | cons action rest ih =>
      constructor
      · exact holds initial
      · intro next stepEq
        exact ih (preserved initial stepEq)

/-- Guards that agree under an invariant of all steps are met by the same runs. -/
theorem Meets.iff_of_invariant {first second : σ → α → Prop}
    (preserved : ∀ {state action next}, Inv state → step state action = some next → Inv next)
    (agree : ∀ {state action}, Inv state → (first state action ↔ second state action))
    (initial : Inv state) (actions : List α) :
    Meets step first state actions ↔ Meets step second state actions := by
  induction actions generalizing state with
  | nil => exact Iff.rfl
  | cons action rest ih =>
      apply and_congr (agree initial)
      apply forall_congr'
      intro next
      apply imp_congr_right
      intro stepEq
      exact ih (preserved initial stepEq)

/-- The property holds in every state the run passes through. -/
def Always (step : Step σ α) (P : σ → Prop) : σ → List α → Prop
  | state, [] => P state
  | state, action :: rest =>
      P state ∧ ∀ next, step state action = some next → Always step P next rest

theorem Always.head {P : σ → Prop} (always : Always step P state actions) : P state := by
  cases actions with
  | nil => exact always
  | cons action rest => exact always.1

/-- What every step preserves holds in every state of a run. -/
theorem Always.of_invariant
    (preserved : ∀ {state action next}, Inv state → step state action = some next → Inv next)
    (initial : Inv state) (actions : List α) : Always step Inv state actions := by
  induction actions generalizing state with
  | nil => exact initial
  | cons action rest ih =>
      constructor
      · exact initial
      · intro next stepEq
        exact ih (preserved initial stepEq)

/-- A guard that keeps an invariant, and that a step meets whenever the property
holds after it, is met exactly by the runs with the property in every state.
The runs may be assumed to meet another guard. -/
theorem meets_iff_always {assumed : σ → α → Prop} {P : σ → Prop}
    (preserved : ∀ {state action next}, Inv state → assumed state action →
      guard state action → step state action = some next → Inv next)
    (holds : ∀ {state}, Inv state → P state)
    (necessary : ∀ {state action next}, Inv state → step state action = some next →
      P next → guard state action)
    {final : σ} (initial : Inv state) (run : exec step state actions = some final)
    (assumes : Meets step assumed state actions) :
    Meets step guard state actions ↔ Always step P state actions := by
  induction actions generalizing state with
  | nil => exact ⟨fun _ => holds initial, fun _ => trivial⟩
  | cons action rest ih =>
      obtain ⟨next, stepEq, tailRun⟩ := exec_cons_eq_some_iff.mp run
      have tail (guarded : guard state action) :=
        ih (preserved initial assumes.1 guarded stepEq) tailRun (assumes.2 next stepEq)
      simp only [Meets, Always, stepEq, Option.some.injEq, forall_eq']
      constructor
      · rintro ⟨guarded, meets⟩
        exact ⟨holds initial, (tail guarded).mp meets⟩
      · rintro ⟨-, always⟩
        have guarded := necessary initial stepEq always.head
        exact ⟨guarded, (tail guarded).mpr always⟩

/-- A guard that holds everywhere is met by every run. -/
theorem Meets.of_forall (holds : ∀ state action, guard state action) (state : σ)
    (actions : List α) :
    Meets step guard state actions := by
  induction actions generalizing state with
  | nil => trivial
  | cons action rest ih => exact ⟨holds state action, fun next _ => ih next⟩

/-- A guard on the actions alone is met by a run of actions that satisfy it. -/
theorem Meets.of_mem {kind : α → Prop} (holds : ∀ action ∈ actions, kind action) (state : σ) :
    Meets step (fun _ action => kind action) state actions := by
  induction actions generalizing state with
  | nil => trivial
  | cons action rest ih =>
      have tail := ih (fun other member => holds other (List.mem_cons_of_mem _ member))
      exact ⟨holds action List.mem_cons_self, fun next _ => tail next⟩

/-- What every step preserves holds at the end of every run. -/
theorem exec_invariant
    (preserved : ∀ {state action next}, Inv state → step state action = some next → Inv next)
    {final : σ} (initial : Inv state) (run : exec step state actions = some final) : Inv final := by
  have meets : Meets step (fun _ _ => True) state actions := .of_forall (fun _ _ => trivial) _ _
  exact exec_invariant_of_meets (fun inv _ stepEq => preserved inv stepEq) initial meets run

end FerroTunnel.Transition
