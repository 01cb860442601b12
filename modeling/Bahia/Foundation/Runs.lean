import Mathlib

/-! Finite executions of a partial step function, and the rules that carry an
invariant or an ordering along them. -/

namespace Bahia.Foundation

universe u v

variable {State : Type u} {Action : Type v}

/-- Execute the actions in order; a disabled action ends the execution. -/
def run (step : State → Action → Option State) : State → List Action → Option State
  | state, [] => some state
  | state, action :: rest => (step state action).bind fun next => run step next rest

/-- Every action of the execution meets `guard` in the state it is taken from. -/
def Along (step : State → Action → Option State) (guard : State → Action → Prop) :
    State → List Action → Prop
  | _, [] => True
  | state, action :: rest =>
    guard state action ∧ ∀ next, step state action = some next → Along step guard next rest

def alongCheck (step : State → Action → Option State) (guard : State → Action → Bool) :
    State → List Action → Bool
  | _, [] => true
  | state, action :: rest =>
    guard state action &&
      match step state action with
      | some next => alongCheck step guard next rest
      | none => true

variable {step : State → Action → Option State} {guard : State → Action → Prop}

theorem along_of_check (checked : alongCheck step check state actions = true) :
    Along step (fun state action => check state action = true) state actions := by
  induction actions generalizing state with
  | nil => trivial
  | cons action rest ih =>
    obtain ⟨here, later⟩ := Bool.and_eq_true_iff.mp checked
    refine ⟨here, ?_⟩
    intro next taken
    rw [taken] at later
    exact ih later

/-- A condition on the actions alone. -/
theorem along_of_forall {allowed : Action → Prop} (each : ∀ action ∈ actions, allowed action) :
    Along step (fun _ action => allowed action) state actions := by
  induction actions generalizing state with
  | nil => trivial
  | cons action rest ih =>
    obtain ⟨here, later⟩ := List.forall_mem_cons.mp each
    exact ⟨here, fun _ _ => ih later⟩

theorem run_cons (state : State) (action : Action) (rest : List Action) :
    run step state (action :: rest) =
      (step state action).bind fun next => run step next rest := rfl

theorem run_cons_some (executed : run step state (action :: rest) = some final) :
    ∃ next, step state action = some next ∧ run step next rest = some final := by
  simpa [run_cons, Option.bind_eq_some_iff] using executed

theorem run_append (state : State) (first second : List Action) :
    run step state (first ++ second) =
      (run step state first).bind fun middle => run step middle second := by
  induction first generalizing state with
  | nil => rfl
  | cons action rest ih =>
    simp only [List.cons_append, run_cons]
    cases step state action with
    | none => rfl
    | some next => exact ih next

theorem along_append (guarded : Along step guard state (first ++ second)) :
    Along step guard state first ∧
      ∀ middle, run step state first = some middle → Along step guard middle second := by
  induction first generalizing state with
  | nil =>
    refine ⟨trivial, ?_⟩
    intro middle reached
    cases Option.some.inj reached
    exact guarded
  | cons action rest ih =>
    obtain ⟨here, later⟩ := guarded
    refine ⟨⟨here, fun next taken => (ih (later next taken)).1⟩, ?_⟩
    intro middle reached
    obtain ⟨next, taken, remaining⟩ := run_cons_some reached
    exact (ih (later next taken)).2 middle remaining

/-- A property kept by every guarded step holds wherever a guarded execution
ends. -/
theorem run_invariant {invariant : State → Prop}
    (keeps : ∀ state action next, invariant state → guard state action →
      step state action = some next → invariant next) (initial : invariant state)
    (guarded : Along step guard state actions) (executed : run step state actions = some final) :
    invariant final := by
  induction actions generalizing state with
  | nil =>
    cases Option.some.inj executed
    exact initial
  | cons action rest ih =>
    obtain ⟨next, taken, remaining⟩ := run_cons_some executed
    exact ih (keeps state action next initial guarded.1 taken) (guarded.2 next taken) remaining

/-- The same without a guard. -/
theorem run_preserves (invariant : State → Prop)
    (keeps : ∀ state action next, invariant state → step state action = some next → invariant next)
    (initial : invariant state) (executed : run step state actions = some final) :
    invariant final := by
  have free : Along step (fun _ _ => True) state actions := along_of_forall fun _ _ => trivial
  exact run_invariant (fun state action next held _ => keeps state action next held) initial free
    executed

/-- A property that fails at the start of an execution and holds at its end is brought
about by one of its steps. -/
theorem run_switch (property : State → Prop) (executed : run step state actions = some final)
    (before : ¬property state) (after : property final) :
    ∃ first action second middle next, actions = first ++ action :: second ∧
      run step state first = some middle ∧ step middle action = some next ∧
      run step next second = some final ∧ ¬property middle ∧ property next := by
  induction actions generalizing state with
  | nil =>
    cases Option.some.inj executed
    exact absurd after before
  | cons action rest ih =>
    obtain ⟨next, taken, remaining⟩ := run_cons_some executed
    by_cases reached : property next
    · exact ⟨[], action, rest, state, next, rfl, rfl, taken, remaining, before, reached⟩
    obtain ⟨first, switch, second, middle, changed, split, reach, step, rest⟩ :=
      ih remaining reached
    refine ⟨action :: first, switch, second, middle, changed, ?_, ?_, step, rest⟩
    · rw [split, List.cons_append]
    · rw [run_cons, taken]
      exact reach

end Bahia.Foundation
