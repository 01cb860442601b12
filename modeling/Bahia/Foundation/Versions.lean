import Bahia.Foundation.Runs

/-! The values that one row takes along a run, each when it is written, and when they form a
chain. -/

namespace Bahia.Foundation
open List

universe u v w

variable {State : Type u} {Action : Type v} {Value : Type w} [DecidableEq Value]
variable (next : State → Action → State) (read : State → Option Value)

/-- What the row becomes, step by step; a step that leaves it alone adds nothing. -/
def changes : State → List Action → List Value
  | _, [] => []
  | state, action :: rest =>
    (if read (next state action) = read state then [] else (read (next state action)).toList) ++
      changes (next state action) rest

/-- The guard holds at every step of the run. -/
abbrev Throughout (guard : State → Action → Prop) : State → List Action → Prop :=
  Along (fun state action => some (next state action)) guard

variable {next read}

variable {guard other : State → Action → Prop} {state : State} {action : Action}
  {invariant : State → Prop}

theorem throughout_cons :
    Throughout next guard state (action :: rest) ↔
      guard state action ∧ Throughout next guard (next state action) rest := by
  constructor
  · rintro ⟨here, later⟩
    exact ⟨here, later _ rfl⟩
  · rintro ⟨here, later⟩
    refine ⟨here, ?_⟩
    rintro _ ⟨⟩
    exact later

/-- A guard that can be evaluated can be evaluated along the run. -/
instance decidableThroughout (guard : State → Action → Prop)
    [∀ state action, Decidable (guard state action)] :
    (state : State) → (actions : List Action) → Decidable (Throughout next guard state actions)
  | _, [] => isTrue trivial
  | state, action :: rest =>
    have := decidableThroughout guard (next state action) rest
    decidable_of_iff (guard state action ∧ Throughout next guard (next state action) rest)
      throughout_cons.symm

theorem throughout_append :
    Throughout next guard state (first ++ second) ↔
      Throughout next guard state first ∧
        Throughout next guard (first.foldl next state) second := by
  induction first generalizing state with
  | nil => exact ⟨fun holds => ⟨trivial, holds⟩, And.right⟩
  | cons action rest ih =>
    rw [cons_append, throughout_cons, throughout_cons, ih, and_assoc]
    rfl

/-- A guard that holds wherever the invariant does. -/
theorem throughout_of_invariant
    (keeps : ∀ state action, invariant state → invariant (next state action))
    (holds : ∀ state action, invariant state → guard state action)
    (initial : invariant state) (actions : List Action) : Throughout next guard state actions := by
  induction actions generalizing state with
  | nil => trivial
  | cons action rest ih =>
    exact throughout_cons.mpr ⟨holds state action initial, ih (keeps state action initial)⟩

theorem throughout_of_forall
    (holds : ∀ state action, guard state action) (state : State) (actions : List Action) :
    Throughout next guard state actions := by
  induction actions generalizing state with
  | nil => trivial
  | cons action rest ih => exact throughout_cons.mpr ⟨holds state action, ih (next state action)⟩

/-- Guards that agree as long as they hold, if what holds of the state until then is kept by them. -/
theorem throughout_congr_while
    (keeps : ∀ state action, invariant state → other state action → invariant (next state action))
    (same : ∀ state action, invariant state → (guard state action ↔ other state action))
    (initial : invariant state) (actions : List Action) :
    Throughout next guard state actions ↔ Throughout next other state actions := by
  induction actions generalizing state with
  | nil => exact Iff.rfl
  | cons action rest ih =>
    rw [throughout_cons, throughout_cons, same state action initial]
    exact and_congr_right fun held => ih (keeps state action initial held)

/-- Guards that agree wherever the invariant holds. -/
theorem throughout_congr (keeps : ∀ state action, invariant state → invariant (next state action))
    (same : ∀ state action, invariant state → (guard state action ↔ other state action))
    (initial : invariant state) (actions : List Action) :
    Throughout next guard state actions ↔ Throughout next other state actions :=
  throughout_congr_while (fun state action held _ => keeps state action held) same initial actions

/-- What follows from the guard wherever the invariant holds, if the guarded steps keep it. -/
theorem throughout_of_guarded
    (keeps : ∀ state action, invariant state → guard state action → invariant (next state action))
    (implies : ∀ state action, invariant state → guard state action → other state action)
    (initial : invariant state) (guarded : Throughout next guard state actions) :
    Throughout next other state actions := by
  induction actions generalizing state with
  | nil => trivial
  | cons action rest ih =>
    obtain ⟨here, later⟩ := throughout_cons.mp guarded
    exact throughout_cons.mpr ⟨implies state action initial here, ih (keeps state action initial here) later⟩

theorem foldl_invariant (keeps : ∀ state action, invariant state → invariant (next state action))
    (initial : invariant state) (actions : List Action) : invariant (actions.foldl next state) := by
  induction actions generalizing state with
  | nil => exact initial
  | cons action rest ih => exact ih (keeps state action initial)

/-- What the steps keep as long as they are guarded. -/
theorem foldl_guarded
    (keeps : ∀ state action, invariant state → guard state action → invariant (next state action))
    (initial : invariant state) (guarded : Throughout next guard state actions) :
    invariant (actions.foldl next state) := by
  induction actions generalizing state with
  | nil => exact initial
  | cons action rest ih =>
    obtain ⟨here, later⟩ := throughout_cons.mp guarded
    exact ih (keeps state action initial here) later

section Rows
variable (stays : ∀ state action, read state ≠ none → read (next state action) ≠ none)
include stays

/-- The values of a row that never disappears are a chain exactly when each step that
rewrites it relates the old value to the new one. -/
theorem isChain_changes_iff (state : State) (actions : List Action) :
    List.IsChain related ((read state).toList ++ changes next read state actions) ↔
      Throughout next (fun state action => ∀ old new, read state = some old →
        read (next state action) = some new → old ≠ new → related old new) state actions := by
  induction actions generalizing state with
  | nil =>
    cases read state with
    | none => exact ⟨fun _ => trivial, fun _ => .nil⟩
    | some value => exact ⟨fun _ => trivial, fun _ => .singleton value⟩
  | cons action rest ih =>
    rw [throughout_cons, ← ih, changes]
    by_cases same : read (next state action) = read state
    · rw [if_pos same, nil_append, same]
      constructor
      · intro chain
        refine ⟨?_, chain⟩
        intro old new held written different
        exact absurd (Option.some.inj (held.symm.trans written)) different
      · exact And.right
    · rw [if_neg same]
      cases held : read state with
      | none =>
        constructor
        · intro chain
          exact ⟨nofun, chain⟩
        · exact And.right
      | some old =>
        cases written : read (next state action) with
        | none => exact absurd written (stays state action (by rw [held]; exact nofun))
        | some new =>
          have different : old ≠ new := by
            rintro rfl
            exact same (written.trans held.symm)
          show List.IsChain related (old :: new :: changes next read (next state action) rest) ↔ _
          rw [isChain_cons_cons]
          constructor
          · rintro ⟨step, chain⟩
            refine ⟨?_, chain⟩
            rintro _ _ ⟨⟩ ⟨⟩ _
            exact step
          · rintro ⟨step, chain⟩
            exact ⟨step old new rfl rfl different, chain⟩

/-- The row holds the last value it took. -/
theorem read_foldl (state : State) (actions : List Action) :
    read (actions.foldl next state) =
      ((read state).toList ++ changes next read state actions).getLast? := by
  induction actions generalizing state with
  | nil =>
    rw [foldl_nil, changes, append_nil]
    cases read state <;> rfl
  | cons action rest ih =>
    rw [foldl_cons, ih, changes]
    by_cases same : read (next state action) = read state
    · rw [if_pos same, same, nil_append]
    rw [if_neg same]
    cases written : read (next state action) with
    | none =>
      cases held : read state with
      | none => exact absurd (written.trans held.symm) same
      | some => exact absurd written (stays state action (by rw [held]; exact nofun))
    | some new =>
      have filled : [new] ++ changes next read (next state action) rest ≠ [] := cons_ne_nil _ _
      rw [Option.toList_some, List.getLast?_append_of_ne_nil _ filled]

omit stays in
/-- The first value a row takes, from a state in which it has none. -/
theorem head_changes {invariant : State → Prop} {property : Value → Prop}
    (keeps : ∀ state action, invariant state → invariant (next state action))
    (first : ∀ state action new, invariant state → read state = none →
      read (next state action) = some new → property new) {state : State} (initial : invariant state)
    (fresh : read state = none) {actions : List Action} {value : Value}
    (head : (changes next read state actions).head? = some value) : property value := by
  induction actions generalizing state with
  | nil => cases head
  | cons action rest ih =>
    rw [changes] at head
    cases written : read (next state action) with
    | none =>
      rw [if_pos (written.trans fresh.symm), nil_append] at head
      exact ih (keeps state action initial) written head
    | some =>
      rw [if_neg (by rw [written, fresh]; exact nofun), written] at head
      cases Option.some.inj head
      exact first state action _ initial fresh written

end Rows

end Bahia.Foundation
