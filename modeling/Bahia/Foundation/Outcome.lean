import Mathlib

/-! Fallible computations with error texts, and how a success is taken apart. -/

namespace Bahia.Foundation

universe u

variable {Value Result : Type u}

/-- Fail with `text` when the condition holds. -/
def refuse (condition : Bool) (text : String) : Except String PUnit :=
  if condition then .error text else .ok ⟨⟩

/-- Read a value that must be there. -/
def require (value : Option Value) (text : String) : Except String Value :=
  match value with
  | some value => .ok value
  | none => .error text

/-- Put `text` before the error of a computation. -/
def context (text : String) (outcome : Except String Value) : Except String Value :=
  outcome.mapError fun cause => text ++ ": " ++ cause

variable {outcome : Except String Value} {text : String}

variable {next : Value → Except String Result} {State : Type u}
  {Item : Type*}

@[simp] theorem bind_ok_iff :
    (outcome >>= next) = .ok result ↔ ∃ value, outcome = .ok value ∧ next value = .ok result := by
  constructor
  · intro success
    cases outcome with
    | error => cases success
    | ok value => exact ⟨value, rfl, success⟩
  · intro success
    obtain ⟨value, same, rest⟩ := success
    subst same
    exact rest

/-- What follows a computation matters only where it succeeds. -/
theorem bind_congr_ok (same : ∀ value, outcome = .ok value → next value = other value) :
    (outcome >>= next) = (outcome >>= other) := by
  cases outcome with
  | error => rfl
  | ok value => exact same value rfl

@[simp] theorem pure_ok_iff : (pure value : Except String Value) = .ok result ↔ value = result := by
  constructor
  · intro success
    exact Except.ok.inj success
  · intro same
    subst same
    rfl

@[simp] theorem refuse_ok_iff : refuse.{u} condition text = .ok checked ↔ condition = false := by
  cases condition <;> simp [refuse]

@[simp] theorem require_ok_iff : require value text = .ok found ↔ value = some found := by
  cases value <;> simp [require]

@[simp] theorem context_ok_iff :
    context text outcome = .ok value ↔ outcome = .ok value := by
  cases outcome <;> simp [context, Except.mapError]

theorem map_ok_iff :
    outcome.map change = .ok result ↔ ∃ value, outcome = .ok value ∧ change value = result := by
  cases outcome <;> simp [Except.map]

/-- If the computation fails, it fails with an allowed text. -/
def FailsOnly (allowed : String → Prop) (outcome : Except String Value) : Prop :=
  ∀ text, outcome = .error text → allowed text

namespace FailsOnly
variable {allowed : String → Prop}

theorem bind (here : FailsOnly allowed first)
    (later : ∀ value, first = .ok value → FailsOnly allowed (next value)) :
    FailsOnly allowed (first >>= next) := by
  intro text failed
  cases first with
  | error =>
    cases failed
    exact here text rfl
  | ok value => exact later value rfl text failed

theorem ok (value : Value) : FailsOnly allowed (.ok value : Except String Value) := by
  intro text failed
  cases failed

theorem refuse (fine : condition = true → allowed reason) :
    FailsOnly allowed (refuse.{u} condition reason) := by
  intro text failed
  cases condition with
  | false => cases failed
  | true =>
    cases failed
    exact fine rfl

theorem require (fine : value = none → allowed reason) :
    FailsOnly allowed (require value reason) := by
  intro text failed
  cases value with
  | some => cases failed
  | none =>
    cases failed
    exact fine rfl

theorem context (fine : FailsOnly (fun cause => allowed (label ++ ": " ++ cause)) outcome) :
    FailsOnly allowed (context label outcome) := by
  intro text failed
  cases outcome with
  | ok => cases failed
  | error cause =>
    cases failed
    exact fine cause rfl

end FailsOnly

/-- A loop that succeeds carries a property of the state and the items still to come
from its first item past its last. -/
theorem foldlM_ok_induction {body : State → Item → Except String State}
    (keeps : State → List Item → Prop)
    (advance : ∀ state item rest next, keeps state (item :: rest) → body state item = .ok next →
      keeps next rest) (initial : keeps state items) (success : items.foldlM body state = .ok final) :
    keeps final [] := by
  induction items generalizing state with
  | nil =>
    rw [List.foldlM_nil, pure_ok_iff] at success
    subst success
    exact initial
  | cons item rest ih =>
    rw [List.foldlM_cons, bind_ok_iff] at success
    obtain ⟨next, taken, remaining⟩ := success
    exact ih (advance state item rest next initial taken) remaining

/-- The same for a loop that cannot fail. -/
theorem foldl_induction (keeps : State → List Item → Prop)
    (advance : ∀ state item rest, keeps state (item :: rest) → keeps (body state item) rest)
    (initial : keeps state items) : keeps (items.foldl body state) [] := by
  induction items generalizing state with
  | nil => exact initial
  | cons item rest ih => exact ih (advance state item rest initial)

end Bahia.Foundation
