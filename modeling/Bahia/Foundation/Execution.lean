import Bahia.Foundation.Program

/-! Whole executions of a program that nobody disturbs. -/

namespace Bahia.Foundation

namespace Program
variable {Request : Type} {Response Outside : Request → Type} {State First Second : Type}
variable (serve : State → (request : Request) → Outside request → State × Response request)
variable (outside : (request : Request) → Outside request)

/-- Run a program to its end; what is answered from outside depends on the request only. -/
def exec {Result : Type} : Program Request Response Result → State → Result × State
  | .done result, state => (result, state)
  | .ask request next, state =>
    (next (serve state request (outside request)).2).exec (serve state request (outside request)).1

variable {serve outside}

@[simp] theorem exec_pure (result : Result) (state : State) :
    (pure result : Program Request Response Result).exec serve outside state = (result, state) := rfl

@[simp] theorem exec_request (asked : Request) (state : State) :
    (request asked).exec serve outside state =
      ((serve state asked (outside asked)).2, (serve state asked (outside asked)).1) := rfl

@[simp] theorem exec_bind (program : Program Request Response First)
    (rest : First → Program Request Response Second) (state : State) :
    (program >>= rest).exec serve outside state =
      (rest (program.exec serve outside state).1).exec serve outside
        (program.exec serve outside state).2 := by
  induction program generalizing state with
  | done => rfl
  | ask request next ih => exact ih _ _

/-- An execution keeps what every request keeps. -/
theorem exec_invariant {Result : Type} {invariant : State → Prop}
    (kept : ∀ state request given, invariant state → invariant (serve state request given).1)
    (program : Program Request Response Result) (holds : invariant state) :
    invariant (program.exec serve outside state).2 := by
  induction program generalizing state with
  | done => exact holds
  | ask request next ih => exact ih _ (kept state request _ holds)

/-- Whatever is answered, the result meets the goal. -/
def Returns {Result : Type} (goal : Result → Prop) : Program Request Response Result → Prop
  | .done result => goal result
  | .ask _ next => ∀ response, (next response).Returns goal

theorem returns_bind {goal : Second → Prop} {rest : First → Program Request Response Second}
    (continues : ∀ result, (rest result).Returns goal) : (program >>= rest).Returns goal := by
  induction program with
  | done result => exact continues result
  | ask request next ih => exact ih

theorem Returns.exec {Result : Type} {goal : Result → Prop} {program : Program Request Response Result}
    (returns : program.Returns goal) (state : State) : goal (program.exec serve outside state).1 := by
  induction program generalizing state with
  | done => exact returns
  | ask request next ih => exact ih _ (returns _) _

end Program

end Bahia.Foundation
