import Bahia.Saga.Conduct

/-! The saga destroys only what it made: calls one after another, each of which may be lost at any
point, with drivers that answer anything. -/

namespace Bahia.Saga
open Foundation

abbrev Caller (env : Environment) := Solo Request Response Unit (FileStore env)

namespace Caller
variable (env : Environment) (policy : RetentionPolicy)

def after (store : FileStore env) (happenings : List Happens) : Caller env :=
  happenings.foldl (Solo.next serve (Call.body env policy)) ⟨store, none⟩

/-- A compensation that is asked for now concerns what the persisted run made and has not
compensated, and what the call has just seen to be there and to be the run's. -/
def CompensatesOwn (caller : Caller env) : Prop :=
  ∀ trace stage seen resource key rest,
    caller.call = some ⟨trace, .ask (.compensate stage seen resource key) rest⟩ →
      ∃ run, caller.state.get run.requestID = some run ∧ seen = run.snapshot ∧
        stage = resource.stage ∧ Compensates env trace run resource

/-- Whatever was answered and wherever calls were lost. -/
theorem compensates_own (store : FileStore env) (happenings : List Happens) :
    CompensatesOwn env (after env policy store happenings) := by
  intro trace stage seen resource key rest asks
  have inOrder := Solo.guarded (View.alone env).reflexive (body_obeys policy (View.alone env)) store
    happenings _ asks _ _ rfl
  exact inOrder

end Caller

end Bahia.Saga
