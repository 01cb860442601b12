import Bahia.Foundation.Program
import Bahia.Foundation.Versions

/-! Calls of programs on a shared state: many at a time, in any interleaving, or one after another;
any of them may be lost at any point. -/

namespace Bahia.Foundation
open List

/-- A call in progress: what it has asked and what is left of it. -/
structure Ongoing (Request : Type) (Response : Request → Type) (Result : Type) where
  trace : List (Event Request Response)
  rest : Program Request Response Result

/-- What can happen to the calls that share a state. -/
inductive Happening (Task : Type) (Request : Type) (Outside : Request → Type) where
  | start (task : Task)
  | answer (index : Nat) (outside : Answers Request Outside)
  | crash (index : Nat)

namespace Ongoing
variable {Request : Type} {Response Outside : Request → Type} {State Result : Type}
variable (serve : State → (request : Request) → Outside request → State × Response request)
variable (contract : Contract Request Response Outside State)

/-- The next request of a call is served, unless nothing is answered. -/
def advance (call : Ongoing Request Response Result) (state : State)
    (outside : Answers Request Outside) : State × Ongoing Request Response Result :=
  match call.rest with
  | .done _ => (state, call)
  | .ask request next =>
    match outside request with
    | none => (state, call)
    | some given =>
      let served := serve state request given
      (served.1, ⟨call.trace ++ [⟨request, served.2⟩], next served.2⟩)

/-- The next request of a call is in order. -/
def InOrder (call : Ongoing Request Response Result) (state : State) : Prop :=
  ∀ request next, call.rest = .ask request next → contract.guard call.trace state request

/-- Everything that a call is going to ask is in order. -/
def Faithful (call : Ongoing Request Response Result) (state : State) : Prop :=
  call.rest.Obeys contract (fun _ _ _ => True) call.trace state

variable {contract} {call : Ongoing Request Response Result} {state : State}

variable (reflexive : ∀ state, contract.rely state state)
include reflexive

theorem Faithful.inOrder
    (faithful : call.Faithful contract state) : call.InOrder contract state := by
  intro request next asks
  rw [Faithful, asks] at faithful
  exact (faithful state (reflexive state)).1

/-- What a call obeys it still obeys after one more answer. -/
theorem obeys_advance {goal : List (Event Request Response) → State → Result → Prop}
    (obeys : call.rest.Obeys contract goal call.trace state) (outside : Answers Request Outside) :
    (call.advance contract.serve state outside).2.rest.Obeys contract goal
      (call.advance contract.serve state outside).2.trace
      (call.advance contract.serve state outside).1 := by
  unfold Ongoing.advance
  split
  · exact obeys
  rename_i asks
  split
  · exact obeys
  rename_i given _
  rw [asks] at obeys
  exact (obeys state (reflexive state)).2 given

theorem Faithful.advance
    (faithful : call.Faithful contract state) (outside : Answers Request Outside) :
    (call.advance contract.serve state outside).2.Faithful contract
      (call.advance contract.serve state outside).1 :=
  obeys_advance reflexive faithful outside

/-- Other calls see a step of this one as something they may rely on. -/
theorem InOrder.relied
    (guaranteed : ∀ trace state request outside, contract.guard trace state request →
      contract.rely state (contract.serve state request outside).1)
    (inOrder : call.InOrder contract state) (outside : Answers Request Outside) :
    contract.rely state (call.advance contract.serve state outside).1 := by
  unfold Ongoing.advance
  split
  · exact reflexive state
  rename_i request next asks
  split
  · exact reflexive state
  · exact guaranteed call.trace state request _ (inOrder request next asks)

end Ongoing

/-- Calls that share a state, in any interleaving. -/
structure Pool (Request : Type) (Response : Request → Type) (Result State : Type) where
  state : State
  calls : List (Ongoing Request Response Result)

namespace Pool
variable {Request : Type} {Response Outside : Request → Type} {State Result Task : Type}
variable (serve : State → (request : Request) → Outside request → State × Response request)
variable (contract : Contract Request Response Outside State)
variable (body : Task → Program Request Response Result)

def answer (pool : Pool Request Response Result State) (index : Nat)
    (outside : Answers Request Outside) : Pool Request Response Result State :=
  match pool.calls[index]? with
  | none => pool
  | some call =>
    let advanced := call.advance serve pool.state outside
    ⟨advanced.1, pool.calls.set index advanced.2⟩

/-- One happening: a call begins, the next request of one call is answered, or a call is lost. -/
def next (pool : Pool Request Response Result State) :
    Happening Task Request Outside → Pool Request Response Result State
  | .start task => { pool with calls := pool.calls ++ [⟨[], body task⟩] }
  | .answer index outside => pool.answer serve index outside
  | .crash index => { pool with calls := pool.calls.eraseIdx index }

variable {contract body}

section Rules
variable (reflexive : ∀ state, contract.rely state state)
variable (transitive : ∀ first second third, contract.rely first second →
  contract.rely second third → contract.rely first third)
variable (guaranteed : ∀ trace state request outside, contract.guard trace state request →
  contract.rely state (contract.serve state request outside).1)
variable (fits : ∀ task state, (body task).Obeys contract (fun _ _ _ => True) [] state)
include reflexive transitive guaranteed fits

theorem next_faithful (pool : Pool Request Response Result State)
    (happening : Happening Task Request Outside)
    (faithful : ∀ call ∈ pool.calls, call.Faithful contract pool.state) :
    ∀ call ∈ (next contract.serve body pool happening).calls,
      call.Faithful contract (next contract.serve body pool happening).state := by
  cases happening with
  | start task =>
    intro call member
    rcases mem_append.mp member with old | new
    · exact faithful call old
    · cases mem_singleton.mp new
      exact fits task pool.state
  | crash =>
    intro call member
    exact faithful call (mem_of_mem_eraseIdx member)
  | answer index outside =>
    rw [next, answer]
    split
    · exact faithful
    rename_i acting found
    have here := faithful acting (mem_of_getElem? found)
    intro call member
    rcases mem_or_eq_of_mem_set member with old | rfl
    · exact (faithful call old).later transitive
        ((here.inOrder reflexive).relied reflexive guaranteed outside)
    · exact here.advance reflexive outside

end Rules

end Pool

structure Solo (Request : Type) (Response : Request → Type) (Result State : Type) where
  state : State
  call : Option (Ongoing Request Response Result)

namespace Solo
variable {Request : Type} {Response Outside : Request → Type} {State Result Task : Type}
variable (serve : State → (request : Request) → Outside request → State × Response request)
variable (contract : Contract Request Response Outside State)
variable (body : Task → Program Request Response Result)

def unlessDone (call : Ongoing Request Response Result) : Option (Ongoing Request Response Result) :=
  match call.rest with
  | .done _ => none
  | .ask _ _ => some call

def start (solo : Solo Request Response Result State) (task : Task) :
    Solo Request Response Result State :=
  match solo.call with
  | none => { solo with call := unlessDone ⟨[], body task⟩ }
  | some _ => solo

def answer (solo : Solo Request Response Result State)
    (outside : Answers Request Outside) : Solo Request Response Result State :=
  match solo.call with
  | none => solo
  | some call =>
    let advanced := call.advance serve solo.state outside
    ⟨advanced.1, unlessDone advanced.2⟩

/-- One happening; the index is always that of the only call. -/
def next (solo : Solo Request Response Result State) :
    Happening Task Request Outside → Solo Request Response Result State
  | .start task => solo.start body task
  | .answer _ outside => solo.answer serve outside
  | .crash _ => { solo with call := none }

/-- The request that is answered next is in order. -/
def Guarded (solo : Solo Request Response Result State) : Prop :=
  ∀ call, solo.call = some call → call.InOrder contract solo.state

variable {contract body}

theorem unlessDone_some {going call : Ongoing Request Response Result}
    (live : unlessDone going = some call) : call = going := by
  unfold unlessDone at live
  split at live
  · cases live
  · exact (Option.some.inj live).symm

section Rules
variable (reflexive : ∀ state, contract.rely state state)
variable (fits : ∀ task state, (body task).Obeys contract (fun _ _ _ => True) [] state)
include reflexive fits

theorem next_faithful (solo : Solo Request Response Result State)
    (happening : Happening Task Request Outside)
    (faithful : ∀ call, solo.call = some call → call.Faithful contract solo.state) :
    ∀ call, (next contract.serve body solo happening).call = some call →
      call.Faithful contract (next contract.serve body solo happening).state := by
  cases happening with
  | start task =>
    rw [next, start]
    split
    · intro call going
      cases unlessDone_some going
      exact fits task solo.state
    · exact faithful
  | crash => exact fun call going => nomatch going
  | answer index outside =>
    rw [next, answer]
    split
    · exact faithful
    rename_i acting going
    intro call continued
    cases unlessDone_some continued
    exact (faithful acting going).advance reflexive outside

/-- One call after another, every request is in order. -/
theorem guarded (state : State) (happenings : List (Happening Task Request Outside)) :
    Guarded contract (happenings.foldl (next contract.serve body) ⟨state, none⟩) := by
  intro call going
  refine (foldl_invariant (next_faithful reflexive fits) ?_ happenings call going).inOrder reflexive
  exact fun call going => nomatch going

end Rules

end Solo

end Bahia.Foundation
