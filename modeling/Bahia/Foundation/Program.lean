import Mathlib

/-! Programs that ask their surroundings one request after another, and contracts: what a program
may ask, when, and what it may rely on while others change the state it shares with them. -/

namespace Bahia.Foundation
open List

/-- A computation that asks, and goes on with what it is answered. -/
inductive Program (Request : Type) (Response : Request → Type) (Result : Type) where
  | done (result : Result)
  | ask (request : Request) (next : Response request → Program Request Response Result)

namespace Program
variable {Request : Type} {Response : Request → Type} {First Second : Type}

def bind (program : Program Request Response First)
    (rest : First → Program Request Response Second) : Program Request Response Second :=
  match program with
  | .done result => rest result
  | .ask request next => .ask request fun response => (next response).bind rest

instance : Monad (Program Request Response) where
  pure := .done
  bind := bind

def returned : Program Request Response First → Bool
  | .done _ => true
  | .ask _ _ => false

def request (request : Request) : Program Request Response (Response request) := .ask request .done

end Program

structure Event (Request : Type) (Response : Request → Type) where
  request : Request
  response : Response request

/-- What is answered from outside to each request, if anything is: the program decides which request
it makes, and a request without an answer is never left. -/
abbrev Answers (Request : Type) (Outside : Request → Type) :=
  (request : Request) → Option (Outside request)

/-- How requests are served from a shared state and from outside, what others may do to the state
between two requests, and which requests are in order, given what was asked before. -/
structure Contract (Request : Type) (Response Outside : Request → Type) (State : Type) where
  serve : State → (request : Request) → Outside request → State × Response request
  rely : State → State → Prop
  guard : List (Event Request Response) → State → Request → Prop

namespace Program
variable {Request : Type} {Response Outside : Request → Type} {State Result First Second : Type}
variable (contract : Contract Request Response Outside State)

/-- From this state on, every request is in order and the result meets the goal. -/
def Obeys (goal : List (Event Request Response) → State → Result → Prop) :
    Program Request Response Result → List (Event Request Response) → State → Prop
  | .done result, trace, state => ∀ later, contract.rely state later → goal trace later result
  | .ask request next, trace, state => ∀ later, contract.rely state later →
    contract.guard trace later request ∧ ∀ outside,
      (next (contract.serve later request outside).2).Obeys goal
        (trace ++ [⟨request, (contract.serve later request outside).2⟩])
        (contract.serve later request outside).1

variable {contract} {trace : List (Event Request Response)} {state : State}

variable {goal : List (Event Request Response) → State → Result → Prop}
  {program : Program Request Response Result}

/-- What was obeyed is obeyed after others have acted. -/
theorem Obeys.later (transitive : ∀ first second third, contract.rely first second →
      contract.rely second third → contract.rely first third)

    (obeys : program.Obeys contract goal trace state)
    {later : State} (relied : contract.rely state later) :
    program.Obeys contract goal trace later := by
  cases program with
  | done | ask => exact fun latest more => obeys latest (transitive _ _ _ relied more)

theorem Obeys.weaken (obeys : program.Obeys contract goal trace state)
    (implies : ∀ trace state result, goal trace state result → weaker trace state result) :
    program.Obeys contract weaker trace state := by
  induction program generalizing trace state with
  | done => exact fun later relied => implies _ _ _ (obeys later relied)
  | ask request next ih =>
    intro later relied
    obtain ⟨guarded, rest⟩ := obeys later relied
    exact ⟨guarded, fun outside => ih _ (rest outside)⟩

/-- One part of a program after another; the second one starts from what the first one reached. -/
theorem Obeys.bind {middle : List (Event Request Response) → State → First → Prop}
    {goal : List (Event Request Response) → State → Second → Prop}
    {program : Program Request Response First} {rest : First → Program Request Response Second}
    (reflexive : ∀ state, contract.rely state state)
    (obeys : program.Obeys contract middle trace state)
    (continues : ∀ after state result, trace <+: after → middle after state result →
      (rest result).Obeys contract goal after state) :
    (program >>= rest).Obeys contract goal trace state := by
  induction program generalizing trace state with
  | done result =>
    exact continues trace state result (prefix_refl trace) (obeys state (reflexive state))
  | ask request next ih =>
    intro later relied
    obtain ⟨guarded, remaining⟩ := obeys later relied
    refine ⟨guarded, fun outside => ih _ (remaining outside) ?_⟩
    intro after state result longer reached
    exact continues after state result ((prefix_append _ _).trans longer) reached

/-- One request: it is in order wherever others may have led, and so is what follows it. -/
theorem Obeys.request {goal : List (Event Request Response) → State → Response asked → Prop}
    (holds : ∀ later, contract.rely state later → contract.guard trace later asked ∧
      ∀ outside after, contract.rely (contract.serve later asked outside).1 after →
        goal (trace ++ [⟨asked, (contract.serve later asked outside).2⟩]) after
          (contract.serve later asked outside).2) :
    (Program.request asked : Program Request Response _).Obeys contract goal trace state := by
  intro later relied
  obtain ⟨guarded, reached⟩ := holds later relied
  exact ⟨guarded, reached⟩

/-- An invariant that neither the requests in order nor the others break. -/
theorem Obeys.invariant {invariant : State → Prop}
    (kept : ∀ trace state request outside, contract.guard trace state request → invariant state →
      invariant (contract.serve state request outside).1)
    (relied : ∀ state later, contract.rely state later → invariant state → invariant later)
    (obeys : program.Obeys contract goal trace state)
    (holds : invariant state) :
    program.Obeys contract (fun after state result => invariant state ∧ goal after state result)
      trace state := by
  induction program generalizing trace state with
  | done => exact fun later more => ⟨relied state later more holds, obeys later more⟩
  | ask request next ih =>
    intro later more
    obtain ⟨guarded, rest⟩ := obeys later more
    refine ⟨guarded, fun outside => ih _ (rest outside) ?_⟩
    exact kept trace later request outside guarded (relied state later more holds)

/-- What is asked under a contract is of the kinds that the contract allows. -/
theorem Obeys.asked {allowed : Request → Prop}
    (only : ∀ trace state request, contract.guard trace state request → allowed request)
    (obeys : program.Obeys contract goal trace state) :
    program.Obeys contract (fun after state result => (∃ more, after = trace ++ more ∧
      ∀ event ∈ more, allowed event.request) ∧ goal after state result) trace state := by
  induction program generalizing trace state with
  | done =>
    intro later relied
    exact ⟨⟨[], (append_nil trace).symm, fun _ member => nomatch member⟩, obeys later relied⟩
  | ask request next ih =>
    intro later relied
    obtain ⟨guarded, rest⟩ := obeys later relied
    refine ⟨guarded, fun outside => (ih _ (rest outside)).weaken ?_⟩
    rintro _ _ _ ⟨⟨more, rfl, each⟩, reached⟩
    exact ⟨⟨_, append_assoc _ _ _,
      forall_mem_cons.mpr ⟨only trace later request guarded, each⟩⟩, reached⟩

/-- A contract that asks more is a contract that asks less. -/
theorem Obeys.relax (serves : other.serve = contract.serve) (relies : other.rely = contract.rely)
    (allows : ∀ trace state request, contract.guard trace state request →
      other.guard trace state request) (obeys : program.Obeys contract goal trace state) :
    program.Obeys other goal trace state := by
  induction program generalizing trace state with
  | done =>
    intro later relied
    rw [relies] at relied
    exact obeys later relied
  | ask request next ih =>
    intro later relied
    rw [relies] at relied
    obtain ⟨guarded, rest⟩ := obeys later relied
    refine ⟨allows trace later request guarded, fun outside => ?_⟩
    rw [serves]
    exact ih _ (rest outside)

/-! ### Executions -/

/-- A part of an execution that nobody disturbs, with what is answered from outside. -/
inductive Steps (serve : State → (request : Request) → Outside request → State × Response request) :
    Program Request Response Result → List (Event Request Response) → State →
      List (Answers Request Outside) → Program Request Response Result →
        List (Event Request Response) → State → Prop
  | stop (program : Program Request Response Result) (trace : List (Event Request Response))
      (state : State) : Steps serve program trace state [] program trace state
  | ask {request : Request} {next : Response request → Program Request Response Result}
      {trace longer : List (Event Request Response)} {state final : State}
      {answers : List (Answers Request Outside)} {left : Program Request Response Result}
      (outside : Answers Request Outside) {given : Outside request}
      (answered : outside request = some given)
      (rest : Steps serve (next (serve state request given).2)
        (trace ++ [⟨request, (serve state request given).2⟩]) (serve state request given).1 answers
        left longer final) :
      Steps serve (.ask request next) trace state (outside :: answers) left longer final

/-- An execution of a whole program, to its result. -/
abbrev Yields (serve : State → (request : Request) → Outside request → State × Response request)
    (program : Program Request Response Result) (trace : List (Event Request Response)) (state : State)
    (answers : List (Answers Request Outside)) (result : Result)
    (longer : List (Event Request Response)) (final : State) : Prop :=
  Steps serve program trace state answers (.done result) longer final

/-- What is left of a program that obeys a contract obeys it too. -/
theorem Obeys.steps (reflexive : ∀ state, contract.rely state state)
    (obeys : program.Obeys contract goal trace state)
    (execution : Steps contract.serve program trace state answers left longer final) :
    left.Obeys contract goal longer final := by
  induction execution with
  | stop => exact obeys
  | ask outside answered _ ih => exact ih ((obeys _ (reflexive _)).2 _)

section Execution
variable {serve : State → (request : Request) → Outside request → State × Response request}

theorem Steps.trans (early : Steps serve program trace state answers between longer middle)
    (late : Steps serve between longer middle more left longest final) :
    Steps serve program trace state (answers ++ more) left longest final := by
  induction early with
  | stop => exact late
  | ask outside answered _ ih => exact .ask outside answered (ih late)

theorem Steps.bind {program left : Program Request Response First}
    (execution : Steps serve program trace state answers left longer final)
    (rest : First → Program Request Response Second) :
    Steps serve (program >>= rest) trace state answers (left >>= rest) longer final := by
  induction execution with
  | stop => exact .stop _ _ _
  | ask outside answered _ ih => exact .ask outside answered ih

/-- What a program whose requests are all answered comes to, with its trace and the final state. -/
def plays (serve : State → (request : Request) → Outside request → State × Response request) :
    Program Request Response Result → List (Event Request Response) → State →
      List (Answers Request Outside) → Option (Result × List (Event Request Response) × State)
  | .done result, trace, state, [] => some (result, trace, state)
  | .ask request next, trace, state, outside :: answers =>
    (outside request).bind fun given =>
      let (after, response) := serve state request given
      (next response).plays serve (trace ++ [⟨request, response⟩]) after answers
  | _, _, _, _ => none

theorem yields_of_plays {program : Program Request Response Result}
    (played : program.plays serve trace state answers = some (result, longer, final)) :
    program.Yields serve trace state answers result longer final := by
  induction answers generalizing program trace state with
  | nil =>
    cases program with
    | done => cases played; exact .stop _ _ _
    | ask => cases played
  | cons outside answers ih =>
    cases program with
    | done => cases played
    | ask request next =>
      obtain ⟨given, answered, rest⟩ := Option.bind_eq_some_iff.mp played
      exact .ask outside answered (ih rest)

end Execution

/-- The program comes to this point, whatever was asked before. -/
def Reaches (serve : State → (request : Request) → Outside request → State × Response request)
    (program : Program Request Response Result) (state : State)
    (answers : List (Answers Request Outside))
    (left : Program Request Response Result) (final : State) : Prop :=
  ∀ trace, ∃ longer, Steps serve program trace state answers left longer final

section Reached
variable {serve : State → (request : Request) → Outside request → State × Response request}

theorem Reaches.bind {program : Program Request Response First} {first : First}
    {rest : First → Program Request Response Second} {left : Program Request Response Second}
    (early : program.Reaches serve state answers (.done first) middle)
    (late : (rest first).Reaches serve middle more left final) :
    (program >>= rest).Reaches serve state (answers ++ more) left final := by
  intro trace
  obtain ⟨longer, steps⟩ := early trace
  obtain ⟨longest, others⟩ := late longer
  exact ⟨longest, (steps.bind rest).trans others⟩

theorem Reaches.stop (program : Program Request Response Result) (state : State) :
    program.Reaches serve state [] program state :=
  fun trace => ⟨trace, .stop program trace state⟩

theorem Reaches.request {asked : Request} {outside : Answers Request Outside}
    {given : Outside asked} (answered : outside asked = some given) (state : State) :
    (Program.request asked).Reaches serve state [outside] (.done (serve state asked given).2)
      (serve state asked given).1 :=
  fun _ => ⟨_, .ask outside answered (.stop _ _ _)⟩

end Reached

end Program

end Bahia.Foundation
