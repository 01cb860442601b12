import Bahia.Saga.Engine

/-! The canonical record of a run: what resuming needs, and a bounded part of the history. -/

namespace Bahia.Saga
open Foundation

def recordSchema : String := "bahia.state.soulfactory-saga-run.v1"

def recordHistoryLimit : Nat := 16

def newest {Entry : Type} (history : List Entry) : List Entry :=
  history.drop (history.length - recordHistoryLimit)

structure Record where
  schema : String
  requestID : String
  runID : String
  rootKey : String
  agentID : String
  specHash : String
  stage : Stage
  resumeStage : Option Stage
  version : Nat
  resources : List Resource
  compensations : List Compensation
  failure : Option Failure
  recentTransitions : List Transition
  transitionCount : Nat
  recentFailures : List Failure
  failureCount : Nat
  createdAt : Time
  updatedAt : Time
  retainUntil : Option Time
  deleted : Bool
  deriving DecidableEq

def recordFromRun (run : Run) : Record where
  schema := recordSchema
  requestID := run.requestID
  runID := run.runID
  rootKey := run.rootKey
  agentID := run.agentID
  specHash := run.specHash
  stage := run.stage
  resumeStage := run.resumeStage
  version := run.version
  resources := run.resources
  compensations := run.compensations
  failure := run.failure
  recentTransitions := newest run.transitions
  transitionCount := run.transitions.length
  recentFailures := newest run.failures
  failureCount := run.failures.length
  createdAt := run.createdAt
  updatedAt := run.updatedAt
  retainUntil := run.retainUntil
  deleted := false

namespace Record

/-- The run that a record carries, before it is validated. -/
def carried (record : Record) : Run where
  requestID := record.requestID
  runID := record.runID
  rootKey := record.rootKey
  agentID := record.agentID
  specHash := record.specHash
  stage := record.stage
  resumeStage := record.resumeStage
  version := record.version
  resources := record.resources
  compensations := record.compensations
  transitions := record.recentTransitions
  failures := record.recentFailures
  failure := record.failure
  createdAt := record.createdAt
  updatedAt := record.updatedAt
  retainUntil := record.retainUntil

def run (env : Environment) (record : Record) : Except Error Run :=
  if record.schema ≠ recordSchema then
    .error (.other ("saga record schema " ++ quote record.schema ++ " is not " ++ recordSchema))
  else
    match record.carried.validate env with
    | some err => .error (.other ("validate saga record: " ++ err.text))
    | none => .ok record.carried

end Record

/-! ### What a record drops -/

/-- A part of the history of a run. -/
structure Past where
  transitions : List Transition
  failures : List Failure

def Past.none : Past := ⟨[], []⟩

namespace Run

def after (past : Past) (run : Run) : Run :=
  { run with
    transitions := past.transitions ++ run.transitions
    failures := past.failures ++ run.failures }

def recent (run : Run) : Run :=
  { run with transitions := newest run.transitions, failures := newest run.failures }

def dropped (run : Run) : Past where
  transitions := run.transitions.take (run.transitions.length - recordHistoryLimit)
  failures := run.failures.take (run.failures.length - recordHistoryLimit)

theorem after_none (run : Run) : run.after Past.none = run := rfl

theorem recent_after (run : Run) : run.recent.after run.dropped = run := by
  simp [recent, after, dropped, newest]

/-- Past failures that are public records change nothing for a validation. -/
theorem validate_after (env : Environment)
    (shown : ∀ failure ∈ past.failures, validatePublicFailure failure = none) (run : Run) :
    (run.after past).validate env = run.validate env := by
  have history : (past.failures ++ run.failures).findSome? validatePublicFailure =
      run.failures.findSome? validatePublicFailure := by
    rw [List.findSome?_append, List.findSome?_eq_none_iff.mpr shown, Option.none_or]
  have lineage (seen resources : List Resource) :
      (run.after past).resourcesFault seen resources = run.resourcesFault seen resources := by
    induction resources generalizing seen with
    | nil => rfl
    | cons resource rest ih =>
      rw [resourcesFault, resourcesFault, ih]
      rfl
  unfold validate
  rw [lineage]
  simp only [after, history]

theorem recent_valid {env : Environment} {run : Run} (valid : run.validate env = none) :
    run.recent.validate env = none ∧
      ∀ failure ∈ run.dropped.failures, validatePublicFailure failure = none := by
  have shown : ∀ failure ∈ run.dropped.failures, validatePublicFailure failure = none := by
    intro failure member
    exact ((validate_none_iff env run).mp valid).failures failure (List.mem_of_mem_take member)
  refine ⟨?_, shown⟩
  rw [← validate_after env shown, recent_after]
  exact valid

end Run

/-- A record of a valid run can be read back, as far as it goes. -/
theorem recordFromRun_run {env : Environment} {run : Run} (valid : run.validate env = none) :
    (recordFromRun run).run env = .ok run.recent := by
  have named : (recordFromRun run).schema = recordSchema := rfl
  have same : (recordFromRun run).carried = run.recent := rfl
  rw [Record.run, if_neg (not_not_intro named), same, (Run.recent_valid valid).1]

end Bahia.Saga
