import Bahia.Foundation.Calls
import Bahia.Saga.Store

/-! The engine that reconciles a persisted run with external reality, one checkpoint at a time. A
call is a program that asks the store, the clock and the drivers; whatever it is answered, its next
request is determined. -/

namespace Bahia.Saga
open Foundation

inductive Reality where
  | absent
  | matching
  | conflict
  | unknown (text : String)
  deriving DecidableEq

structure Observation where
  reality : Reality
  resources : List Resource
  detail : String
  deriving DecidableEq

structure Snapshot where
  requestID : String
  runID : String
  agentID : String
  specHash : String
  stage : Stage
  resources : List Resource
  deriving DecidableEq

def Run.snapshot (run : Run) : Snapshot :=
  ⟨run.requestID, run.runID, run.agentID, run.specHash, run.stage, run.resources⟩

inductive Cause where
  | safe (failure : SafeError)
  | other (text : String)

/-- What a call asks. The drivers of the forward stages exist; asking for another one is the end of
the process, and is never answered. -/
inductive Request where
  | create (run : Run)
  | load (requestID : String)
  | save (run : Run) (expectedVersion : Nat)
  | now
  | inspect (stage : Stage) (run : Snapshot) (resource : Option Resource)
  | apply (stage : Stage) (run : Snapshot) (key : String)
  | compensate (stage : Stage) (run : Snapshot) (resource : Resource) (key : String)
  | inspectTerminal (run : Snapshot) (stage : Stage) (failure : Option Failure)
  | publishTerminal (run : Snapshot) (stage : Stage) (failure : Option Failure) (key : String)
  | missingDriver

abbrev Response : Request → Type
  | .create _ => Option Error
  | .load _ => Except Error Run
  | .save _ _ => Option Error
  | .now => Moment
  | .inspect _ _ _ => Except Cause Observation
  | .apply _ _ _ => Option Cause
  | .compensate _ _ _ _ => Option Cause
  | .inspectTerminal _ _ _ => Except Cause Observation
  | .publishTerminal _ _ _ _ => Option Cause
  | .missingDriver => Empty

/-- What of an answer does not come from the store. -/
abbrev Outside : Request → Type
  | .create _ => Unit
  | .load _ => Unit
  | .save _ _ => Unit
  | request => Response request

/-- The store answers its own requests, the drivers and the clock the others. -/
def serve {env : Environment} (store : FileStore env) :
    (request : Request) → Outside request → FileStore env × Response request
  | .create run, _ => store.create run
  | .load requestID, _ => (store, store.load requestID)
  | .save run expected, _ => store.save run expected
  | .now, time => (store, time)
  | .inspect _ _ _, answer => (store, answer)
  | .apply _ _ _, answer => (store, answer)
  | .compensate _ _ _ _, answer => (store, answer)
  | .inspectTerminal _ _ _, answer => (store, answer)
  | .publishTerminal _ _ _ _, answer => (store, answer)
  | .missingDriver, answer => (store, answer)

abbrev Engine := Program Request Response

namespace Engine

def create (run : Run) : Engine (Option Error) := Program.request (Request.create run)

def load (requestID : String) : Engine (Except Error Run) := Program.request (Request.load requestID)

def now : Engine Moment := Program.request Request.now

def inspect (run : Run) (stage : Stage) (resource : Option Resource) :
    Engine (Except Cause Observation) :=
  if isForwardStage stage then Program.request (Request.inspect stage run.snapshot resource)
  else .ask .missingDriver nofun

def apply (run : Run) (stage : Stage) (key : String) : Engine (Option Cause) :=
  Program.request (Request.apply stage run.snapshot key)

def compensate (run : Run) (resource : Resource) (key : String) : Engine (Option Cause) :=
  Program.request (Request.compensate resource.stage run.snapshot resource key)

def inspectTerminal (run : Run) : Engine (Except Cause Observation) :=
  Program.request (Request.inspectTerminal run.snapshot run.stage run.failure)

def publishTerminal (run : Run) (key : String) : Engine (Option Cause) :=
  Program.request (Request.publishTerminal run.snapshot run.stage run.failure key)

end Engine

/-! ### Reports -/

structure Action where
  stage : Stage
  operation : String
  resourceRef : String

structure Report where
  requestID : String
  runID : String
  stage : Stage
  version : Nat
  dryRun : Bool
  actions : List Action
  failure : Option Failure

structure Reply where
  report : Option Report
  error : Option Error

/-- A step that failed, with the run as it is in memory. -/
structure Halt where
  error : Error
  run : Run

def reportFor (run : Run) (dry : Bool) : Report :=
  ⟨run.requestID, run.runID, run.stage, run.version, dry, [], run.failure⟩

def Report.act (report : Report) (action : Action) : Report :=
  { report with actions := report.actions ++ [action] }

def observationAction (env : Environment) (stage : Stage) (obs : Observation) : Action where
  stage
  operation := match obs.reality with
    | .absent => "create"
    | .matching => "adopt_or_confirm"
    | .conflict => "reject_conflict"
    | .unknown _ => ""
  resourceRef := match obs.resources with
    | [] => ""
    | resource :: _ => publicResourceRef env resource.system resource.kind resource.externalID

/-! ### Decisions -/

def publicFailure : Cause → String × String
  | .safe failure =>
    let code := trimSpace failure.code
    let code := safePublicCode (if code = "" then "stage_failed" else code)
    (code, safePublicMessage code)
  | .other _ => ("stage_failed", stageFailedMessage)

def retryable : Cause → Bool
  | .safe failure => failure.retryable
  | .other _ => false

def nextStage (run : Run) : Option Stage :=
  match run.stage with
  | .failedRecoverable => run.resumeStage
  | .requested => forwardStages.head?
  | stage => (forwardStages.dropWhile (· != stage)).tail.head?

/-- The stages that a loop from this run goes through. -/
def remainingStages (run : Run) : List Stage :=
  match nextStage run with
  | none => []
  | some stage => forwardStages.dropWhile (· != stage)

/-- `previousStage`; no stage, like a stage that is not a forward one, comes from `requested`. -/
def previousStage : Option Stage → Stage
  | none => .requested
  | some stage =>
    if isForwardStage stage then (forwardStages.takeWhile (· != stage)).getLast?.getD .requested
    else .requested

def observedResource (env : Environment) (resources : List Resource) (key : String) :
    Option Resource :=
  resources.find? fun resource =>
    { resource with
      externalID := publicResourceRef env resource.system resource.kind resource.externalID }.key == key

/-- `enforceObservation`: a match without the run's own lineage is a conflict. -/
def enforceObservation (run : Run) (stage : Stage) (obs : Observation) : Observation :=
  if obs.reality ≠ .matching then obs
  else if obs.resources = [] ∨
      obs.resources.any (fun resource =>
        resource.specHash != run.specHash || resource.correlationID != run.requestID) ∨
      (stage.terminalProjection && !hasTerminalProjection obs.resources run stage) then
    { obs with reality := .conflict }
  else obs

/-- In the order in which they are compensated; the later of equals first. -/
def compensateBefore (first second : Resource) : Prop :=
  if first.compensationOrder ≠ second.compensationOrder then
    first.compensationOrder < second.compensationOrder
  else second.recordedAt ≤ first.recordedAt

instance : DecidableRel compensateBefore :=
  fun first second => by unfold compensateBefore; infer_instance

def sortForCompensation (resources : List Resource) : List Resource :=
  resources.insertionSort fun first second => first.compensationOrder ≤ second.compensationOrder

def compensable (run : Run) : List Resource :=
  (sortForCompensation (run.resources.filter fun resource =>
    decide (resource.OwnedBy run.runID))).insertionSort compensateBefore

def compensated (run : Run) (key : String) : Bool :=
  run.compensations.any (·.resourceKey == key)

/-! ### Updates of the run in memory -/

namespace Run

def recorded (run : Run) (resource : Resource) : Run :=
  { run with resources := run.resources ++ [resource] }

def moved (run : Run) (target : Stage) (time : Time) : Run :=
  { run with
    stage := target
    failure := none
    resumeStage := none
    transitions := run.transitions ++ [⟨run.stage, target, time⟩] }

def compensation (env : Environment) (run : Run) (resource : Resource) (outcome : String)
    (time : Time) : Run :=
  { run with
    compensations := run.compensations ++
      [⟨resource.key, run.compensationKey env resource, outcome, time⟩] }

def failing (run : Run) (stage : Stage) (shown : String × String) (canRetry : Bool)
    (failedAt movedAt : Time) : Run :=
  let target := if canRetry then Stage.failedRecoverable else .failedTerminal
  { run with
    stage := target
    resumeStage := if canRetry then some stage else run.resumeStage
    failure := some ⟨stage, shown.1, shown.2, canRetry, failedAt⟩
    failures := run.failures ++ [⟨stage, shown.1, shown.2, canRetry, failedAt⟩]
    transitions := run.transitions ++ [⟨run.stage, target, movedAt⟩] }

def rollingBack (run : Run) (stage : Stage) (shown : String × String) (failedAt movedAt : Time) :
    Run :=
  { run with
    stage := .rollbackPending
    failure := some ⟨stage, shown.1, shown.2, false, failedAt⟩
    failures := run.failures ++ [⟨stage, shown.1, shown.2, false, failedAt⟩]
    transitions := run.transitions ++ [⟨run.stage, .rollbackPending, movedAt⟩] }

def rollbackRetry (run : Run) (stage : Stage) (shown : String × String) (failedAt : Time) : Run :=
  { run with
    stage := .rollbackPending
    failure := some ⟨stage, shown.1, shown.2, true, failedAt⟩
    failures := run.failures ++ [⟨stage, shown.1, shown.2, true, failedAt⟩] }

def rollbackLost (run : Run) (stage : Stage) (shown : String × String) (failedAt movedAt : Time) :
    Run :=
  { run with
    stage := .failedTerminal
    failure := some ⟨stage, shown.1, shown.2, false, failedAt⟩
    failures := run.failures ++ [⟨stage, shown.1, shown.2, false, failedAt⟩]
    transitions := run.transitions ++ [⟨run.stage, .failedTerminal, movedAt⟩] }

def stamped (run : Run) (time : Time) : Run :=
  { run with version := run.version + 1, updatedAt := time }

end Run

end Bahia.Saga
