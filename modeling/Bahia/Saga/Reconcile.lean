import Bahia.Saga.Rollback

/-! The calls of an engine. Reconciliation enters one stage after another, each one only after an
inspection that found it in place. -/

namespace Bahia.Saga
open Foundation
variable (env : Environment) (policy : RetentionPolicy)

def ownershipConflict : Cause :=
  .safe ⟨"ownership_conflict",
    "external resource ownership or spec conflicts with requested saga", false⟩

def postconditionMismatch : Cause :=
  .safe ⟨"postcondition_mismatch", "external state did not match after mutation", true⟩

/-- A conflict: what this run made of it is recorded, and the run rolls back. -/
def settleConflict (run : Run) (stage : Stage) (resources : List Resource) : Engine Reply := do
  match ← checkpointConflictResources env stage resources run with
  | .error halt => return ⟨none, some halt.error⟩
  | .ok run => failAndRollback env policy run stage ownershipConflict

/-- A match: its resources are recorded, and the stage is entered. -/
def enterStage (run : Run) (stage : Stage) (resources : List Resource) :
    Engine (Except Halt Run) := do
  match ← checkpointResources env run stage resources with
  | .error halt => return .error halt
  | .ok run => transition run stage

/-- After `Apply` and an inspection that settled nothing. -/
def failApplied (run : Run) (stage : Stage) (applied : Option Cause) (verified : Option Cause) :
    Engine Reply :=
  match applied, verified with
  | some cause, _ =>
    if retryable cause then fail env policy run stage cause true
    else failAndRollback env policy run stage cause
  | none, some cause => fail env policy run stage cause true
  | none, none => fail env policy run stage postconditionMismatch true

/-- After `Apply`: its response is never trusted before an inspection. -/
def settleApplied (run : Run) (stage : Stage) (applied : Option Cause)
    (inspected : Except Cause Observation) : Engine (Except Reply Run) :=
  match inspected with
  | .error cause => ends (failApplied env policy run stage applied (some cause))
  | .ok obs =>
    let verified := enforceObservation run stage obs
    if verified.reality = .matching ∧ verified.resources ≠ [] then
      orHalt (enterStage env run stage verified.resources)
    else if verified.reality = .conflict then
      ends (settleConflict env policy run stage verified.resources)
    else ends (failApplied env policy run stage applied none)

def applyStage (run : Run) (stage : Stage) : Engine (Except Reply Run) := do
  let applied ← Engine.apply run stage (run.stageKey env stage)
  let inspected ← Engine.inspect run stage none
  settleApplied env policy run stage applied inspected

def omittedLineage : Error := .other "matching inspection omitted resource lineage"

def invalidReality (text : String) : Error := .other ("invalid inspection reality " ++ quote text)

/-- What the loop does with one stage. -/
def settleStage (run : Run) (stage : Stage) (inspected : Except Cause Observation) :
    Engine (Except Reply Run) :=
  match inspected with
  | .error cause => ends (fail env policy run stage cause true)
  | .ok obs =>
    let obs := enforceObservation run stage obs
    match obs.reality with
    | .conflict => ends (settleConflict env policy run stage obs.resources)
    | .matching =>
      if obs.resources = [] then return .error ⟨none, some omittedLineage⟩
      else orHalt (enterStage env run stage obs.resources)
    | .unknown text => return .error ⟨none, some (invalidReality text)⟩
    | .absent => applyStage env policy run stage

/-- The loop of `Reconcile`, over the stages that are left. -/
def advance : List Stage → Run → Engine Reply
  | [], run => return ⟨some (reportFor run false), none⟩
  | stage :: rest, run => do
    let inspected ← Engine.inspect run stage none
    match ← settleStage env policy run stage inspected with
    | .error reply => return reply
    | .ok run =>
      if stage = .running then return ⟨some (reportFor run false), none⟩ else advance rest run

def inspectStage (run : Run) (stage : Stage) : Engine Reply := do
  match ← Engine.inspect run stage none with
  | .error _ => return ⟨some ((reportFor run true).act ⟨stage, "inspect_failed", ""⟩), none⟩
  | .ok obs =>
    let obs := enforceObservation run stage obs
    return ⟨some ((reportFor run true).act (observationAction env stage obs)), none⟩

/-- The dry run of the loop, which ends at its first stage. -/
def previewStage (run : Run) (stage : Stage) : Engine Reply := do
  match ← Engine.inspect run stage none with
  | .error _ => return ⟨some ((reportFor run true).act ⟨stage, "inspect_failed", ""⟩), none⟩
  | .ok obs =>
    let obs := enforceObservation run stage obs
    match obs.reality with
    | .unknown text => return ⟨none, some (invalidReality text)⟩
    | .matching =>
      if obs.resources = [] then return ⟨none, some omittedLineage⟩
      else return ⟨some ((reportFor run true).act (observationAction env stage obs)), none⟩
    | _ => return ⟨some ((reportFor run true).act (observationAction env stage obs)), none⟩

/-- A dry run; one of a failed run asks the driver of the stage to resume. -/
def preview (run : Run) : Engine Reply :=
  if run.stage = .failedRecoverable then
    match run.resumeStage with
    | none => .ask .missingDriver nofun
    | some stage => inspectStage env run stage
  else
    match nextStage run with
    | none => return ⟨some (reportFor run true), none⟩
    | some stage => previewStage env run stage

/-- A run that has ended is only projected. -/
def reconcileEnded (run : Run) (dryRun : Bool) : Engine Reply :=
  if dryRun then inspectTerminal env run
  else do
    match ← ensureTerminal env run with
    | .error halt => return ⟨some (reportFor halt.run false), some halt.error⟩
    | .ok run => return ⟨some (reportFor run false), none⟩

/-- `Reconcile` of the loaded run, a pending rollback apart. -/
def reconcileRun (run : Run) (dryRun : Bool) : Engine Reply :=
  if run.stage.terminalProjection then reconcileEnded env run dryRun
  else if dryRun then preview env run
  else if run.stage = .failedRecoverable then do
    match ← transition run (previousStage run.resumeStage) with
    | .error halt => return ⟨none, some halt.error⟩
    | .ok run => advance env policy (remainingStages run) run
  else advance env policy (remainingStages run) run

def reconcile (requestID : String) (dryRun : Bool) : Engine Reply := do
  match ← Engine.load requestID with
  | .error err => return ⟨none, some err⟩
  | .ok run =>
    if run.stage = .rollbackPending then safeAbort env policy requestID dryRun
    else reconcileRun env policy run dryRun

def retry (requestID : String) (dryRun : Bool) : Engine Reply :=
  reconcile env policy requestID dryRun

def inspectRun (requestID : String) : Engine Reply := do
  match ← Engine.load requestID with
  | .error err => return ⟨none, some err⟩
  | .ok run =>
    match nextStage run with
    | none => return ⟨some (reportFor run true), none⟩
    | some stage => inspectStage env run stage

/-- `Start`: an existing run of the same identity is the answer. -/
def start (requestID runID agentID specHash : String) : Engine (Except Error Run) := do
  let time ← Engine.now
  match Run.new env requestID runID agentID specHash time.val with
  | .error err => return .error err
  | .ok run =>
    match ← Engine.create run with
    | none => return .ok run
    | some (.conflict _) =>
      match ← Engine.load requestID with
      | .error err => return .error err
      | .ok existing =>
        if existing.runID ≠ runID ∨ existing.agentID ≠ agentID ∨ existing.specHash ≠ specHash then
          return .error (.conflict ": request identity or spec differs")
        else return .ok existing
    | some err => return .error err

inductive Call where
  | start (requestID runID agentID specHash : String)
  | inspect (requestID : String)
  | reconcile (requestID : String) (dryRun : Bool)
  | retry (requestID : String) (dryRun : Bool)
  | safeAbort (requestID : String) (dryRun : Bool)

def Call.body : Call → Engine Unit
  | .start requestID runID agentID specHash => do
    let _ ← Saga.start env requestID runID agentID specHash
  | .inspect requestID => do
    let _ ← inspectRun env requestID
  | .reconcile requestID dryRun => do
    let _ ← Saga.reconcile env policy requestID dryRun
  | .retry requestID dryRun => do
    let _ ← Saga.retry env policy requestID dryRun
  | .safeAbort requestID dryRun => do
    let _ ← Saga.safeAbort env policy requestID dryRun

abbrev Happens := Happening Call Request Outside

end Bahia.Saga
