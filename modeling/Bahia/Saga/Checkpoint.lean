import Bahia.Saga.Engine

/-! The saves of a call: transitions, recorded resources, failures, and the projection of a run that
has ended. -/

namespace Bahia.Saga
open Foundation
variable (env : Environment) (policy : RetentionPolicy)

def save (run : Run) : Engine (Except Halt Run) := do
  let time ← Engine.now
  match ← (Program.request (Request.save (run.stamped time.val) run.version) : Engine (Option Error)) with
  | none => return .ok (run.stamped time.val)
  | some error => return .error ⟨error, { run with updatedAt := time.val }⟩

def transition (run : Run) (target : Stage) : Engine (Except Halt Run) := do
  let time ← Engine.now
  save (run.moved target time.val)

/-- A resource as it is recorded: its own time, if it has one. -/
def stampResource (resource : Resource) : Engine Resource :=
  if resource.recordedAt = 0 then do
    let time ← Engine.now
    return { resource with recordedAt := time.val }
  else return resource

/-- The lineage under which a stage records an observed resource. -/
def stageResource (run : Run) (stage : Stage) (resource : Resource) : Resource :=
  { resource with
    stage
    idempotencyKey := run.stageKey env stage
    externalID := publicResourceRef env resource.system resource.kind resource.externalID }

/-- `checkpointResource` after the record time is set. -/
def recordResource (run : Run) (resource : Resource) : Engine (Except Halt Run) :=
  match resource.validate run.runID with
  | some text => return .error ⟨.other text, run⟩
  | none =>
    if resource.specHash ≠ run.specHash then
      return .error ⟨.other "inspected resource spec does not match requested saga spec", run⟩
    else if resource.correlationID ≠ run.requestID then
      return .error ⟨.other "inspected resource correlation does not match saga request", run⟩
    else
      match run.resources.find? (·.key == resource.key) with
      | some current =>
        if current.SameLineage resource then return .ok run
        else return .error ⟨.conflict "", run⟩
      | none => save (run.recorded resource)

def checkpointResource (run : Run) (stage : Stage) (resource : Resource) :
    Engine (Except Halt Run) := do
  let resource ← stampResource (stageResource env run stage resource)
  recordResource run resource

def checkpointEach (stage : Stage) : List Resource → Run → Engine (Except Halt Run)
  | [], run => return .ok run
  | resource :: rest, run => do
    match ← checkpointResource env run stage resource with
    | .error halt => return .error halt
    | .ok run => checkpointEach stage rest run

def checkpointResources (run : Run) (stage : Stage) (resources : List Resource) :
    Engine (Except Halt Run) :=
  if stage.terminalProjection && !hasTerminalProjection resources run stage then
    return .error
      ⟨.other "running stage omitted correlated Bahia terminal projection lineage", run⟩
  else checkpointEach env stage resources run

/-- The lineage under which a resource of a conflict is recorded. -/
def conflictResource (run : Run) (stage : Stage) (resource : Resource) : Resource :=
  { resource with
    stage
    conflict := true
    idempotencyKey := run.stageKey env stage
    externalID := publicResourceRef env resource.system resource.kind resource.externalID
    specHash := deriveKey env run.rootKey ("conflict-spec/" ++ resource.specHash)
    correlationID := deriveKey env run.rootKey ("conflict-correlation/" ++ resource.correlationID) }

def checkpointConflictResources (stage : Stage) : List Resource → Run → Engine (Except Halt Run)
  | [], run => return .ok run
  | resource :: rest, run =>
    if ¬ resource.OwnedBy run.runID then checkpointConflictResources stage rest run
    else do
      let resource ← stampResource (conflictResource env run stage resource)
      match resource.validate run.runID with
      | some text => return .error ⟨.other text, run⟩
      | none =>
        match ← save (run.recorded resource) with
        | .error halt => return .error halt
        | .ok run => checkpointConflictResources stage rest run

/-! ### Terminal projection -/

def terminalMismatch : SafeError := ⟨"terminal_projection_mismatch", "", true⟩

def terminalConflict : SafeError := ⟨"terminal_projection_conflict", "", false⟩

/-- The last check of `ensureTerminal`, and the checkpoint of the projection. -/
def recordTerminal (run : Run) (obs : Observation) : Engine (Except Halt Run) :=
  if obs.reality ≠ .matching ∨ hasTerminalProjection obs.resources run run.stage = false then
    return .error ⟨.safe terminalMismatch, run⟩
  else checkpointResources env run run.stage obs.resources

def ensureTerminal (run : Run) : Engine (Except Halt Run) := do
  match ← Engine.inspectTerminal run with
  | .error _ => return .error ⟨.safe terminalMismatch, run⟩
  | .ok obs =>
    if obs.reality = .conflict then return .error ⟨.safe terminalConflict, run⟩
    else if obs.reality = .absent then do
      let _ ← Engine.publishTerminal run (deriveKey env run.rootKey ("terminal/" ++ run.stage.text))
      match ← Engine.inspectTerminal run with
      | .error _ => return .error ⟨.safe terminalMismatch, run⟩
      | .ok obs => recordTerminal env run obs
    else recordTerminal env run obs

def inspectTerminal (run : Run) : Engine Reply := do
  match ← Engine.inspectTerminal run with
  | .error _ => return ⟨some ((reportFor run true).act ⟨run.stage, "inspect_failed", ""⟩), none⟩
  | .ok obs => return ⟨some ((reportFor run true).act (observationAction env run.stage obs)), none⟩

/-- The answer to a call that leaves a failed run, after the run has been projected if it ended. -/
def replyFailed (run : Run) (failure : SafeError) : Engine Reply :=
  if run.stage = .failedTerminal then do
    match ← ensureTerminal env run with
    | .error halt => return ⟨some (reportFor halt.run false), some (.safe terminalMismatch)⟩
    | .ok run => return ⟨some (reportFor run false), some (.safe failure)⟩
  else return ⟨some (reportFor run false), some (.safe failure)⟩

def fail (run : Run) (stage : Stage) (cause : Cause) (canRetry : Bool) : Engine Reply := do
  let failedAt ← Engine.now
  let movedAt ← Engine.now
  let markedAt ← Engine.now
  let failing := run.failing stage (publicFailure cause) canRetry failedAt.val movedAt.val
  match ← save (policy.mark failing markedAt.val) with
  | .error halt => return ⟨none, some halt.error⟩
  | .ok run =>
    replyFailed env run ⟨(publicFailure cause).1, (publicFailure cause).2, canRetry⟩

end Bahia.Saga
