import Bahia.Saga.Checkpoint

/-! Rollback: what the run made is inspected and compensated, one resource after another, in a fixed
order. -/

namespace Bahia.Saga
open Foundation
variable (env : Environment) (policy : RetentionPolicy)

def rollbackFail (run : Run) (stage : Stage) (cause : Cause) (canRetry : Bool) : Engine Reply := do
  let failedAt ← Engine.now
  let failed ← if canRetry then
      pure (run.rollbackRetry stage (publicFailure cause) failedAt.val)
    else do
      let movedAt ← Engine.now
      let markedAt ← Engine.now
      pure (policy.mark (run.rollbackLost stage (publicFailure cause) failedAt.val movedAt.val)
        markedAt.val)
  match ← save failed with
  | .error halt => return ⟨none, some halt.error⟩
  | .ok run =>
    replyFailed env run ⟨(publicFailure cause).1, (publicFailure cause).2, canRetry⟩

def recordCompensation (run : Run) (resource : Resource) (outcome : String) :
    Engine (Except Halt Run) := do
  let time ← Engine.now
  save (run.compensation env resource outcome time.val)

/-- A resource that is still this run's, as it was recorded unless it was recorded in a conflict. -/
def StillOwned (run : Run) (resource : Resource) (obs : Observation) : Prop :=
  obs.reality = .matching ∧ ∃ observed ∈ observedResource env obs.resources resource.key,
    observed.OwnedBy run.runID ∧ (resource.conflict = false → observed.specHash = resource.specHash)

instance (run : Run) (resource : Resource) (obs : Observation) :
    Decidable (StillOwned env run resource obs) := by
  unfold StillOwned
  cases observedResource env obs.resources resource.key with
  | none => exact isFalse (by simp)
  | some observed =>
    exact decidable_of_iff (obs.reality = .matching ∧ observed.OwnedBy run.runID ∧
      (resource.conflict = false → observed.specHash = resource.specHash)) (by simp)

/-- A resource that its compensator has kept and given up. -/
def Relinquished (resource : Resource) (obs : Observation) : Prop :=
  obs.reality = .matching ∧ ∃ observed ∈ observedResource env obs.resources resource.key,
    (observed.ownership = .adopted ∨ observed.ownership = .preExisting) ∧ observed.ownerRunID = ""

instance (resource : Resource) (obs : Observation) : Decidable (Relinquished env resource obs) := by
  unfold Relinquished
  cases observedResource env obs.resources resource.key with
  | none => exact isFalse (by simp)
  | some observed =>
    exact decidable_of_iff (obs.reality = .matching ∧
      (observed.ownership = .adopted ∨ observed.ownership = .preExisting) ∧
        observed.ownerRunID = "") (by simp)

def rollbackOwnershipConflict : Cause :=
  .safe ⟨"rollback_ownership_conflict", "resource ownership changed; compensation refused", false⟩

def compensationMismatch : Cause :=
  .safe ⟨"compensation_postcondition_mismatch", "resource remains after compensation", true⟩

/-- What a call answers when a save fails. -/
def orHalt (saved : Engine (Except Halt Run)) : Engine (Except Reply Run) := do
  match ← saved with
  | .error halt => return .error ⟨none, some halt.error⟩
  | .ok run => return .ok run

def ends (reply : Engine Reply) : Engine (Except Reply Run) := do
  return .error (← reply)

def compensateOwned (run : Run) (resource : Resource) : Engine (Except Reply Run) := do
  match ← Engine.compensate run resource (run.compensationKey env resource) with
  | some cause => ends (rollbackFail env policy run resource.stage cause (retryable cause))
  | none =>
    match ← Engine.inspect run resource.stage (some resource) with
    | .error cause => ends (rollbackFail env policy run resource.stage cause true)
    | .ok post =>
      if Relinquished env resource post then orHalt (recordCompensation env run resource "preserved")
      else if post.reality ≠ .absent then
        ends (rollbackFail env policy run resource.stage compensationMismatch true)
      else orHalt (recordCompensation env run resource "removed")

/-- One turn of the rollback: inspect, then compensate what is still owned. -/
def compensateOne (run : Run) (resource : Resource) : Engine (Except Reply Run) := do
  match ← Engine.inspect run resource.stage (some resource) with
  | .error cause => ends (rollbackFail env policy run resource.stage cause true)
  | .ok obs =>
    if obs.reality = .absent then orHalt (recordCompensation env run resource "already_absent")
    else if StillOwned env run resource obs then compensateOwned env policy run resource
    else ends (rollbackFail env policy run resource.stage rollbackOwnershipConflict false)

def compensateEach : List Resource → Run → Engine (Except Reply Run)
  | [], run => return .ok run
  | resource :: rest, run =>
    if compensated run resource.key then compensateEach rest run
    else do
      match ← compensateOne env policy run resource with
      | .error reply => return .error reply
      | .ok run => compensateEach rest run

/-- The deadline of a run that has just ended, in a save of its own. -/
def markRetention (run : Run) : Engine (Except Halt Run) := do
  let time ← Engine.now
  if (policy.mark run time.val).retainUntil.isSome then save (policy.mark run time.val)
  else return .ok (policy.mark run time.val)

/-- `SafeAbort` after the last compensation: the end, its deadline and its projection. -/
def finishRollback (run : Run) : Engine Reply := do
  match ← transition run .rolledBack with
  | .error halt => return ⟨none, some halt.error⟩
  | .ok run =>
    match ← markRetention policy run with
    | .error halt => return ⟨none, some halt.error⟩
    | .ok run =>
      match ← ensureTerminal env run with
      | .error halt => return ⟨some (reportFor halt.run false), some halt.error⟩
      | .ok run => return ⟨some (reportFor run false), none⟩

def rollback (run : Run) : Engine Reply := do
  match ← compensateEach env policy (compensable run) run with
  | .error reply => return reply
  | .ok run => finishRollback env policy run

/-- The dry run of one turn, which holds a conflict resource to its recorded spec too. -/
def previewResource (run : Run) (resource : Resource) : Engine Action := do
  match ← Engine.inspect run resource.stage (some resource) with
  | .error _ => return ⟨resource.stage, "inspect_failed", resource.externalID⟩
  | .ok obs =>
    if StillOwned env run { resource with conflict := false } obs then
      return ⟨resource.stage, "compensate", resource.externalID⟩
    else return ⟨resource.stage, "skip_not_owned", resource.externalID⟩

def previewRollback (run : Run) : List Resource → Engine (List Action)
  | [] => return []
  | resource :: rest => do
    let action ← previewResource env run resource
    let actions ← previewRollback run rest
    return action :: actions

def abortRun (run : Run) (dryRun : Bool) : Engine Reply :=
  if run.stage.terminalProjection then return ⟨some (reportFor run dryRun), none⟩
  else if dryRun then do
    let actions ← previewRollback env run (compensable run)
    return ⟨some { reportFor run true with actions }, none⟩
  else if run.stage ≠ .rollbackPending then do
    match ← transition run .rollbackPending with
    | .error halt => return ⟨none, some halt.error⟩
    | .ok run => rollback env policy run
  else rollback env policy run

def safeAbort (requestID : String) (dryRun : Bool) : Engine Reply := do
  match ← Engine.load requestID with
  | .error err => return ⟨none, some err⟩
  | .ok run => abortRun env policy run dryRun

def failAndRollback (run : Run) (stage : Stage) (cause : Cause) : Engine Reply := do
  let failedAt ← Engine.now
  let movedAt ← Engine.now
  match ← save (run.rollingBack stage (publicFailure cause) failedAt.val movedAt.val) with
  | .error halt => return ⟨none, some halt.error⟩
  | .ok run => do
    let reply ← safeAbort env policy run.requestID false
    match reply.error with
    | some _ => return ⟨reply.report, some (.safe ⟨"stage_failed", "", false⟩)⟩
    | none =>
      return ⟨reply.report,
        some (.safe ⟨(publicFailure cause).1, (publicFailure cause).2, false⟩)⟩

end Bahia.Saga
