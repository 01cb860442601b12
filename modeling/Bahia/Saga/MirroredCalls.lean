import Bahia.Saga.Mirror

/-! Every call of an engine mirrors itself on a bounded history: part by part, it asks the same and
returns the same, up to the missing part of a run. -/

namespace Bahia.Saga
open Foundation

/-- Requests and answers that differ at most by the missing part of a run. -/
def missing (past : String → Past) : Coupling Request Response where
  requests first second :=
    match second with
    | .save run expected => first = .save (whole past run) expected
    | request => first = request
  responses
    | .create _, .create _, first, second => first = second
    | .load _, .load _, first, second => first = second.map (whole past)
    | .save _ _, .save _ _, first, second => first = second
    | .now, .now, first, second => first = second
    | .inspect _ _ _, .inspect _ _ _, first, second => first = second
    | .apply _ _ _, .apply _ _ _, first, second => first = second
    | .compensate _ _ _ _, .compensate _ _ _ _, first, second => first = second
    | .inspectTerminal _ _ _, .inspectTerminal _ _ _, first, second => first = second
    | .publishTerminal _ _ _ _, .publishTerminal _ _ _ _, first, second => first = second
    | _, _, _, _ => False

/-- Programs that ask alike and whose results correspond by this function. -/
def Mirrors (past : String → Past) {First Second : Type} (image : Second → First)
    (full : Engine First) (bounded : Engine Second) : Prop :=
  full.Alike (missing past) (fun first second => first = image second) bounded

def wholeHalt (past : String → Past) : Except Halt Run → Except Halt Run
  | .ok run => .ok (whole past run)
  | .error halt => .error ⟨halt.error, whole past halt.run⟩

def wholeReply (past : String → Past) : Except Reply Run → Except Reply Run
  | .ok run => .ok (whole past run)
  | .error reply => .error reply

variable {past : String → Past}

theorem Mirrors.bind (mirrors : Mirrors past image full bounded)
    (continues : ∀ value, Mirrors past final (rest (image value)) (further value)) :
    Mirrors past final (full >>= rest) (bounded >>= further) := by
  refine Program.Alike.bind mirrors ?_
  rintro _ value rfl
  exact continues value

theorem returns_mirrors (same : first = image second) :
    Mirrors past image (pure first) (pure second) := same

theorem now_mirrors : Mirrors past id Engine.now Engine.now := Program.Alike.request rfl

theorem inspect_mirrors (run : Run) (stage : Stage) (resource : Option Resource) :
    Mirrors past id (Engine.inspect (whole past run) stage resource)
      (Engine.inspect run stage resource) := by
  unfold Engine.inspect
  split
  · exact Program.Alike.request rfl
  · exact ⟨rfl, fun impossible => nomatch impossible⟩

theorem inspectTerminal_mirrors (run : Run) :
    Mirrors past id (Engine.inspectTerminal (whole past run)) (Engine.inspectTerminal run) :=
  Program.Alike.request rfl

theorem publishTerminal_mirrors (run : Run) (key : String) :
    Mirrors past id (Engine.publishTerminal (whole past run) key) (Engine.publishTerminal run key) :=
  Program.Alike.request rfl

/-! ### Checkpoints -/

theorem save_mirrors (run : Run) :
    Mirrors past (wholeHalt past) (save (whole past run)) (save run) := by
  apply now_mirrors.bind
  intro time
  have asked : Mirrors past id
      (Program.request (Request.save ((whole past run).stamped time.val) (whole past run).version))
      (Program.request (Request.save (run.stamped time.val) run.version)) := Program.Alike.request rfl
  apply asked.bind
  intro answer
  cases answer with
  | none | some => exact rfl

theorem transition_mirrors (run : Run) (target : Stage) :
    Mirrors past (wholeHalt past) (transition (whole past run) target) (transition run target) := by
  apply now_mirrors.bind
  intro time
  rw [id, whole_moved]
  exact save_mirrors _

theorem stampResource_mirrors (resource : Resource) :
    Mirrors past id (stampResource resource) (stampResource resource) := by
  unfold stampResource
  split
  · apply now_mirrors.bind
    intro time
    exact rfl
  · exact rfl

theorem recordResource_mirrors (run : Run) (resource : Resource) :
    Mirrors past (wholeHalt past) (recordResource (whole past run) resource)
      (recordResource run resource) := by
  have fields : (whole past run).runID = run.runID ∧ (whole past run).specHash = run.specHash ∧
      (whole past run).requestID = run.requestID ∧ (whole past run).resources = run.resources :=
    ⟨rfl, rfl, rfl, rfl⟩
  obtain ⟨owner, spec, request, resources⟩ := fields
  unfold recordResource
  rw [owner, spec, request, resources]
  split
  · exact rfl
  split
  · exact rfl
  split
  · exact rfl
  split
  · split
    · exact rfl
    · exact rfl
  · exact save_mirrors (run.recorded resource)

theorem checkpointEach_mirrors (stage : Stage) (resources : List Resource) (run : Run) :
    Mirrors past (wholeHalt past) (checkpointEach env stage resources (whole past run))
      (checkpointEach env stage resources run) := by
  induction resources generalizing run with
  | nil => exact rfl
  | cons resource rest ih =>
    have one : Mirrors past (wholeHalt past) (checkpointResource env (whole past run) stage resource)
        (checkpointResource env run stage resource) := by
      apply (stampResource_mirrors _).bind
      intro stamped
      exact recordResource_mirrors run stamped
    rw [checkpointEach, checkpointEach]
    apply one.bind
    intro result
    cases result with
    | error => exact rfl
    | ok next => exact ih next

theorem checkpointResources_mirrors (run : Run) (stage : Stage) (resources : List Resource) :
    Mirrors past (wholeHalt past) (checkpointResources env (whole past run) stage resources)
      (checkpointResources env run stage resources) := by
  have projected : hasTerminalProjection resources (whole past run) stage =
      hasTerminalProjection resources run stage := rfl
  unfold checkpointResources
  rw [projected]
  split
  · exact rfl
  · exact checkpointEach_mirrors stage resources run

theorem checkpointConflictResources_mirrors (stage : Stage) (resources : List Resource) (run : Run) :
    Mirrors past (wholeHalt past) (checkpointConflictResources env stage resources (whole past run))
      (checkpointConflictResources env stage resources run) := by
  induction resources generalizing run with
  | nil => exact rfl
  | cons resource rest ih =>
    have owner : (whole past run).runID = run.runID := rfl
    rw [checkpointConflictResources, checkpointConflictResources, owner]
    split
    · exact ih run
    apply (stampResource_mirrors _).bind
    intro stamped
    dsimp only [id]
    split
    · exact rfl
    apply (save_mirrors (run.recorded stamped)).bind
    intro result
    cases result with
    | error => exact rfl
    | ok next => exact ih next

/-! ### Projections and failures -/

theorem recordTerminal_mirrors (run : Run) (obs : Observation) :
    Mirrors past (wholeHalt past) (recordTerminal env (whole past run) obs)
      (recordTerminal env run obs) := by
  have projected : hasTerminalProjection obs.resources (whole past run) (whole past run).stage =
      hasTerminalProjection obs.resources run run.stage := rfl
  unfold recordTerminal
  rw [projected]
  split
  · exact rfl
  · exact checkpointResources_mirrors run run.stage obs.resources

theorem ensureTerminal_mirrors (run : Run) :
    Mirrors past (wholeHalt past) (ensureTerminal env (whole past run)) (ensureTerminal env run) := by
  apply (inspectTerminal_mirrors run).bind
  intro answer
  cases answer with
  | error => exact rfl
  | ok obs =>
    dsimp only [id]
    split
    · exact rfl
    split
    · apply (publishTerminal_mirrors run _).bind
      intro _
      apply (inspectTerminal_mirrors run).bind
      intro answer
      cases answer with
      | error => exact rfl
      | ok obs => exact recordTerminal_mirrors run obs
    · exact recordTerminal_mirrors run obs

theorem inspectTerminalCall_mirrors (run : Run) :
    Mirrors past id (inspectTerminal env (whole past run)) (inspectTerminal env run) := by
  apply (inspectTerminal_mirrors run).bind
  intro answer
  cases answer with
  | error | ok => exact rfl

theorem replyFailed_mirrors (run : Run) (failure : SafeError) :
    Mirrors past id (replyFailed env (whole past run) failure) (replyFailed env run failure) := by
  have stage : (whole past run).stage = run.stage := rfl
  unfold replyFailed
  rw [stage]
  split
  · apply (ensureTerminal_mirrors run).bind
    intro result
    cases result with
    | error | ok => exact rfl
  · exact rfl

theorem fail_mirrors (run : Run) (stage : Stage) (cause : Cause) (canRetry : Bool) :
    Mirrors past id (fail env policy (whole past run) stage cause canRetry)
      (fail env policy run stage cause canRetry) := by
  apply now_mirrors.bind
  intro failedAt
  apply now_mirrors.bind
  intro movedAt
  apply now_mirrors.bind
  intro markedAt
  dsimp only [id]
  rw [whole_failing, whole_mark]
  apply (save_mirrors _).bind
  intro result
  cases result with
  | error => exact rfl
  | ok next => exact replyFailed_mirrors next _

/-! ### Rollback -/

theorem rollbackFail_mirrors (run : Run) (stage : Stage) (cause : Cause) (canRetry : Bool) :
    Mirrors past id (rollbackFail env policy (whole past run) stage cause canRetry)
      (rollbackFail env policy run stage cause canRetry) := by
  apply now_mirrors.bind
  intro failedAt
  cases canRetry with
  | true =>
    have retried : Mirrors past (whole past)
        (pure ((whole past run).rollbackRetry stage (publicFailure cause) failedAt.val) : Engine Run)
        (pure (run.rollbackRetry stage (publicFailure cause) failedAt.val)) :=
      returns_mirrors (whole_rollbackRetry past run stage _ _)
    apply retried.bind
    intro failed
    apply (save_mirrors failed).bind
    intro result
    cases result with
    | error => exact rfl
    | ok next => exact replyFailed_mirrors next _
  | false =>
    apply now_mirrors.bind
    intro movedAt
    apply now_mirrors.bind
    intro markedAt
    have lost : Mirrors past (whole past)
        (pure (policy.mark ((whole past run).rollbackLost stage (publicFailure cause) failedAt.val
          movedAt.val) markedAt.val) : Engine Run)
        (pure (policy.mark (run.rollbackLost stage (publicFailure cause) failedAt.val movedAt.val)
          markedAt.val)) := by
      apply returns_mirrors
      rw [whole_rollbackLost, whole_mark]
    apply lost.bind
    intro failed
    apply (save_mirrors failed).bind
    intro result
    cases result with
    | error => exact rfl
    | ok next => exact replyFailed_mirrors next _

theorem recordCompensation_mirrors (run : Run) (resource : Resource) (outcome : String) :
    Mirrors past (wholeHalt past) (recordCompensation env (whole past run) resource outcome)
      (recordCompensation env run resource outcome) := by
  apply now_mirrors.bind
  intro time
  exact save_mirrors (run.compensation env resource outcome time.val)

theorem orHalt_mirrors (mirrors : Mirrors past (wholeHalt past) full bounded) :
    Mirrors past (wholeReply past) (orHalt full) (orHalt bounded) := by
  apply mirrors.bind
  intro result
  cases result with
  | error | ok => exact rfl

theorem ends_mirrors (mirrors : Mirrors past id full bounded) :
    Mirrors past (wholeReply past) (ends full) (ends bounded) := by
  apply mirrors.bind
  intro reply
  exact rfl

theorem compensateOwned_mirrors (run : Run) (resource : Resource) :
    Mirrors past (wholeReply past) (compensateOwned env policy (whole past run) resource)
      (compensateOwned env policy run resource) := by
  have asked : Mirrors past id
      (Engine.compensate (whole past run) resource ((whole past run).compensationKey env resource))
      (Engine.compensate run resource (run.compensationKey env resource)) := Program.Alike.request rfl
  apply asked.bind
  intro answer
  cases answer with
  | some => exact ends_mirrors (rollbackFail_mirrors run _ _ _)
  | none =>
    apply (inspect_mirrors run resource.stage (some resource)).bind
    intro answer
    cases answer with
    | error => exact ends_mirrors (rollbackFail_mirrors run _ _ _)
    | ok =>
      dsimp only [id]
      split
      · exact orHalt_mirrors (recordCompensation_mirrors run resource _)
      split
      · exact ends_mirrors (rollbackFail_mirrors run _ _ _)
      · exact orHalt_mirrors (recordCompensation_mirrors run resource _)

theorem compensateOne_mirrors (run : Run) (resource : Resource) :
    Mirrors past (wholeReply past) (compensateOne env policy (whole past run) resource)
      (compensateOne env policy run resource) := by
  have owned (obs : Observation) : StillOwned env (whole past run) resource obs ↔
      StillOwned env run resource obs := Iff.rfl
  apply (inspect_mirrors run resource.stage (some resource)).bind
  intro answer
  cases answer with
  | error => exact ends_mirrors (rollbackFail_mirrors run _ _ _)
  | ok =>
    simp only [id, owned]
    split
    · exact orHalt_mirrors (recordCompensation_mirrors run resource _)
    split
    · exact compensateOwned_mirrors run resource
    · exact ends_mirrors (rollbackFail_mirrors run _ _ _)

theorem compensateEach_mirrors (resources : List Resource) (run : Run) :
    Mirrors past (wholeReply past) (compensateEach env policy resources (whole past run))
      (compensateEach env policy resources run) := by
  induction resources generalizing run with
  | nil => exact rfl
  | cons resource rest ih =>
    have done : compensated (whole past run) resource.key = compensated run resource.key := rfl
    rw [compensateEach, compensateEach, done]
    split
    · exact ih run
    apply (compensateOne_mirrors run resource).bind
    intro result
    cases result with
    | error => exact rfl
    | ok next => exact ih next

theorem markRetention_mirrors (run : Run) :
    Mirrors past (wholeHalt past) (markRetention policy (whole past run))
      (markRetention policy run) := by
  apply now_mirrors.bind
  intro time
  dsimp only [id]
  rw [whole_mark]
  have deadline : (whole past (policy.mark run time.val)).retainUntil =
      (policy.mark run time.val).retainUntil := rfl
  rw [deadline]
  split
  · exact save_mirrors _
  · exact rfl

theorem ensured_mirrors (run : Run) : Mirrors past id
    (do match ← ensureTerminal env (whole past run) with
        | .error halt => return ⟨some (reportFor halt.run false), some halt.error⟩
        | .ok run => return ⟨some (reportFor run false), none⟩ : Engine Reply)
    (do match ← ensureTerminal env run with
        | .error halt => return ⟨some (reportFor halt.run false), some halt.error⟩
        | .ok run => return ⟨some (reportFor run false), none⟩) := by
  apply (ensureTerminal_mirrors run).bind
  intro result
  cases result with
  | error | ok => exact rfl

theorem finishRollback_mirrors (run : Run) :
    Mirrors past id (finishRollback env policy (whole past run)) (finishRollback env policy run) := by
  apply (transition_mirrors run .rolledBack).bind
  intro result
  cases result with
  | error => exact rfl
  | ok next =>
    apply (markRetention_mirrors next).bind
    intro result
    cases result with
    | error => exact rfl
    | ok last => exact ensured_mirrors last

theorem rollback_mirrors (run : Run) :
    Mirrors past id (rollback env policy (whole past run)) (rollback env policy run) := by
  apply (compensateEach_mirrors (compensable run) run).bind
  intro result
  cases result with
  | error => exact rfl
  | ok next => exact finishRollback_mirrors next

theorem previewRollback_mirrors (run : Run) (resources : List Resource) :
    Mirrors past id (previewRollback env (whole past run) resources)
      (previewRollback env run resources) := by
  induction resources with
  | nil => exact rfl
  | cons resource rest ih =>
    have owned (obs : Observation) :
        StillOwned env (whole past run) { resource with conflict := false } obs ↔
          StillOwned env run { resource with conflict := false } obs := Iff.rfl
    have turn : Mirrors past id (previewResource env (whole past run) resource)
        (previewResource env run resource) := by
      apply (inspect_mirrors run resource.stage (some resource)).bind
      intro answer
      cases answer with
      | error => exact rfl
      | ok =>
        simp only [id, owned]
        split <;> exact rfl
    rw [previewRollback, previewRollback]
    apply turn.bind
    intro action
    apply ih.bind
    intro actions
    exact rfl

theorem abortRun_mirrors (run : Run) (dryRun : Bool) :
    Mirrors past id (abortRun env policy (whole past run) dryRun) (abortRun env policy run dryRun) := by
  have stage : (whole past run).stage = run.stage := rfl
  unfold abortRun
  rw [stage]
  split
  · exact rfl
  split
  · apply (previewRollback_mirrors run (compensable run)).bind
    intro actions
    exact rfl
  split
  · apply (transition_mirrors run .rollbackPending).bind
    intro result
    cases result with
    | error => exact rfl
    | ok next => exact rollback_mirrors next
  · exact rollback_mirrors run

theorem load_mirrors (requestID : String) :
    Mirrors past (Except.map (whole past)) (Engine.load requestID) (Engine.load requestID) :=
  Program.Alike.request rfl

theorem safeAbort_mirrors (requestID : String) (dryRun : Bool) :
    Mirrors past id (safeAbort env policy requestID dryRun) (safeAbort env policy requestID dryRun) := by
  apply (load_mirrors requestID).bind
  intro result
  cases result with
  | error => exact rfl
  | ok run => exact abortRun_mirrors run dryRun

theorem failAndRollback_mirrors (run : Run) (stage : Stage) (cause : Cause) :
    Mirrors past id (failAndRollback env policy (whole past run) stage cause)
      (failAndRollback env policy run stage cause) := by
  apply now_mirrors.bind
  intro failedAt
  apply now_mirrors.bind
  intro movedAt
  rw [whole_rollingBack]
  apply (save_mirrors _).bind
  intro result
  cases result with
  | error => exact rfl
  | ok next =>
    apply (safeAbort_mirrors next.requestID false).bind
    intro reply
    dsimp only [id]
    split <;> exact rfl

end Bahia.Saga
