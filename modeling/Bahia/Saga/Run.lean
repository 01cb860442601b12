import Bahia.Foundation.Text

/-! The durable checkpoint of one provisioning run: its stage, the lineage of the resources it
made or found, and what was compensated. -/

namespace Bahia.Saga
open Foundation

structure Environment where
  sha256 : Bytes → FixedBytes 32

/-- Nanoseconds after the zero time. -/
abbrev Time := Int

/-- What a clock reads, which is never the zero time. -/
abbrev Moment := {time : Time // time ≠ 0}

inductive Stage where
  | requested
  | identityReserved
  | serviceRegistered
  | releaseSelected
  | runtimeAllocated
  | signerEnrolled
  | nostrConfigured
  | llmVerified
  | dmVerified
  | running
  | rollbackPending
  | rolledBack
  | failedRecoverable
  | failedTerminal
  deriving DecidableEq

namespace Stage

def text : Stage → String
  | requested => "requested"
  | identityReserved => "identity_reserved"
  | serviceRegistered => "service_registered"
  | releaseSelected => "release_selected"
  | runtimeAllocated => "runtime_allocated"
  | signerEnrolled => "signer_enrolled"
  | nostrConfigured => "nostr_configured"
  | llmVerified => "llm_verified"
  | dmVerified => "dm_verified"
  | running => "running"
  | rollbackPending => "rollback_pending"
  | rolledBack => "rolled_back"
  | failedRecoverable => "failed_recoverable"
  | failedTerminal => "failed_terminal"

def terminalProjection : Stage → Bool
  | running | rolledBack | failedTerminal => true
  | _ => false

end Stage

def forwardStages : List Stage :=
  [.identityReserved, .serviceRegistered, .releaseSelected, .runtimeAllocated, .signerEnrolled,
    .nostrConfigured, .llmVerified, .dmVerified, .running]

def isForwardStage (stage : Stage) : Bool := forwardStages.contains stage

inductive Ownership where
  | created
  | adopted
  | preExisting
  | unknown (text : String)
  deriving DecidableEq

/-- The lineage of one side effect. An authoritative stage that is no stage is `none`. -/
structure Resource where
  stage : Stage
  system : String
  kind : String
  externalID : String
  specHash : String
  ownership : Ownership
  ownerRunID : String
  idempotencyKey : String
  correlationID : String
  authoritativeStage : Option Stage
  conflict : Bool
  compensationOrder : Int
  recordedAt : Time
  deriving DecidableEq

structure Failure where
  stage : Stage
  code : String
  message : String
  retryable : Bool
  time : Time
  deriving DecidableEq

structure Transition where
  source : Stage
  target : Stage
  time : Time
  deriving DecidableEq

structure Compensation where
  resourceKey : String
  idempotencyKey : String
  outcome : String
  time : Time
  deriving DecidableEq

structure Run where
  requestID : String
  runID : String
  rootKey : String
  agentID : String
  specHash : String
  stage : Stage
  resumeStage : Option Stage
  version : Nat
  resources : List Resource
  compensations : List Compensation
  transitions : List Transition
  failures : List Failure
  failure : Option Failure
  createdAt : Time
  updatedAt : Time
  retainUntil : Option Time
  deriving DecidableEq

structure SafeError where
  code : String
  message : String
  retryable : Bool
  deriving DecidableEq

/-- `ErrNotFound`, `ErrConflict` with what was added to it, and the others. -/
inductive Error where
  | notFound
  | conflict (detail : String)
  | safe (failure : SafeError)
  | other (text : String)
  deriving DecidableEq

/-! ### Public failure records -/

def safeCodes : List String :=
  ["ownership_conflict", "policy_denied", "postcondition_mismatch", "response_lost",
    "rollback_ownership_conflict", "compensation_postcondition_mismatch",
    "terminal_projection_conflict", "terminal_projection_mismatch"]

def safePublicCode (code : String) : String :=
  if safeCodes.contains code then code else "stage_failed"

def stageFailedMessage : String :=
  "provisioning stage failed; inspect service logs using request and run identifiers"

def safePublicMessage (code : String) : String :=
  match code with
  | "ownership_conflict" =>
    "external resource ownership or specification conflicts with this provisioning run"
  | "policy_denied" => "provisioning policy denied the requested operation"
  | "postcondition_mismatch" => "external state did not match after mutation"
  | "response_lost" => "external mutation response was ambiguous and remains uncorrelated"
  | "rollback_ownership_conflict" => "resource ownership changed; compensation was refused"
  | "compensation_postcondition_mismatch" => "resource remains after compensation"
  | _ => stageFailedMessage

theorem safePublicCode_idem (code : String) :
    safePublicCode (safePublicCode code) = safePublicCode code := by
  unfold safePublicCode
  by_cases safe : safeCodes.contains code = true
  · rw [if_pos safe, if_pos safe]
  · rw [if_neg safe]
    decide

def Error.text : Error → String
  | .notFound => "provisioning saga not found"
  | .conflict detail => "provisioning saga checkpoint conflict" ++ detail
  | .safe failure => safePublicMessage (safePublicCode failure.code)
  | .other text => text

def validatePublicFailure (failure : Failure) : Option Error :=
  if !isForwardStage failure.stage || failure.code != safePublicCode failure.code ||
      failure.message != safePublicMessage failure.code || failure.time == 0 then
    some (.conflict ": failure history is not a sanitized public record")
  else none

/-! ### Keys and references -/

section Keys
variable (env : Environment)

def deriveKey (root purpose : String) : String :=
  "ocw-saga:" ++
    hex (env.sha256 (utf8 ("bahia-openclaw-saga/v1\x00" ++ root ++ "\x00" ++ purpose))).val

def referenceStart : String := "ref:sha256:"

/-- `PublicResourceRef`; a text that already is a reference stays as it is. -/
def publicResourceRef (system kind externalID : String) : String :=
  let digest := "ref:sha256:" ++
    hex (env.sha256 (utf8
      ("bahia-openclaw-resource/v1\x00" ++ system ++ "\x00" ++ kind ++ "\x00" ++ externalID))).val
  if hasPrefix externalID referenceStart &&
      externalID.utf8ByteSize == referenceStart.utf8ByteSize + 64 then
    match decodeHexDigits (trimPrefix externalID referenceStart).toList with
    | some _ => externalID
    | none => digest
  else digest

end Keys

def secretMarkers : List String :=
  ["nsec1", "secret=", "token=", "api_key=", "private_key=", "bunker://"]

def containsSecretMarker (value : String) : Bool := secretMarkers.any (containsText (toLower value))

def systemBahiaProjection : String := "bahia_projection"

def resourceProvisioningResult : String := "provisioning_result_7950"

def resourceAgentSoul : String := "agent_soul_31951"

def blank (text : String) : Bool := trimSpace text == ""

namespace Resource

def key (r : Resource) : String := join "\x00" [r.system, r.kind, r.externalID]

def projectsTerminal (r : Resource) : Bool := r.authoritativeStage.any Stage.terminalProjection

/-- `Resource.validate`: what is wrong with the lineage. -/
def validate (r : Resource) (runID : String) : Option String :=
  if [r.system, r.kind, r.externalID, r.specHash, r.idempotencyKey, r.correlationID].any blank then
    some "resource lineage is incomplete"
  else if [r.system, r.kind, r.externalID, r.specHash, r.idempotencyKey, r.correlationID].any
      containsSecretMarker then
    some "resource lineage contains secret-shaped data"
  else if !hasPrefix r.externalID referenceStart ||
      r.externalID.utf8ByteSize != referenceStart.utf8ByteSize + 64 then
    some "resource external id must be a one-way public reference"
  else if r.system = systemBahiaProjection ∧
      (r.kind = resourceProvisioningResult ∨ r.kind = resourceAgentSoul) ∧
        r.projectsTerminal = false then
    some "terminal projection lineage has invalid authoritative stage"
  else
    match r.ownership with
    | .created =>
      if r.ownerRunID ≠ runID then some "created resource owner does not match saga run" else none
    | .adopted | .preExisting =>
      if r.ownerRunID ≠ "" then some "non-created resource cannot be owned by saga run" else none
    | .unknown _ => some "resource ownership is invalid"

/-- The part of the lineage that a resource key fixes. -/
def SameLineage (first second : Resource) : Prop :=
  first.specHash = second.specHash ∧ first.ownership = second.ownership ∧
    first.ownerRunID = second.ownerRunID

instance (first second : Resource) : Decidable (SameLineage first second) :=
  inferInstanceAs (Decidable (_ ∧ _ ∧ _))

/-- Resources of one key have one lineage. -/
def Agrees (first second : Resource) : Prop := first.key = second.key → first.SameLineage second

instance (first second : Resource) : Decidable (Agrees first second) :=
  inferInstanceAs (Decidable (_ → _))

def OwnedBy (r : Resource) (runID : String) : Prop :=
  r.ownership = .created ∧ r.ownerRunID = runID

instance (r : Resource) (runID : String) : Decidable (r.OwnedBy runID) :=
  inferInstanceAs (Decidable (_ ∧ _))

end Resource

namespace Run
variable (env : Environment)

def stageKey (run : Run) (stage : Stage) : String :=
  deriveKey env run.rootKey ("stage/" ++ stage.text)

def compensationKey (run : Run) (resource : Resource) : String :=
  deriveKey env run.rootKey ("compensate/" ++ resource.key)

/-- What is wrong with one resource of a run, after the resources before it, latest first. -/
def resourceFault (run : Run) (seen : List Resource) (resource : Resource) : Option Error :=
  match resource.validate run.runID with
  | some text => some (.other text)
  | none =>
    if resource.conflict = false ∧ resource.specHash ≠ run.specHash then
      some (.other ("resource spec does not match saga request for " ++ resource.system ++ "/" ++
        resource.kind))
    else if resource.conflict = false ∧ resource.correlationID ≠ run.requestID then
      some (.other ("resource correlation does not match saga request for " ++ resource.system ++
        "/" ++ resource.kind))
    else
      match seen.find? (·.key == resource.key) with
      | some previous =>
        if ¬ previous.SameLineage resource then
          some (.other ("immutable lineage conflict for " ++ resource.system ++ "/" ++ resource.kind))
        else none
      | none => none

def resourcesFault (run : Run) : List Resource → List Resource → Option Error
  | _, [] => none
  | seen, resource :: rest =>
    match run.resourceFault seen resource with
    | some err => some err
    | none => run.resourcesFault (resource :: seen) rest

def validate (run : Run) : Option Error :=
  if run.requestID = "" ∨ run.runID = "" ∨ run.rootKey = "" ∨ run.agentID = "" ∨ run.specHash = "" ∨
      run.version = 0 then
    some (.other "saga checkpoint is invalid")
  else if run.rootKey ≠ deriveKey env (run.requestID ++ "/" ++ run.runID) "root" then
    some (.other "saga root key does not match immutable request/run identity")
  else
    match run.resourcesFault [] run.resources with
    | some err => some err
    | none =>
      match run.failures.findSome? validatePublicFailure with
      | some err => some err
      | none => run.failure.bind validatePublicFailure

def new (requestID runID agentID specHash : String) (now : Time) : Except Error Run :=
  let requestID := trimSpace requestID
  let runID := trimSpace runID
  let agentID := trimSpace agentID
  let specHash := trimSpace specHash
  if requestID = "" ∨ runID = "" ∨ agentID = "" ∨ specHash = "" then
    .error (.other "request id, run id, agent id, and spec hash are required")
  else if [requestID, runID, agentID, specHash].any containsSecretMarker then
    .error (.other "saga identity contains secret-shaped data")
  else
    .ok { requestID, runID, rootKey := deriveKey env (requestID ++ "/" ++ runID) "root", agentID,
          specHash, stage := .requested, resumeStage := none, version := 1, resources := [],
          compensations := [], transitions := [], failures := [], failure := none, createdAt := now,
          updatedAt := now, retainUntil := none }

end Run

/-- The Soul commits `running`; the other ends are projected by their result. -/
def hasTerminalProjection (resources : List Resource) (run : Run) (stage : Stage) : Bool :=
  let projected := resources.filter fun resource =>
    resource.system == systemBahiaProjection && resource.specHash == run.specHash &&
      resource.correlationID == run.requestID && resource.authoritativeStage == some stage
  if stage = .running then projected.any (·.kind == resourceAgentSoul)
  else projected.any (·.kind == resourceProvisioningResult)

end Bahia.Saga
