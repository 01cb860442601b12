import Bahia.Saga.References
import Bahia.Saga.Saves

/-! Executions of parts of a call on a store that nobody else writes. What the engine adds to a run
of its own accord, a transition or a failure, is never what a save objects to. -/

namespace Bahia.Saga
open Foundation List
variable {env : Environment} {policy : RetentionPolicy} {store : FileStore env} {run updated : Run}

/-! ### Updates that pass validation -/

theorem publicFailure_public (cause : Cause) :
    ∃ code, publicFailure cause = (safePublicCode code, safePublicMessage (safePublicCode code)) := by
  cases cause with
  | safe => exact ⟨_, rfl⟩
  | other =>
    have known : safePublicCode "stage_failed" = "stage_failed" := by decide
    refine ⟨"stage_failed", ?_⟩
    rw [known]
    rfl

theorem validatePublicFailure_publicFailure (forward : isForwardStage stage = true) (cause : Cause)
    (retryable : Bool) (now : Moment) :
    validatePublicFailure ⟨stage, (publicFailure cause).1, (publicFailure cause).2, retryable,
      now.val⟩ = none := by
  obtain ⟨code, shown⟩ := publicFailure_public cause
  rw [shown]
  exact validatePublicFailure_public forward code retryable now

namespace Run
variable (sound : run.Sound env)
include sound

theorem Sound.stamped (time : Time) : (run.stamped time).Sound env := by
  obtain ⟨request, id, root, agent, spec, _⟩ := sound.identity
  exact { sound with identity := ⟨request, id, root, agent, spec, Nat.succ_ne_zero _⟩ }

theorem Sound.recorded (admissible : resource.Admissible run)
    (agrees : ∀ previous ∈ run.resources, previous.Agrees resource) :
    (run.recorded resource).Sound env := by
  refine { sound with admissible := ?_, agree := ?_ }
  · intro other member
    rcases mem_append.mp member with old | new
    · exact sound.admissible other old
    · cases mem_singleton.mp new
      exact admissible
  · refine pairwise_append.mpr ⟨sound.agree, pairwise_singleton _ _, ?_⟩
    intro previous old other new
    cases mem_singleton.mp new
    exact agrees previous old

theorem Sound.failed {failure : Failure}
    (shown : validatePublicFailure failure = none) (stage : Stage) (resume : Option Stage)
    (transitions : List Transition) :
    { run with
      stage
      resumeStage := resume
      failure := some failure
      failures := run.failures ++ [failure]
      transitions }.Sound env := by
  refine { sound with failures := ?_, current := ?_ }
  · intro other member
    rcases mem_append.mp member with old | new
    · exact sound.failures other old
    · cases mem_singleton.mp new
      exact shown
  · intro other held
    cases Option.some.inj held
    exact shown

theorem Sound.rollingBack {stage : Stage}
    (forward : isForwardStage stage = true) (cause : Cause) (failedAt : Moment) (movedAt : Time) :
    (run.rollingBack stage (publicFailure cause) failedAt.val movedAt).Sound env :=
  sound.failed (validatePublicFailure_publicFailure forward cause false failedAt) _ _ _

end Run

/-! ### Executions -/

variable {trace : Trace} {time : Moment} {store : FileStore env}

theorem save_move (held : store.get run.requestID = some run)
    (move : Move env policy trace run updated) (time : Time) :
    (∃ valid : (updated.stamped time).validate env = none,
      store.save (updated.stamped time) updated.version =
        (store.write (updated.stamped time) valid, none)) ∨
    (updated.stamped time).validate env ≠ none ∧
      ∃ err, store.save (updated.stamped time) updated.version = (store, some err) := by
  obtain ⟨request, version⟩ := move.identity
  have extended : run.Extends (updated.stamped time) := { move.extends with }
  have stored : store.get (updated.stamped time).requestID = some run := by
    rw [← held]
    exact congrArg store.get request
  by_cases valid : (updated.stamped time).validate env = none
  · rw [version]
    exact .inl ⟨valid, FileStore.save_next stored (congrArg (· + 1) version) extended valid⟩
  · rcases store.save_cases (updated.stamped time) updated.version with failed | ⟨_, passed, _⟩
    · exact .inr ⟨valid, failed⟩
    · exact absurd passed valid

theorem now_alone : Engine.now.Obeys (contract policy (View.alone env) inspects)
    (fun _ after _ => store = after) trace store :=
  harmless (fun _ _ => trivial) (fun _ _ => rfl) (fun relied same => same.trans relied) rfl

section
variable (held : store.get run.requestID = some run) (move : Move env policy trace run updated)
include held move

theorem save_alone : (save updated).Obeys (contract policy (View.alone env) inspects)
      (fun _ after result => ∃ time : Moment,
        (∃ valid, result = .ok (updated.stamped time.val) ∧
          after = store.write (updated.stamped time.val) valid) ∨
        ((updated.stamped time.val).validate env ≠ none ∧ (∃ halt, result = .error halt) ∧
          after = store)) trace store := by
  apply (save_outcome held move).weaken
  rintro _ _ _ ⟨_, rfl, time, ⟨err, halt, failed, rfl, rfl⟩ | ⟨valid, _, rfl, rfl⟩⟩
  · refine ⟨time, .inr ⟨fun valid => ?_, ⟨halt, rfl⟩, rfl⟩⟩
    rcases save_move held move time.val with ⟨_, saved⟩ | ⟨wrong, _⟩
    · exact nomatch (congrArg Prod.snd failed).symm.trans (congrArg Prod.snd saved)
    · exact wrong valid
  · exact ⟨time, .inl ⟨valid, rfl, rfl⟩⟩

theorem save_sound (sound : updated.Sound env) :
    (save updated).Obeys (contract policy (View.alone env) inspects)
      (fun _ after result => ∃ time : Moment, ∃ valid, result = .ok (updated.stamped time.val) ∧
        after = store.write (updated.stamped time.val) valid) trace store := by
  apply (save_alone held move).weaken
  rintro _ _ _ ⟨time, written | ⟨wrong, _⟩⟩
  · exact ⟨time, written⟩
  · exact absurd ((Run.validate_none_iff env _).mpr (sound.stamped time.val)) wrong

end

variable (outside : Answers Request Outside)

theorem load_reaches (idle : outside (.load requestID) = some ())
    (held : store.get requestID = some run) :
    (Engine.load requestID).Reaches serve store [outside] (.done (.ok run)) store := by
  have answered : (Engine.load requestID).Reaches serve store [outside]
      (.done (store.load requestID)) store := .request idle store
  rwa [FileStore.load_of_get held] at answered

/-! ### A first stage -/

def zeroDigest : Environment := ⟨fun _ => FixedBytes.zero 32⟩

def signetPolicy : Resource :=
  ⟨.requested, "signet", "policy", "npub-policy", "spec", .created, "run", "", "request", none, false,
    0, 1⟩

def driversReporting (report : Stage → Except Cause Observation) : Answers Request Outside
  | .create _ => some ()
  | .load _ => some ()
  | .save _ _ => some ()
  | .now => some ⟨1, by decide⟩
  | .inspect stage _ _ => some (report stage)
  | .apply _ _ _ => some none
  | .compensate _ _ _ _ => some none
  | .inspectTerminal _ _ _ => some (.error (.other ""))
  | .publishTerminal _ _ _ _ => some none
  | .missingDriver => none

/-- The first stage is in place, and this is answered about the later ones. -/
def firstInPlace (later : Except Cause Observation) : Answers Request Outside :=
  driversReporting fun stage =>
    if stage = .identityReserved then .ok ⟨.matching, [signetPolicy], ""⟩ else later

def callAnswered (outside : Answers Request Outside) (index : Nat) (call : Call) (count : Nat) :
    List Happens :=
  .start call :: (List.replicate count outside).map (.answer index)

variable (env)

def requestedRun : Run where
  requestID := "request"
  runID := "run"
  rootKey := deriveKey env ("request" ++ "/" ++ "run") "root"
  agentID := "agent"
  specHash := "spec"
  stage := .requested
  resumeStage := none
  version := 1
  resources := []
  compensations := []
  transitions := []
  failures := []
  failure := none
  createdAt := 1
  updatedAt := 1
  retainUntil := none

def recordedRun : Run :=
  ((requestedRun env).recorded
    (stageResource env (requestedRun env) .identityReserved signetPolicy)).stamped 1

theorem signetPolicy_wellFormed : signetPolicy.WellFormed :=
  ⟨by decide, by decide, by decide⟩

end Bahia.Saga
