import Bahia.Saga.RollbackOrder

/-! Every request of every call of an engine is in order, whatever the drivers answer and whatever
other calls do meanwhile. -/

namespace Bahia.Saga
open Foundation List
variable {env : Environment} {policy : RetentionPolicy} {view : View env} {inspects : Bool}
variable {trace : Trace} {store : FileStore env} {run : Run} {care : Care policy view}

variable {stage : Stage}

theorem enforceObservation_resources (run : Run) (stage : Stage) (obs : Observation) :
    (enforceObservation run stage obs).resources = obs.resources := by
  unfold enforceObservation
  split
  · rfl
  · split <;> rfl

def Follows (stage : Stage) (stages : List Stage) : Prop :=
  stages <:+ forwardStages ∧ ∀ next ∈ stages.head?, stage = previousStage (some next)

theorem follows_tail (left : stage :: rest <:+ forwardStages) : Follows stage rest := by
  refine ⟨(suffix_cons stage rest).trans left, ?_⟩
  have each : ∀ stages ∈ forwardStages.tails, ∀ next ∈ stages.tail.head?,
      stages.head? = some (previousStage (some next)) := by decide
  intro next first
  exact Option.some.inj (each (stage :: rest) ((mem_tails _ _).mpr left) next first)

theorem follows_remaining (resting : run.stage ≠ .failedRecoverable) :
    Follows run.stage (remainingStages run) := by
  unfold remainingStages nextStage
  cases staged : run.stage with
  | failedRecoverable => exact absurd staged resting
  | _ =>
    dsimp only
    exact ⟨by decide, by decide⟩

theorem previousStage_ne (stage : Option Stage) : previousStage stage ≠ .failedRecoverable := by
  cases stage with
  | none => decide
  | some stage => cases stage <;> decide

theorem previousStage_live (stage : Option Stage) :
    (previousStage stage).terminalProjection = false := by
  cases stage with
  | none => rfl
  | some stage => cases stage <;> decide

theorem previousStage_stays {Goal : Prop} (stage : Option Stage)
    (ended : previousStage stage = .rolledBack) : Goal :=
  nomatch (previousStage_live stage).symm.trans (congrArg Stage.terminalProjection ended)

theorem new_stage (made : Run.new env requestID runID agentID specHash now = .ok run) :
    run.stage = .requested := by
  unfold Run.new at made
  dsimp only at made
  split at made
  · cases made
  split at made
  · cases made
  · cases made
    rfl

def Entered (knows : FileStore env → Run → Prop) (run : Run) (stage : Stage) (after : FileStore env)
    (next : Run) : Prop :=
  knows after next ∧ next.stage = stage ∧ next.requestID = run.requestID

theorem enterStage_obeys (held : care.Knows store run) (forward : isForwardStage stage = true)
    (follows : run.stage = previousStage (some stage))
    (asked : (⟨.inspect stage seen none, .ok obs⟩ : Event Request Response) ∈ trace)
    (matching : (enforceObservation run stage obs).reality = .matching) :
    Brings care inspects trace store
      (enterStage env run stage (enforceObservation run stage obs).resources) (Entered care.Knows run
        stage) := by
  rw [enforceObservation_resources]
  refine proceeds (checkpointResources_obeys stage obs.resources held) (fun halt _ _ => stopped halt) ?_
  rintro longer _ middle more ⟨held, step, recorded⟩
  have matched : Matched env longer stage middle := by
    refine ⟨seen, obs, more.subset asked, ?_, recorded⟩
    obtain ⟨added, version, time, rfl⟩ := step
    exact matching
  have before : middle.stage = previousStage (some stage) := step.same.1.trans follows
  apply Brings.weaken (transition_obeys held
    (fun time => .entered stage time forward before matched) fun ended => absurd (ended ▸ forward) nofun)
  rintro _ _ ⟨holds, time, stamp, rfl⟩
  exact ⟨holds, rfl, step.same.2⟩

theorem entered_orHalt
    (obeys : Brings care inspects trace store program (Entered care.Knows run stage)) :
    Brings care inspects trace store (orHalt program) (Entered care.Knows run stage) :=
  orHalt_obeys obeys (fun relied entered => ⟨Care.later relied entered.1, entered.2⟩)
    fun entered => entered.1.fine

theorem inspectStage_obeys (stage : Stage) (held : care.Knows store run) :
    InOrder care true trace store (inspectStage env run stage) := by
  apply (inspect_obeys stage none (.inl rfl) held).bind view.reflexive
  rintro _ _ answer _ ⟨held, _⟩
  cases answer with
  | error | ok => exact finished _ held.fine

theorem preview_obeys (held : care.Knows store run) :
    InOrder care true trace store (preview env run) := by
  unfold preview
  split
  · split
    · exact fun _ _ => ⟨trivial, fun impossible => nomatch impossible⟩
    · exact inspectStage_obeys _ held
  split
  · exact finished _ held.fine
  rename_i stage _
  apply (inspect_obeys stage none (.inl rfl) held).bind view.reflexive
  rintro _ _ answer _ ⟨held, _⟩
  cases answer with
  | error => exact finished _ held.fine
  | ok =>
    dsimp only
    split
    · exact finished _ held.fine
    · split <;> exact finished _ held.fine
    · exact finished _ held.fine

theorem reconcileEnded_obeys (dryRun : Bool) (held : care.Knows store run) :
    InOrder care inspects trace store (reconcileEnded env run dryRun) := by
  unfold reconcileEnded
  split
  · apply (inspectTerminal_obeys run held).bind view.reflexive
    intro _ _ answer _ held
    cases answer with
    | error | ok => exact finished _ held.fine
  · exact ensured_obeys held

section Stages
variable (whole : care.Whole)
include whole

theorem settleConflict_obeys (resources : List Resource) (held : care.Knows store run)
    (forward : isForwardStage stage = true) (follows : run.stage = previousStage (some stage)) :
    InOrder care inspects trace store (settleConflict env policy run stage resources) := by
  refine proceeds (checkpointConflictResources_obeys stage resources held) (fun _ _ _ => finished _) ?_
  rintro _ _ next _ ⟨held, step⟩
  exact failAndRollback_obeys whole _ held forward (step.same.1.trans follows)

theorem failApplied_obeys (applied verified : Option Cause)
    (held : care.Knows store run) (forward : isForwardStage stage = true)
    (follows : run.stage = previousStage (some stage)) :
    InOrder care inspects trace store
      (failApplied env policy run stage applied verified) := by
  unfold failApplied
  split
  · split
    · exact fail_obeys _ held forward follows
    · exact failAndRollback_obeys whole _ held forward follows
  · exact fail_obeys _ held forward follows
  · exact fail_obeys _ held forward follows

theorem settleApplied_obeys (applied : Option Cause) (held : care.Knows store run)
    (forward : isForwardStage stage = true) (follows : run.stage = previousStage (some stage))
    (asked : (⟨.inspect stage seen none, inspected⟩ : Event Request Response) ∈ trace) :
    Brings care inspects trace store (settleApplied env policy run stage applied inspected)
      (Entered care.Knows run stage) := by
  unfold settleApplied
  cases inspected with
  | error => exact ends_obeys (failApplied_obeys whole _ _ held forward follows)
  | ok =>
    dsimp only
    split
    · rename_i matching
      exact entered_orHalt (enterStage_obeys held forward follows asked matching.1)
    · split
      · exact ends_obeys (settleConflict_obeys whole _ held forward follows)
      · exact ends_obeys (failApplied_obeys whole _ _ held forward follows)

theorem applyStage_obeys (held : care.Knows store run)
    (follows : run.stage = previousStage (some stage)) :
    Brings care true trace store (applyStage env policy run stage)
      (Entered care.Knows run stage) := by
  have asked : (Engine.apply run stage (run.stageKey env stage)).Obeys (contract policy view true)
      (fun _ after _ => care.Knows after run) trace store :=
    harmless (fun _ _ => trivial) (fun _ _ => rfl) Care.later held
  apply asked.bind view.reflexive
  intro _ _ applied _ held
  apply (inspect_obeys stage none (.inl rfl) held).bind view.reflexive
  rintro _ _ inspected _ ⟨held, forward, rfl⟩
  exact settleApplied_obeys whole applied held forward follows (mem_append_right _ mem_cons_self)

theorem settleStage_obeys (held : care.Knows store run) (forward : isForwardStage stage = true)
    (follows : run.stage = previousStage (some stage))
    (asked : (⟨.inspect stage seen none, inspected⟩ : Event Request Response) ∈ trace) :
    Brings care true trace store (settleStage env policy run stage inspected)
      (Entered care.Knows run stage) := by
  unfold settleStage
  cases inspected with
  | error => exact ends_obeys (fail_obeys _ held forward follows)
  | ok =>
    dsimp only
    split
    · exact ends_obeys (settleConflict_obeys whole _ held forward follows)
    · rename_i matching
      split
      · exact stopped _ held.fine
      · exact entered_orHalt (enterStage_obeys held forward follows asked matching)
    · exact stopped _ held.fine
    · exact applyStage_obeys whole held follows

theorem advance_obeys (stages : List Stage) (held : care.Knows store run)
    (follows : Follows run.stage stages) :
    InOrder care true trace store (advance env policy stages run) := by
  induction stages generalizing run trace store with
  | nil => exact finished _ held.fine
  | cons stage rest ih =>
    have before : run.stage = previousStage (some stage) := follows.2 stage rfl
    rw [advance]
    apply (inspect_obeys stage none (.inl rfl) held).bind view.reflexive
    rintro _ _ inspected _ ⟨held, forward, rfl⟩
    refine proceeds (settleStage_obeys whole held forward before
      (mem_append_right _ mem_cons_self)) (fun _ _ _ => finished _) ?_
    rintro _ _ next _ ⟨held, entered, _⟩
    dsimp only
    split
    · exact finished _ held.fine
    refine ih held ?_
    rw [entered]
    exact follows_tail follows.1

theorem reconcileRun_obeys (dryRun : Bool) (held : care.Knows store run) :
    InOrder care true trace store (reconcileRun env policy run dryRun) := by
  unfold reconcileRun
  split
  · exact reconcileEnded_obeys dryRun held
  split
  · exact preview_obeys held
  split
  · rename_i failed
    refine proceeds (transition_obeys held (fun time => .resumed time failed)
      (previousStage_stays run.resumeStage))
      (fun _ _ _ => finished _) ?_
    rintro _ _ _ _ ⟨held, time, stamp, rfl⟩
    exact advance_obeys whole _ held (follows_remaining (previousStage_ne run.resumeStage))
  · rename_i resting
    exact advance_obeys whole _ held (follows_remaining resting)

theorem reconcile_obeys (requestID : String) (dryRun : Bool) (fine : care.fine store) :
    InOrder care true trace store (reconcile env policy requestID dryRun) := by
  refine proceeds (load_obeys whole requestID fine) (fun _ _ _ => finished _) ?_
  rintro _ _ run _ ⟨held, _⟩
  dsimp only
  split
  · exact safeAbort_obeys whole requestID dryRun held.fine
  · exact reconcileRun_obeys whole dryRun held

theorem create_obeys (fresh : run.stage = .requested) (fine : care.fine store) :
    InOrder care inspects trace store (Engine.create run) := by
  apply Program.Obeys.request
  intro later relied
  refine ⟨fresh, ?_⟩
  intro _ after more
  refine care.steady more ?_
  change care.fine (later.create run).1
  rcases later.create_cases run with ⟨err, failed⟩ | ⟨valid, _, done⟩
  · rw [failed]
    exact care.steady relied fine
  · rw [done]
    exact care.saved valid (care.steady relied fine) (whole.creates fresh)

theorem start_obeys (requestID runID agentID specHash : String) (fine : care.fine store) :
    InOrder care inspects trace store (start env requestID runID agentID specHash) := by
  have clock : InOrder care inspects trace store Engine.now :=
    harmless (fun _ _ => trivial) (fun _ _ => rfl) care.steady fine
  apply clock.bind view.reflexive
  intro timed after time _ fine
  split
  · exact finished _ fine
  rename_i made
  apply (create_obeys whole (new_stage made) fine).bind view.reflexive
  intro _ _ answer _ fine
  split
  · exact finished _ fine
  · refine proceeds (load_obeys whole requestID fine) (fun _ _ _ => finished _) ?_
    rintro _ _ existing _ ⟨held, _⟩
    dsimp only
    split <;> exact finished _ held.fine
  · exact finished _ fine

theorem inspectRun_obeys (requestID : String) (fine : care.fine store) :
    InOrder care true trace store (inspectRun env requestID) := by
  refine proceeds (load_obeys whole requestID fine) (fun _ _ _ => finished _) ?_
  rintro _ _ run _ ⟨held, _⟩
  dsimp only
  split
  · exact finished _ held.fine
  · exact inspectStage_obeys _ held

theorem call_obeys (call : Call) (trace : Trace) (fine : care.fine store) :
    InOrder care true trace store (call.body env policy) := by
  cases call with
  | start requestID runID agentID specHash =>
    exact (start_obeys whole requestID runID agentID specHash fine).bind view.reflexive
      fun _ _ _ _ => finished _
  | inspect requestID =>
    exact (inspectRun_obeys whole requestID fine).bind view.reflexive fun _ _ _ _ => finished _
  | reconcile requestID dryRun | retry requestID dryRun =>
    exact (reconcile_obeys whole requestID dryRun fine).bind view.reflexive fun _ _ _ _ => finished _
  | safeAbort requestID dryRun =>
    exact (safeAbort_obeys whole requestID dryRun fine).bind view.reflexive fun _ _ _ _ => finished _

end Stages

theorem body_obeys (policy : RetentionPolicy) (view : View env) (call : Call)
    (store : FileStore env) :
    (call.body env policy).Obeys (contract policy view true) (fun _ _ _ => True) [] store :=
  call_obeys none_whole call [] trivial

end Bahia.Saga
