import Bahia.Saga.StageMachine

/-! A conflict and the rollback after it. The resources of a conflict are recorded under a derived
spec but under their own keys, and a run carries one lineage for each key. -/

namespace Bahia.Saga
open Foundation

/-- The stages of a run that rolls back, and its ends. -/
def Stage.retreated : Stage → Bool
  | .rollbackPending | .rolledBack | .failedTerminal => true
  | _ => false

/-- What of a conflict is recorded, times apart: what this run made, under derived lineage. -/
def conflictResources (env : Environment) (run : Run) (stage : Stage) (resources : List Resource) :
    List Resource :=
  (resources.filter fun resource => decide (resource.OwnedBy run.runID)).map
    (conflictResource env run stage)

/-- What is recorded of the conflict agrees with itself and with what the run has recorded. -/
def Recordable (env : Environment) (run : Run) (stage : Stage) (resources : List Resource) : Prop :=
  (run.resources ++ conflictResources env run stage resources).Pairwise Resource.Agrees

instance (env : Environment) (run : Run) (stage : Stage) (resources : List Resource) :
    Decidable (Recordable env run stage resources) :=
  inferInstanceAs (Decidable (List.Pairwise _ _))

def Retreated {env : Environment} (store : FileStore env) (requestID : String) : Prop :=
  ∃ run, store.get requestID = some run ∧ run.stage.retreated = true

variable {env : Environment} {policy : RetentionPolicy}
variable {trace : Trace} {run : Run}

variable {updated : Run} {stage : Stage}
  {resource : Resource} {resources : List Resource}

/-! ### From the pending rollback on -/

theorem Move.retreated (move : Move env policy trace run updated)
    (retreated : run.stage.retreated = true) : updated.stage.retreated = true := by
  have forward (stage : Stage) : (previousStage (some stage)).retreated = false := by
    cases stage <;> decide
  cases move with
  | recorded | compensated => exact retreated
  | entered stage time _ follows | failed stage _ _ _ _ follows =>
    rw [follows, forward] at retreated
    cases retreated
  | resumed time failed =>
    rw [failed] at retreated
    cases retreated
  | conflicted | aborted | retried | rolledBack => rfl
  | lost => rw [mark_stage]; rfl
  | retained => rw [mark_stage]; exact retreated

theorem retreated_serve (inOrder : permitted policy (View.alone env) inspects trace store request)
    (retreated : Retreated store requestID) :
    Retreated (serve store request outside).1 requestID := by
  obtain ⟨old, before, stage⟩ := retreated
  obtain ⟨new, after, _⟩ := newer_serve store request outside requestID old before
  by_cases same : old = new
  · rw [← same] at after
    exact ⟨old, after, stage⟩
  · obtain ⟨updated, time, move, rfl, _⟩ := serve_changed inOrder before after same
    exact ⟨_, after, move.retreated stage⟩

theorem safeAbort_retreats (pending : Retreated store requestID) :
    (safeAbort env policy requestID false).Obeys (contract policy (View.alone env) inspects)
      (fun _ after _ => Retreated after requestID) trace store := by
  have kept (trace : Trace) (store : FileStore env) (request : Request) (outside : Outside request)
      (inOrder : permitted policy (View.alone env) inspects trace store request)
      (retreated : Retreated store requestID) :
      Retreated (serve store request outside).1 requestID := retreated_serve inOrder retreated
  have relied (store later : FileStore env) (same : store = later)
      (retreated : Retreated store requestID) : Retreated later requestID := same ▸ retreated
  have obeys : (safeAbort env policy requestID false).Obeys (contract policy (View.alone env) inspects)
      (fun _ _ _ => True) trace store := safeAbort_obeys none_whole requestID false trivial
  exact (obeys.invariant kept relied pending).weaken fun _ _ _ reached => reached.1

/-- A run that a conflict sends into rollback is persisted so before anything else happens. -/
theorem failAndRollback_retreats (cause : Cause)
    (held : store.get run.requestID = some run) (forward : isForwardStage stage = true)
    (follows : run.stage = previousStage (some stage)) :
    (failAndRollback env policy run stage cause).Obeys (contract policy (View.alone env) inspects)
      (fun _ after _ => Retreated after run.requestID) trace store := by
  have sound : run.Sound env :=
    (Run.validate_none_iff env run).mp (store.sound run.requestID run held).2
  apply now_alone.bind (View.alone env).reflexive
  rintro _ _ failedAt _ rfl
  apply now_alone.bind (View.alone env).reflexive
  rintro _ _ movedAt _ rfl
  apply (save_sound held (.conflicted stage (publicFailure cause) failedAt.val movedAt.val forward
    follows) (sound.rollingBack forward cause failedAt movedAt.val)).bind (View.alone env).reflexive
  rintro _ _ _ _ ⟨time, valid, rfl, rfl⟩
  have pending : Retreated (store.write _ valid) run.requestID := ⟨_, FileStore.get_written valid, rfl⟩
  apply (safeAbort_retreats pending).bind (View.alone env).reflexive
  intro _ _ reply _ retreated
  split
  · rintro _ ⟨⟩
    exact retreated
  · rintro _ ⟨⟩
    exact retreated

/-! ### The checkpoint of a conflict -/

theorem pairwise_recordedAt (time : Time) :
    ((before ++ [{ resource with recordedAt := time }]) ++ after).Pairwise Resource.Agrees ↔
      (before ++ resource :: after).Pairwise Resource.Agrees := by
  rw [List.append_assoc, List.singleton_append, List.pairwise_append, List.pairwise_append,
    List.pairwise_cons, List.pairwise_cons]
  simp only [List.forall_mem_cons]
  exact Iff.rfl

theorem recorded_valid_iff (sound : run.Sound env)
    (admissible : resource.Admissible run) (time : Time) :
    ((run.recorded resource).stamped time).validate env = none ↔
      (run.resources ++ [resource]).Pairwise Resource.Agrees := by
  rw [Run.validate_none_iff]
  constructor
  · exact Run.Sound.agree
  · intro agree
    refine (sound.recorded admissible ?_).stamped time
    intro previous old
    exact (List.pairwise_append.mp agree).2.2 previous old resource List.mem_cons_self

/-- The checkpoint of a conflict succeeds exactly when everything agrees, and keeps the stage. -/
theorem checkpointConflictResources_alone (stage : Stage)
    (named : ∀ resource ∈ resources, resource.WellFormed) (held : store.get run.requestID = some run) :
    (checkpointConflictResources env stage resources run).Obeys
      (contract policy (View.alone env) inspects)
      (fun _ after result => (∃ last, after.get run.requestID = some last ∧ last.stage = run.stage) ∧
        ((∃ next, result = .ok next) ↔ Recordable env run stage resources) ∧
        ∀ next, result = .ok next → after.get run.requestID = some next ∧ Checkpointed run next)
      trace store := by
  induction resources generalizing run trace store with
  | nil =>
    rintro _ ⟨⟩
    have sound := (Run.validate_none_iff env run).mp (store.sound run.requestID run held).2
    refine ⟨⟨run, held, rfl⟩, ⟨fun _ => ?_, fun _ => ⟨run, rfl⟩⟩, ?_⟩
    · rw [Recordable, conflictResources]
      simpa using sound.agree
    · rintro _ ⟨⟩
      exact ⟨held, Checkpointed.refl run⟩
  | cons resource rest ih =>
    obtain ⟨here, others⟩ := List.forall_mem_cons.mp named
    have sound := (Run.validate_none_iff env run).mp (store.sound run.requestID run held).2
    rw [checkpointConflictResources]
    by_cases owned : resource.OwnedBy run.runID
    · rw [if_neg (not_not_intro owned)]
      have split : conflictResources env run stage (resource :: rest) =
          conflictResource env run stage resource :: conflictResources env run stage rest := by
        simp [conflictResources, owned]
      apply (stampResource_obeys _ (fun relied same => same.trans relied) rfl).bind
        (View.alone env).reflexive
      rintro _ _ _ _ ⟨rfl, time, rfl⟩
      have admissible : { conflictResource env run stage resource with
          recordedAt := time }.Admissible run :=
        ⟨conflictResource_validate env run stage here owned time, by rintro ⟨⟩⟩
      rw [admissible.1]
      apply (save_alone held (.recorded _)).bind (View.alone env).reflexive
      rintro _ after result _ ⟨stamp, ⟨valid, rfl, rfl⟩ | ⟨wrong, ⟨halt, rfl⟩, rfl⟩⟩
      · apply (ih others (FileStore.get_written valid)).weaken
        rintro _ _ result ⟨last, exact, returned⟩
        refine ⟨last, exact.trans ?_, ?_⟩
        · rw [Recordable, Recordable, split]
          exact pairwise_recordedAt time
        · intro next ok
          obtain ⟨stored, more⟩ := returned next ok
          exact ⟨stored, (checkpointed_recorded _ _).trans more⟩
      · rintro _ ⟨⟩
        refine ⟨⟨run, held, rfl⟩, ⟨?_, ?_⟩, ?_⟩
        · rintro ⟨_, impossible⟩
          cases impossible
        · intro agree
          exfalso
          apply wrong
          rw [recorded_valid_iff sound admissible]
          rw [Recordable, split, ← pairwise_recordedAt time] at agree
          exact (List.pairwise_append.mp agree).1
        · intro _ impossible
          cases impossible
    · rw [if_pos owned]
      have same : conflictResources env run stage (resource :: rest) =
          conflictResources env run stage rest := by
        simp [conflictResources, owned]
      rw [Recordable, same]
      exact ih others held

theorem settleConflict_alone
    (named : ∀ resource ∈ resources, resource.WellFormed) (held : store.get run.requestID = some run)
    (forward : isForwardStage stage = true) (follows : run.stage = previousStage (some stage)) :
    (settleConflict env policy run stage resources).Obeys (contract policy (View.alone env) inspects)
      (fun _ after _ => Retreated after run.requestID ↔ Recordable env run stage resources)
      trace store := by
  have resting : run.stage.retreated = false := by
    rw [follows]
    cases stage <;> decide
  apply (checkpointConflictResources_alone stage named held).bind (View.alone env).reflexive
  rintro _ after result _ ⟨⟨last, stored, same⟩, exact, returned⟩
  cases result with
  | error =>
    rintro _ ⟨⟩
    constructor
    · rintro ⟨other, found, retreated⟩
      cases Option.some.inj (stored.symm.trans found)
      rw [same, resting] at retreated
      cases retreated
    · intro recordable
      obtain ⟨next, impossible⟩ := exact.mpr recordable
      cases impossible
  | ok next =>
    obtain ⟨kept, step⟩ := returned next rfl
    obtain ⟨stage, request⟩ := step.same
    rw [← request] at kept
    apply (failAndRollback_retreats ownershipConflict kept forward (stage.trans follows)).weaken
    intro _ _ _ retreated
    rw [request] at retreated
    exact ⟨fun _ => exact.mp ⟨next, rfl⟩, fun _ => retreated⟩

end Bahia.Saga
