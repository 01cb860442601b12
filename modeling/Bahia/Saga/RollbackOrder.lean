import Bahia.Saga.Saves

/-! A rollback in order: it compensates what it has just seen to be this run's, and it ends only when
everything the run made is compensated. -/

namespace Bahia.Saga
open Foundation
variable {env : Environment} {policy : RetentionPolicy} {view : View env} {inspects : Bool}
variable {trace : Trace} {store : FileStore env} {run : Run} {care : Care policy view}

theorem inspect_obeys (stage : Stage) (resource : Option Resource)
    (allowed : inspects = true ∨ resource ≠ none) (held : care.Knows store run) :
    (Engine.inspect run stage resource).Obeys (contract policy view inspects)
      (fun longer after answer => care.Knows after run ∧ isForwardStage stage = true ∧
        longer = trace ++ [⟨.inspect stage run.snapshot resource, answer⟩]) trace store := by
  unfold Engine.inspect
  split
  · rename_i forward
    apply Program.Obeys.request
    intro later relied
    refine ⟨allowed, ?_⟩
    intro answer after more
    exact ⟨Care.later (view.transitive _ _ _ relied more) held, forward, rfl⟩
  · intro later relied
    exact ⟨trivial, fun impossible => nomatch impossible⟩

theorem rollbackFail_obeys (stage : Stage) (cause : Cause) (canRetry : Bool)
    (held : care.Knows store run) (pending : run.stage = .rollbackPending) :
    InOrder care inspects trace store
      (rollbackFail env policy run stage cause canRetry) := by
  apply (now_obeys held).bind view.reflexive
  intro _ _ failedAt _ held
  cases canRetry with
  | true =>
    exact saveFailed_obeys _ held (.retried stage (publicFailure cause) failedAt.val pending) nofun
  | false =>
    apply (now_obeys held).bind view.reflexive
    intro _ _ movedAt _ held
    apply (now_obeys held).bind view.reflexive
    intro _ _ markedAt _ held
    exact saveFailed_obeys _ held
      (.lost stage (publicFailure cause) failedAt.val movedAt.val markedAt.val pending)
      (fun ended => nomatch (mark_stage _).symm.trans ended)

/-- The run after some compensations: what it made is the same, and what was compensated stays so. -/
structure Undone (run next : Run) : Prop where
  stage : next.stage = run.stage
  runID : next.runID = run.runID
  resources : next.resources = run.resources
  compensations : run.compensations <+: next.compensations

theorem Undone.refl (run : Run) : Undone run run := ⟨rfl, rfl, rfl, List.prefix_refl _⟩

theorem Undone.trans (early : Undone first second) (late : Undone second third) :
    Undone first third :=
  ⟨late.stage.trans early.stage, late.runID.trans early.runID, late.resources.trans early.resources,
    early.compensations.trans late.compensations⟩

theorem Undone.compensated (step : Undone run next) (done : compensated run key = true) :
    compensated next key = true := by
  simp only [Saga.compensated, List.any_eq_true] at done ⊢
  obtain ⟨item, member, same⟩ := done
  exact ⟨item, step.compensations.subset member, same⟩

theorem recordCompensation_obeys (resource : Resource) (outcome : String)
    (held : care.Knows store run) (pending : run.stage = .rollbackPending) :
    Brings care inspects trace store (recordCompensation env run resource outcome)
      fun after next => care.Knows after next ∧ Undone run next ∧ compensated next resource.key =
        true := by
  apply (now_obeys held).bind view.reflexive
  intro _ _ time _ held
  apply Brings.weaken (step_obeys held (.compensated resource outcome time.val pending) id)
  rintro _ _ ⟨holds, stamp, rfl⟩
  refine ⟨holds, ⟨rfl, rfl, rfl, List.prefix_append _ _⟩, ?_⟩
  simp [compensated, Run.compensation, Run.stamped]

variable {goal : FileStore env → Run → Prop} {resource : Resource}

theorem orHalt_obeys (obeys : Brings care inspects trace store program goal)
    (stable : ∀ {first second run}, view.rely first second → goal first run → goal second run)
    (fine : ∀ {after run}, goal after run → care.fine after) :
    Brings care inspects trace store (orHalt program) goal := by
  refine proceeds obeys (fun _ _ _ => stopped _) ?_
  intro _ after next _ reached
  exact continued (fine reached) fun relied => stable relied reached

theorem ends_obeys (obeys : InOrder care inspects trace store program) :
    Brings care inspects trace store (ends program) goal := by
  apply obeys.bind view.reflexive
  intro _ _ reply _ fine
  exact stopped reply fine

def Turned (care : Care policy view) (run : Run) (resource : Resource) (after : FileStore env)
    (next : Run) : Prop :=
  care.Knows after next ∧ Undone run next ∧ compensated next resource.key = true

theorem turned_orHalt (obeys : Brings care inspects trace store program (Turned care run resource)) :
    Brings care inspects trace store (orHalt program) (Turned care run resource) :=
  orHalt_obeys obeys (fun relied turned => ⟨Care.later relied turned.1, turned.2⟩)
    fun turned => turned.1.fine

theorem compensateOwned_obeys (held : care.Knows store run)
    (pending : run.stage = .rollbackPending) (inOrder : Compensates env trace run resource) :
    Brings care inspects trace store (compensateOwned env policy run resource)
      (Turned care run resource) := by
  have asked : (Engine.compensate run resource (run.compensationKey env resource)).Obeys
      (contract policy view inspects) (fun _ after _ => care.Knows after run) trace store := by
    apply Program.Obeys.request
    intro later relied
    refine ⟨⟨run, view.stable relied held.holds, rfl, rfl, inOrder⟩, ?_⟩
    intro answer after more
    exact Care.later (view.transitive _ _ _ relied more) held
  apply asked.bind view.reflexive
  intro _ _ answer _ held
  cases answer with
  | some cause => exact ends_obeys (rollbackFail_obeys _ cause _ held pending)
  | none =>
    apply (inspect_obeys resource.stage (some resource) (.inr nofun) held).bind view.reflexive
    rintro _ _ answer _ ⟨held, _⟩
    cases answer with
    | error cause => exact ends_obeys (rollbackFail_obeys _ cause true held pending)
    | ok =>
      dsimp only
      split
      · exact turned_orHalt (recordCompensation_obeys resource _ held pending)
      split
      · exact ends_obeys (rollbackFail_obeys _ _ true held pending)
      · exact turned_orHalt (recordCompensation_obeys resource _ held pending)

theorem compensateOne_obeys (held : care.Knows store run)
    (pending : run.stage = .rollbackPending) (member : resource ∈ run.resources)
    (owned : resource.OwnedBy run.runID) (fresh : compensated run resource.key = false) :
    Brings care inspects trace store (compensateOne env policy run resource)
      (Turned care run resource) := by
  apply (inspect_obeys resource.stage (some resource) (.inr nofun) held).bind view.reflexive
  rintro _ _ answer _ ⟨held, _, rfl⟩
  cases answer with
  | error cause => exact ends_obeys (rollbackFail_obeys _ cause true held pending)
  | ok obs =>
    dsimp only
    split
    · exact turned_orHalt (recordCompensation_obeys resource _ held pending)
    split
    · rename_i still
      exact compensateOwned_obeys held pending ⟨member, owned, fresh, trace, obs, rfl, still⟩
    · exact ends_obeys (rollbackFail_obeys _ _ false held pending)

theorem compensateEach_obeys (resources : List Resource) (held : care.Knows store run)
    (pending : run.stage = .rollbackPending)
    (made : ∀ resource ∈ resources, resource ∈ run.resources ∧ resource.OwnedBy run.runID) :
    Brings care inspects trace store (compensateEach env policy resources run)
      fun after next => care.Knows after next ∧ Undone run next ∧ ∀ resource ∈ resources,
        compensated next resource.key = true := by
  induction resources generalizing run trace store with
  | nil =>
    exact continued held.fine fun relied =>
      ⟨Care.later relied held, Undone.refl run, fun _ member => nomatch member⟩
  | cons resource rest ih =>
    obtain ⟨⟨member, owned⟩, others⟩ := List.forall_mem_cons.mp made
    rw [compensateEach]
    split
    · rename_i already
      apply Brings.weaken (ih held pending others)
      rintro _ next ⟨holds, step, each⟩
      exact ⟨holds, step, List.forall_mem_cons.mpr ⟨step.compensated already, each⟩⟩
    · rename_i fresh
      refine proceeds (compensateOne_obeys held pending member owned (by simpa using fresh))
        (fun reply _ _ => stopped reply) ?_
      rintro _ _ middle _ ⟨holds, step, done⟩
      have kept : ∀ other ∈ rest, other ∈ middle.resources ∧ other.OwnedBy middle.runID := by
        rw [step.resources, step.runID]
        exact others
      apply Brings.weaken (ih holds (step.stage.trans pending) kept)
      rintro _ next ⟨holds, more, each⟩
      exact ⟨holds, step.trans more, List.forall_mem_cons.mpr ⟨more.compensated done, each⟩⟩

theorem mem_compensable :
    resource ∈ compensable run ↔ resource ∈ run.resources ∧ resource.OwnedBy run.runID := by
  rw [compensable, List.mem_insertionSort, sortForCompensation, List.mem_insertionSort,
    List.mem_filter, decide_eq_true_eq]

theorem mark_of_none (unset : (policy.mark run time).retainUntil.isSome = false) :
    policy.mark run time = run := by
  unfold RetentionPolicy.mark at unset ⊢
  split
  · rename_i positive
    rw [if_pos positive] at unset
    cases unset
  · rfl

theorem markRetention_obeys (held : care.Knows store run) (ended : run.stage = .rolledBack) :
    Brings care inspects trace store (markRetention policy run)
      fun after next => care.Knows after next := by
  apply (now_obeys held).bind view.reflexive
  intro _ _ time _ held
  split
  · exact Brings.weaken (step_obeys held (.retained time.val ended) fun _ => ended) fun _ _ saved => saved.1
  rename_i unset
  rw [mark_of_none (by simpa using unset)]
  exact continued held.fine fun relied => Care.later relied held

theorem ensured_obeys (held : care.Knows store run) :
    InOrder care inspects trace store
      (do match ← ensureTerminal env run with
        | .error halt => return ⟨some (reportFor halt.run false), some halt.error⟩
        | .ok run => return ⟨some (reportFor run false), none⟩ : Engine Reply) := by
  exact proceeds (ensureTerminal_obeys held) (fun _ _ _ => finished _)
    fun _ _ _ _ known => finished _ known.1.fine

/-- What a whole call needs of what it sees to: that it holds of what is loaded and created, and at
the end of a rollback. -/
structure Care.Whole (care : Care policy view) : Prop where
  loads : ∀ {store : FileStore env} {requestID run}, care.fine store →
    store.get requestID = some run → care.good run
  creates : ∀ {run : Run}, run.stage = .requested → care.good run
  finishes : ∀ {inspects trace store run}, care.Knows store run → run.stage = .rollbackPending →
    run.Cleared → InOrder care inspects trace store (finishRollback env policy run)

theorem none_whole : (Care.none policy view).Whole := by
  refine ⟨fun _ _ => trivial, fun _ => trivial, ?_⟩
  intro inspects trace store run held pending cleared
  have moves : Brings (Care.none policy view) inspects trace store (transition run .rolledBack)
      fun after next => (Care.none policy view).Knows after next ∧ next.stage = .rolledBack := by
    apply (now_obeys held).bind view.reflexive
    intro _ _ time more held
    apply Brings.weaken (save_obeys held (.rolledBack time.val pending cleared) fun _ => trivial)
    rintro _ _ ⟨holds, _, rfl⟩
    exact ⟨holds, rfl⟩
  refine proceeds moves (fun _ _ _ => finished _) ?_
  rintro _ _ _ _ ⟨held, ended⟩
  refine proceeds (markRetention_obeys held ended) (fun _ _ _ => finished _) ?_
  intro _ _ last _ marked
  exact ensured_obeys marked

variable (whole : care.Whole)
include whole

theorem rollback_obeys (held : care.Knows store run) (pending : run.stage = .rollbackPending) :
    InOrder care inspects trace store (rollback env policy run) := by
  refine proceeds (compensateEach_obeys _ held pending fun resource => mem_compensable.mp)
    (fun _ _ _ => finished _) ?_
  rintro _ _ next _ ⟨held, step, each⟩
  refine whole.finishes held (step.stage.trans pending) ?_
  intro resource member owned
  rw [step.resources] at member
  rw [step.runID] at owned
  exact each resource (mem_compensable.mpr ⟨member, owned⟩)

omit whole in
theorem previewRollback_obeys (resources : List Resource) (held : care.Knows store run) :
    InOrder care inspects trace store (previewRollback env run resources) := by
  induction resources generalizing trace store with
  | nil => exact finished _ held.fine
  | cons resource rest ih =>
    rw [previewRollback]
    have turn : (previewResource env run resource).Obeys (contract policy view inspects)
        (fun _ after _ => care.Knows after run) trace store := by
      apply (inspect_obeys resource.stage (some resource) (.inr nofun) held).bind view.reflexive
      rintro _ _ answer _ ⟨held, _⟩
      cases answer with
      | error => exact fun _ relied => Care.later relied held
      | ok =>
        dsimp only
        split <;> exact fun _ relied => Care.later relied held
    apply turn.bind view.reflexive
    intro _ _ action _ held
    apply (ih held).bind view.reflexive
    intro _ _ actions _ fine
    exact finished _ fine

theorem abortRun_obeys (dryRun : Bool) (held : care.Knows store run) :
    InOrder care inspects trace store (abortRun env policy run dryRun) := by
  unfold abortRun
  split
  · exact finished _ held.fine
  rename_i live
  split
  · apply (previewRollback_obeys _ held).bind view.reflexive
    intro _ _ actions _ fine
    exact finished _ fine
  split
  · rename_i fresh
    refine proceeds (transition_obeys held (fun time => .aborted time (by simpa using live) fresh)
      nofun) (fun _ _ _ => finished _) ?_
    rintro _ _ _ _ ⟨held, time, stamp, rfl⟩
    exact rollback_obeys whole held rfl
  · rename_i pending
    exact rollback_obeys whole held (by simpa using pending)

theorem load_obeys (requestID : String) (fine : care.fine store) :
    Brings care inspects trace store (Engine.load requestID)
      fun after run => care.Knows after run ∧ run.requestID = requestID := by
  apply Program.Obeys.request
  intro later relied
  refine ⟨trivial, ?_⟩
  intro _ after more
  have now := care.steady relied fine
  refine ⟨care.steady more now, ?_⟩
  intro run loaded
  obtain ⟨stored, same⟩ := FileStore.load_ok loaded
  exact ⟨Care.later more ⟨view.loaded stored same, now, whole.loads now stored⟩, same⟩

theorem safeAbort_obeys (requestID : String) (dryRun : Bool) (fine : care.fine store) :
    InOrder care inspects trace store (safeAbort env policy requestID dryRun) := by
  refine proceeds (load_obeys whole requestID fine) (fun _ _ _ => finished _) ?_
  rintro _ _ run _ ⟨held, _⟩
  exact abortRun_obeys whole dryRun held

theorem failAndRollback_obeys (cause : Cause) (held : care.Knows store run)
    (forward : isForwardStage stage = true) (follows : run.stage = previousStage (some stage)) :
    InOrder care inspects trace store (failAndRollback env policy run stage cause) := by
  apply (now_obeys held).bind view.reflexive
  intro _ _ failedAt _ held
  apply (now_obeys held).bind view.reflexive
  intro _ _ movedAt _ held
  refine proceeds (step_obeys held (.conflicted stage (publicFailure cause) failedAt.val movedAt.val
    forward follows) nofun) (fun _ _ _ => finished _) ?_
  rintro _ _ next _ ⟨held, _⟩
  apply (safeAbort_obeys whole next.requestID false held.fine).bind view.reflexive
  intro _ _ reply _ fine
  split <;> exact finished _ fine

end Bahia.Saga
