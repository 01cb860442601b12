import Bahia.Saga.Reconcile

/-! What a save may do to a run, and what a call knows of the store. A call keeps a copy of the run;
a `View` says what the copy is worth while other calls may write. -/

namespace Bahia.Saga
open Foundation List

abbrev Trace := List (Event Request Response)

/-- What a copy of a run tells of the store, and what happens to the store meanwhile. -/
structure View (env : Environment) where
  rely : FileStore env → FileStore env → Prop
  holds : FileStore env → Run → Prop
  reflexive : ∀ store, rely store store
  transitive : ∀ first second third, rely first second → rely second third → rely first third
  stable : ∀ {first second run}, rely first second → holds first run → holds second run
  loaded : ∀ {store : FileStore env} {requestID run}, store.get requestID = some run →
    run.requestID = requestID → holds store run
  saved : ∀ {store : FileStore env} {next : Run} (valid : next.validate env = none),
    holds (store.write next valid) next
  exact : ∀ {store : FileStore env} {run current : Run}, holds store run →
    store.get run.requestID = some current → current.version = run.version → current = run

namespace View

/-- Nobody else writes: the copy is the stored run. -/
def alone (env : Environment) : View env where
  rely := Eq
  holds store run := store.get run.requestID = some run
  reflexive _ := rfl
  transitive _ _ _ := Eq.trans
  stable same held := by rw [← same]; exact held
  loaded stored same := by rw [same]; exact stored
  saved _ := by rw [FileStore.get_write, if_pos rfl]
  exact held stored _ := Option.some.inj (stored.symm.trans held)

/-- The stored run of a request is the old one or a later version. -/
def Newer {env : Environment} (first second : FileStore env) : Prop :=
  ∀ requestID run, first.get requestID = some run →
    ∃ current, second.get requestID = some current ∧ (current = run ∨ run.version < current.version)

/-- Others may write too: the copy is the stored run or an older version of it. -/
def shared (env : Environment) : View env where
  rely := Newer
  holds store run := ∃ current, store.get run.requestID = some current ∧
    (current = run ∨ run.version < current.version)
  reflexive _ _ run held := ⟨run, held, .inl rfl⟩
  transitive first second third early late requestID run held := by
    obtain ⟨middle, stored, same | below⟩ := early requestID run held
    · rw [← same]
      exact late requestID middle stored
    · obtain ⟨last, present, same | above⟩ := late requestID middle stored
      · exact ⟨last, present, .inr (by rw [same]; exact below)⟩
      · exact ⟨last, present, .inr (below.trans above)⟩
  stable newer held := by
    obtain ⟨current, stored, same | below⟩ := held
    · rw [← same]
      exact newer _ current (by rw [same]; rw [same] at stored; exact stored)
    · obtain ⟨last, present, same | above⟩ := newer _ current stored
      · exact ⟨last, present, .inr (by rw [same]; exact below)⟩
      · exact ⟨last, present, .inr (below.trans above)⟩
  loaded stored same := ⟨_, by rw [same]; exact stored, .inl rfl⟩
  saved _ := ⟨_, by rw [FileStore.get_write, if_pos rfl], .inl rfl⟩
  exact held stored same := by
    obtain ⟨current, known, equal | below⟩ := held
    · exact (Option.some.inj (stored.symm.trans known)).trans equal
    · cases Option.some.inj (stored.symm.trans known)
      omega

end View

/-! ### What was observed -/

/-- An observed resource as it is referred to. -/
def Resource.referred (env : Environment) (resource : Resource) : Resource :=
  { resource with
    externalID := publicResourceRef env resource.system resource.kind resource.externalID }

/-- The run has this resource, under the lineage it was observed with. -/
def Run.Records (env : Environment) (run : Run) (resource : Resource) : Prop :=
  ∃ current ∈ run.resources, current.key = (resource.referred env).key ∧
    current.SameLineage resource

/-- An inspection of the stage matched, and everything it showed is recorded. -/
def Matched (env : Environment) (trace : Trace) (stage : Stage) (run : Run) : Prop :=
  ∃ seen obs, (⟨.inspect stage seen none, .ok obs⟩ : Event Request Response) ∈ trace ∧
    (enforceObservation run stage obs).reality = .matching ∧
    ∀ resource ∈ obs.resources, run.Records env resource

def Run.Cleared (run : Run) : Prop :=
  ∀ resource ∈ run.resources, resource.OwnedBy run.runID → compensated run resource.key = true

/-- What one save does to a run. -/
inductive Move (env : Environment) (policy : RetentionPolicy) (trace : Trace) (run : Run) : Run → Prop
  | recorded (resource : Resource) : Move env policy trace run (run.recorded resource)
  | entered (stage : Stage) (time : Time) (forward : isForwardStage stage = true)
      (follows : run.stage = previousStage (some stage)) (matched : Matched env trace stage run) :
      Move env policy trace run (run.moved stage time)
  | resumed (time : Time) (failed : run.stage = .failedRecoverable) :
      Move env policy trace run (run.moved (previousStage run.resumeStage) time)
  | failed (stage : Stage) (shown : String × String) (failedAt movedAt : Time)
      (forward : isForwardStage stage = true) (follows : run.stage = previousStage (some stage)) :
      Move env policy trace run (run.failing stage shown true failedAt movedAt)
  | conflicted (stage : Stage) (shown : String × String) (failedAt movedAt : Time)
      (forward : isForwardStage stage = true) (follows : run.stage = previousStage (some stage)) :
      Move env policy trace run (run.rollingBack stage shown failedAt movedAt)
  | aborted (time : Time) (live : run.stage.terminalProjection = false)
      (fresh : run.stage ≠ .rollbackPending) :
      Move env policy trace run (run.moved .rollbackPending time)
  | compensated (resource : Resource) (outcome : String) (time : Time)
      (pending : run.stage = .rollbackPending) :
      Move env policy trace run (run.compensation env resource outcome time)
  | retried (stage : Stage) (shown : String × String) (failedAt : Time)
      (pending : run.stage = .rollbackPending) :
      Move env policy trace run (run.rollbackRetry stage shown failedAt)
  | lost (stage : Stage) (shown : String × String) (failedAt movedAt markedAt : Time)
      (pending : run.stage = .rollbackPending) :
      Move env policy trace run (policy.mark (run.rollbackLost stage shown failedAt movedAt) markedAt)
  | rolledBack (time : Time) (pending : run.stage = .rollbackPending) (cleared : run.Cleared) :
      Move env policy trace run (run.moved .rolledBack time)
  | retained (time : Time) (ended : run.stage = .rolledBack) :
      Move env policy trace run (policy.mark run time)

section
variable {env : Environment} {policy : RetentionPolicy} {trace longer : Trace} {run next : Run}

theorem Matched.grown {stage : Stage} (matched : Matched env trace stage run)
    (more : trace <+: longer) : Matched env longer stage run := by
  obtain ⟨seen, obs, asked, reality, records⟩ := matched
  exact ⟨seen, obs, more.subset asked, reality, records⟩

theorem Move.grown (move : Move env policy trace run next) (more : trace <+: longer) :
    Move env policy longer run next := by
  cases move with
  | recorded resource => exact .recorded resource
  | entered stage time forward follows matched =>
    exact .entered stage time forward follows (matched.grown more)
  | resumed time failed => exact .resumed time failed
  | failed stage shown failedAt movedAt forward follows =>
    exact .failed stage shown failedAt movedAt forward follows
  | conflicted stage shown failedAt movedAt forward follows =>
    exact .conflicted stage shown failedAt movedAt forward follows
  | aborted time live fresh => exact .aborted time live fresh
  | compensated resource outcome time pending => exact .compensated resource outcome time pending
  | retried stage shown failedAt pending => exact .retried stage shown failedAt pending
  | lost stage shown failedAt movedAt markedAt pending =>
    exact .lost stage shown failedAt movedAt markedAt pending
  | rolledBack time pending cleared => exact .rolledBack time pending cleared
  | retained time ended => exact .retained time ended

@[simp] theorem mark_requestID (time : Time) : (policy.mark run time).requestID = run.requestID := by
  unfold RetentionPolicy.mark
  split <;> rfl

@[simp] theorem mark_version (time : Time) : (policy.mark run time).version = run.version := by
  unfold RetentionPolicy.mark
  split <;> rfl

@[simp] theorem mark_stage (time : Time) : (policy.mark run time).stage = run.stage := by
  unfold RetentionPolicy.mark
  split <;> rfl

theorem Move.identity (move : Move env policy trace run next) :
    next.requestID = run.requestID ∧ next.version = run.version := by
  cases move with
  | lost | retained => exact ⟨mark_requestID _, mark_version _⟩
  | _ => exact ⟨rfl, rfl⟩

theorem mark_extends {old : Run} (kept : old.Extends run) (time : Time) :
    old.Extends (policy.mark run time) := by
  unfold RetentionPolicy.mark
  split
  · exact ⟨kept.requestID, kept.runID, kept.rootKey, kept.agentID, kept.specHash, kept.createdAt,
      kept.resources, kept.transitions, kept.compensations, kept.failures⟩
  · exact kept

theorem Move.extends (move : Move env policy trace run next) : run.Extends next := by
  have same : run.Extends run :=
    ⟨rfl, rfl, rfl, rfl, rfl, rfl, prefix_refl _, prefix_refl _, prefix_refl _,
      prefix_refl _⟩
  cases move with
  | recorded => exact { same with resources := prefix_append _ _ }
  | entered | resumed | aborted | rolledBack =>
    exact { same with transitions := prefix_append _ _ }
  | failed | conflicted =>
    exact { same with transitions := prefix_append _ _, failures := prefix_append _ _ }
  | compensated => exact { same with compensations := prefix_append _ _ }
  | retried => exact { same with failures := prefix_append _ _ }
  | lost stage shown failedAt movedAt =>
    have lost : run.Extends (run.rollbackLost stage shown failedAt movedAt) :=
      { same with transitions := prefix_append _ _, failures := prefix_append _ _ }
    exact mark_extends lost _
  | retained => exact mark_extends same _

end

/-- A compensation in order: the run records the resource as its own, it is not compensated yet, and
the call has just seen it there, still this run's. -/
structure Compensates (env : Environment) (trace : Trace) (run : Run) (resource : Resource) : Prop where
  recorded : resource ∈ run.resources
  owned : resource.OwnedBy run.runID
  fresh : compensated run resource.key = false
  seen : ∃ before obs, trace = before ++
    [(⟨.inspect resource.stage run.snapshot (some resource), .ok obs⟩ : Event Request Response)] ∧
      StillOwned env run resource obs

/-- The requests that are in order. Only a part of a call that `inspects` may ask what is there of a
stage; the other parts ask about single resources. -/
def permitted {env : Environment} (policy : RetentionPolicy) (view : View env) (inspects : Bool)
    (trace : Trace) (store : FileStore env) : Request → Prop
  | .create run => run.stage = .requested
  | .save next expected => ∃ run updated time, view.holds store run ∧ expected = run.version ∧
    Move env policy trace run updated ∧ next = updated.stamped time
  | .compensate stage seen resource _ => ∃ run, view.holds store run ∧ seen = run.snapshot ∧
    stage = resource.stage ∧ Compensates env trace run resource
  | .inspect _ _ resource => inspects = true ∨ resource ≠ none
  | _ => True

def contract {env : Environment} (policy : RetentionPolicy) (view : View env) (inspects : Bool) :
    Contract Request Response Outside (FileStore env) where
  serve := serve
  rely := view.rely
  guard := permitted policy view inspects

section Serving
variable {env : Environment} {policy : RetentionPolicy} {view : View env} {inspects : Bool}
  {trace : Trace} {store : FileStore env} {request : Request} {outside : Outside request}
  {requestID : String} {old new : Run}

section
variable (store : FileStore env) (request : Request) (outside : Outside request)

/-- A request leaves the store as it is, adds a run or puts the next version of one in its place. -/
theorem serve_cases : (serve store request outside).1 = store ∨
      (∃ run, ∃ valid : run.validate env = none, request = .create run ∧
        store.get run.requestID = none ∧ (serve store request outside).1 = store.write run valid) ∨
      ∃ next expected current, ∃ valid : next.validate env = none, request = .save next expected ∧
        store.get next.requestID = some current ∧ current.version = expected ∧
        next.version = expected + 1 ∧ current.Extends next ∧
        (serve store request outside).1 = store.write next valid := by
  cases request with
  | create run =>
    rcases store.create_cases run with ⟨err, failed⟩ | ⟨valid, missing, done⟩
    · exact .inl (congrArg Prod.fst failed)
    · exact .inr (.inl ⟨run, valid, rfl, missing, congrArg Prod.fst done⟩)
  | save next expected =>
    rcases store.save_cases next expected with
      ⟨err, failed⟩ | ⟨current, valid, present, here, bumped, kept, done⟩
    · exact .inl (congrArg Prod.fst failed)
    · exact .inr (.inr ⟨next, expected, current, valid, rfl, present, here, bumped, kept,
        congrArg Prod.fst done⟩)
  | _ => exact .inl rfl

theorem newer_serve : View.Newer store (serve store request outside).1 := by
  intro requestID old held
  rcases serve_cases store request outside with
    same | ⟨run, valid, _, missing, done⟩ | ⟨next, _, current, valid, _, present, here, bumped, _, done⟩
  · rw [same]
    exact ⟨old, held, .inl rfl⟩
  · rw [done, FileStore.get_write]
    split
    · rename_i identical
      rw [identical] at missing
      exact nomatch held.symm.trans missing
    · exact ⟨old, held, .inl rfl⟩
  · rw [done, FileStore.get_write]
    split
    · rename_i identical
      rw [identical] at present
      cases Option.some.inj (held.symm.trans present)
      exact ⟨next, rfl, .inr (by omega)⟩
    · exact ⟨old, held, .inl rfl⟩

end

theorem serve_changed (inOrder : permitted policy view inspects trace store request)
    (before : store.get requestID = some old)
    (after : (serve store request outside).1.get requestID = some new) (different : old ≠ new) :
    ∃ updated time, Move env policy trace old updated ∧ new = updated.stamped time ∧
      old.Extends new := by
  rcases serve_cases store request outside with
    same | ⟨run, valid, _, missing, done⟩ | ⟨next, _, current, valid, rfl, stored, same, _, kept, done⟩
  · rw [same] at after
    exact absurd (Option.some.inj (before.symm.trans after)) different
  · rw [done, FileStore.get_write] at after
    split at after
    · rename_i identical
      rw [identical] at missing
      exact nomatch before.symm.trans missing
    · exact absurd (Option.some.inj (before.symm.trans after)) different
  · rw [done, FileStore.get_write] at after
    split at after
    · rename_i identical
      obtain ⟨run, updated, time, held, rfl, move, rfl⟩ := inOrder
      have request : (updated.stamped time).requestID = run.requestID := move.identity.1
      rw [request] at stored
      have known : current = run := view.exact held stored same
      rw [← identical, request, stored, known] at before
      cases Option.some.inj before
      cases after
      rw [known] at kept
      exact ⟨updated, time, move, rfl, kept⟩
    · exact absurd (Option.some.inj (before.symm.trans after)) different

theorem serve_created (inOrder : permitted policy view inspects trace store request)
    (before : store.get requestID = none)
    (after : (serve store request outside).1.get requestID = some new) : new.stage = .requested := by
  rcases serve_cases store request outside with
    same | ⟨run, valid, rfl, _, done⟩ | ⟨next, _, current, valid, _, stored, _, _, _, done⟩
  · rw [same] at after
    exact nomatch before.symm.trans after
  · rw [done, FileStore.get_write] at after
    split at after
    · cases after
      exact inOrder
    · exact nomatch before.symm.trans after
  · rw [done, FileStore.get_write] at after
    split at after
    · rename_i identical
      rw [identical] at stored
      exact nomatch before.symm.trans stored
    · exact nomatch before.symm.trans after

end Serving

end Bahia.Saga
