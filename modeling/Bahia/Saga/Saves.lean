import Bahia.Saga.Moves

/-! Every save of a checkpoint, a failure or a projection is in order, and leaves the call with a copy
of what was saved. -/

namespace Bahia.Saga
open Foundation
variable {env : Environment} {policy : RetentionPolicy} {view : View env} {inspects : Bool}
variable {trace : Trace} {store : FileStore env} {run : Run}

/-- What a call sees to besides the order of its requests: what holds of the store whenever it may
return, and of every run that it saves but the end of a rollback. -/
structure Care (policy : RetentionPolicy) (view : View env) where
  fine : FileStore env → Prop
  good : Run → Prop
  steady : ∀ {first second}, view.rely first second → fine first → fine second
  saved : ∀ {store : FileStore env} {run : Run} (valid : run.validate env = none), fine store →
    good run → fine (store.write run valid)
  moved : ∀ {trace : Trace} {run updated : Run} (time : Time), Move env policy trace run updated →
    (updated.stage = .rolledBack → run.stage = .rolledBack) → good run → good (updated.stamped time)

def Care.none (policy : RetentionPolicy) (view : View env) : Care policy view where
  fine _ := True
  good _ := True
  steady _ _ := trivial
  saved _ _ _ := trivial
  moved _ _ _ _ := trivial

variable {care : Care policy view}

/-- The call has a copy of a run, and what it sees to holds. -/
structure Care.Knows (care : Care policy view) (store : FileStore env) (run : Run) : Prop where
  holds : view.holds store run
  fine : care.fine store
  good : care.good run

theorem Care.ignores (held : view.holds store run) : (Care.none policy view).Knows store run :=
  ⟨held, trivial, trivial⟩

theorem Care.later (relied : view.rely first second) (knows : care.Knows first run) :
    care.Knows second run :=
  ⟨view.stable relied knows.holds, care.steady relied knows.fine, knows.good⟩

abbrev InOrder (care : Care policy view) (inspects : Bool) (trace : Trace) (store : FileStore env)
    {Result : Type} (program : Engine Result) : Prop :=
  program.Obeys (contract policy view inspects) (fun _ after _ => care.fine after) trace store

/-- The same, with what holds of the run it returns. -/
abbrev Brings (care : Care policy view) (inspects : Bool) (trace : Trace) (store : FileStore env)
    {Result Stop : Type} (program : Engine (Except Stop Result))
    (goal : FileStore env → Result → Prop) : Prop :=
  program.Obeys (contract policy view inspects)
    (fun _ after result => care.fine after ∧ ∀ value, result = .ok value → goal after value) trace store

section Steps
variable {Stop First Second : Type}
  {reached weaker : FileStore env → First → Prop}

theorem proceeds {rest : Except Stop First → Engine Second}
    {goal : Trace → FileStore env → Second → Prop}
    (obeys : Brings care inspects trace store program reached)
    (stops : ∀ stop trace store, care.fine store →
      (rest (.error stop)).Obeys (contract policy view inspects) goal trace store)
    (goes : ∀ longer after value, trace <+: longer → reached after value →
      (rest (.ok value)).Obeys (contract policy view inspects) goal longer after) :
    (program >>= rest).Obeys (contract policy view inspects) goal trace store := by
  apply obeys.bind view.reflexive
  intro longer after result more returned
  cases result with
  | error stop => exact stops stop longer after returned.1
  | ok value => exact goes longer after value more (returned.2 value rfl)

theorem Brings.weaken (obeys : Brings care inspects trace store program reached)
    (implies : ∀ after value, reached after value → weaker after value) :
    Brings care inspects trace store program weaker :=
  Program.Obeys.weaken obeys fun _ after _ returned =>
    ⟨returned.1, fun value same => implies after value (returned.2 value same)⟩

end Steps

theorem harmless {goal : FileStore env → Prop}
    (quiet : ∀ trace store, permitted policy view inspects trace store request)
    (same : ∀ (store : FileStore env) outside, (serve store request outside).1 = store)
    (stable : ∀ {first second}, view.rely first second → goal first → goal second)
    (met : goal store) :
    (Program.request request : Engine (Response request)).Obeys (contract policy view inspects)
      (fun _ after _ => goal after) trace store := by
  apply Program.Obeys.request
  intro later relied
  refine ⟨quiet trace later, ?_⟩
  intro outside after more
  have kept : (serve later request outside).1 = later := same later outside
  exact stable (view.transitive _ _ _ relied (by rw [← kept]; exact more)) met

theorem now_obeys (held : care.Knows store run) :
    Engine.now.Obeys (contract policy view inspects) (fun _ after _ => care.Knows after run) trace store :=
  harmless (fun _ _ => trivial) (fun _ _ => rfl) Care.later held

theorem inspectTerminal_obeys (shown : Run) (held : care.Knows store run) :
    (Engine.inspectTerminal shown).Obeys (contract policy view inspects)
      (fun _ after _ => care.Knows after run) trace store :=
  harmless (fun _ _ => trivial) (fun _ _ => rfl) Care.later held

theorem publishTerminal_obeys (shown : Run) (key : String) (held : care.Knows store run) :
    (Engine.publishTerminal shown key).Obeys (contract policy view inspects)
      (fun _ after _ => care.Knows after run) trace store :=
  harmless (fun _ _ => trivial) (fun _ _ => rfl) Care.later held

/-- The save of a move, by a call that knows the run it moves: the store refuses it or writes it. -/
theorem save_outcome (held : view.holds store run) (move : Move env policy trace run updated) :
    (save updated).Obeys (contract policy view inspects) (fun _ after result =>
      ∃ later, view.rely store later ∧ ∃ time : Moment,
        (∃ err halt, later.save (updated.stamped time.val) updated.version = (later, some err) ∧
          result = .error halt ∧ view.rely later after) ∨
        ∃ valid, later.save (updated.stamped time.val) updated.version =
            (later.write (updated.stamped time.val) valid, none) ∧
          result = .ok (updated.stamped time.val) ∧
            view.rely (later.write (updated.stamped time.val) valid) after) trace store := by
  have clock : Engine.now.Obeys (contract policy view inspects)
      (fun _ after _ => view.rely store after) trace store :=
    harmless (fun _ _ => trivial) (fun _ _ => rfl)
      (fun relied since => view.transitive _ _ _ since relied) (view.reflexive store)
  apply clock.bind view.reflexive
  intro timed between time more since
  have attempt : (Program.request (Request.save (updated.stamped time.val) updated.version) :
      Engine (Option Error)).Obeys (contract policy view inspects)
        (fun _ after answer => ∃ later, view.rely store later ∧
          (later.save (updated.stamped time.val) updated.version).2 = answer ∧
          view.rely (later.save (updated.stamped time.val) updated.version).1 after)
        timed between := by
    apply Program.Obeys.request
    intro later relied
    have reached := view.transitive _ _ _ since relied
    exact ⟨⟨run, updated, time.val, view.stable reached held, move.identity.2, move.grown more, rfl⟩,
      fun _ _ more => ⟨later, reached, rfl, more⟩⟩
  apply attempt.bind view.reflexive
  rintro _ after answer _ ⟨later, reached, answered, more⟩
  rcases later.save_cases (updated.stamped time.val) updated.version with
    ⟨err, failed⟩ | ⟨_, valid, _, _, _, _, done⟩
  · rw [failed] at answered more
    cases answered
    intro last relied
    exact ⟨later, reached, time, .inl ⟨err, _, failed, rfl, view.transitive _ _ _ more relied⟩⟩
  · rw [done] at answered more
    cases answered
    intro last relied
    exact ⟨later, reached, time, .inr ⟨valid, done, rfl, view.transitive _ _ _ more relied⟩⟩

theorem save_obeys (held : care.Knows store run) (move : Move env policy trace run updated)
    (good : ∀ time, care.good (updated.stamped time)) :
    Brings care inspects trace store (save updated)
      fun after next => care.Knows after next ∧ ∃ time, next = updated.stamped time := by
  apply (save_outcome held.holds move).weaken
  rintro _ after _ ⟨later, reached, time, ⟨_, halt, _, rfl, more⟩ | ⟨valid, _, rfl, more⟩⟩
  · exact ⟨care.steady (view.transitive _ _ _ reached more) held.fine, fun _ wrong => nomatch wrong⟩
  · have fine := care.steady more
      (care.saved valid (care.steady reached held.fine) (good time.val))
    refine ⟨fine, ?_⟩
    rintro _ ⟨⟩
    exact ⟨⟨view.stable more (view.saved valid), fine, good time.val⟩, time.val, rfl⟩

theorem step_obeys (held : care.Knows store run) (move : Move env policy trace run updated)
    (stays : updated.stage = .rolledBack → run.stage = .rolledBack) :
    Brings care inspects trace store (save updated)
      fun after next => care.Knows after next ∧ ∃ time, next = updated.stamped time :=
  save_obeys held move fun time => care.moved time move stays held.good

theorem transition_obeys (held : care.Knows store run)
    (move : ∀ time, Move env policy trace run (run.moved target time))
    (stays : target = .rolledBack → run.stage = .rolledBack) :
    Brings care inspects trace store (transition run target)
      fun after next => care.Knows after next ∧ ∃ time stamp, next = (run.moved target
        time).stamped stamp := by
  apply (now_obeys held).bind view.reflexive
  intro timed after time more known
  apply Brings.weaken (step_obeys known ((move time.val).grown more) stays)
  rintro _ next ⟨holds, stamp, same⟩
  exact ⟨holds, time.val, stamp, same⟩

theorem stopped (stop : Stop) (fine : care.fine store) :
    Brings care inspects trace store (pure (.error stop) : Engine (Except Stop Result)) goal :=
  fun _ relied => ⟨care.steady relied fine, fun _ impossible => nomatch impossible⟩

theorem finished (result : Result) (fine : care.fine store) :
    InOrder care inspects trace store (pure result : Engine Result) :=
  fun _ relied => care.steady relied fine

theorem continued {Result Stop : Type} {goal : FileStore env → Result → Prop} {result : Result}
    (fine : care.fine store)
    (reached : ∀ {later}, view.rely store later → goal later result) :
    Brings care inspects trace store (pure (.ok result) : Engine (Except Stop Result)) goal := by
  intro later relied
  refine ⟨care.steady relied fine, ?_⟩
  rintro _ ⟨⟩
  exact reached relied

/-! ### Checkpoints -/

/-- The run with more resources, and nothing else changed. -/
def Checkpointed (run next : Run) : Prop :=
  ∃ added version time, next =
    { run with resources := run.resources ++ added, version := version, updatedAt := time }

theorem Checkpointed.refl (run : Run) : Checkpointed run run :=
  ⟨[], run.version, run.updatedAt, by rw [List.append_nil]⟩

theorem Checkpointed.trans (early : Checkpointed first second) (late : Checkpointed second third) :
    Checkpointed first third := by
  obtain ⟨added, version, time, rfl⟩ := early
  obtain ⟨more, last, stamp, rfl⟩ := late
  exact ⟨added ++ more, last, stamp, by rw [List.append_assoc]⟩

theorem Checkpointed.records (step : Checkpointed run next) (records : run.Records env resource) :
    next.Records env resource := by
  obtain ⟨added, version, time, rfl⟩ := step
  obtain ⟨current, member, same⟩ := records
  exact ⟨current, List.mem_append_left added member, same⟩

theorem Checkpointed.same (step : Checkpointed run next) :
    next.stage = run.stage ∧ next.requestID = run.requestID := by
  obtain ⟨added, version, time, rfl⟩ := step
  exact ⟨rfl, rfl⟩

theorem checkpointed_recorded (resource : Resource) (time : Time) :
    Checkpointed run ((run.recorded resource).stamped time) :=
  ⟨[resource], run.version + 1, time, rfl⟩

theorem stampResource_obeys {goal : FileStore env → Prop} (resource : Resource)
    (stable : ∀ {first second}, view.rely first second → goal first → goal second)
    (met : goal store) :
    (stampResource resource).Obeys (contract policy view inspects)
      (fun _ after stamped => goal after ∧ ∃ time, stamped = { resource with recordedAt := time })
      trace store := by
  have clock : Engine.now.Obeys (contract policy view inspects) (fun _ after _ => goal after)
      trace store := harmless (fun _ _ => trivial) (fun _ _ => rfl) stable met
  unfold stampResource
  split
  · apply clock.bind view.reflexive
    intro _ after time _ met later relied
    exact ⟨stable relied met, time.val, rfl⟩
  · intro later relied
    exact ⟨stable relied met, resource.recordedAt, rfl⟩

theorem recordResource_obeys (resource : Resource) (held : care.Knows store run) :
    Brings care inspects trace store (recordResource run resource)
      fun after next => care.Knows after next ∧ Checkpointed run next ∧ ∃ current ∈ next.resources,
        current.key = resource.key ∧ current.SameLineage resource := by
  unfold recordResource
  split
  · exact stopped _ held.fine
  split
  · exact stopped _ held.fine
  split
  · exact stopped _ held.fine
  split
  · rename_i current found
    split
    · rename_i same
      have keyed : current.key = resource.key := by simpa using List.find?_some found
      exact continued held.fine fun relied => ⟨Care.later relied held, Checkpointed.refl run,
        current, List.mem_of_find?_eq_some found, keyed, same⟩
    · exact stopped _ held.fine
  · apply Brings.weaken (step_obeys held (.recorded resource) id)
    rintro _ _ ⟨holds, time, rfl⟩
    exact ⟨holds, checkpointed_recorded resource time, resource,
      List.mem_append_right _ List.mem_cons_self, rfl, rfl, rfl, rfl⟩

theorem checkpointResource_obeys (stage : Stage) (resource : Resource)
    (held : care.Knows store run) :
    Brings care inspects trace store (checkpointResource env run stage resource)
      fun after next => care.Knows after next ∧ Checkpointed run next ∧ next.Records env resource
        := by
  apply (stampResource_obeys _ Care.later held).bind view.reflexive
  rintro _ after _ _ ⟨known, time, rfl⟩
  apply Brings.weaken (recordResource_obeys _ known)
  rintro _ next ⟨holds, step, current, member, keyed, same⟩
  exact ⟨holds, step, current, member, keyed, same⟩

section
variable (stage : Stage) (resources : List Resource) (held : care.Knows store run)
include held

theorem checkpointEach_obeys :
    Brings care inspects trace store (checkpointEach env stage resources run)
      fun after next => care.Knows after next ∧ Checkpointed run next ∧ ∀ resource ∈ resources,
        next.Records env resource := by
  induction resources generalizing run trace store with
  | nil =>
    exact continued held.fine fun relied =>
      ⟨Care.later relied held, Checkpointed.refl run, fun _ member => nomatch member⟩
  | cons resource rest ih =>
    rw [checkpointEach]
    refine proceeds (checkpointResource_obeys stage resource held) (fun halt _ _ => stopped halt) ?_
    rintro _ after middle _ ⟨holds, step, recorded⟩
    apply Brings.weaken (ih holds)
    rintro _ next ⟨holds, more, each⟩
    exact ⟨holds, step.trans more, List.forall_mem_cons.mpr ⟨more.records recorded, each⟩⟩

theorem checkpointResources_obeys :
    Brings care inspects trace store (checkpointResources env run stage resources)
      fun after next => care.Knows after next ∧ Checkpointed run next ∧ ∀ resource ∈ resources,
        next.Records env resource := by
  unfold checkpointResources
  split
  · exact stopped _ held.fine
  · exact checkpointEach_obeys stage resources held

theorem checkpointConflictResources_obeys :
    Brings care inspects trace store (checkpointConflictResources env stage resources run)
      fun after next => care.Knows after next ∧ Checkpointed run next := by
  induction resources generalizing run trace store with
  | nil =>
    exact continued held.fine fun relied => ⟨Care.later relied held, Checkpointed.refl run⟩
  | cons resource rest ih =>
    rw [checkpointConflictResources]
    split
    · exact ih held
    apply (stampResource_obeys _ Care.later held).bind view.reflexive
    rintro _ after stamped _ ⟨known, _⟩
    split
    · exact stopped _ known.fine
    refine proceeds (step_obeys known (.recorded stamped) id) (fun halt _ _ => stopped halt) ?_
    rintro _ after _ _ ⟨holds, time, rfl⟩
    apply Brings.weaken (ih holds)
    rintro _ next ⟨holds, more⟩
    exact ⟨holds, (checkpointed_recorded stamped time).trans more⟩

/-! ### Projections and failures -/

end

theorem recordTerminal_obeys (obs : Observation) (held : care.Knows store run) :
    Brings care inspects trace store (recordTerminal env run obs)
      fun after next => care.Knows after next ∧ Checkpointed run next := by
  unfold recordTerminal
  split
  · exact stopped _ held.fine
  apply Brings.weaken (checkpointResources_obeys run.stage obs.resources held)
  rintro _ next ⟨holds, step, _⟩
  exact ⟨holds, step⟩

theorem ensureTerminal_obeys (held : care.Knows store run) :
    Brings care inspects trace store (ensureTerminal env run)
      fun after next => care.Knows after next ∧ Checkpointed run next := by
  apply (inspectTerminal_obeys run held).bind view.reflexive
  intro _ after answer _ known
  cases answer with
  | error => exact stopped _ known.fine
  | ok obs =>
    dsimp only
    split
    · exact stopped _ known.fine
    split
    · apply (publishTerminal_obeys run _ known).bind view.reflexive
      intro _ after _ _ known
      apply (inspectTerminal_obeys run known).bind view.reflexive
      intro _ after answer _ known
      cases answer with
      | error => exact stopped _ known.fine
      | ok obs => exact recordTerminal_obeys obs known
    · exact recordTerminal_obeys obs known

theorem replyFailed_obeys (failure : SafeError) (held : care.Knows store run) :
    InOrder care inspects trace store (replyFailed env run failure) := by
  unfold replyFailed
  split
  · exact proceeds (ensureTerminal_obeys held) (fun _ _ _ => finished _)
      fun _ _ _ _ known => finished _ known.1.fine
  · exact finished _ held.fine

theorem saveFailed_obeys (failure : SafeError) (held : care.Knows store run)
    (move : Move env policy trace run updated)
    (stays : updated.stage = .rolledBack → run.stage = .rolledBack) :
    InOrder care inspects trace store
      (do match ← save updated with
        | .error halt => return ⟨none, some halt.error⟩
        | .ok run => replyFailed env run failure : Engine Reply) := by
  refine proceeds (step_obeys held move stays) (fun _ _ _ => finished _) ?_
  rintro _ _ next _ ⟨held, _⟩
  exact replyFailed_obeys failure held

theorem mark_failing (stage : Stage) (shown : String × String) (failedAt movedAt markedAt : Time) :
    policy.mark (run.failing stage shown true failedAt movedAt) markedAt =
      run.failing stage shown true failedAt movedAt :=
  rfl

theorem fail_obeys (cause : Cause) (held : care.Knows store run)
    (forward : isForwardStage stage = true) (follows : run.stage = previousStage (some stage)) :
    InOrder care inspects trace store (fail env policy run stage cause true) := by
  apply (now_obeys held).bind view.reflexive
  intro _ _ failedAt _ held
  apply (now_obeys held).bind view.reflexive
  intro _ _ movedAt _ held
  apply (now_obeys held).bind view.reflexive
  intro _ _ markedAt _ held
  dsimp only
  rw [mark_failing]
  exact saveFailed_obeys _ held
    (.failed stage (publicFailure cause) failedAt.val movedAt.val forward follows) nofun

end Bahia.Saga
