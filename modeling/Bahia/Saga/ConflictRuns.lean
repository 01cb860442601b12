import Bahia.Saga.Conflicts

/-! Every reconciliation: whether a conflict that one of its inspections shows reaches rollback. -/

namespace Bahia.Saga
open Foundation List
variable {env : Environment} {policy : RetentionPolicy}
variable {trace : Trace} {store : FileStore env} {run : Run}

/-- A request that is not about the state of a stage. -/
def Quiet (request : Request) : Prop := ∀ stage seen, request ≠ .inspect stage seen none

def Clear (env : Environment) (trace : Trace) : Prop :=
  ∀ stage (run : Run) obs,
    (⟨.inspect stage run.snapshot none, .ok obs⟩ : Event Request Response) ∈ trace →
      run.validate env = none → (enforceObservation run stage obs).reality ≠ .conflict

/-- A stage that was inspected and showed a conflict of well-formed resources sent the run into
rollback exactly when they could be recorded. -/
def Settled {env : Environment} (requestID : String) (trace : Trace) (store : FileStore env) : Prop :=
  ∀ stage (run : Run) obs,
    (⟨.inspect stage run.snapshot none, .ok obs⟩ : Event Request Response) ∈ trace →
      run.validate env = none → (enforceObservation run stage obs).reality = .conflict →
        (∀ resource ∈ obs.resources, resource.WellFormed) →
          (Retreated store requestID ↔ Recordable env run stage obs.resources)

variable {requestID : String} {other : Run} {seen shown : Snapshot}
  {obs : Observation}

theorem Clear.settled (clear : Clear env trace) :
    Settled requestID trace store :=
  fun stage run obs asked valid conflict => absurd conflict (clear stage run obs asked valid)

variable {stage : Stage}

theorem Clear.append (clear : Clear env trace) (later : ∀ stage (run : Run) obs,
      (⟨.inspect stage run.snapshot none, .ok obs⟩ : Event Request Response) ∈ more →
        run.validate env = none → (enforceObservation run stage obs).reality ≠ .conflict) :
    Clear env (trace ++ more) := by
  intro stage run obs asked
  rcases mem_append.mp asked with old | new
  · exact clear stage run obs old
  · exact later stage run obs new

theorem quietly {view : View env} {Result : Type} {program : Engine Result}
    {goal : Trace → FileStore env → Result → Prop}
    (obeys : program.Obeys (contract policy view false) goal trace store) :
    program.Obeys (contract policy view true) (fun after final result =>
      (∃ more, after = trace ++ more ∧ ∀ event ∈ more, Quiet event.request) ∧
        goal after final result) trace store := by
  have only (trace : Trace) (store : FileStore env) (request : Request)
      (inOrder : permitted policy view false trace store request) : Quiet request := by
    rintro stage seen rfl
    rcases inOrder with impossible | impossible
    · cases impossible
    · exact impossible rfl
  have allows (trace : Trace) (store : FileStore env) (request : Request)
      (inOrder : (contract policy view false).guard trace store request) :
      (contract policy view true).guard trace store request := by
    cases request with
    | inspect => exact .inl rfl
    | _ => exact inOrder
  refine Program.Obeys.relax ?_ ?_ allows (obeys.asked only)
  · rfl
  · rfl

theorem Clear.quiet (clear : Clear env trace)
    (quiet : ∀ event ∈ more, Quiet event.request) : Clear env (trace ++ more) :=
  clear.append fun _ _ _ asked => absurd rfl (quiet _ asked _ _)

/-- What one inspected stage leads to: the call is over and the stage is settled, or the stage is
entered and nothing has shown a conflict. -/
def Handled (env : Environment) (run : Run) (stage : Stage) (trace : Trace) (store : FileStore env)
    (result : Except Reply Run) : Prop :=
  (∀ reply, result = .error reply → Settled run.requestID trace store) ∧
    ∀ next, result = .ok next → Clear env trace ∧ Entered (View.alone env).holds run stage store next

theorem returned_handled (reply : Reply) (clear : Clear env trace) :
    (pure (.error reply) : Engine (Except Reply Run)).Obeys (contract policy (View.alone env) true)
      (Handled env run stage) trace store := by
  rintro _ ⟨⟩
  exact ⟨fun _ _ => clear.settled, fun _ impossible => nomatch impossible⟩

theorem ends_handled (clear : Clear env trace)
    (obeys : InOrder (Care.none policy (View.alone env)) false trace store program) :
    (ends program).Obeys (contract policy (View.alone env) true) (Handled env run stage)
      trace store := by
  apply (quietly obeys).bind (View.alone env).reflexive
  rintro _ _ reply _ ⟨⟨more, rfl, quiet⟩, _⟩
  exact returned_handled reply (clear.quiet quiet)

theorem enter_handled (clear : Clear env trace)
    (obeys : Brings (Care.none policy (View.alone env)) false trace store program
      (Entered (Care.none policy (View.alone env)).Knows run stage)) :
    (orHalt program).Obeys (contract policy (View.alone env) true) (Handled env run stage)
      trace store := by
  apply (quietly obeys).bind (View.alone env).reflexive
  rintro _ _ result _ ⟨⟨more, rfl, quiet⟩, entered⟩
  cases result with
  | error => exact returned_handled _ (clear.quiet quiet)
  | ok next =>
    rintro _ ⟨⟩
    refine ⟨fun _ impossible => (nomatch impossible), ?_⟩
    rintro _ ⟨⟩
    obtain ⟨known, same⟩ := entered.2 next rfl
    exact ⟨clear.quiet quiet, known.holds, same⟩

theorem recordable_snapshot (seen : other.snapshot = run.snapshot)
    (valid : run.validate env = none) (otherValid : other.validate env = none) (stage : Stage)
    (resources : List Resource) :
    Recordable env other stage resources ↔ Recordable env run stage resources := by
  simp only [Run.snapshot, Snapshot.mk.injEq] at seen
  obtain ⟨request, id, _, _, _, recorded⟩ := seen
  have root : other.rootKey = run.rootKey := by
    rw [((Run.validate_none_iff env other).mp otherValid).root,
      ((Run.validate_none_iff env run).mp valid).root, request, id]
  have same : conflictResource env other stage = conflictResource env run stage := by
    funext resource
    simp only [conflictResource, Run.stageKey, root]
  rw [Recordable, Recordable, conflictResources, conflictResources, recorded, id, same]

theorem inspect_inj {other : Stage}
    (same : (⟨.inspect other shown none, .ok found⟩ : Event Request Response) =
      ⟨.inspect stage seen none, .ok obs⟩) : other = stage ∧ shown = seen ∧ found = obs := by
  cases same
  exact ⟨rfl, rfl, rfl⟩

theorem enforceObservation_snapshot (seen : other.snapshot = run.snapshot)
    (stage : Stage) (obs : Observation) :
    enforceObservation other stage obs = enforceObservation run stage obs := by
  simp only [Run.snapshot, Snapshot.mk.injEq] at seen
  obtain ⟨request, _, _, spec, _⟩ := seen
  unfold enforceObservation hasTerminalProjection
  rw [request, spec]

theorem inspect_ok_ne {other : Stage} {cause : Cause} :
    (⟨.inspect other shown none, .ok found⟩ : Event Request Response) ≠
      ⟨.inspect stage seen none, .error cause⟩ := by
  intro same
  cases same

theorem Clear.inspected {inspected : Except Cause Observation} (clear : Clear env trace)
    (agrees : ∀ obs, inspected = .ok obs → (enforceObservation run stage obs).reality ≠ .conflict) :
    Clear env (trace ++ [⟨.inspect stage run.snapshot none, inspected⟩]) := by
  apply clear.append
  intro other shown obs asked _
  cases inspected with
  | error => exact absurd (mem_singleton.mp asked) inspect_ok_ne
  | ok =>
    obtain ⟨rfl, seen, rfl⟩ := inspect_inj (mem_singleton.mp asked)
    rw [enforceObservation_snapshot seen]
    exact agrees _ rfl

theorem settled_conflict (clear : Clear env trace)
    (quiet : ∀ event ∈ more, Quiet event.request) (valid : run.validate env = none)
    (exact : (∀ resource ∈ obs.resources, resource.WellFormed) →
      (Retreated store run.requestID ↔ Recordable env run stage obs.resources)) :
    Settled run.requestID (trace ++ [⟨.inspect stage run.snapshot none, .ok obs⟩] ++ more) store := by
  intro inspected other shown asked otherValid conflict named
  rcases mem_append.mp asked with early | late
  · rcases mem_append.mp early with old | new
    · exact absurd conflict (clear inspected other shown old otherValid)
    · obtain ⟨rfl, seen, rfl⟩ := inspect_inj (mem_singleton.mp new)
      exact (exact named).trans (recordable_snapshot seen valid otherValid _ _).symm
  · exact absurd rfl (quiet _ late _ _)

section Loop
variable (held : store.get run.requestID = some run)
variable (forward : isForwardStage stage = true) (follows : run.stage = previousStage (some stage))
variable (clear : Clear env trace)
include held forward follows clear

theorem conflict_handled (obs : Observation) :
    (ends (settleConflict env policy run stage obs.resources)).Obeys
      (contract policy (View.alone env) true) (Handled env run stage)
      (trace ++ [⟨.inspect stage run.snapshot none, .ok obs⟩]) store := by
  have valid : run.validate env = none := (store.sound run.requestID run held).2
  have settles (longer : Trace) :
      (settleConflict env policy run stage obs.resources).Obeys (contract policy (View.alone env) false)
        (fun _ after _ => (∀ resource ∈ obs.resources, resource.WellFormed) →
          (Retreated after run.requestID ↔ Recordable env run stage obs.resources)) longer store := by
    by_cases named : ∀ resource ∈ obs.resources, resource.WellFormed
    · exact (settleConflict_alone named held forward follows).weaken fun _ _ _ exact _ => exact
    · exact (settleConflict_obeys none_whole obs.resources (Care.ignores held) forward follows).weaken
        fun _ _ _ _ others => absurd others named
  apply (quietly (settles _)).bind (View.alone env).reflexive
  rintro _ after reply _ ⟨⟨more, rfl, quiet⟩, exact⟩ _ ⟨⟩
  exact ⟨fun _ _ => settled_conflict clear quiet valid exact, fun _ impossible => nomatch impossible⟩

theorem settleApplied_handled (applied : Option Cause) (inspected : Except Cause Observation) :
    (settleApplied env policy run stage applied inspected).Obeys (contract policy (View.alone env) true)
      (Handled env run stage) (trace ++ [⟨.inspect stage run.snapshot none, inspected⟩]) store := by
  unfold settleApplied
  cases inspected with
  | error =>
    exact ends_handled (clear.inspected nofun)
      (failApplied_obeys none_whole _ _ (Care.ignores held) forward follows)
  | ok obs =>
    have clearly (agrees : (enforceObservation run stage obs).reality ≠ .conflict) :
        Clear env (trace ++ [⟨.inspect stage run.snapshot none, .ok obs⟩]) :=
      clear.inspected fun _ same => Except.ok.inj same ▸ agrees
    dsimp only
    split
    · rename_i matching
      exact enter_handled (clearly (by rw [matching.1]; exact nofun))
        (enterStage_obeys (Care.ignores held) forward follows (mem_append_right _ mem_cons_self) matching.1)
    · split
      · rw [enforceObservation_resources]
        exact conflict_handled held forward follows clear obs
      · rename_i agrees
        exact ends_handled (clearly agrees)
          (failApplied_obeys none_whole _ _ (Care.ignores held) forward follows)

omit forward in
theorem applyStage_handled :
    (applyStage env policy run stage).Obeys (contract policy (View.alone env) true)
      (Handled env run stage) trace store := by
  have asked : (Engine.apply run stage (run.stageKey env stage)).Obeys
      (contract policy (View.alone env) true) (fun after final _ => store = final ∧
        ∃ answer, after = trace ++ [⟨.apply stage run.snapshot (run.stageKey env stage), answer⟩])
      trace store := by
    apply Program.Obeys.request
    rintro _ ⟨⟩
    refine ⟨trivial, ?_⟩
    rintro answer _ ⟨⟩
    exact ⟨rfl, answer, rfl⟩
  apply asked.bind (View.alone env).reflexive
  rintro _ _ applied _ ⟨rfl, answer, rfl⟩
  have still : Clear env (trace ++ [⟨.apply stage run.snapshot (run.stageKey env stage), answer⟩]) :=
    clear.append fun _ _ _ other => nomatch mem_singleton.mp other
  apply (inspect_obeys stage none (.inl rfl) (Care.ignores held)).bind (View.alone env).reflexive
  rintro _ _ inspected _ ⟨known, forward, rfl⟩
  exact settleApplied_handled known.holds forward follows still applied inspected

theorem settleStage_handled (inspected : Except Cause Observation) :
    (settleStage env policy run stage inspected).Obeys (contract policy (View.alone env) true)
      (Handled env run stage) (trace ++ [⟨.inspect stage run.snapshot none, inspected⟩]) store := by
  unfold settleStage
  cases inspected with
  | error => exact ends_handled (clear.inspected nofun) (fail_obeys _ (Care.ignores held) forward follows)
  | ok obs =>
    have clearly (agrees : (enforceObservation run stage obs).reality ≠ .conflict) :
        Clear env (trace ++ [⟨.inspect stage run.snapshot none, .ok obs⟩]) :=
      clear.inspected fun _ same => Except.ok.inj same ▸ agrees
    dsimp only
    split
    · rw [enforceObservation_resources]
      exact conflict_handled held forward follows clear obs
    · rename_i matching
      have still := clearly (by rw [matching]; exact nofun)
      split
      · exact returned_handled _ still
      · exact enter_handled still
          (enterStage_obeys (Care.ignores held) forward follows (mem_append_right _ mem_cons_self) matching)
    · rename_i unknown
      exact returned_handled _ (clearly (by rw [unknown]; exact nofun))
    · rename_i absent
      exact applyStage_handled held follows (clearly (by rw [absent]; exact nofun))

end Loop

theorem advance_settles (stages : List Stage) (held : store.get run.requestID = some run)
    (follows : Follows run.stage stages) (clear : Clear env trace) :
    (advance env policy stages run).Obeys (contract policy (View.alone env) true)
      (fun after final _ => Settled run.requestID after final) trace store := by
  induction stages generalizing run trace store with
  | nil =>
    rintro _ ⟨⟩
    exact clear.settled
  | cons stage rest ih =>
    have before : run.stage = previousStage (some stage) := follows.2 stage rfl
    rw [advance]
    apply (inspect_obeys stage none (.inl rfl) (Care.ignores held)).bind (View.alone env).reflexive
    rintro _ _ inspected _ ⟨known, forward, rfl⟩
    apply (settleStage_handled known.holds forward before clear inspected).bind (View.alone env).reflexive
    rintro _ _ result _ ⟨stops, on⟩
    cases result with
    | error reply =>
      rintro _ ⟨⟩
      exact stops reply rfl
    | ok next =>
      obtain ⟨still, held, entered, request⟩ := on next rfl
      rw [← request]
      dsimp only
      split
      · rintro _ ⟨⟩
        exact still.settled
      · refine ih held ?_ still
        rw [entered]
        exact follows_tail follows.1

theorem quiet_settles (clear : Clear env trace)
    (obeys : InOrder (Care.none policy (View.alone env)) false trace store program) :
    program.Obeys (contract policy (View.alone env) true)
      (fun after final _ => Settled requestID after final) trace store := by
  apply (quietly obeys).weaken
  rintro _ _ _ ⟨⟨more, rfl, quiet⟩, _⟩
  exact (clear.quiet quiet).settled

theorem reconcileRun_settles (held : store.get run.requestID = some run) (clear : Clear env trace) :
    (reconcileRun env policy run false).Obeys (contract policy (View.alone env) true)
      (fun after final _ => Settled run.requestID after final) trace store := by
  unfold reconcileRun
  split
  · exact quiet_settles clear (reconcileEnded_obeys false (Care.ignores held))
  rw [if_neg Bool.false_ne_true]
  split
  · rename_i failed
    apply (quietly (transition_obeys (Care.ignores held) (fun time => .resumed time failed)
      (previousStage_stays run.resumeStage))).bind (View.alone env).reflexive
    rintro _ _ result _ ⟨⟨more, rfl, quiet⟩, moved⟩
    cases result with
    | error =>
      rintro _ ⟨⟩
      exact (clear.quiet quiet).settled
    | ok next =>
      obtain ⟨known, time, stamp, rfl⟩ := moved.2 next rfl
      exact advance_settles _ known.holds (follows_remaining (previousStage_ne run.resumeStage))
        (clear.quiet quiet)
  · rename_i resting
    exact advance_settles _ held (follows_remaining resting) clear

theorem reconcile_settles (requestID : String) :
    (reconcile env policy requestID false).Obeys (contract policy (View.alone env) true)
      (fun after final _ => Settled requestID after final) [] store := by
  have start : Clear env [] := fun _ _ _ asked => nomatch asked
  apply (quietly (load_obeys none_whole requestID trivial)).bind (View.alone env).reflexive
  rintro _ _ result _ ⟨⟨more, rfl, quiet⟩, loaded⟩
  have clear := start.quiet quiet
  cases result with
  | error =>
    rintro _ ⟨⟩
    exact clear.settled
  | ok run =>
    obtain ⟨known, rfl⟩ := loaded.2 run rfl
    dsimp only
    split
    · exact quiet_settles clear (safeAbort_obeys none_whole run.requestID false trivial)
    · exact reconcileRun_settles known.holds clear

/-! ### A conflict after a crash -/

/-- What the run had made is still there, and no longer as it was requested. -/
def driftReported : Answers Request Outside :=
  driversReporting fun _ => .ok ⟨.conflict, [signetPolicy], "spec drifted"⟩

def driftSeen (env : Environment) : Event Request Response :=
  ⟨.inspect .identityReserved (recordedRun env).snapshot none,
    .ok ⟨.conflict, [signetPolicy], "spec drifted"⟩⟩

/-- The snapshot with which a call came to inspect the first stage and saw the conflict. -/
def seesDrift : Event Request Response → Option Snapshot
  | ⟨.inspect .identityReserved snapshot none, .ok obs⟩ =>
    if obs = ⟨.conflict, [signetPolicy], "spec drifted"⟩ then some snapshot else none
  | _ => none

theorem seen_of_seesDrift {event : Event Request Response} (seen : seesDrift event = some snapshot) :
    event = ⟨.inspect .identityReserved snapshot none, .ok ⟨.conflict, [signetPolicy], "spec drifted"⟩⟩ := by
  unfold seesDrift at seen
  split at seen
  · obtain ⟨rfl, same⟩ := Option.ite_none_right_eq_some.mp seen
    cases same
    rfl
  · cases seen

/-- A run is created, its first resource is recorded, the call is lost, and the next one sees the
resource in conflict. -/
def crashedAndDrifted : List Happens :=
  (callAnswered (firstInPlace (.error (.other ""))) 0 (.start "request" "run" "agent" "spec") 2 ++
    (callAnswered (firstInPlace (.error (.other ""))) 1 (.reconcile "request" false) 4 ++ [.crash 1])) ++
    callAnswered driftReported 1 (.reconcile "request" false) 4

/-- A conflict of well-formed resources reaches rollback exactly when what is recorded of it agrees
with itself and with what the run has recorded. -/
theorem conflict_retreats_iff (store final : FileStore env) (requestID : String)
    (answers : List (Answers Request Outside)) (reply : Reply) (trace : Trace)
    (returned : (reconcile env policy requestID false).Yields serve [] store answers reply trace final)
    (stage : Stage) (run : Run) (obs : Observation)
    (inspected : (⟨.inspect stage run.snapshot none, .ok obs⟩ : Event Request Response) ∈ trace)
    (valid : run.validate env = none)
    (conflict : (enforceObservation run stage obs).reality = .conflict)
    (named : ∀ resource ∈ obs.resources, resource.WellFormed) :
    (∃ last, final.get requestID = some last ∧ last.stage.retreated = true) ↔
      Recordable env run stage obs.resources := by
  have obeys : (reconcile env policy requestID false).Obeys (contract policy (View.alone env) true)
      (fun after final _ => Settled requestID after final) [] store := reconcile_settles requestID
  exact obeys.steps (View.alone env).reflexive returned final rfl stage run obs inspected valid conflict
    named

theorem requestedRun_valid : (requestedRun zeroDigest).validate zeroDigest = none := by decide +kernel

def requestedStore : FileStore zeroDigest :=
  FileStore.empty.write (requestedRun zeroDigest) requestedRun_valid

/-- A run with nothing recorded takes the drifted resource over, and rolls back. -/
theorem conflict_retreats_iff_drift :
    ∃ reply trace final, (reconcile zeroDigest ⟨1, 1⟩ "request" false).Yields serve [] requestedStore
        (List.replicate 16 driftReported) reply trace final ∧
      Recordable zeroDigest (requestedRun zeroDigest) .identityReserved [signetPolicy] ∧
      ∃ last, final.get "request" = some last ∧ last.stage.retreated = true := by
  have seen : (((reconcile zeroDigest ⟨1, 1⟩ "request" false).plays serve [] requestedStore
      (List.replicate 16 driftReported)).bind fun call => call.2.1.findSome? seesDrift) =
        some (requestedRun zeroDigest).snapshot := by
    decide +kernel
  obtain ⟨⟨reply, trace, final⟩, played, seen⟩ := Option.bind_eq_some_iff.mp seen
  obtain ⟨event, asked, seen⟩ := List.exists_of_findSome?_eq_some seen
  rw [seen_of_seesDrift seen] at asked
  have returned := Program.yields_of_plays played
  have recordable : Recordable zeroDigest (requestedRun zeroDigest) .identityReserved [signetPolicy] := by
    decide +kernel
  refine ⟨reply, trace, final, returned, recordable, ?_⟩
  exact (conflict_retreats_iff _ final "request" _ reply trace returned .identityReserved _ _ asked
    requestedRun_valid rfl (forall_mem_singleton.mpr signetPolicy_wellFormed)).mpr recordable

/-- The call has seen the conflict and returned, and the run is still where it was. -/
theorem drift_not_retreated :
    ∃ store first trace, crashedAndDrifted.foldl (Engines.next zeroDigest ⟨1, 1⟩)
        (Engines.start _) = ⟨store, [first, ⟨trace, .done ()⟩]⟩ ∧
      driftSeen zeroDigest ∈ trace ∧ signetPolicy.WellFormed ∧
      ∃ run, store.get "request" = some run ∧ run.stage = .requested := by
  have evaluated : let engines := crashedAndDrifted.foldl (Engines.next zeroDigest ⟨1, 1⟩) (Engines.start _)
      engines.calls.map (fun call => (call.trace.findSome? seesDrift, call.rest.returned)) =
          [(none, true), (some (recordedRun zeroDigest).snapshot, true)] ∧
        (engines.state.get "request").map (·.stage) = some .requested := by
    decide +kernel
  generalize crashedAndDrifted.foldl _ _ = engines at evaluated ⊢
  obtain ⟨store, calls⟩ := engines
  obtain ⟨shown, stored⟩ := evaluated
  obtain ⟨run, held, stage⟩ := Option.map_eq_some_iff.mp stored
  obtain ⟨first, ⟨trace, rest⟩, rfl⟩ := length_eq_two.mp (by simpa using congrArg length shown)
  simp only [map_cons, map_nil, cons.injEq, Prod.mk.injEq, and_true] at shown
  obtain ⟨_, seen, returned⟩ := shown
  obtain ⟨event, asked, seen⟩ := List.exists_of_findSome?_eq_some seen
  rw [seen_of_seesDrift seen] at asked
  cases rest with
  | ask => cases returned
  | done => exact ⟨store, first, trace, rfl, asked, signetPolicy_wellFormed, run, held, stage⟩

end Bahia.Saga
