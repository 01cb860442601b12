import Bahia.Saga.Executions
import Bahia.Saga.MirroredCalls

/-! Resuming from the canonical record is resuming from the run: the calls that follow ask the drivers
and the projector the same, and what is stored differs by the dropped part of the history only. -/

namespace Bahia.Saga
open Foundation List

section Calls
variable {past : String → Past}
variable (run : Run) (stage : Stage)

theorem settleConflict_mirrors (resources : List Resource) :
    Mirrors past id (settleConflict env policy (whole past run) stage resources)
      (settleConflict env policy run stage resources) := by
  apply (checkpointConflictResources_mirrors stage resources run).bind
  intro result
  cases result with
  | error => exact rfl
  | ok next => exact failAndRollback_mirrors next stage _

theorem enterStage_mirrors (resources : List Resource) :
    Mirrors past (wholeHalt past) (enterStage env (whole past run) stage resources)
      (enterStage env run stage resources) := by
  apply (checkpointResources_mirrors run stage resources).bind
  intro result
  cases result with
  | error => exact rfl
  | ok next => exact transition_mirrors next stage

theorem failApplied_mirrors (applied verified : Option Cause) :
    Mirrors past id (failApplied env policy (whole past run) stage applied verified)
      (failApplied env policy run stage applied verified) := by
  unfold failApplied
  cases applied with
  | some cause =>
    dsimp only
    split
    · exact fail_mirrors run stage cause true
    · exact failAndRollback_mirrors run stage cause
  | none =>
    cases verified with
    | some cause => exact fail_mirrors run stage cause true
    | none => exact fail_mirrors run stage _ true

theorem enforceObservation_whole (obs : Observation) :
    enforceObservation (whole past run) stage obs = enforceObservation run stage obs := rfl

theorem settleApplied_mirrors (applied : Option Cause)
    (inspected : Except Cause Observation) :
    Mirrors past (wholeReply past) (settleApplied env policy (whole past run) stage applied inspected)
      (settleApplied env policy run stage applied inspected) := by
  cases inspected with
  | error => exact ends_mirrors (failApplied_mirrors run stage applied _)
  | ok =>
    rw [settleApplied, settleApplied, enforceObservation_whole]
    split
    · exact orHalt_mirrors (enterStage_mirrors run stage _)
    split
    · exact ends_mirrors (settleConflict_mirrors run stage _)
    · exact ends_mirrors (failApplied_mirrors run stage applied none)

theorem applyStage_mirrors :
    Mirrors past (wholeReply past) (applyStage env policy (whole past run) stage)
      (applyStage env policy run stage) := by
  have asked : Mirrors past id (Engine.apply (whole past run) stage ((whole past run).stageKey env stage))
      (Engine.apply run stage (run.stageKey env stage)) := Program.Alike.request rfl
  apply asked.bind
  intro applied
  apply (inspect_mirrors run stage none).bind
  intro inspected
  exact settleApplied_mirrors run stage applied inspected

theorem settleStage_mirrors (inspected : Except Cause Observation) :
    Mirrors past (wholeReply past) (settleStage env policy (whole past run) stage inspected)
      (settleStage env policy run stage inspected) := by
  cases inspected with
  | error cause => exact ends_mirrors (fail_mirrors run stage cause true)
  | ok obs =>
    rw [settleStage, settleStage, enforceObservation_whole]
    cases (enforceObservation run stage obs).reality with
    | conflict => exact ends_mirrors (settleConflict_mirrors run stage _)
    | matching =>
      dsimp only
      split
      · exact rfl
      · exact orHalt_mirrors (enterStage_mirrors run stage _)
    | unknown => exact rfl
    | absent => exact applyStage_mirrors run stage

theorem advance_mirrors (stages : List Stage) (run : Run) :
    Mirrors past id (advance env policy stages (whole past run)) (advance env policy stages run) := by
  induction stages generalizing run with
  | nil => exact rfl
  | cons stage rest ih =>
    rw [advance, advance]
    apply (inspect_mirrors run stage none).bind
    intro inspected
    apply (settleStage_mirrors run stage inspected).bind
    intro result
    cases result with
    | error => exact rfl
    | ok next =>
      dsimp only [wholeReply]
      split
      · exact rfl
      · exact ih next

theorem inspectStage_mirrors :
    Mirrors past id (inspectStage env (whole past run) stage) (inspectStage env run stage) := by
  apply (inspect_mirrors run stage none).bind
  intro answer
  cases answer with
  | error | ok => exact rfl

theorem previewStage_mirrors :
    Mirrors past id (previewStage env (whole past run) stage) (previewStage env run stage) := by
  apply (inspect_mirrors run stage none).bind
  intro answer
  cases answer with
  | error => exact rfl
  | ok obs =>
    dsimp only [id]
    rw [enforceObservation_whole]
    cases (enforceObservation run stage obs).reality with
    | unknown | absent | conflict => exact rfl
    | matching =>
      dsimp only
      split <;> exact rfl

theorem preview_mirrors :
    Mirrors past id (preview env (whole past run)) (preview env run) := by
  have fields : (whole past run).stage = run.stage ∧ (whole past run).resumeStage = run.resumeStage ∧
      nextStage (whole past run) = nextStage run := ⟨rfl, rfl, rfl⟩
  obtain ⟨stage, resume, next⟩ := fields
  unfold preview
  rw [stage, resume, next]
  split
  · split
    · exact ⟨rfl, fun impossible => nomatch impossible⟩
    · exact inspectStage_mirrors run _
  · split
    · exact rfl
    · exact previewStage_mirrors run _

theorem reconcileRun_mirrors (dryRun : Bool) :
    Mirrors past id (reconcileRun env policy (whole past run) dryRun)
      (reconcileRun env policy run dryRun) := by
  have fields : (whole past run).stage = run.stage ∧ (whole past run).resumeStage = run.resumeStage :=
    ⟨rfl, rfl⟩
  obtain ⟨stage, resume⟩ := fields
  unfold reconcileRun
  rw [stage, resume]
  split
  · unfold reconcileEnded
    split
    · exact inspectTerminalCall_mirrors run
    · exact ensured_mirrors run
  · split
    · exact preview_mirrors run
    split
    · apply (transition_mirrors run _).bind
      intro result
      cases result with
      | error => exact rfl
      | ok next => exact advance_mirrors (remainingStages next) next
    · exact advance_mirrors (remainingStages run) run

theorem reconcile_mirrors (requestID : String) (dryRun : Bool) :
    Mirrors past id (reconcile env policy requestID dryRun) (reconcile env policy requestID dryRun) := by
  apply (load_mirrors requestID).bind
  intro result
  cases result with
  | error => exact rfl
  | ok run =>
    have stage : (whole past run).stage = run.stage := rfl
    simp only [Except.map, stage]
    split
    · exact safeAbort_mirrors requestID dryRun
    · exact reconcileRun_mirrors run dryRun

theorem inspectRun_mirrors (requestID : String) :
    Mirrors past id (inspectRun env requestID) (inspectRun env requestID) := by
  apply (load_mirrors requestID).bind
  intro result
  cases result with
  | error => exact rfl
  | ok run =>
    have next : nextStage (whole past run) = nextStage run := rfl
    simp only [Except.map, next]
    split
    · exact rfl
    · exact inspectStage_mirrors run _

theorem start_alike (requestID runID agentID specHash : String) :
    (start env requestID runID agentID specHash).Alike (missing past) (fun _ _ => True)
      (start env requestID runID agentID specHash) := by
  have created (run : Run) : Mirrors past id (Engine.create run) (Engine.create run) :=
    Program.Alike.request rfl
  refine Program.Alike.bind now_mirrors ?_
  rintro time _ rfl
  cases Run.new env requestID runID agentID specHash time.val with
  | error => trivial
  | ok run =>
    refine Program.Alike.bind (created run) ?_
    rintro answer _ rfl
    split
    · trivial
    · refine Program.Alike.bind (load_mirrors requestID) ?_
      rintro _ result rfl
      cases result with
      | error => trivial
      | ok existing =>
        have fields : (whole past existing).runID = existing.runID ∧
            (whole past existing).agentID = existing.agentID ∧
              (whole past existing).specHash = existing.specHash := ⟨rfl, rfl, rfl⟩
        obtain ⟨owner, agent, spec⟩ := fields
        dsimp only [Except.map]
        rw [owner, agent, spec]
        split <;> trivial
    · trivial

theorem body_mirrors (call : Call) : Mirrors past id (call.body env policy) (call.body env policy) := by
  cases call with
  | start requestID runID agentID specHash =>
    exact Program.Alike.bind (start_alike requestID runID agentID specHash)
      fun _ _ _ => returns_mirrors rfl
  | inspect requestID => exact (inspectRun_mirrors requestID).bind fun _ => returns_mirrors rfl
  | reconcile requestID dryRun | retry requestID dryRun =>
    exact (reconcile_mirrors requestID dryRun).bind fun _ => returns_mirrors rfl
  | safeAbort requestID dryRun =>
    exact (safeAbort_mirrors requestID dryRun).bind fun _ => returns_mirrors rfl

end Calls

/-! ### Futures -/

def Request.external : Request → Bool
  | .inspect _ _ _ => true
  | .apply _ _ _ => true
  | .compensate _ _ _ _ => true
  | .inspectTerminal _ _ _ => true
  | .publishTerminal _ _ _ _ => true
  | _ => false

/-- The store always answers; what is asked outside may be left unanswered. -/
def promptly (outside : Answers Request Outside) : Answers Request Outside
  | .create _ => some ()
  | .load _ => some ()
  | .save _ _ => some ()
  | request => outside request

def prompt : Happens → Happens
  | .answer index outside => .answer index (promptly outside)
  | happening => happening

/-- What a call has asked the drivers and the projector, and what they answered. -/
def externalCalls (call : Ongoing Request Response Unit) : List (Event Request Response) :=
  call.trace.filter (·.request.external)

variable {env : Environment} {past : String → Past}

theorem even_promptly (outside : Answers Request Outside) :
    (missing past).Even (@serve env) (Bounds past) (promptly outside) := by
  intro full bounded first second bounds asked
  cases second with
  | save run expected =>
    cases asked
    obtain ⟨kept, same⟩ := bounds.save run expected
    exact .inr ⟨(), (), rfl, rfl, kept, same⟩
  | create run =>
    cases asked
    obtain ⟨kept, same⟩ := bounds.create run
    exact .inr ⟨(), (), rfl, rfl, kept, same⟩
  | load requestID =>
    cases asked
    exact .inr ⟨(), (), rfl, rfl, bounds, bounds.load requestID⟩
  | missingDriver =>
    cases asked
    cases given : promptly outside .missingDriver with
    | none => exact .inl ⟨rfl, rfl⟩
    | some impossible => exact nomatch impossible
  | now =>
    cases asked
    cases given : promptly outside .now with
    | none => exact .inl ⟨rfl, rfl⟩
    | some answer => exact .inr ⟨answer, answer, rfl, rfl, bounds, rfl⟩
  | _ =>
    cases asked
    cases given : promptly outside _ with
    | none => exact .inl ⟨rfl, rfl⟩
    | some answer => exact .inr ⟨answer, answer, rfl, rfl, bounds, rfl⟩

theorem fair_prompt (happenings : List Happens) : ∀ happening ∈ happenings.map prompt,
    Pool.Fair (missing past) (Bounds past) (@serve env) happening := by
  intro happening member
  obtain ⟨original, _, rfl⟩ := mem_map.mp member
  cases original with
  | answer index outside => exact even_promptly outside
  | start | crash => trivial

theorem external_same (same : Forall₂ (missing past).Events first second) :
    first.filter (·.request.external) = second.filter (·.request.external) := by
  induction same with
  | nil => rfl
  | @cons head other _ _ here _ ih =>
    obtain ⟨request, response⟩ := head
    obtain ⟨asked, answer⟩ := other
    obtain ⟨requests, responses⟩ := here
    rw [filter_cons, filter_cons, ih]
    cases asked with
    | save =>
      cases requests
      rfl
    | _ =>
      cases requests
      first
        | rfl
        | cases responses; rfl

theorem externalCalls_same (same : Forall₂ (Ongoing.Alike (missing past)) first second) :
    first.map externalCalls = second.map externalCalls := by
  induction same with
  | nil => rfl
  | @cons head other _ _ here _ ih =>
    have asked : externalCalls head = externalCalls other := external_same here.1
    rw [map_cons, map_cons, asked, ih]

/-- What is missing when one run is read from its record. -/
def droppedOf (run : Run) (requestID : String) : Past :=
  if requestID = run.requestID then run.dropped else Past.none

theorem bounds_record {store : FileStore env} {run : Run} (valid : run.validate env = none)
    (cut : run.recent.validate env = none) :
    Bounds (droppedOf run) (store.write run valid) (store.write run.recent cut) := by
  have request : run.recent.requestID = run.requestID := rfl
  refine ⟨?_, ?_, ?_⟩
  · intro requestID
    rw [FileStore.get_write, FileStore.get_write, request]
    split
    · simp only [Option.map_some, whole, droppedOf, request, if_true, Run.recent_after]
    rename_i other
    cases held : store.get requestID with
    | none => rfl
    | some kept =>
      have named : kept.requestID = requestID := (store.sound _ kept held).1
      simp only [Option.map_some, whole, named, droppedOf]
      rw [if_neg (fun same => other same.symm), Run.after_none]
  · intro requestID
    rw [FileStore.get_write, request]
    split
    · rintro ⟨⟩
    rename_i other
    intro _
    exact if_neg (fun same => other same.symm)
  · intro requestID failure member
    unfold droppedOf at member
    split at member
    · exact (Run.recent_valid valid).2 failure member
    · cases member

variable (env)

/-- Whatever is called and answered from here on, the calls ask the drivers and the projector the
same, and every stored run is the same up to the dropped part of one history. -/
theorem resume_from_record (policy : RetentionPolicy) (store : FileStore env) (run : Run)
    (valid : run.validate env = none) :
    ∃ cut cutValid, (recordFromRun run).run env = .ok cut ∧ ∀ happenings : List Happens,
      let full := (happenings.map prompt).foldl (Pool.next serve (Call.body env policy))
        ⟨store.write run valid, []⟩
      let bounded := (happenings.map prompt).foldl (Pool.next serve (Call.body env policy))
        ⟨store.write cut cutValid, []⟩
      full.calls.map externalCalls = bounded.calls.map externalCalls ∧
        ∀ requestID, full.state.get requestID =
          (bounded.state.get requestID).map fun last =>
            if requestID = run.requestID then last.after run.dropped else last := by
  obtain ⟨cutValid, _⟩ := Run.recent_valid valid
  refine ⟨run.recent, cutValid, recordFromRun_run valid, ?_⟩
  intro happenings full bounded
  have alike : Pool.Alike (missing (droppedOf run)) (Bounds (droppedOf run)) full bounded :=
    Pool.foldl_alike (fun call => body_mirrors call) (fair_prompt happenings)
      ⟨bounds_record valid cutValid, .nil⟩
  obtain ⟨bounds, calls⟩ := alike
  refine ⟨externalCalls_same calls, ?_⟩
  · intro requestID
    rw [bounds.same]
    cases held : bounded.state.get requestID with
    | none => rfl
    | some last =>
      have named : last.requestID = requestID := (bounded.state.sound _ last held).1
      simp only [Option.map_some, whole, named, droppedOf]
      split <;> rfl

def retriedRun : Run :=
  { requestedRun zeroDigest with
    transitions := List.replicate 20 ⟨.failedRecoverable, .requested, 1⟩ }

theorem retriedRun_valid : retriedRun.validate zeroDigest = none := by
  decide +kernel

/-- A reconciliation that finds the first stage in place and fails at the second. -/
def reconciled (run : Run) (valid : run.validate zeroDigest = none) :
    Pool Request Response Unit (FileStore zeroDigest) :=
  ((callAnswered (firstInPlace (.error (.other ""))) 0 (.reconcile "request" false) 13).map prompt).foldl
    (Pool.next serve (Call.body zeroDigest ⟨0, 0⟩)) ⟨FileStore.empty.write run valid, []⟩

theorem resume_from_record_retried :
    ∃ cut cutValid, (recordFromRun retriedRun).run zeroDigest = .ok cut ∧ cut.transitions.length = 16 ∧
      ((reconciled cut cutValid).calls.map externalCalls).map List.length = [2] ∧
      ∃ last, (reconciled cut cutValid).state.get "request" = some last ∧
        (last.after retriedRun.dropped).transitions.length = 22 ∧
        (last.after retriedRun.dropped).failures.length = 1 := by
  obtain ⟨cut, cutValid, read, same⟩ :=
    resume_from_record zeroDigest ⟨0, 0⟩ FileStore.empty retriedRun retriedRun_valid
  have kept : retriedRun.recent = cut :=
    Except.ok.inj ((recordFromRun_run retriedRun_valid).symm.trans read)
  obtain ⟨calls, stored⟩ := same
    (callAnswered (firstInPlace (.error (.other ""))) 0 (.reconcile "request" false) 13)
  have evaluated : ((reconciled retriedRun retriedRun_valid).calls.map externalCalls).map List.length =
        [2] ∧
      ((reconciled retriedRun retriedRun_valid).state.get "request").map
        (fun run => (run.transitions.length, run.failures.length)) = some (22, 1) := by
    decide +kernel
  obtain ⟨last, held, shown⟩ := Option.map_eq_some_iff.mp evaluated.2
  obtain ⟨bounded, found, rfl⟩ := Option.map_eq_some_iff.mp ((stored "request").symm.trans held)
  obtain ⟨transitions, failures⟩ := Prod.mk.inj shown
  refine ⟨cut, cutValid, read, ?_, ?_, bounded, found, transitions, failures⟩
  · rw [← kept]
    decide
  · change (reconciled retriedRun retriedRun_valid).calls.map externalCalls =
      (reconciled cut cutValid).calls.map externalCalls at calls
    rw [← calls]
    exact evaluated.1

end Bahia.Saga
