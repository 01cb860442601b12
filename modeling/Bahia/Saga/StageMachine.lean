import Bahia.Saga.Conduct
import Bahia.Saga.Executions

/-! The stage machine: engines that share a store, in any interleaving, move a run only along its
stages. -/

namespace Bahia.Saga
open Foundation Bucket

abbrev Engines (env : Environment) := Pool Request Response Unit (FileStore env)

/-- A failed run knows the stage to resume, and its last transition left the stage before it. -/
def Run.Resumable (run : Run) : Prop :=
  run.stage = .failedRecoverable → ∃ stage, run.resumeStage = some stage ∧
    run.transitions.getLast?.map (·.source) = some (previousStage (some stage))

/-- One persisted version of a run after another. -/
structure Advance (old new : Run) : Prop where
  extended : old.Extends new
  absorbed : old.stage.terminalProjection = true → new.stage = old.stage
  entered : isForwardStage new.stage = true → new.stage ≠ old.stage →
    old.stage = previousStage (some new.stage) ∨
      old.stage = .failedRecoverable ∧ old.transitions.getLast?.map (·.source) = some new.stage
  cleared : new.stage = .rolledBack → old.stage ≠ .rolledBack → new.Cleared

theorem previousStage_before (forward : isForwardStage stage = true) :
    stage ≠ previousStage (some stage) := by
  cases stage <;> first | decide | cases forward

theorem forward_ne (forward : isForwardStage stage = true) :
    stage ≠ .failedRecoverable ∧ stage ≠ .rolledBack := by
  constructor <;> rintro rfl <;> cases forward

section
variable (move : Move env policy trace old updated)
include move

/-- A move keeps the stage or changes it in one of these ways. -/
theorem Move.stages : updated.stage = old.stage ∨
    (isForwardStage updated.stage = true ∧ old.stage = previousStage (some updated.stage) ∧
      Matched env trace updated.stage updated) ∨
    (old.stage = .failedRecoverable ∧ updated.stage = previousStage old.resumeStage) ∨
    (old.stage.terminalProjection = false ∧
      (updated.stage = .failedRecoverable ∨ updated.stage = .rollbackPending ∨
        updated.stage = .failedTerminal)) ∨
    (old.stage = .rollbackPending ∧ updated.stage = .rolledBack ∧ updated.Cleared) := by
  cases move with
  | recorded | compensated => exact .inl rfl
  | entered stage time forward follows matched =>
    obtain ⟨seen, obs, asked, matching, records⟩ := matched
    exact .inr (.inl ⟨forward, follows, seen, obs, asked, matching, records⟩)
  | resumed time failed => exact .inr (.inr (.inl ⟨failed, rfl⟩))
  | failed stage shown failedAt movedAt forward follows =>
    have live : old.stage.terminalProjection = false := by rw [follows]; exact previousStage_live _
    exact .inr (.inr (.inr (.inl ⟨live, .inl rfl⟩)))
  | conflicted stage shown failedAt movedAt forward follows =>
    have live : old.stage.terminalProjection = false := by rw [follows]; exact previousStage_live _
    exact .inr (.inr (.inr (.inl ⟨live, .inr (.inl rfl)⟩)))
  | aborted time live => exact .inr (.inr (.inr (.inl ⟨live, .inr (.inl rfl)⟩)))
  | retried stage shown failedAt pending => exact .inl pending.symm
  | lost stage shown failedAt movedAt markedAt pending =>
    have live : old.stage.terminalProjection = false := by rw [pending]; rfl
    exact .inr (.inr (.inr (.inl ⟨live, .inr (.inr (mark_stage _))⟩)))
  | rolledBack time pending cleared =>
    exact .inr (.inr (.inr (.inr ⟨pending, rfl, cleared⟩)))
  | retained time => exact .inl (mark_stage time)

theorem Move.resumable (resumable : old.Resumable)
    (time : Time) : (updated.stamped time).Resumable := by
  intro failed
  change updated.stage = .failedRecoverable at failed
  cases move with
  | recorded => exact resumable failed
  | entered stage time forward => exact absurd failed (forward_ne forward).1
  | resumed => exact absurd failed (previousStage_ne old.resumeStage)
  | failed stage shown failedAt movedAt forward follows =>
    refine ⟨stage, rfl, ?_⟩
    rw [← follows]
    simp [Run.stamped, Run.failing]
  | conflicted | aborted | retried | rolledBack => cases failed
  | compensated resource outcome time pending => cases pending.symm.trans failed
  | lost => rw [mark_stage] at failed; cases failed
  | retained time ended =>
    rw [mark_stage] at failed
    cases ended.symm.trans failed

theorem Move.advance (resumable : old.Resumable) (kept : old.Extends (updated.stamped time)) :
    Advance old (updated.stamped time) := by
  have stage : (updated.stamped time).stage = updated.stage := rfl
  rcases move.stages with same | ⟨forward, follows, _⟩ | ⟨failed, resumed⟩ | ⟨live, ends⟩ |
    ⟨pending, ended, cleared⟩
  · exact ⟨kept, fun _ => same, fun _ changed => absurd same changed,
      fun ended before => absurd (same.symm.trans ended) before⟩
  · refine ⟨kept, ?_, fun _ _ => .inl follows, ?_⟩
    · intro ended
      rw [follows, previousStage_live] at ended
      cases ended
    · exact fun ended => absurd ended (forward_ne forward).2
  · refine ⟨kept, ?_, ?_, ?_⟩
    · intro ended
      rw [failed] at ended
      cases ended
    · intro _ _
      obtain ⟨next, resume, left⟩ := resumable failed
      refine .inr ⟨failed, ?_⟩
      rw [left, stage, resumed, resume]
    · intro ended
      have terminal := previousStage_live old.resumeStage
      rw [← resumed, ← stage, ended] at terminal
      cases terminal
  · refine ⟨kept, ?_, ?_, ?_⟩
    · intro ended
      rw [live] at ended
      cases ended
    · intro forward
      rw [stage] at forward
      rcases ends with ends | ends | ends <;> (rw [ends] at forward; cases forward)
    · intro ended
      rw [stage] at ended
      rcases ends with ends | ends | ends <;> exact nomatch ends.symm.trans ended
  · refine ⟨kept, ?_, ?_, fun _ _ => cleared⟩
    · intro before
      rw [pending] at before
      cases before
    · intro forward
      rw [stage, ended] at forward
      cases forward

end

namespace Engines
variable (env : Environment) (policy : RetentionPolicy)

def next : Engines env → Happens → Engines env := Pool.next serve (Call.body env policy)

def start : Engines env := ⟨FileStore.empty, []⟩

def stored (requestID : String) (engines : Engines env) : Option Run := engines.state.get requestID

def versions (requestID : String) (happenings : List Happens) : List Run :=
  changes (next env policy) (stored env requestID) (start env) happenings

/-- A forward stage that is entered anew was observed by the call that saves it: its inspection
matched, and everything it showed is recorded. -/
def Observed (engines : Engines env) (happening : Happens) : Prop :=
  ∀ requestID old new, stored env requestID engines = some old →
    stored env requestID (next env policy engines happening) = some new →
    isForwardStage new.stage = true → old.stage = previousStage (some new.stage) →
    ∃ index outside call, happening = .answer index outside ∧ engines.calls[index]? = some call ∧
      Matched env call.trace new.stage new

/-- The calls obey and every stored run can be resumed. -/
def Orderly (engines : Engines env) : Prop :=
  (∀ call ∈ engines.calls, call.Faithful (contract policy (View.shared env) true) engines.state) ∧
    ∀ requestID run, stored env requestID engines = some run → run.Resumable

variable {env policy}

theorem next_faithful (engines : Engines env) (happening : Happens)
    (faithful : ∀ call ∈ engines.calls,
      call.Faithful (contract policy (View.shared env) true) engines.state) :
    ∀ call ∈ (next env policy engines happening).calls,
      call.Faithful (contract policy (View.shared env) true) (next env policy engines happening).state :=
  Pool.next_faithful (View.shared env).reflexive (View.shared env).transitive
    (fun _ store request outside _ => newer_serve store request outside)
    (body_obeys policy (View.shared env)) engines happening faithful

theorem next_state (policy : RetentionPolicy) (engines : Engines env) (happening : Happens) :
    (next env policy engines happening).state = engines.state ∨
      ∃ index outside call request rest given, happening = .answer index outside ∧
        engines.calls[index]? = some call ∧ call.rest = .ask request rest ∧
        (next env policy engines happening).state = (serve engines.state request given).1 := by
  cases happening with
  | start | crash => exact .inl rfl
  | answer index outside =>
    rw [next, Pool.next, Pool.answer]
    split
    · exact .inl rfl
    rename_i call found
    unfold Ongoing.advance
    split
    · exact .inl rfl
    rename_i request rest asks
    split
    · exact .inl rfl
    · rename_i given _
      exact .inr ⟨index, outside, call, request, rest, given, rfl, found, asks, rfl⟩

theorem stored_stays (policy : RetentionPolicy) (requestID : String) (engines : Engines env)
    (happening : Happens)
    (held : stored env requestID engines ≠ none) :
    stored env requestID (next env policy engines happening) ≠ none := by
  rcases next_state policy engines happening with same | ⟨_, _, _, request, _, given, _, _, _, served⟩
  · rw [stored, same]
    exact held
  obtain ⟨run, stored⟩ := Option.ne_none_iff_exists'.mp held
  obtain ⟨current, present, _⟩ := newer_serve engines.state request given requestID run stored
  rw [Engines.stored, served, present]
  exact nofun

section Faithful
variable {engines : Engines env}
variable (faithful : ∀ call ∈ engines.calls,
  call.Faithful (contract policy (View.shared env) true) engines.state)
include faithful

theorem asked_inOrder {index : Nat} {call : Ongoing Request Response Unit} {request : Request}
    {rest : Response request → Engine Unit} (found : engines.calls[index]? = some call)
    (asks : call.rest = .ask request rest) :
    permitted policy (View.shared env) true call.trace engines.state request :=
  (faithful call (List.mem_of_getElem? found)).inOrder (View.shared env).reflexive request rest asks

theorem next_changed (before : stored env requestID engines = some old)
    (after : stored env requestID (next env policy engines happening) = some new)
    (different : old ≠ new) :
    ∃ index outside call updated time, happening = .answer index outside ∧
      engines.calls[index]? = some call ∧ Move env policy call.trace old updated ∧
      new = updated.stamped time ∧ old.Extends new := by
  rcases next_state policy engines happening with
    same | ⟨index, outside, call, request, rest, given, rfl, found, asks, served⟩
  · rw [stored, same] at after
    exact absurd (Option.some.inj (before.symm.trans after)) different
  · rw [stored, served] at after
    obtain ⟨updated, time, move, same, kept⟩ :=
      serve_changed (asked_inOrder faithful found asks) before after different
    exact ⟨index, outside, call, updated, time, rfl, found, move, same, kept⟩

theorem next_created (before : stored env requestID engines = none)
    (after : stored env requestID (next env policy engines happening) = some new) :
    new.stage = .requested := by
  rcases next_state policy engines happening with same | ⟨_, _, _, _, _, _, _, found, asks, served⟩
  · rw [stored, same] at after
    exact nomatch before.symm.trans after
  · rw [stored, served] at after
    exact serve_created (asked_inOrder faithful found asks) before after

end Faithful

theorem next_orderly (engines : Engines env) (happening : Happens)
    (orderly : Orderly env policy engines) :
    Orderly env policy (next env policy engines happening) := by
  refine ⟨next_faithful engines happening orderly.1, ?_⟩
  intro requestID run held
  cases before : stored env requestID engines with
  | none =>
    intro failed
    exact nomatch (next_created orderly.1 before held).symm.trans failed
  | some old =>
    by_cases same : old = run
    · rw [← same]
      exact orderly.2 requestID old before
    · obtain ⟨_, _, _, updated, time, _, _, move, rfl, _⟩ := next_changed orderly.1 before held same
      exact move.resumable (orderly.2 requestID old before) time

theorem start_orderly : Orderly env policy (start env) := by
  constructor
  · intro call member
    cases member
  · intro requestID run held
    rw [stored, start, FileStore.get, FileStore.empty, get_empty] at held
    cases held

section
variable {engines : Engines env} (happening : Happens) (orderly : Orderly env policy engines)
include orderly

theorem next_advance (requestID : String) (old new : Run)
    (before : stored env requestID engines = some old)
    (after : stored env requestID (next env policy engines happening) = some new)
    (different : old ≠ new) : Advance old new := by
  obtain ⟨_, _, _, updated, time, _, _, move, rfl, kept⟩ :=
    next_changed orderly.1 before after different
  exact move.advance (orderly.2 requestID old before) kept

theorem next_observed : Observed env policy engines happening := by
  intro requestID old new before after forward follows
  have changed : new.stage ≠ old.stage := by
    rw [follows]
    exact fun same => absurd same (previousStage_before forward)
  obtain ⟨index, outside, call, updated, time, answered, found, move, rfl, _⟩ :=
    next_changed orderly.1 before after fun same => changed (by rw [same])
  refine ⟨index, outside, call, answered, found, ?_⟩
  have live := previousStage_live (some updated.stage)
  rcases move.stages with same | ⟨_, _, matched⟩ | ⟨failed, _⟩ | ⟨_, ends⟩ | ⟨_, ended, _⟩
  · exact absurd same changed
  · exact matched
  · exact absurd (follows.symm.trans failed) (previousStage_ne _)
  · change isForwardStage updated.stage = true at forward
    rcases ends with ends | ends | ends <;> (rw [ends] at forward; cases forward)
  · change isForwardStage updated.stage = true at forward
    rw [ended] at forward
    cases forward

end

/-- In every interleaving the versions of a run advance along its stages, and a stage is entered
anew only as it was observed. -/
theorem versions_advance (requestID : String) (happenings : List Happens) :
    List.IsChain Advance (versions env policy requestID happenings) ∧
      Throughout (next env policy) (Observed env policy) (start env) happenings := by
  constructor
  · have chain := (isChain_changes_iff (stored_stays policy requestID) (start env) happenings).mpr
      (throughout_of_invariant next_orderly
        (fun engines happening orderly => next_advance happening orderly requestID) start_orderly
        happenings)
    have fresh : stored env requestID (start env) = none := get_empty _
    rw [fresh] at chain
    exact chain
  · exact throughout_of_invariant next_orderly
      (fun engines happening orderly => next_observed happening orderly) start_orderly happenings

/-- A forward stage is entered from its predecessor only. -/
def EnteredInOrder (old new : Run) : Prop :=
  isForwardStage new.stage = true → new.stage ≠ old.stage → old.stage = previousStage (some new.stage)

def serviceDown : Answers Request Outside := firstInPlace (.error (.other "service down"))

/-- A run is created, reconciled until its second stage fails, and reconciled again, up to the first
save of that call. -/
def failedAndRetried : List Happens :=
  callAnswered serviceDown 0 (.start "request" "run" "agent" "spec") 2 ++
    (callAnswered serviceDown 1 (.reconcile "request" false) 13 ++
      callAnswered serviceDown 2 (.reconcile "request" false) 3)

theorem failedAndRetried_saves :
    (stored zeroDigest "request" (failedAndRetried.foldl (next _ ⟨1, 1⟩) (start _))).map (·.stage) =
        some .failedRecoverable ∧
      (stored zeroDigest "request" (next _ ⟨1, 1⟩ (failedAndRetried.foldl (next _ ⟨1, 1⟩) (start _))
        (.answer 2 serviceDown))).map (·.stage) = some .identityReserved := by
  decide +kernel

/-- A run that is resumed comes back to the stage before the failed one from the failure, not from
that stage's predecessor. -/
theorem resumption_not_inOrder :
    ¬ List.IsChain EnteredInOrder (versions zeroDigest ⟨1, 1⟩ "request"
      (failedAndRetried ++ [.answer 2 serviceDown])) := by
  intro chain
  have fresh : stored zeroDigest "request" (start _) = none := get_empty _
  have steps := (isChain_changes_iff (stored_stays ⟨1, 1⟩ "request") (start _)
    (failedAndRetried ++ [.answer 2 serviceDown])).mp
      (by rw [fresh, Option.toList_none, List.nil_append]; exact chain)
  obtain ⟨failed, held, before⟩ := Option.map_eq_some_iff.mp failedAndRetried_saves.1
  obtain ⟨resumed, saved, after⟩ := Option.map_eq_some_iff.mp failedAndRetried_saves.2
  have last := (throughout_cons.mp (throughout_append.mp steps).2).1 failed resumed held saved
    (fun same => nomatch before.symm.trans ((congrArg Run.stage same).trans after))
  rw [EnteredInOrder, before, after] at last
  exact nomatch last rfl nofun

end Engines

end Bahia.Saga
