import Bahia.Saga.Deadlines

/-! Every run that has ended can be purged, as long as no call is lost between the end of a rollback
and the save of its deadline; a run that is caught there never gets one. -/

namespace Bahia.Saga
open Foundation Bucket

section Purges
variable {env : Environment} {store : FileStore env} {run : Run}

def purgeOne (now : Time) (done : FileStore env × Nat) (run : Run) : FileStore env × Nat :=
  if run.expired now then
    match done.1.delete run.requestID run.version with
    | (next, none) => (next, done.2 + 1)
    | (_, some _) => done
  else done

theorem get_remove (requestID other : String) :
    (store.remove requestID).get other = if requestID = other then none else store.get other :=
  get_delete _ _ _

theorem purgeOne_get (now : Time) (done : FileStore env × Nat) (other : Run) (requestID : String) :
    ((purgeOne now done other).1.get requestID = none ∨
      (purgeOne now done other).1.get requestID = done.1.get requestID) ∧
    (other.requestID = requestID → other.expired now = true → done.1.get requestID = some other →
      (purgeOne now done other).1.get requestID = none) := by
  unfold purgeOne FileStore.delete
  by_cases expired : other.expired now = true
  · simp only [expired, if_true]
    cases held : done.1.get other.requestID with
    | none =>
      refine ⟨.inr rfl, ?_⟩
      intro same _ found
      rw [same] at held
      exact nomatch held.symm.trans found
    | some current =>
      by_cases version : current.version = other.version
      · simp only [version, ne_eq, not_true_eq_false, if_false, get_remove]
        by_cases same : other.requestID = requestID
        · simp [same]
        · simp [same]
      · simp only [ne_eq, version, not_false_eq_true, if_true]
        refine ⟨.inr trivial, ?_⟩
        intro same _ found
        rw [same] at held
        cases held.symm.trans found
        exact absurd rfl version
  · simp only [expired, Bool.false_eq_true, if_false]
    exact ⟨.inr trivial, fun _ wrong => nomatch wrong⟩

theorem purge_removes (held : store.get requestID = some run) (expired : run.expired now = true) :
    (purgeExpired store now).1.get requestID = none := by
  have gone (runs : List Run) (known : ∀ other ∈ runs, other.requestID = requestID → other = run)
      (done : FileStore env × Nat)
      (left : done.1.get requestID = none ∨ done.1.get requestID = some run ∧ run ∈ runs) :
      (runs.foldl (purgeOne now) done).1.get requestID = none := by
    induction runs generalizing done with
    | nil =>
      rcases left with removed | ⟨_, member⟩
      · exact removed
      · cases member
    | cons other rest ih =>
      obtain ⟨here, later⟩ := List.forall_mem_cons.mp known
      obtain ⟨touched, removes⟩ := purgeOne_get now done other requestID
      apply ih later
      rcases left with removed | ⟨stored, member⟩
      · rw [removed, or_self] at touched
        exact .inl touched
      rcases touched with removed | same
      · exact .inl removed
      rcases List.mem_cons.mp member with rfl | further
      · exact .inl (removes (done.1.sound requestID run stored).1 expired stored)
      · exact .inr ⟨same.trans stored, further⟩
  have known : ∀ other ∈ store.list, other.requestID = requestID → other = run := by
    intro other member named
    obtain ⟨key, found⟩ := mem_values.mp member
    have keyed : other.requestID = key := (store.sound key other found).1
    rw [← keyed, named] at found
    exact Option.some.inj (found.symm.trans held)
  exact gone store.list known (store, 0) (.inr ⟨held, mem_values.mpr ⟨requestID, held⟩⟩)

/-- An ended run has a deadline, and a purge from then on removes it. -/
def Purgeable (store : FileStore env) (requestID : String) : Prop :=
  ∀ run, store.get requestID = some run → run.stage.ended → ∃ deadline,
    run.retainUntil = some deadline ∧
      ∀ now, deadline ≤ now → (purgeExpired store now).1.get requestID = none

theorem purgeable_of_marked (marked : Marked store) (requestID : String) :
    Purgeable store requestID := by
  intro run held ended
  obtain ⟨deadline, due⟩ := Option.isSome_iff_exists.mp (marked requestID run held ended)
  refine ⟨deadline, due, ?_⟩
  intro now later
  apply purge_removes held
  rcases ended with stage | stage <;> simp [Run.expired, due, later, stage]

end Purges

/-! ### Reconciliations of ended runs -/

section Revisits
variable (env : Environment) (policy : RetentionPolicy)

/-- Whatever a reconciliation of a request comes to, a run of it that has ended can be purged. -/
def Repaired (store : FileStore env) : Prop :=
  ∀ requestID answers reply trace after,
    (reconcile env policy requestID false).Yields serve [] store answers reply trace after →
      Purgeable after requestID

/-- A store that answers, and a projector that is away. -/
def projectorAway : Answers Request Outside
  | .load _ => some ()
  | .inspectTerminal _ _ _ => some (.error (.other "projector unavailable"))
  | _ => none

variable {env policy}

theorem revisit_leaves (policy : RetentionPolicy) {requestID : String} {run : Run}
    (held : store.get requestID = some run)
    (ended : run.stage.ended) :
    ∃ reply trace, (reconcile env policy requestID false).Yields serve [] store
      [projectorAway, projectorAway] reply trace store := by
  have terminal : run.stage.terminalProjection = true := by
    rcases ended with stage | stage <;> rw [stage] <;> rfl
  have pending : run.stage ≠ .rollbackPending := by
    rcases ended with stage | stage <;> rw [stage] <;> decide
  have unprojected : (Engine.inspectTerminal run).Reaches serve store [projectorAway]
      (.done (.error (.other "projector unavailable"))) store := .request rfl store
  have ensured : (ensureTerminal env run).Reaches serve store [projectorAway]
      (.done (.error ⟨.safe terminalMismatch, run⟩)) store :=
    unprojected.bind (Program.Reaches.stop _ _)
  have returned : (reconcileRun env policy run false).Reaches serve store [projectorAway]
      (.done ⟨some (reportFor run false), some (.safe terminalMismatch)⟩) store := by
    rw [reconcileRun, if_pos terminal, reconcileEnded, if_neg Bool.false_ne_true]
    exact ensured.bind (Program.Reaches.stop _ _)
  have whole : (reconcile env policy requestID false).Reaches serve store
      [projectorAway, projectorAway]
      (.done ⟨some (reportFor run false), some (.safe terminalMismatch)⟩) store := by
    apply (load_reaches projectorAway rfl held).bind
    dsimp only
    rw [if_neg pending]
    exact returned
  obtain ⟨trace, steps⟩ := whole []
  exact ⟨_, trace, steps⟩

theorem repaired_iff (positive : policy.Positive) : Repaired env policy store ↔ Marked store := by
  constructor
  · intro repaired requestID run held ended
    obtain ⟨reply, trace, returned⟩ := revisit_leaves policy held ended
    obtain ⟨deadline, due, _⟩ := repaired requestID _ reply trace store returned run held ended
    rw [due]
    rfl
  · intro marked requestID answers reply trace after returned
    have obeys : InOrder (deadlines positive) true [] store (reconcile env policy requestID false) :=
      reconcile_obeys (deadlines_whole positive) requestID false marked
    exact purgeable_of_marked (obeys.steps (fun _ => rfl) returned after rfl) requestID

end Revisits

namespace Caller
variable (env : Environment) (policy : RetentionPolicy)

/-- A call is lost only while every ended run carries its deadline. -/
def Unbroken (caller : Caller env) : Happens → Prop
  | .crash _ => Marked caller.state
  | _ => True

/-- Between calls every ended run carries its deadline, and the call in progress will see to it. -/
def Accountable (caller : Caller env) : Prop :=
  match caller.call with
  | none => Marked caller.state
  | some call => call.rest.Obeys (contract policy (View.alone env) true)
    (fun _ after _ => Marked after) call.trace caller.state

variable {env policy} {caller : Caller env}

theorem accountable_unlessDone (obeys : call.rest.Obeys (contract policy (View.alone env) true)
      (fun _ after _ => Marked after) call.trace store) :
    Accountable env policy ⟨store, Solo.unlessDone call⟩ := by
  obtain ⟨trace, rest⟩ := call
  cases rest with
  | done => exact obeys store rfl
  | ask => exact obeys

section
variable (positive : policy.Positive) (held : Accountable env policy caller) (happening : Happens)
include positive held

theorem accountable_next (unbroken : Unbroken env caller happening) :
    Accountable env policy (Solo.next serve (Call.body env policy) caller happening) := by
  obtain ⟨store, going⟩ := caller
  cases happening with
  | crash => exact unbroken
  | start call =>
    cases going with
    | none => exact accountable_unlessDone (call_obeys (deadlines_whole positive) call [] held)
    | some => exact held
  | answer index outside =>
    cases going with
    | none => exact held
    | some =>
      exact accountable_unlessDone (Ongoing.obeys_advance (fun _ => rfl) held outside)

/-- Where a happening leads between calls, everything is repaired exactly if no call was lost in a
wrong moment. -/
theorem repaired_next_iff : ((Solo.next serve (Call.body env policy) caller happening).call = none →
        Repaired env policy (Solo.next serve (Call.body env policy) caller happening).state) ↔
      Unbroken env caller happening := by
  have idle (unbroken : Unbroken env caller happening)
      (returned : (Solo.next serve (Call.body env policy) caller happening).call = none) :
      Repaired env policy (Solo.next serve (Call.body env policy) caller happening).state := by
    have after := accountable_next positive held happening unbroken
    rw [Accountable, returned] at after
    exact (repaired_iff positive).mpr after
  cases happening with
  | crash =>
    constructor
    · intro repaired
      exact (repaired_iff positive).mp (repaired rfl)
    · exact idle
  | start | answer => exact iff_of_true (idle trivial) trivial

end

theorem marked_empty : Marked (FileStore.empty : FileStore env) := by
  intro requestID run held
  exact nomatch (get_empty requestID).symm.trans held

end Caller

open Caller in
/-- With positive durations, in every run of calls and losses: each ended run that is reconciled once
more can be purged exactly if no call is lost while a stored run has ended without its deadline; and
then each ended run can be purged as soon as the call that ended it is over. -/
theorem ended_purgeable_iff (env : Environment) (policy : RetentionPolicy) (positive : policy.Positive)
    (happenings : List Happens) :
    (Throughout (Solo.next serve (Call.body env policy))
        (fun caller happening =>
          (Solo.next serve (Call.body env policy) caller happening).call = none →
            Repaired env policy (Solo.next serve (Call.body env policy) caller happening).state)
        ⟨FileStore.empty, none⟩ happenings ↔
      Throughout (Solo.next serve (Call.body env policy)) (Unbroken env)
        ⟨FileStore.empty, none⟩ happenings) ∧
    (Throughout (Solo.next serve (Call.body env policy)) (Unbroken env)
        ⟨FileStore.empty, none⟩ happenings →
      ∀ before, before <+: happenings → (after env policy FileStore.empty before).call = none →
        ∀ requestID, Purgeable (after env policy FileStore.empty before).state requestID) := by
  have start : Accountable env policy ⟨FileStore.empty, none⟩ := marked_empty
  have keeps (caller : Caller env) (happening : Happens) (held : Accountable env policy caller)
      (unbroken : Unbroken env caller happening) :
      Accountable env policy (Solo.next serve (Call.body env policy) caller happening) :=
    accountable_next positive held happening unbroken
  constructor
  · exact throughout_congr_while keeps
      (fun _ happening held => repaired_next_iff positive held happening) start happenings
  · rintro unbroken before ⟨later, rfl⟩ returned requestID
    have reached : Accountable env policy (after env policy FileStore.empty before) :=
      foldl_guarded keeps start (throughout_append.mp unbroken).1
    rw [Accountable, returned] at reached
    exact purgeable_of_marked reached requestID

def abortEnded : List Happens :=
  callAnswered (driversReporting fun _ => .error (.other "")) 0 (.start "request" "run" "agent" "spec")
      2 ++
    callAnswered (driversReporting fun _ => .error (.other "")) 0 (.safeAbort "request" false) 11

theorem callAnswered_unbroken (outside : Answers Request Outside) (call : Call) (count : Nat)
    (caller : Caller zeroDigest) :
    Throughout (Solo.next serve (Call.body zeroDigest ⟨1, 1⟩)) (Caller.Unbroken zeroDigest) caller
      (callAnswered outside 0 call count) := by
  refine throughout_cons.mpr ⟨trivial, ?_⟩
  generalize Solo.next serve (Call.body zeroDigest ⟨1, 1⟩) caller (.start call) = begun
  induction count generalizing begun with
  | zero => trivial
  | succ count ih => exact throughout_cons.mpr ⟨trivial, ih _⟩

theorem ended_purgeable_start : (⟨1, 1⟩ : RetentionPolicy).Positive ∧
    Throughout (Solo.next serve (Call.body zeroDigest ⟨1, 1⟩))
      (fun caller happening =>
        (Solo.next serve (Call.body zeroDigest ⟨1, 1⟩) caller happening).call = none →
          Repaired zeroDigest ⟨1, 1⟩
            (Solo.next serve (Call.body zeroDigest ⟨1, 1⟩) caller happening).state)
      ⟨FileStore.empty, none⟩ abortEnded ∧
    ((Caller.after zeroDigest ⟨1, 1⟩ FileStore.empty abortEnded).state.get "request").map
      (fun run => (run.stage, run.retainUntil)) = some (.rolledBack, some 2) ∧
    Purgeable (Caller.after zeroDigest ⟨1, 1⟩ FileStore.empty abortEnded).state "request" := by
  have positive : (⟨1, 1⟩ : RetentionPolicy).Positive := ⟨by decide, by decide⟩
  have unbroken : Throughout (Solo.next serve (Call.body zeroDigest ⟨1, 1⟩)) (Caller.Unbroken zeroDigest)
      ⟨FileStore.empty, none⟩ abortEnded :=
    throughout_append.mpr ⟨callAnswered_unbroken _ _ _ _, callAnswered_unbroken _ _ _ _⟩
  have returned : (Caller.after zeroDigest ⟨1, 1⟩ FileStore.empty abortEnded).call.isNone = true := by
    decide +kernel
  obtain ⟨repaired, purgeable⟩ := ended_purgeable_iff zeroDigest ⟨1, 1⟩ positive abortEnded
  refine ⟨positive, repaired.mpr unbroken, by decide +kernel, ?_⟩
  exact purgeable unbroken abortEnded (List.prefix_refl _) (Option.isNone_iff_eq_none.mp returned) _

/-- An abort is lost after the save of its end, and the run is reconciled once more. -/
def abortLost : List Happens :=
  callAnswered (driversReporting fun _ => .error (.other "")) 0 (.start "request" "run" "agent" "spec")
      2 ++
    callAnswered (driversReporting fun _ => .error (.other "")) 0 (.safeAbort "request" false) 7 ++
    [.crash 0] ++ callAnswered projectorAway 0 (.reconcile "request" false) 2

theorem abortLost_not_purgeable :
    (Caller.after zeroDigest ⟨1, 1⟩ FileStore.empty abortLost).call = none ∧
      ¬ Purgeable (Caller.after zeroDigest ⟨1, 1⟩ FileStore.empty abortLost).state "request" := by
  have returned : (Caller.after zeroDigest ⟨1, 1⟩ FileStore.empty abortLost).call.isNone = true := by
    decide +kernel
  have stored : ((Caller.after zeroDigest ⟨1, 1⟩ FileStore.empty abortLost).state.get "request").map
      (fun run => (run.stage, run.retainUntil)) = some (.rolledBack, none) := by
    decide +kernel
  refine ⟨Option.isNone_iff_eq_none.mp returned, ?_⟩
  intro purgeable
  obtain ⟨run, held, shown⟩ := Option.map_eq_some_iff.mp stored
  obtain ⟨stage, unmarked⟩ := Prod.mk.inj shown
  obtain ⟨deadline, due, _⟩ := purgeable run held (.inl stage)
  exact nomatch unmarked.symm.trans due

end Bahia.Saga
