import Bahia.Foundation.Coupling
import Bahia.Saga.Reconcile
import Bahia.Saga.Record

/-! A call decides by what a record keeps. Run on a longer history and on the rest of it, it asks the
drivers the same and saves the same, up to the part that is missing. -/

namespace Bahia.Saga
open Foundation

/-- The run with the part of its history that its request is missing. -/
def whole (past : String → Past) (run : Run) : Run := run.after (past run.requestID)

section Updates
variable (past : String → Past) (run : Run)

theorem whole_moved (target : Stage) (time : Time) :
    (whole past run).moved target time = whole past (run.moved target time) := by
  simp [whole, Run.after, Run.moved]

section
variable (stage : Stage) (shown : String × String)

theorem whole_failing (canRetry : Bool) (failedAt movedAt : Time) :
    (whole past run).failing stage shown canRetry failedAt movedAt =
      whole past (run.failing stage shown canRetry failedAt movedAt) := by
  simp [whole, Run.after, Run.failing]

theorem whole_rollingBack (failedAt movedAt : Time) :
    (whole past run).rollingBack stage shown failedAt movedAt =
      whole past (run.rollingBack stage shown failedAt movedAt) := by
  simp [whole, Run.after, Run.rollingBack]

theorem whole_rollbackRetry (failedAt : Time) :
    (whole past run).rollbackRetry stage shown failedAt =
      whole past (run.rollbackRetry stage shown failedAt) := by
  simp [whole, Run.after, Run.rollbackRetry]

theorem whole_rollbackLost (failedAt movedAt : Time) :
    (whole past run).rollbackLost stage shown failedAt movedAt =
      whole past (run.rollbackLost stage shown failedAt movedAt) := by
  simp [whole, Run.after, Run.rollbackLost]

end

theorem whole_mark (policy : RetentionPolicy) (time : Time) :
    policy.mark (whole past run) time = whole past (policy.mark run time) := by
  have stage : (whole past run).stage = run.stage := rfl
  unfold RetentionPolicy.mark
  rw [stage]
  split <;> rfl

end Updates

/-! ### Stores -/

/-- Both stores hold the same runs, up to the part of their histories that is missing. -/
structure Bounds {env : Environment} (past : String → Past) (full bounded : FileStore env) : Prop where
  same : ∀ requestID, full.get requestID = (bounded.get requestID).map (whole past)
  fresh : ∀ requestID, bounded.get requestID = none → past requestID = Past.none
  shown : ∀ requestID, ∀ failure ∈ (past requestID).failures, validatePublicFailure failure = none

theorem validateImmutableUpdate_after (past : Past) (current next : Run) :
    validateImmutableUpdate (current.after past) (next.after past) =
      validateImmutableUpdate current next := by
  simp only [validateImmutableUpdate, Run.after, List.length_append, Nat.add_lt_add_iff_left,
    List.prefix_append_right_inj]

namespace FileStore
variable {env : Environment} (store : FileStore env) (run : Run)

def refusal (expectedVersion : Nat) : Option Error :=
  match run.validate env with
  | some err => some err
  | none =>
    match store.get run.requestID with
    | none => some .notFound
    | some current =>
      if current.version ≠ expectedVersion ∨ run.version ≠ expectedVersion + 1 then
        some (.conflict "")
      else validateImmutableUpdate current run

theorem save_refusal (expectedVersion : Nat) :
    (∃ err, store.refusal run expectedVersion = some err ∧
      store.save run expectedVersion = (store, some err)) ∨
    ∃ valid, store.refusal run expectedVersion = none ∧
      store.save run expectedVersion = (store.write run valid, none) := by
  unfold save
  split
  · rename_i err wrong
    exact .inl ⟨err, by rw [refusal, wrong], rfl⟩
  rename_i valid
  have reduced : store.refusal run expectedVersion =
      match store.get run.requestID with
      | none => some .notFound
      | some current =>
        if current.version ≠ expectedVersion ∨ run.version ≠ expectedVersion + 1 then
          some (.conflict "")
        else validateImmutableUpdate current run := by
    rw [refusal, valid]
  split
  · rename_i missing
    exact .inl ⟨_, by rw [reduced, missing], rfl⟩
  rename_i held
  rw [held] at reduced
  split
  · rename_i versions
    exact .inl ⟨_, reduced.trans (if_pos versions), rfl⟩
  rename_i versions
  have checked := reduced.trans (if_neg versions)
  split
  · rename_i err wrong
    exact .inl ⟨err, checked.trans wrong, rfl⟩
  · rename_i kept
    exact .inr ⟨valid, checked.trans kept, rfl⟩

def obstacle : Option Error :=
  match run.validate env with
  | some err => some err
  | none => (store.get run.requestID).map fun _ => .conflict ""

theorem create_obstacle :
    (∃ err, store.obstacle run = some err ∧ store.create run = (store, some err)) ∨
    ∃ valid, store.obstacle run = none ∧ store.get run.requestID = none ∧
      store.create run = (store.write run valid, none) := by
  unfold create
  split
  · rename_i err wrong
    exact .inl ⟨err, by rw [obstacle, wrong], rfl⟩
  rename_i valid
  have reduced : store.obstacle run = (store.get run.requestID).map fun _ => .conflict "" := by
    rw [obstacle, valid]
  split
  · rename_i held
    exact .inl ⟨_, by rw [reduced, held]; rfl, rfl⟩
  · rename_i missing
    exact .inr ⟨valid, by rw [reduced, missing]; rfl, missing, rfl⟩

end FileStore

namespace Bounds
variable {env : Environment} {past : String → Past} {full bounded : FileStore env}

variable (bounds : Bounds past full bounded)
include bounds

theorem validate (run : Run) : (whole past run).validate env = run.validate env :=
  Run.validate_after env (bounds.shown run.requestID) run

theorem write {run : Run}
    (valid : (whole past run).validate env = none) (other : run.validate env = none) :
    Bounds past (full.write (whole past run) valid) (bounded.write run other) := by
  have request : (whole past run).requestID = run.requestID := rfl
  refine ⟨?_, ?_, bounds.shown⟩
  · intro requestID
    rw [FileStore.get_write, FileStore.get_write, request]
    split
    · rfl
    · exact bounds.same requestID
  · intro requestID
    rw [FileStore.get_write]
    split
    · exact nofun
    · exact bounds.fresh requestID

theorem refusal (run : Run) (expected : Nat) :
    full.refusal (whole past run) expected = bounded.refusal run expected := by
  have held : full.get (whole past run).requestID = (bounded.get run.requestID).map (whole past) :=
    bounds.same run.requestID
  unfold FileStore.refusal
  rw [bounds.validate, held]
  cases run.validate env with
  | some => rfl
  | none =>
    cases stored : bounded.get run.requestID with
    | none => rfl
    | some current =>
      have request : current.requestID = run.requestID := (bounded.sound _ current stored).1
      have update : validateImmutableUpdate (whole past current) (whole past run) =
          validateImmutableUpdate current run := by
        rw [whole, whole, request]
        exact validateImmutableUpdate_after (past run.requestID) current run
      simp only [Option.map_some, update]
      rfl

theorem save (run : Run) (expected : Nat) :
    Bounds past (full.save (whole past run) expected).1 (bounded.save run expected).1 ∧
      (full.save (whole past run) expected).2 = (bounded.save run expected).2 := by
  have same := bounds.refusal run expected
  rcases full.save_refusal (whole past run) expected with
    ⟨err, refused, failed⟩ | ⟨valid, accepted, saved⟩
  · rcases bounded.save_refusal run expected with ⟨other, refused', failed'⟩ | ⟨_, accepted', _⟩
    · cases Option.some.inj (refused.symm.trans (same.trans refused'))
      rw [failed, failed']
      exact ⟨bounds, rfl⟩
    · exact nomatch refused.symm.trans (same.trans accepted')
  · rcases bounded.save_refusal run expected with ⟨_, refused', _⟩ | ⟨other, accepted', saved'⟩
    · exact nomatch accepted.symm.trans (same.trans refused')
    · rw [saved, saved']
      exact ⟨bounds.write valid other, rfl⟩

theorem load (requestID : String) :
    full.load requestID = (bounded.load requestID).map (whole past) := by
  unfold FileStore.load
  rw [bounds.same]
  cases bounded.get requestID <;> rfl

theorem create (run : Run) : Bounds past (full.create run).1 (bounded.create run).1 ∧
      (full.create run).2 = (bounded.create run).2 := by
  have same : full.obstacle run = bounded.obstacle run := by
    unfold FileStore.obstacle
    rw [bounds.same, Option.map_map]
    rfl
  rcases full.create_obstacle run with ⟨err, refused, failed⟩ | ⟨valid, accepted, _, created⟩
  · rcases bounded.create_obstacle run with ⟨other, refused', failed'⟩ | ⟨_, accepted', _⟩
    · cases Option.some.inj (refused.symm.trans (same.trans refused'))
      rw [failed, failed']
      exact ⟨bounds, rfl⟩
    · exact nomatch refused.symm.trans (same.trans accepted')
  · rcases bounded.create_obstacle run with ⟨_, refused', _⟩ | ⟨other, _, missing, created'⟩
    · exact nomatch accepted.symm.trans (same.trans refused')
    have started : whole past run = run := by
      rw [whole, bounds.fresh run.requestID missing]
      rfl
    have written := bounds.write (by rw [started]; exact valid) other
    rw [created, created']
    refine ⟨?_, rfl⟩
    simp only [started] at written
    exact written

end Bounds

end Bahia.Saga
