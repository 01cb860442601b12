import Bahia.Foundation.Bucket
import Bahia.Saga.Soundness

/-! The checkpoint store: one validated run for each request, replaced only by its next version,
which keeps what the run has recorded. -/

namespace Bahia.Saga
open Foundation

/-- The checkpoint files, by request. A file holds a run of its request that passes validation. -/
structure FileStore (env : Environment) where
  runs : Bucket String Run
  sound : ∀ requestID run, runs.get requestID = some run →
    run.requestID = requestID ∧ run.validate env = none

def validateImmutableUpdate (current next : Run) : Option Error :=
  if current.requestID ≠ next.requestID ∨ current.runID ≠ next.runID ∨
      current.rootKey ≠ next.rootKey ∨ current.agentID ≠ next.agentID ∨
      current.specHash ≠ next.specHash ∨ current.createdAt ≠ next.createdAt then
    some (.conflict ": immutable saga identity changed")
  else if next.resources.length < current.resources.length ∨
      next.transitions.length < current.transitions.length ∨
      next.compensations.length < current.compensations.length ∨
      next.failures.length < current.failures.length then
    some (.conflict ": append-only saga history was truncated")
  else if ¬ current.resources <+: next.resources then
    some (.conflict ": resource lineage was rewritten")
  else if ¬ current.transitions <+: next.transitions then
    some (.conflict ": transition history was rewritten")
  else if ¬ current.compensations <+: next.compensations then
    some (.conflict ": compensation history was rewritten")
  else if ¬ current.failures <+: next.failures then
    some (.conflict ": failure history was rewritten")
  else none

/-- The same identity, and histories that only grew. -/
structure Run.Extends (current next : Run) : Prop where
  requestID : next.requestID = current.requestID
  runID : next.runID = current.runID
  rootKey : next.rootKey = current.rootKey
  agentID : next.agentID = current.agentID
  specHash : next.specHash = current.specHash
  createdAt : next.createdAt = current.createdAt
  resources : current.resources <+: next.resources
  transitions : current.transitions <+: next.transitions
  compensations : current.compensations <+: next.compensations
  failures : current.failures <+: next.failures

theorem validateImmutableUpdate_none_iff (current next : Run) :
    validateImmutableUpdate current next = none ↔ current.Extends next := by
  unfold validateImmutableUpdate
  constructor
  · intro accepted
    simp only [ite_eq_right_iff, reduceCtorEq, imp_false, ite_eq_iff, not_or, not_not, and_false,
      false_or] at accepted
    obtain ⟨⟨request, id, root, agent, spec, created⟩, _, resources, transitions, compensations,
      failures⟩ := accepted
    exact ⟨request.symm, id.symm, root.symm, agent.symm, spec.symm, created.symm, resources,
      transitions, compensations, failures⟩
  · intro kept
    have shorter := kept.resources.length_le
    have fewer := kept.transitions.length_le
    have less := kept.compensations.length_le
    have smaller := kept.failures.length_le
    simp only [kept.requestID, kept.runID, kept.rootKey, kept.agentID, kept.specHash, kept.createdAt,
      kept.resources, kept.transitions, kept.compensations, kept.failures, ne_eq, not_true_eq_false,
      or_self, if_false]
    rw [if_neg (by omega)]

namespace FileStore
variable {env : Environment}

def empty : FileStore env := ⟨∅, fun _ _ held => by rw [Bucket.get_empty] at held; cases held⟩

def get (store : FileStore env) (requestID : String) : Option Run := store.runs.get requestID

def write (store : FileStore env) (run : Run) (valid : run.validate env = none) : FileStore env where
  runs := store.runs.put run.requestID run
  sound requestID held present := by
    rcases Bucket.get_put_cases present with ⟨rfl, rfl⟩ | ⟨_, kept⟩
    · exact ⟨rfl, valid⟩
    · exact store.sound requestID held kept

def create (store : FileStore env) (run : Run) : FileStore env × Option Error :=
  match valid : run.validate env with
  | some err => (store, some err)
  | none =>
    match store.get run.requestID with
    | some _ => (store, some (.conflict ""))
    | none => (store.write run valid, none)

def load (store : FileStore env) (requestID : String) : Except Error Run :=
  match store.get requestID with
  | some run => .ok run
  | none => .error .notFound

def save (store : FileStore env) (run : Run) (expectedVersion : Nat) : FileStore env × Option Error :=
  match valid : run.validate env with
  | some err => (store, some err)
  | none =>
    match store.get run.requestID with
    | none => (store, some .notFound)
    | some current =>
      if current.version ≠ expectedVersion ∨ run.version ≠ expectedVersion + 1 then
        (store, some (.conflict ""))
      else
        match validateImmutableUpdate current run with
        | some err => (store, some err)
        | none => (store.write run valid, none)

def list (store : FileStore env) : List Run := store.runs.values

def remove (store : FileStore env) (requestID : String) : FileStore env where
  runs := store.runs.delete requestID
  sound other held present := store.sound other held (Bucket.get_delete_cases present).2

def delete (store : FileStore env) (requestID : String) (expectedVersion : Nat) :
    FileStore env × Option Error :=
  match store.get requestID with
  | none => (store, some .notFound)
  | some current =>
    if current.version ≠ expectedVersion then (store, some (.conflict ""))
    else (store.remove requestID, none)

variable {store : FileStore env} {run : Run} {requestID : String}

theorem get_write (valid : run.validate env = none) (requestID : String) :
    (store.write run valid).get requestID =
      if run.requestID = requestID then some run else store.get requestID :=
  Bucket.get_put _ _ _ _

theorem get_written (valid : run.validate env = none) :
    (store.write run valid).get run.requestID = some run :=
  Bucket.get_put_self _ _ _

theorem save_cases (store : FileStore env) (run : Run) (expected : Nat) :
    (∃ err, store.save run expected = (store, some err)) ∨
      ∃ current, ∃ valid : run.validate env = none, store.get run.requestID = some current ∧
        current.version = expected ∧ run.version = expected + 1 ∧ current.Extends run ∧
        store.save run expected = (store.write run valid, none) := by
  unfold save
  split
  · exact .inl ⟨_, rfl⟩
  rename_i valid
  split
  · exact .inl ⟨_, rfl⟩
  rename_i current held
  split
  · exact .inl ⟨_, rfl⟩
  rename_i versions
  split
  · exact .inl ⟨_, rfl⟩
  rename_i kept
  simp only [not_or, not_not] at versions
  exact .inr ⟨current, valid, held, versions.1, versions.2,
    (validateImmutableUpdate_none_iff current run).mp kept, rfl⟩

theorem save_next {current : Run} (held : store.get run.requestID = some current)
    (next : run.version = current.version + 1) (kept : current.Extends run)
    (valid : run.validate env = none) :
    store.save run current.version = (store.write run valid, none) := by
  rcases store.save_cases run current.version with ⟨err, failed⟩ | ⟨_, _, _, _, _, _, saved⟩
  · exfalso
    unfold save at failed
    split at failed
    · rename_i wrong
      exact nomatch valid.symm.trans wrong
    split at failed
    · rename_i missing
      exact nomatch held.symm.trans missing
    rename_i found
    cases Option.some.inj (held.symm.trans found)
    rw [if_neg (by simp [next]), (validateImmutableUpdate_none_iff current run).mpr kept] at failed
    exact nomatch congrArg Prod.snd failed
  · exact saved

theorem create_cases (store : FileStore env) (run : Run) :
    (∃ err, store.create run = (store, some err)) ∨
      ∃ valid : run.validate env = none, store.get run.requestID = none ∧
        store.create run = (store.write run valid, none) := by
  unfold create
  split
  · exact .inl ⟨_, rfl⟩
  rename_i valid
  split
  · exact .inl ⟨_, rfl⟩
  · rename_i missing
    exact .inr ⟨valid, missing, rfl⟩

theorem load_ok (loaded : store.load requestID = .ok run) :
    store.get requestID = some run ∧ run.requestID = requestID := by
  unfold load at loaded
  split at loaded
  · rename_i held
    cases loaded
    exact ⟨held, (store.sound requestID run held).1⟩
  · cases loaded

theorem load_of_get (held : store.get requestID = some run) : store.load requestID = .ok run := by
  rw [load, held]

end FileStore

/-! ### Retention -/

structure RetentionPolicy where
  failedFor : Int
  rolledBackFor : Int

namespace RetentionPolicy

/-- How long a run in this stage is kept; other stages have no deadline. -/
def duration (policy : RetentionPolicy) : Stage → Int
  | .failedTerminal => policy.failedFor
  | .rolledBack => policy.rolledBackFor
  | _ => 0

def mark (policy : RetentionPolicy) (run : Run) (now : Time) : Run :=
  if 0 < policy.duration run.stage then
    { run with retainUntil := some (now + policy.duration run.stage) }
  else run

end RetentionPolicy

/-- Whether a purge pass at `now` deletes the run. -/
def Run.expired (run : Run) (now : Time) : Bool :=
  match run.retainUntil with
  | none => false
  | some deadline => deadline ≤ now && (run.stage = .failedTerminal || run.stage = .rolledBack)

/-- `PurgeExpired`, with the number of runs it removed. -/
def purgeExpired {env : Environment} (store : FileStore env) (now : Time) : FileStore env × Nat :=
  store.list.foldl (fun (store, removed) run =>
    if run.expired now then
      match store.delete run.requestID run.version with
      | (next, none) => (next, removed + 1)
      | (_, some _) => (store, removed)
    else (store, removed)) (store, 0)

end Bahia.Saga
