import Bahia.Saga.Record

/-! The saga store whose authority is the canonical record, as one request sees it: the latest record
that was published, the copy of this process and the cached checkpoint. -/

namespace Bahia.Saga
open Foundation

structure CachedRun where
  run : Run
  createdAt : Int
  deleted : Bool

structure Published where
  record : Record
  createdAt : Int

structure EventStore where
  cacheDir : Bool
  record : Option Published
  copy : Option CachedRun
  file : Option Run

def canonicalRecord (run : Run) (deleted : Bool) : Record := { recordFromRun run with deleted }

/-- How a publication goes: the clock, what the publisher objects to, and whether the file is written
or removed. -/
structure Attempt where
  now : Int
  refused : Option String
  cached : Bool

def recordDTag (env : Environment) (requestID : String) : String :=
  "soul-factory:saga-run:" ++ trimPrefix (deriveKey env (trimSpace requestID) "record") "ocw-saga:"

/-- What has been considered: the best run so far, and the highest deleted version. -/
structure Considered where
  best : Option Run
  tombstoned : Nat

def Considered.consider (seen : Considered) (run : Run) (deleted : Bool) : Considered :=
  if deleted then { seen with tombstoned := max seen.tombstoned run.version }
  else
    match seen.best with
    | none => { seen with best := some run }
    | some best => if best.version < run.version then { seen with best := some run } else seen

namespace EventStore

section Calls
variable (env : Environment) (requestID : String) (store : EventStore)

def readRecord : Except Error (Option CachedRun) :=
  match store.record with
  | none => .ok none
  | some latest =>
    if latest.record.schema ≠ recordSchema ∨ latest.record.requestID ≠ requestID then
      .error (.other ("saga record at " ++ recordDTag env requestID ++ " is not a " ++ recordSchema ++
        " record of request " ++ requestID))
    else
      match latest.record.run env with
      | .error err => .error err
      | .ok run => .ok (some ⟨run, latest.createdAt, latest.record.deleted⟩)

/-- The file counts only above the tombstoned version. -/
def considerFile (seen : Considered) : Considered :=
  match store.file with
  | none => seen
  | some cached =>
    if store.cacheDir ∧ seen.tombstoned < cached.version then seen.consider cached false else seen

/-- `current`: the live run of the highest version, and the timestamp to replace. -/
def current : Except Error (Option Run × Int) :=
  let seen := match store.copy with
    | none => (⟨none, 0⟩ : Considered)
    | some written => Considered.consider ⟨none, 0⟩ written.run written.deleted
  let replaces := match store.copy with
    | none => 0
    | some written => written.createdAt
  match store.readRecord env requestID with
  | .error err => .error err
  | .ok none => .ok ((store.considerFile seen).best, replaces)
  | .ok (some record) =>
    .ok ((store.considerFile (seen.consider record.run record.deleted)).best,
      max replaces record.createdAt)

def latest (held : Option Published) (new : Published) : Published :=
  match held with
  | none => new
  | some old => if old.createdAt < new.createdAt then new else old

def publish (run : Run) (replaces : Int) (deleted : Bool) (attempt : Attempt) :
    EventStore × Option Error :=
  let createdAt := if attempt.now ≤ replaces then replaces + 1 else attempt.now
  match attempt.refused with
  | some cause =>
    (store, some (.other ("publish saga record for " ++ run.requestID ++ ": " ++ cause)))
  | none =>
    ({ store with
        record := some (latest store.record ⟨canonicalRecord run deleted, createdAt⟩)
        copy := some ⟨run, createdAt, deleted⟩
        file :=
          if store.cacheDir ∧ attempt.cached then (if deleted then none else some run)
          else store.file }, none)

def create (run : Run) (attempt : Attempt) : EventStore × Option Error :=
  match run.validate env with
  | some err => (store, some err)
  | none =>
    match store.current env requestID with
    | .error err => (store, some err)
    | .ok (some _, _) => (store, some (.conflict ""))
    | .ok (none, replaces) => store.publish run replaces false attempt

def load : Except Error Run :=
  match store.current env requestID with
  | .error err => .error err
  | .ok (none, _) => .error .notFound
  | .ok (some current, _) => .ok current

def save (run : Run) (expectedVersion : Nat) (attempt : Attempt) : EventStore × Option Error :=
  match run.validate env with
  | some err => (store, some err)
  | none =>
    match store.current env requestID with
    | .error err => (store, some err)
    | .ok (none, _) => (store, some .notFound)
    | .ok (some current, replaces) =>
      if current.version ≠ expectedVersion ∨ run.version ≠ expectedVersion + 1 then
        (store, some (.conflict ""))
      else
        match validateImmutableUpdate current run with
        | some err => (store, some err)
        | none => store.publish run replaces false attempt

def delete (expectedVersion : Nat) (attempt : Attempt) : EventStore × Option Error :=
  match store.current env requestID with
  | .error err => (store, some err)
  | .ok (none, _) => (store, some .notFound)
  | .ok (some current, replaces) =>
    if current.version ≠ expectedVersion then (store, some (.conflict ""))
    else store.publish current replaces true attempt

def restart : EventStore := { store with copy := none }

end Calls

def opened {env : Environment} (cacheDir : Option (FileStore env)) (requestID : String) : EventStore where
  cacheDir := cacheDir.isSome
  record := none
  copy := none
  file := cacheDir.bind (·.get requestID)

/-! ### What a store of one request holds -/

def Fits (env : Environment) (requestID : String) (run : Run) : Prop :=
  run.validate env = none ∧ run.requestID = requestID

/-- The copy of the process is what was published last, and everything is a valid run of the
request. -/
structure Sound (env : Environment) (requestID : String) (store : EventStore) : Prop where
  published : ∀ held, store.record = some held → ∃ run, Fits env requestID run ∧
    held.record = canonicalRecord run held.record.deleted
  copied : ∀ copy, store.copy = some copy → Fits env requestID copy.run ∧
    store.record = some ⟨canonicalRecord copy.run copy.deleted, copy.createdAt⟩
  cached : ∀ run, store.file = some run → Fits env requestID run ∧ store.cacheDir = true

/-- What was published last, as this process knows it. -/
def last (store : EventStore) : Option CachedRun :=
  match store.copy with
  | some copy => some copy
  | none => store.record.map fun held => ⟨held.record.carried, held.createdAt, held.record.deleted⟩

/-- The file, when it is newer than what was published last. -/
def ahead (store : EventStore) (version : Nat) : Option Run :=
  store.file.filter fun cached => version < cached.version

/-- What a sound store takes for the live run. -/
def live (store : EventStore) : Option Run :=
  match store.last with
  | none => store.file
  | some last =>
    if last.deleted then store.ahead last.run.version
    else some ((store.ahead last.run.version).getD last.run)

section Reading
variable {env : Environment} {requestID : String} {store : EventStore}

theorem Fits.version {run : Run} (fits : Fits env requestID run) : 0 < run.version :=
  Nat.pos_of_ne_zero ((Run.validate_none_iff env run).mp fits.1).identity.2.2.2.2.2

theorem readRecord_published {run : Run} (fits : Fits env requestID run) {deleted : Bool}
    {createdAt : Int}
    (held : store.record = some ⟨canonicalRecord run deleted, createdAt⟩) :
    store.readRecord env requestID = .ok (some ⟨run.recent, createdAt, deleted⟩) := by
  have plain : ¬ (recordSchema ≠ recordSchema ∨ run.requestID ≠ requestID) :=
    fun wrong => wrong.elim (fun schema => schema rfl) fun request => request fits.2
  have read : (canonicalRecord run deleted).run env = .ok run.recent :=
    recordFromRun_run fits.1
  rw [readRecord, held]
  dsimp only
  rw [read]
  exact if_neg plain

section
variable (sound : Sound env requestID store)
include sound

theorem considerFile_tombstone (version : Nat) :
    (store.considerFile ⟨none, version⟩).best = store.ahead version := by
  unfold considerFile ahead
  cases held : store.file with
  | none => rfl
  | some cached =>
    have configured := (sound.cached cached held).2
    by_cases above : version < cached.version
    · simp [configured, above, Considered.consider, Option.filter]
    · simp [above, Option.filter]

theorem considerFile_live (run : Run) :
    (store.considerFile ⟨some run, 0⟩).best = some ((store.ahead run.version).getD run) := by
  unfold considerFile ahead
  cases held : store.file with
  | none => rfl
  | some cached =>
    obtain ⟨fits, configured⟩ := sound.cached cached held
    have positive := fits.version
    by_cases newer : run.version < cached.version
    · simp [configured, positive, newer, Considered.consider, Option.filter]
    · simp [configured, positive, newer, Considered.consider, Option.filter]

/-- A sound store always answers, and the next publication replaces the last one. -/
theorem current_live : ∃ replaces, store.current env requestID = .ok (store.live, replaces) ∧
      ∀ held, store.record = some held → held.createdAt ≤ replaces := by
  unfold current live last
  cases copied : store.copy with
  | some copy =>
    obtain ⟨fits, held⟩ := sound.copied copy copied
    have same : copy.run.recent.version = copy.run.version := rfl
    refine ⟨max copy.createdAt copy.createdAt, ?_, ?_⟩
    · dsimp only
      rw [readRecord_published fits held]
      cases deleted : copy.deleted with
      | true =>
        have seen : Considered.consider (Considered.consider ⟨none, 0⟩ copy.run true) copy.run.recent
            true = ⟨none, copy.run.version⟩ := by
          simp [Considered.consider, same]
        dsimp only
        rw [seen, considerFile_tombstone sound]
        rfl
      | false =>
        have seen : Considered.consider (Considered.consider ⟨none, 0⟩ copy.run false) copy.run.recent
            false = ⟨some copy.run, 0⟩ := by
          simp [Considered.consider, same]
        dsimp only
        rw [seen, considerFile_live sound]
        rfl
    · intro other found
      cases Option.some.inj (held.symm.trans found)
      exact le_max_left _ _
  | none =>
    cases held : store.record with
    | none =>
      have nothing : store.readRecord env requestID = .ok none := by rw [readRecord, held]
      have every : store.ahead 0 = store.file := by
        unfold ahead
        cases cached : store.file with
        | none => rfl
        | some run => exact if_pos (decide_eq_true (sound.cached run cached).1.version)
      refine ⟨0, ?_, fun _ absent => nomatch absent⟩
      rw [nothing]
      dsimp only
      rw [considerFile_tombstone sound, every]
      rfl
    | some published =>
      obtain ⟨run, fits, same⟩ := sound.published published held
      have read : store.readRecord env requestID =
          .ok (some ⟨run.recent, published.createdAt, published.record.deleted⟩) := by
        apply readRecord_published fits
        rw [held, ← same]
      have carried : published.record.carried = run.recent := by rw [same]; rfl
      refine ⟨max 0 published.createdAt, ?_, ?_⟩
      · dsimp only [Option.map_some]
        rw [read, carried]
        cases published.record.deleted with
        | true =>
          have seen : Considered.consider ⟨none, 0⟩ run.recent true = ⟨none, run.recent.version⟩ := by
            simp [Considered.consider]
          dsimp only
          rw [seen, considerFile_tombstone sound]
          rfl
        | false =>
          have seen : Considered.consider ⟨none, 0⟩ run.recent false = ⟨some run.recent, 0⟩ := rfl
          dsimp only
          rw [seen, considerFile_live sound]
          rfl
      · intro other found
        cases found
        exact le_max_right _ _

theorem load_live : store.load env requestID = match store.live with
      | none => .error .notFound
      | some run => .ok run := by
  obtain ⟨_, read, _⟩ := current_live sound
  rw [load, read]
  cases store.live <;> rfl

end

end Reading

/-! ### What a call can do -/

def written (store : EventStore) (run : Run) (createdAt : Int) (deleted cached : Bool) : EventStore :=
  { store with
    record := some ⟨canonicalRecord run deleted, createdAt⟩
    copy := some ⟨run, createdAt, deleted⟩
    file :=
      if store.cacheDir ∧ cached then (if deleted then none else some run) else store.file }

section Writing
variable {store : EventStore}

variable {run : Run} {found : CachedRun}

theorem sound_written (sound : Sound env requestID store) (fits : Fits env requestID run)
    (createdAt : Int) (deleted cached : Bool) :
    Sound env requestID (store.written run createdAt deleted cached) := by
  refine ⟨?_, ?_, ?_⟩
  · rintro _ ⟨⟩
    exact ⟨run, fits, rfl⟩
  · rintro _ ⟨⟩
    exact ⟨fits, rfl⟩
  · intro other held
    unfold written at held ⊢
    split at held
    · rename_i configured
      split at held
      · cases held
      · cases held
        exact ⟨fits, configured.1⟩
    · exact sound.cached other held

theorem sound_restart (sound : Sound env requestID store) : Sound env requestID store.restart :=
  ⟨sound.published, fun _ absent => (nomatch absent), sound.cached⟩

/-- After a restart the last publication is known as far as its record goes. -/
theorem last_restart (sound : Sound env requestID store)
    (held : store.restart.last = some found) : ∃ before, store.last = some before ∧
      found.deleted = before.deleted ∧ (found.run = before.run ∨ found.run = before.run.recent) := by
  obtain ⟨published, stored, rfl⟩ := Option.map_eq_some_iff.mp held
  unfold last
  cases copied : store.copy with
  | none =>
    refine ⟨_, ?_, rfl, .inl rfl⟩
    exact held
  | some copy =>
    cases Option.some.inj (stored.symm.trans (sound.copied copy copied).2)
    exact ⟨copy, rfl, rfl, .inr rfl⟩

theorem sound_opened (cacheDir : Option (FileStore env)) :
    Sound env requestID (opened cacheDir requestID) := by
  refine ⟨fun _ absent => (nomatch absent), fun _ absent => (nomatch absent), ?_⟩
  intro run held
  cases cacheDir with
  | none => exact nomatch held
  | some files =>
    obtain ⟨named, valid⟩ := files.sound requestID run held
    exact ⟨⟨valid, named⟩, rfl⟩

theorem publish_cases (newest : ∀ held, store.record = some held → held.createdAt ≤ replaces)
    (run : Run) (deleted : Bool) (attempt : Attempt) :
    (∃ err, store.publish run replaces deleted attempt = (store, some err)) ∨
    ∃ createdAt, store.publish run replaces deleted attempt =
      (store.written run createdAt deleted attempt.cached, none) := by
  unfold publish
  cases attempt.refused with
  | some => exact .inl ⟨_, rfl⟩
  | none =>
    right
    generalize stamped : (if attempt.now ≤ replaces then replaces + 1 else attempt.now) = createdAt
    have later : replaces < createdAt := by
      rw [← stamped]
      split <;> omega
    refine ⟨createdAt, ?_⟩
    have replaced : latest store.record ⟨canonicalRecord run deleted, createdAt⟩ =
        ⟨canonicalRecord run deleted, createdAt⟩ := by
      cases held : store.record with
      | none => rfl
      | some old => exact if_pos (lt_of_le_of_lt (newest old held) later)
    simp only [replaced]
    rfl

theorem create_cases (sound : Sound env requestID store)
    (named : run.requestID = requestID) (attempt : Attempt) :
    (∃ err, store.create env requestID run attempt = (store, some err)) ∨
    (Fits env requestID run ∧ store.live = none ∧ ∃ createdAt,
      store.create env requestID run attempt =
        (store.written run createdAt false attempt.cached, none)) := by
  obtain ⟨replaces, read, newest⟩ := current_live sound
  unfold create
  cases valid : run.validate env with
  | some err => exact .inl ⟨err, rfl⟩
  | none =>
    rw [read]
    cases live : store.live with
    | some => exact .inl ⟨_, rfl⟩
    | none =>
      rcases publish_cases newest run false attempt with ⟨err, failed⟩ | ⟨createdAt, done⟩
      · exact .inl ⟨err, failed⟩
      · exact .inr ⟨⟨valid, named⟩, rfl, createdAt, done⟩

theorem save_cases (sound : Sound env requestID store)
    (named : run.requestID = requestID) (expected : Nat) (attempt : Attempt) :
    (∃ err, store.save env requestID run expected attempt = (store, some err)) ∨
    (Fits env requestID run ∧ ∃ held, store.live = some held ∧ run.version = held.version + 1 ∧
      held.Extends run ∧ ∃ createdAt,
        store.save env requestID run expected attempt =
          (store.written run createdAt false attempt.cached, none)) := by
  obtain ⟨replaces, read, newest⟩ := current_live sound
  unfold save
  cases valid : run.validate env with
  | some err => exact .inl ⟨err, rfl⟩
  | none =>
    rw [read]
    cases live : store.live with
    | none => exact .inl ⟨_, rfl⟩
    | some held =>
      dsimp only
      split
      · exact .inl ⟨_, rfl⟩
      rename_i versions
      obtain ⟨same, next⟩ := not_or.mp versions
      cases kept : validateImmutableUpdate held run with
      | some err => exact .inl ⟨err, rfl⟩
      | none =>
        rcases publish_cases newest run false attempt with ⟨err, failed⟩ | ⟨createdAt, done⟩
        · exact .inl ⟨err, failed⟩
        refine .inr ⟨⟨valid, named⟩, held, rfl, ?_,
          (validateImmutableUpdate_none_iff held run).mp kept, createdAt, done⟩
        rw [not_not.mp next, not_not.mp same]

theorem fits_last (sound : Sound env requestID store)
    (held : store.last = some found) : Fits env requestID found.run := by
  unfold last at held
  cases copied : store.copy with
  | some =>
    rw [copied] at held
    cases held
    exact (sound.copied found copied).1
  | none =>
    rw [copied] at held
    obtain ⟨published, stored, rfl⟩ := Option.map_eq_some_iff.mp held
    obtain ⟨run, ⟨valid, named⟩, same⟩ := sound.published published stored
    have carried : published.record.carried = run.recent := by rw [same]; rfl
    rw [carried]
    exact ⟨(Run.recent_valid valid).1, named⟩

theorem ahead_file (newer : store.ahead version = some run) :
    store.file = some run ∧ version < run.version := by
  obtain ⟨held, above⟩ := Option.filter_eq_some_iff.mp newer
  exact ⟨held, of_decide_eq_true above⟩

theorem live_cases (live : store.live = some run) :
    store.file = some run ∨ ∃ found, store.last = some found ∧ found.deleted = false ∧
      found.run = run := by
  unfold EventStore.live at live
  cases held : store.last with
  | none =>
    rw [held] at live
    exact .inl live
  | some found =>
    rw [held] at live
    dsimp only at live
    split at live
    · exact .inl (ahead_file live).1
    rename_i kept
    cases newer : store.ahead found.run.version with
    | some =>
      rw [newer] at live
      cases live
      exact .inl (ahead_file newer).1
    | none =>
      rw [newer] at live
      exact .inr ⟨found, rfl, Bool.eq_false_iff.mpr kept, Option.some.inj live⟩

theorem fits_live (sound : Sound env requestID store) (live : store.live = some run) :
    Fits env requestID run := by
  rcases live_cases live with held | ⟨found, held, _, rfl⟩
  · exact (sound.cached run held).1
  · exact fits_last sound held

theorem delete_cases (sound : Sound env requestID store) (expected : Nat) (attempt : Attempt) :
    (∃ err, store.delete env requestID expected attempt = (store, some err)) ∨
    ∃ held, store.live = some held ∧ ∃ createdAt,
      store.delete env requestID expected attempt =
        (store.written held createdAt true attempt.cached, none) := by
  obtain ⟨replaces, read, newest⟩ := current_live sound
  unfold delete
  rw [read]
  cases live : store.live with
  | none => exact .inl ⟨_, rfl⟩
  | some held =>
    dsimp only
    split
    · exact .inl ⟨_, rfl⟩
    rcases publish_cases newest held true attempt with ⟨err, failed⟩ | ⟨createdAt, done⟩
    · exact .inl ⟨err, failed⟩
    · exact .inr ⟨held, rfl, createdAt, done⟩

/-! ### Files that are behind -/

/-- No file is ahead of what was published last. -/
def Behind (store : EventStore) : Prop :=
  ∀ found, store.last = some found → ∀ cached, store.file = some cached →
    cached.version ≤ found.run.version

theorem live_behind (behind : store.Behind) (held : store.last = some found) :
    store.live = if found.deleted then none else some found.run := by
  have nothing : store.ahead found.run.version = none := by
    cases newer : store.ahead found.run.version with
    | none => rfl
    | some cached =>
      obtain ⟨stored, above⟩ := ahead_file newer
      exact absurd (behind found held cached stored) (Nat.not_le.mpr above)
  simp [live, held, nothing]

theorem file_le_live (behind : store.Behind) (live : store.live = some run)
    (held : store.file = some cached) : cached.version ≤ run.version := by
  cases last : store.last with
  | none =>
    simp only [EventStore.live, last] at live
    cases held.symm.trans live
    exact le_refl _
  | some found =>
    rw [live_behind behind last] at live
    split at live
    · cases live
    · cases live
      exact behind found last cached held

theorem behind_written
    (newer : ∀ leftover, store.file = some leftover → run.version < leftover.version → cached = true)
    (sound : Sound env requestID store) (createdAt : Int) :
    (store.written run createdAt deleted cached).Behind := by
  rintro _ ⟨⟩ leftover held
  simp only [written] at held
  split at held
  · split at held
    · cases held
    · cases held
      exact le_refl _
  · rename_i unwritten
    by_contra above
    exact unwritten ⟨(sound.cached leftover held).2, newer leftover held (Nat.not_le.mp above)⟩

theorem behind_restart (sound : Sound env requestID store) (behind : store.Behind) :
    store.restart.Behind := by
  intro found held cached stored
  obtain ⟨before, known, _, runs⟩ := last_restart sound held
  have old := behind before known cached stored
  rcases runs with full | recent
  · rw [full]
    exact old
  · rw [recent]
    exact old

end Writing

end EventStore

end Bahia.Saga
