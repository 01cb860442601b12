import Bahia.Saga.RecordTotals

/-! Deleted runs: a tombstone masks the file that a failed removal leaves behind, until a new run is
created under it. -/

namespace Bahia.Saga
open Foundation List

/-- The calls of one request, and the restarts between them. -/
inductive StoreCall where
  | create (run : Run) (attempt : Attempt)
  | save (run : Run) (expectedVersion : Nat) (attempt : Attempt)
  | delete (expectedVersion : Nat) (attempt : Attempt)
  | load
  | restart

/-- A store, and the versions that were saved since the last creation, unless the run was deleted
since. -/
structure Life where
  store : EventStore
  versions : Option (List Run)

namespace Life
variable (env : Environment) (requestID : String)

/-- What a call leaves; the versions change when it succeeds. -/
def keeping (life : Life) (after : EventStore × Option Error) (versions : Option (List Run)) : Life :=
  match after.2 with
  | some _ => { life with store := after.1 }
  | none => ⟨after.1, versions⟩

def next (life : Life) : StoreCall → Life
  | .create run attempt =>
    if run.requestID = requestID then
      life.keeping (life.store.create env requestID run attempt) (some [run])
    else life
  | .save run expected attempt =>
    if run.requestID = requestID then
      life.keeping (life.store.save env requestID run expected attempt)
        (life.versions.map (· ++ [run]))
    else life
  | .delete expected attempt =>
    life.keeping (life.store.delete env requestID expected attempt) none
  | .load => life
  | .restart => { life with store := life.store.restart }

def opened {env : Environment} (cacheDir : Option (FileStore env)) : Life where
  store := EventStore.opened cacheDir requestID
  versions := (EventStore.opened cacheDir requestID).file.map fun run => [run]

/-- The run is one of these versions, with the history that its record kept or all of it. -/
def Version (versions : List Run) (run : Run) : Prop :=
  run ∈ versions ∨ ∃ full ∈ versions, run = full.recent

/-- A load finds a version since the last creation, and nothing once the run is deleted. -/
def Faithful (life : Life) : Prop :=
  match life.versions with
  | none => life.store.load env requestID = .error .notFound
  | some versions => ∃ run, life.store.load env requestID = .ok run ∧ Version versions run

/-- A creation that succeeds replaces a file that is ahead of the new run. -/
def Cleared (life : Life) : StoreCall → Prop
  | .create run attempt => run.requestID = requestID →
    (life.store.create env requestID run attempt).2 = none →
      ∀ leftover, life.store.file = some leftover → run.version < leftover.version →
        attempt.cached = true
  | _ => True

/-- What was published last decides what lives. -/
structure Kept (life : Life) : Prop where
  sound : life.store.Sound env requestID
  behind : life.store.Behind
  unpublished : life.store.last = none → life.versions = life.store.file.map fun run => [run]
  deleted : ∀ found, life.store.last = some found → found.deleted = true → life.versions = none
  alive : ∀ found, life.store.last = some found → found.deleted = false →
    ∃ versions, life.versions = some versions ∧ Version versions found.run

variable {env requestID} {life : Life}

theorem version_singleton (run : Run) : Version [run] run := .inl (mem_singleton_self run)

theorem version_append (versions : List Run) (run : Run) : Version (versions ++ [run]) run :=
  .inl (mem_append_right versions (mem_singleton_self run))

theorem recent_recent (run : Run) : run.recent.recent = run.recent := by
  have stable {Entry : Type} (history : List Entry) : newest (newest history) = newest history := by
    simp only [newest, length_drop, drop_drop]
    congr 1
    omega
  simp [Run.recent, stable]

variable {versions : List Run} {run : Run}

theorem version_recent (known : Version versions run) :
    Version versions run.recent := by
  rcases known with member | ⟨full, member, rfl⟩
  · exact .inr ⟨run, member, rfl⟩
  · exact .inr ⟨full, member, recent_recent full⟩

theorem version_listed (known : Version versions run) :
    run.version ∈ versions.map Run.version := by
  rcases known with member | ⟨full, member, rfl⟩
  · exact mem_map_of_mem member
  · exact mem_map.mpr ⟨full, member, rfl⟩

theorem not_faithful (version : Nat) (numbers : List Nat)
    (loaded : (life.store.load env requestID).toOption.map Run.version = some version)
    (since : life.versions.map (List.map Run.version) = some numbers) (other : version ∉ numbers) :
    ¬ life.Faithful env requestID := by
  obtain ⟨versions, known, rfl⟩ := Option.map_eq_some_iff.mp since
  unfold Faithful
  simp only [known]
  rintro ⟨run, answer, member⟩
  rw [answer] at loaded
  cases loaded
  exact other (version_listed member)

section
variable (kept : Kept env requestID life)
include kept

theorem live_kept : match life.versions with
    | none => life.store.live = none
    | some versions => ∃ run, life.store.live = some run ∧ Version versions run := by
  cases last : life.store.last with
  | none =>
    have live : life.store.live = life.store.file := by simp [EventStore.live, last]
    rw [kept.unpublished last, live]
    cases life.store.file with
    | none => rfl
    | some run => exact ⟨run, rfl, version_singleton run⟩
  | some found =>
    have live := EventStore.live_behind kept.behind last
    cases deleted : found.deleted with
    | true =>
      rw [kept.deleted found last deleted, live, deleted]
      rfl
    | false =>
      obtain ⟨versions, known, member⟩ := kept.alive found last deleted
      rw [known, live, deleted]
      exact ⟨found.run, rfl, member⟩

theorem faithful_kept : life.Faithful env requestID := by
  have live := live_kept kept
  unfold Faithful
  rw [EventStore.load_live kept.sound]
  cases known : life.versions with
  | none =>
    simp only [known] at live ⊢
    rw [live]
  | some =>
    simp only [known] at live ⊢
    obtain ⟨run, held, member⟩ := live
    rw [held]
    exact ⟨run, rfl, member⟩

theorem kept_written (fits : EventStore.Fits env requestID run) {cached : Bool}
    (newer : ∀ leftover, life.store.file = some leftover → run.version < leftover.version →
      cached = true)
    (createdAt : Int) (member : Version versions run) :
    Kept env requestID ⟨life.store.written run createdAt false cached, some versions⟩ where
  sound := EventStore.sound_written kept.sound fits createdAt false cached
  behind := EventStore.behind_written newer kept.sound createdAt
  unpublished absent := nomatch absent
  deleted found held gone := by
    cases held
    cases gone
  alive found held _ := by
    cases held
    exact ⟨versions, rfl, member⟩

theorem kept_restart : Kept env requestID { life with store := life.store.restart } := by
  refine ⟨EventStore.sound_restart kept.sound, EventStore.behind_restart kept.sound kept.behind,
    ?_, ?_, ?_⟩
  · intro nothing
    apply kept.unpublished
    unfold EventStore.last
    cases copied : life.store.copy with
    | none => exact nothing
    | some copy =>
      have held := (kept.sound.copied copy copied).2
      simp [EventStore.last, EventStore.restart, held] at nothing
  · intro found held gone
    obtain ⟨before, known, same, _⟩ := EventStore.last_restart kept.sound held
    exact kept.deleted before known (same.symm.trans gone)
  · intro found held here
    obtain ⟨before, known, same, runs⟩ := EventStore.last_restart kept.sound held
    obtain ⟨versions, listed, member⟩ := kept.alive before known (same.symm.trans here)
    refine ⟨versions, listed, ?_⟩
    rcases runs with full | recent
    · rw [full]
      exact member
    · rw [recent]
      exact version_recent member

end

theorem next_create (sound : life.store.Sound env requestID) (run : Run) (attempt : Attempt) :
    (life.next env requestID (.create run attempt) = life ∧ (run.requestID = requestID →
      (life.store.create env requestID run attempt).2 ≠ none)) ∨
    (EventStore.Fits env requestID run ∧ (life.store.create env requestID run attempt).2 = none ∧
      life.store.live = none ∧ ∃ createdAt, life.next env requestID (.create run attempt) =
        ⟨life.store.written run createdAt false attempt.cached, some [run]⟩) := by
  simp only [next]
  split
  · rename_i named
    rcases EventStore.create_cases sound named attempt with ⟨err, failed⟩ | ⟨fits, none, at', done⟩
    · rw [failed]
      exact .inl ⟨rfl, fun _ => nofun⟩
    · rw [done]
      exact .inr ⟨fits, rfl, none, at', rfl⟩
  · rename_i other
    exact .inl ⟨rfl, fun named => absurd named other⟩

theorem kept_save (kept : Kept env requestID life) (run : Run) (expected : Nat) (attempt : Attempt) :
    Kept env requestID (life.next env requestID (.save run expected attempt)) := by
  simp only [next]
  split
  · rename_i named
    rcases EventStore.save_cases kept.sound named expected attempt with
      ⟨err, failed⟩ | ⟨fits, held, live, version, _, at', done⟩
    · rw [failed]
      exact kept
    · have known := live_kept kept
      rw [done]
      cases listed : life.versions with
      | none =>
        simp only [listed] at known
        exact nomatch known.symm.trans live
      | some versions =>
        apply kept_written kept fits _ at' (version_append versions run)
        intro leftover stored above
        have old := EventStore.file_le_live kept.behind live stored
        omega
  · exact kept

theorem kept_delete (kept : Kept env requestID life) (expected : Nat) (attempt : Attempt) :
    Kept env requestID (life.next env requestID (.delete expected attempt)) := by
  simp only [next]
  rcases EventStore.delete_cases kept.sound expected attempt with
    ⟨err, failed⟩ | ⟨held, live, at', done⟩
  · rw [failed]
    exact kept
  · rw [done]
    have fits := EventStore.fits_live kept.sound live
    refine ⟨EventStore.sound_written kept.sound fits at' true attempt.cached, ?_,
      fun absent => (nomatch absent), fun _ _ _ => rfl, ?_⟩
    · apply EventStore.behind_written _ kept.sound
      intro leftover stored above
      have old := EventStore.file_le_live kept.behind live stored
      omega
    · intro found last here
      cases last
      cases here

/-- One call keeps loads faithful exactly if it clears the file in its way. -/
theorem faithful_next_iff (kept : Kept env requestID life) (call : StoreCall) :
    ((life.next env requestID call).Faithful env requestID ↔ life.Cleared env requestID call) ∧
      (life.Cleared env requestID call → Kept env requestID (life.next env requestID call)) := by
  have always (after : Kept env requestID (life.next env requestID call))
      (clear : life.Cleared env requestID call) :
      ((life.next env requestID call).Faithful env requestID ↔ life.Cleared env requestID call) ∧
        (life.Cleared env requestID call → Kept env requestID (life.next env requestID call)) :=
    ⟨iff_of_true (faithful_kept after) clear, fun _ => after⟩
  cases call with
  | load => exact always kept trivial
  | restart => exact always (kept_restart kept) trivial
  | save run expected attempt => exact always (kept_save kept run expected attempt) trivial
  | delete expected attempt => exact always (kept_delete kept expected attempt) trivial
  | create run attempt =>
    rcases next_create kept.sound run attempt with
      ⟨same, failed⟩ | ⟨fits, created, _, at', done⟩
    · apply always
      · rw [same]
        exact kept
      · exact fun named done => absurd done (failed named)
    · by_cases cleared : ∀ leftover, life.store.file = some leftover →
          run.version < leftover.version → attempt.cached = true
      · apply always
        · rw [done]
          exact kept_written kept fits cleared at' (version_singleton run)
        · exact fun _ _ => cleared
      · have unclear : ¬ life.Cleared env requestID (.create run attempt) :=
          fun clear => cleared (clear fits.2 created)
        refine ⟨iff_of_false ?_ unclear, fun clear => absurd clear unclear⟩
        push Not at cleared
        obtain ⟨leftover, held, above, unwritten⟩ := cleared
        have sound := EventStore.sound_written kept.sound fits at' false attempt.cached
        have live : (life.store.written run at' false attempt.cached).live = some leftover := by
          simp [EventStore.live, EventStore.last, EventStore.ahead, EventStore.written, unwritten, held,
            above, Option.filter]
        rw [done]
        apply not_faithful leftover.version [run.version]
        · simp [EventStore.load_live sound, live, Except.toOption]
        · rfl
        · simp [Nat.ne_of_gt above]

theorem kept_opened (cacheDir : Option (FileStore env)) :
    Kept env requestID (opened requestID cacheDir) :=
  ⟨EventStore.sound_opened cacheDir, fun _ absent => (nomatch absent), fun _ => rfl,
    fun _ absent => (nomatch absent), fun _ absent => (nomatch absent)⟩

end Life

/-- Deleted runs stay deleted, and only the new run is loaded after a creation, exactly if every
creation that succeeds replaces a file of a higher version that a failed removal left behind. -/
theorem deleted_stays_deleted_iff (env : Environment) (requestID : String)
    (cacheDir : Option (FileStore env)) (calls : List StoreCall) :
    Throughout (Life.next env requestID)
        (fun life call => (life.next env requestID call).Faithful env requestID)
        (Life.opened requestID cacheDir) calls ↔
      Throughout (Life.next env requestID) (Life.Cleared env requestID)
        (Life.opened requestID cacheDir) calls := by
  apply throughout_congr_while
    (fun life call (kept : life.Kept env requestID) cleared =>
      (Life.faithful_next_iff kept call).2 cleared)
    (fun life call kept => (Life.faithful_next_iff kept call).1)
  exact Life.kept_opened cacheDir

def savedVersion (version : Nat) : Run := { requestedRun zeroDigest with version }

/-- A run of two versions is deleted while its file cannot be removed, and the next run of the request
is created while no file can be written. -/
def createdOverLeftover : List StoreCall :=
  [.create (savedVersion 1) ⟨1, none, true⟩, .save (savedVersion 2) 1 ⟨2, none, true⟩,
    .delete 2 ⟨3, none, false⟩, .create (savedVersion 1) ⟨4, none, false⟩]

theorem leftover_resurrected : ¬ (createdOverLeftover.foldl (Life.next zeroDigest "request")
    (Life.opened "request" (some (FileStore.empty : FileStore zeroDigest)))).Faithful zeroDigest
      "request" := by
  refine Life.not_faithful 2 [1] ?_ ?_ ?_
  · decide +kernel
  · decide +kernel
  · decide

end Bahia.Saga
