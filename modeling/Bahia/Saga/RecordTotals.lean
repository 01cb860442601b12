import Bahia.Saga.EventStore
import Bahia.Saga.Executions

/-! The totals of a record against what the run has really made: they agree exactly as long as no
save starts from a record that dropped a part of its history. -/

namespace Bahia.Saga
open Foundation

/-- The calls that make the history of one run, and the restarts between them. -/
inductive Checkpointing where
  | create (run : Run) (attempt : Attempt)
  | save (run : Run) (expectedVersion : Nat) (attempt : Attempt)
  | restart

/-- A store, and how many transitions and failures the run has made since it was created. -/
structure Tally where
  store : EventStore
  transitions : Nat
  failures : Nat

namespace Tally
variable (env : Environment) (requestID : String)

/-- What a call leaves, when it succeeded with this run over that one. -/
def counting (tally : Tally) (after : EventStore × Option Error) (transitions failures : Nat) : Tally :=
  match after.2 with
  | some _ => { tally with store := after.1 }
  | none => ⟨after.1, transitions, failures⟩

def next (tally : Tally) : Checkpointing → Tally
  | .create run attempt =>
    if run.requestID = requestID then
      tally.counting (tally.store.create env requestID run attempt) run.transitions.length
        run.failures.length
    else tally
  | .save run expected attempt =>
    if run.requestID = requestID then
      let held := (tally.store.load env requestID).toOption
      tally.counting (tally.store.save env requestID run expected attempt)
        (tally.transitions + (run.transitions.length - (held.elim 0 (·.transitions.length))))
        (tally.failures + (run.failures.length - (held.elim 0 (·.failures.length))))
    else tally
  | .restart => { tally with store := tally.store.restart }

/-- The latest record says how much the run has made. -/
def Counted (tally : Tally) : Prop :=
  ∀ held, tally.store.record = some held →
    held.record.transitionCount = tally.transitions ∧ held.record.failureCount = tally.failures

/-- A save that succeeds has the copy of its process, or a record that kept the whole history. -/
def Covered (tally : Tally) : Checkpointing → Prop
  | .save run expected attempt => run.requestID = requestID →
    (tally.store.save env requestID run expected attempt).2 = none → tally.store.copy = none →
      ∀ held, tally.store.record = some held →
        held.record.transitionCount ≤ recordHistoryLimit ∧
          held.record.failureCount ≤ recordHistoryLimit
  | _ => True

def opened {env : Environment} (cacheDir : Option (FileStore env)) : Tally where
  store := EventStore.opened cacheDir requestID
  transitions := ((EventStore.opened cacheDir requestID).file.elim 0 (·.transitions.length))
  failures := ((EventStore.opened cacheDir requestID).file.elim 0 (·.failures.length))

/-- What holds of every tally: the run is live, no file is ahead of it, and before the first record
the file is what was made. -/
structure Kept (tally : Tally) : Prop where
  sound : tally.store.Sound env requestID
  alive : ∀ found, tally.store.last = some found → found.deleted = false
  behind : tally.store.Behind
  unpublished : tally.store.record = none →
    tally.transitions = tally.store.file.elim 0 (·.transitions.length) ∧
      tally.failures = tally.store.file.elim 0 (·.failures.length)

variable {env requestID} {tally : Tally}

theorem live_last (kept : Kept env requestID tally) (last : tally.store.last = some found) :
    tally.store.live = some found.run := by
  rw [EventStore.live_behind kept.behind last, kept.alive found last]
  rfl

theorem kept_written (kept : Kept env requestID tally) {run : Run}
    (fits : EventStore.Fits env requestID run)
    (newer : ∀ leftover, tally.store.file = some leftover → leftover.version ≤ run.version)
    (createdAt : Int) (cached : Bool) (transitions failures : Nat) :
    Kept env requestID ⟨tally.store.written run createdAt false cached, transitions, failures⟩ := by
  refine ⟨EventStore.sound_written kept.sound fits createdAt false cached, ?_, ?_, nofun⟩
  · rintro _ ⟨⟩
    rfl
  · apply EventStore.behind_written _ kept.sound
    intro leftover held above
    exact absurd (newer leftover held) (Nat.not_le.mpr above)

theorem file_none (kept : Kept env requestID tally) (nothing : tally.store.live = none) :
    tally.store.file = none := by
  cases last : tally.store.last with
  | none =>
    simp only [EventStore.live, last] at nothing
    exact nothing
  | some => cases (live_last kept last).symm.trans nothing

theorem next_create (sound : tally.store.Sound env requestID) (run : Run) (attempt : Attempt) :
    tally.next env requestID (.create run attempt) = tally ∨
    (EventStore.Fits env requestID run ∧ tally.store.live = none ∧ ∃ createdAt,
      tally.next env requestID (.create run attempt) =
        ⟨tally.store.written run createdAt false attempt.cached, run.transitions.length,
          run.failures.length⟩) := by
  simp only [next]
  split
  · rename_i named
    rcases EventStore.create_cases sound named attempt with ⟨err, failed⟩ | ⟨fits, none, at', done⟩
    · rw [failed]
      exact .inl rfl
    · rw [done]
      exact .inr ⟨fits, none, at', rfl⟩
  · exact .inl rfl

theorem next_save (sound : tally.store.Sound env requestID) (run : Run) (expected : Nat)
    (attempt : Attempt) :
    (tally.next env requestID (.save run expected attempt) = tally ∧ (run.requestID = requestID →
      (tally.store.save env requestID run expected attempt).2 ≠ none)) ∨
    (EventStore.Fits env requestID run ∧
      (tally.store.save env requestID run expected attempt).2 = none ∧
      ∃ held, tally.store.live = some held ∧ run.version = held.version + 1 ∧ held.Extends run ∧
        ∃ createdAt, tally.next env requestID (.save run expected attempt) =
          ⟨tally.store.written run createdAt false attempt.cached,
            tally.transitions + (run.transitions.length - held.transitions.length),
            tally.failures + (run.failures.length - held.failures.length)⟩) := by
  simp only [next]
  split
  · rename_i named
    rcases EventStore.save_cases sound named expected attempt with
      ⟨err, failed⟩ | ⟨fits, held, live, version, grown, at', done⟩
    · rw [failed]
      exact .inl ⟨rfl, fun _ => nofun⟩
    · rw [done, EventStore.load_live sound, live]
      exact .inr ⟨fits, rfl, held, rfl, version, grown, at', rfl⟩
  · rename_i other
    exact .inl ⟨rfl, fun named => absurd named other⟩

theorem kept_next (kept : Kept env requestID tally) (call : Checkpointing) :
    Kept env requestID (tally.next env requestID call) := by
  cases call with
  | restart =>
    refine ⟨EventStore.sound_restart kept.sound, ?_, EventStore.behind_restart kept.sound kept.behind,
      kept.unpublished⟩
    intro found held
    obtain ⟨before, known, same, _⟩ := EventStore.last_restart kept.sound held
    exact same.trans (kept.alive before known)
  | create run attempt =>
    rcases next_create kept.sound run attempt with same | ⟨fits, none, at', done⟩
    · rw [same]
      exact kept
    rw [done]
    apply kept_written kept fits
    intro cached held
    exact nomatch (file_none kept none).symm.trans held
  | save run expected attempt =>
    rcases next_save kept.sound run expected attempt with
      ⟨same, _⟩ | ⟨fits, _, held, live, version, _, at', done⟩
    · rw [same]
      exact kept
    · rw [done]
      apply kept_written kept fits
      intro cached stored
      have old := EventStore.file_le_live kept.behind live stored
      omega

theorem length_newest_iff (history : List Entry) :
    history.length = (newest history).length ↔ history.length ≤ recordHistoryLimit := by
  simp only [newest, List.length_drop, recordHistoryLimit]
  omega

theorem live_counts (kept : Kept env requestID tally) (counted : tally.Counted)
    (live : tally.store.live = some held) :
    (tally.transitions = held.transitions.length ∧ tally.failures = held.failures.length) ↔
      (tally.store.copy = none → ∀ published, tally.store.record = some published →
        published.record.transitionCount ≤ recordHistoryLimit ∧
          published.record.failureCount ≤ recordHistoryLimit) := by
  have shown : ∀ found, tally.store.last = some found → found.run = held := by
    intro found last
    exact Option.some.inj ((live_last kept last).symm.trans live)
  cases copied : tally.store.copy with
  | some copy =>
    have same : copy.run = held := shown copy (by simp [EventStore.last, copied])
    obtain ⟨transitions, failures⟩ := counted _ (kept.sound.copied copy copied).2
    rw [← same]
    exact iff_of_true ⟨transitions.symm, failures.symm⟩ (by rintro ⟨⟩)
  | none =>
    cases recorded : tally.store.record with
    | none =>
      have nothing : tally.store.last = none := by simp [EventStore.last, copied, recorded]
      simp only [EventStore.live, nothing] at live
      have file := kept.unpublished recorded
      simp only [live, Option.elim_some] at file
      exact iff_of_true file (by rintro _ _ ⟨⟩)
    | some published =>
      have same : published.record.carried = held :=
        shown ⟨published.record.carried, published.createdAt, published.record.deleted⟩
          (by simp [EventStore.last, copied, recorded])
      obtain ⟨transitions, failures⟩ := counted published recorded
      obtain ⟨run, _, form⟩ := kept.sound.published published recorded
      have dropped : held.transitions = newest run.transitions ∧
          held.failures = newest run.failures := by
        rw [← same, form]
        exact ⟨rfl, rfl⟩
      have counts : published.record.transitionCount = run.transitions.length ∧
          published.record.failureCount = run.failures.length := by
        rw [form]
        exact ⟨rfl, rfl⟩
      rw [counts.1] at transitions
      rw [counts.2] at failures
      rw [← transitions, ← failures, dropped.1, dropped.2, length_newest_iff, length_newest_iff]
      constructor
      · rintro short _ _ ⟨⟩
        rw [counts.1, counts.2]
        exact short
      · intro covered
        have short := covered rfl published rfl
        rw [counts.1, counts.2] at short
        exact short

/-- One call keeps the totals right exactly if it is covered. -/
theorem counted_next_iff (kept : Kept env requestID tally) (counted : tally.Counted)
    (call : Checkpointing) :
    (tally.next env requestID call).Counted ↔ tally.Covered env requestID call := by
  cases call with
  | restart => exact iff_of_true counted trivial
  | create run attempt =>
    refine iff_of_true ?_ trivial
    rcases next_create kept.sound run attempt with same | ⟨_, _, _, done⟩
    · rw [same]
      exact counted
    · rw [done]
      rintro _ ⟨⟩
      exact ⟨rfl, rfl⟩
  | save run expected attempt =>
    rcases next_save kept.sound run expected attempt with
      ⟨same, failed⟩ | ⟨fits, saved, held, live, _, grown, _, done⟩
    · rw [same]
      exact iff_of_true counted fun named done => absurd done (failed named)
    · have transitions := grown.transitions.length_le
      have failures := grown.failures.length_le
      have here : (tally.next env requestID (.save run expected attempt)).Counted ↔
          run.transitions.length =
            tally.transitions + (run.transitions.length - held.transitions.length) ∧
          run.failures.length = tally.failures + (run.failures.length - held.failures.length) := by
        rw [done]
        constructor
        · intro right
          exact right _ rfl
        · rintro right _ ⟨⟩
          exact right
      rw [here]
      have counts := live_counts kept counted live
      constructor
      · intro right _ _
        apply counts.mp
        omega
      · intro covered
        have right := counts.mpr (covered fits.2 saved)
        omega

theorem kept_opened (cacheDir : Option (FileStore env)) :
    Kept env requestID (opened requestID cacheDir) ∧ (opened requestID cacheDir).Counted :=
  ⟨⟨EventStore.sound_opened cacheDir, fun _ absent => (nomatch absent),
    fun _ absent => (nomatch absent), fun _ => ⟨rfl, rfl⟩⟩,
    fun _ absent => nomatch absent⟩

end Tally

/-- The totals of the latest record are lifetime totals after every call exactly if no save of the run
starts, after a restart, from a record that dropped a part of the history. -/
theorem totals_counted_iff (env : Environment) (requestID : String)
    (cacheDir : Option (FileStore env)) (calls : List Checkpointing) :
    Throughout (Tally.next env requestID) (fun tally call => (tally.next env requestID call).Counted)
        (Tally.opened requestID cacheDir) calls ↔
      Throughout (Tally.next env requestID) (Tally.Covered env requestID)
        (Tally.opened requestID cacheDir) calls := by
  apply throughout_congr_while
    (fun tally call (held : tally.Kept env requestID ∧ tally.Counted) covered =>
      (⟨Tally.kept_next held.1 call, (Tally.counted_next_iff held.1 held.2 call).mpr covered⟩ :
        (tally.next env requestID call).Kept env requestID ∧ (tally.next env requestID call).Counted))
    (fun tally call held => Tally.counted_next_iff held.1 held.2 call)
  exact Tally.kept_opened cacheDir

def publishedAt (now : Int) : Attempt := ⟨now, none, false⟩

def retriedTimes (count : Nat) : Run :=
  { requestedRun zeroDigest with
    version := count + 1
    transitions := List.replicate count ⟨.failedRecoverable, .requested, 1⟩ }

/-- Seventeen transitions, a restart, and one more from the sixteen that the record kept. -/
def seventeenAndRestart : List Checkpointing :=
  .create (retriedTimes 0) (publishedAt 1) ::
    (List.range 17).map (fun count => .save (retriedTimes (count + 1)) (count + 1) (publishedAt 1)) ++
    [.restart, .save { retriedTimes 17 with version := 19 } 18 (publishedAt 1)]

theorem restart_miscounts : ¬ (seventeenAndRestart.foldl (Tally.next zeroDigest "request")
    (Tally.opened "request" (none : Option (FileStore zeroDigest)))).Counted := by
  have totals : (seventeenAndRestart.foldl (Tally.next zeroDigest "request")
        (Tally.opened "request" (none : Option (FileStore zeroDigest)))).transitions = 18 ∧
      (seventeenAndRestart.foldl (Tally.next zeroDigest "request")
        (Tally.opened "request" (none : Option (FileStore zeroDigest)))).store.record.map
          (·.record.transitionCount) = some 17 := by
    decide +kernel
  obtain ⟨made, recorded⟩ := totals
  intro counted
  obtain ⟨held, found, shown⟩ := Option.map_eq_some_iff.mp recorded
  have same := (counted held found).1
  rw [made] at same
  omega

end Bahia.Saga
