import Bahia.Outbox.Effects

/-! What the outbox indexes hold after any run of operations from a fresh file. -/

namespace Bahia.Localstore
open Foundation Nostr

def Outbox.stateIndex (tx : Outbox) : EntryState → Bucket Bytes Unit
  | .pending => tx.pending
  | .published => tx.published
  | .failed => tx.failed

/-- The row of an index that names this entry. -/
def Names (key : Bytes) (id : ID) : Prop := ∃ head, key = head ++ id.val

/-- The state indexes hold exactly the keys of the entries in their state, each entry
has one row in one of them, and the coordinate index holds, beside its marker, exactly
the keys of the package entries. -/
structure IndexesExact (tx : Outbox) : Prop where
  pending : ∀ key, key ∈ tx.pending ↔ ∃ id entry, tx.entries.get id = some entry ∧
    entry.state = .pending ∧ key = pendingKey entry.target entry.enqueuedAt id
  settled : ∀ state, state ≠ .pending → ∀ key, key ∈ tx.stateIndex state ↔
    ∃ id entry, tx.entries.get id = some entry ∧ entry.state = state ∧
      key = settledKey entry.settledAt id
  once : ∀ id entry, tx.entries.get id = some entry →
    ∃! row : EntryState × Bytes, row.2 ∈ tx.stateIndex row.1 ∧ Names row.2 id
  coordinates : ∀ key, key ∈ tx.coordinates ↔ key = outboxCoordinatesReady ∨
    ∃ id entry, tx.entries.get id = some entry ∧
      outboxCoordinateKey entry.target entry.event = some key

variable {tx : Outbox}

theorem Indexed.pending_iff (indexed : Indexed tx) (key : Bytes) :
    key ∈ tx.pending ↔ ∃ id entry, tx.entries.get id = some entry ∧ entry.state = .pending ∧
      key = pendingKey entry.target entry.enqueuedAt id := by
  have exact := indexed.pending key
  simp only [pendingRule, false_or, Option.ite_none_right_eq_some, Option.some.injEq] at exact
  rw [exact]
  simp only [eq_comm]

theorem Indexed.settled_iff (indexed : Indexed tx) (settled : state ≠ .pending) (key : Bytes) :
    key ∈ tx.stateIndex state ↔ ∃ id entry, tx.entries.get id = some entry ∧ entry.state = state ∧
      key = settledKey entry.settledAt id := by
  have rows : (settledRule state).Exact tx.entries.get (· ∈ tx.stateIndex state) := by
    cases state with
    | pending => exact absurd rfl settled
    | published => exact indexed.published
    | failed => exact indexed.failed
  have exact := rows key
  simp only [settledRule, false_or, Option.ite_none_right_eq_some, Option.some.injEq] at exact
  rw [exact]
  simp only [eq_comm]

def OutboxEntry.stateKey (entry : OutboxEntry) (id : ID) : Bytes :=
  if entry.state = .pending then pendingKey entry.target entry.enqueuedAt id
  else settledKey entry.settledAt id

theorem stateKey_names (entry : OutboxEntry) (id : ID) : Names (entry.stateKey id) id := by
  unfold OutboxEntry.stateKey
  split
  · exact ⟨_, rfl⟩
  · exact ⟨_, rfl⟩

theorem Names.unique {key : Bytes} {id other : ID} (first : Names key id)
    (second : Names key other) : id = other := by
  obtain ⟨head, shape⟩ := first
  obtain ⟨otherHead, otherShape⟩ := second
  exact append_id_injective (shape.symm.trans otherShape)

theorem Indexed.stateIndex_iff (indexed : Indexed tx) (state : EntryState) (key : Bytes) :
    key ∈ tx.stateIndex state ↔ ∃ id entry, tx.entries.get id = some entry ∧
      entry.state = state ∧ key = entry.stateKey id := by
  by_cases pending : state = .pending
  · subst pending
    rw [show key ∈ tx.stateIndex .pending ↔ _ from indexed.pending_iff key]
    constructor
    · intro held
      obtain ⟨id, entry, found, same, shape⟩ := held
      exact ⟨id, entry, found, same, by rw [OutboxEntry.stateKey, if_pos same, shape]⟩
    · intro held
      obtain ⟨id, entry, found, same, shape⟩ := held
      exact ⟨id, entry, found, same, by rw [shape, OutboxEntry.stateKey, if_pos same]⟩
  · rw [indexed.settled_iff pending]
    constructor
    · intro held
      obtain ⟨id, entry, found, same, shape⟩ := held
      have settled : entry.state ≠ .pending := by rwa [same]
      exact ⟨id, entry, found, same, by rw [OutboxEntry.stateKey, if_neg settled, shape]⟩
    · intro held
      obtain ⟨id, entry, found, same, shape⟩ := held
      have settled : entry.state ≠ .pending := by rwa [same]
      exact ⟨id, entry, found, same, by rw [shape, OutboxEntry.stateKey, if_neg settled]⟩

theorem Indexed.once (indexed : Indexed tx) {id : ID} {entry : OutboxEntry}
    (found : tx.entries.get id = some entry) :
    ∃! row : EntryState × Bytes, row.2 ∈ tx.stateIndex row.1 ∧ Names row.2 id := by
  refine ⟨(entry.state, entry.stateKey id), ⟨?_, stateKey_names entry id⟩, ?_⟩
  · exact (indexed.stateIndex_iff _ _).mpr ⟨id, entry, found, rfl, rfl⟩
  · intro row held
    obtain ⟨state, key⟩ := row
    obtain ⟨member, names⟩ := held
    obtain ⟨owner, stored, present, same, shape⟩ := (indexed.stateIndex_iff state key).mp member
    have owned : id = owner := by
      rw [shape] at names
      exact names.unique (stateKey_names stored owner)
    subst owned
    cases Option.some.inj (found.symm.trans present)
    rw [same, shape]

theorem Indexed.coordinates_iff (indexed : Indexed tx) (key : Bytes) :
    key ∈ tx.coordinates ↔ key = outboxCoordinatesReady ∨ ∃ id entry,
      tx.entries.get id = some entry ∧ outboxCoordinateKey entry.target entry.event = some key := by
  have exact := indexed.coordinates key
  simp only [coordinateRule] at exact
  rw [exact]
  constructor
  · intro held
    rcases held with marker | ⟨id, entry, found, made⟩
    · exact .inl marker
    · exact .inr ⟨id, entry, found, (Option.ite_none_right_eq_some.mp made).2⟩
  · intro held
    rcases held with marker | ⟨id, entry, found, made⟩
    · exact .inl marker
    refine .inr ⟨id, entry, found, ?_⟩
    rw [if_pos (indexed.named id entry found)]
    exact made

theorem Indexed.indexesExact (indexed : Indexed tx) : IndexesExact tx where
  pending := indexed.pending_iff
  settled _ settled key := indexed.settled_iff settled key
  once _ _ found := indexed.once found
  coordinates := indexed.coordinates_iff

theorem step_indexed (checks : Checks) (indexed : Indexed tx)
    (plain : call.admitsPackageRun = false) (taken : checks.step tx call = some next) :
    Indexed next := by
  cases Option.some.inj taken
  rcases after_cases checks tx call with success | unchanged
  · exact (perform_effect success).2 plain indexed
  · rw [unchanged]
    exact indexed

/-- After every run of outbox operations from a fresh file in which no backup run is
admitted on a package coordinate, all the indexes are exact. -/
theorem run_indexes_exact (checks : Checks) (calls : List Call)
    (plain : ∀ call ∈ calls, call.admitsPackageRun = false) {final : Outbox}
    (executed : run checks.step Outbox.fresh calls = some final) : IndexesExact final := by
  have keeps : ∀ tx call next, Indexed tx → call.admitsPackageRun = false →
      checks.step tx call = some next → Indexed next := fun _ _ _ => step_indexed checks
  exact (run_invariant keeps indexed_fresh (along_of_forall plain) executed).indexesExact

def packageRunEvent : Event :=
  sampleEvent (FixedBytes.ofByte 31 1) 1700000000 casControlState
    [["d", "artifact:sbom-package:a"], ["t", "backup-run"], ["legacy_kind", "31996"],
      ["deleted", "false"]]

def packageRunEntry : OutboxEntry :=
  { statusEntry packageRunEvent "control" 1700000000000000000 with entityType := "backup_run" }

def packageRunCall : Call where
  handle := .writable
  now := 1700000000000000000
  operation := .enqueueBackupRun packageRunEntry "intent" "artifact:sbom-package:a"
    (ID.hex (FixedBytes.ofByte 31 3)) (PubKey.hex (FixedBytes.ofByte 31 4))

def packageEnqueueCall : Call := { packageRunCall with operation := .enqueue packageRunEntry }

/-- A round in which no relay of the target can still accept the event. -/
def packageFailedCall : Call :=
  { packageRunCall with
    operation := .commitRound packageRunEvent.id
      { target := "control", rounds := 1, relays := ∅, delivered := false, policy := .none
        state := .reported .failed, detail := "blocked", atTime := none } }

theorem run_indexes_exact_failed_round :
    ∃ final, run Checks.trusting.step Outbox.fresh [packageEnqueueCall, packageFailedCall] =
      some final ∧ settledKey (some 1700000000000000000) packageRunEvent.id ∈ final.failed ∧
        IndexesExact final := by
  refine ⟨_, rfl, rfl, ?_⟩
  apply run_indexes_exact Checks.trusting [packageEnqueueCall, packageFailedCall] ?_ rfl
  intro call member
  rcases List.mem_pair.mp member with same | same
  · rw [same]
    rfl
  · rw [same]
    rfl

theorem packageRun_admitted :
    (Checks.trusting.after Outbox.fresh packageRunCall).entries.get packageRunEvent.id =
      some packageRunEntry := rfl

/-- The admission stores a package entry and leaves its coordinate row out. -/
theorem package_run_not_indexed :
    ∃ final, run Checks.trusting.step Outbox.fresh [packageRunCall] = some final ∧
      ¬IndexesExact final := by
  refine ⟨Checks.trusting.after Outbox.fresh packageRunCall, rfl, ?_⟩
  intro exact
  have keyed : (outboxCoordinateKey packageRunEntry.target packageRunEntry.event).isSome = true := by
    decide
  obtain ⟨key, made⟩ := Option.isSome_iff_exists.mp keyed
  have held := (exact.coordinates key).mpr (.inr ⟨_, _, packageRun_admitted, made⟩)
  have rows : (Checks.trusting.after Outbox.fresh packageRunCall).coordinates =
      Outbox.fresh.coordinates := rfl
  rw [rows] at held
  rcases Bucket.mem_put.mp held with marker | row
  · exact coordinateKey_ne_ready made marker
  · exact absurd row (Bucket.not_mem_empty key)

end Bahia.Localstore
