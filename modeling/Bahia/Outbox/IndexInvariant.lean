import Bahia.Outbox.RetentionEffects

/-! Retry, pruning and purging keep the index buckets exact. -/

namespace Bahia.Localstore
open Foundation Nostr Bucket
variable {handle : Handle} {tx : Outbox}

variable {entry : OutboxEntry} {id : ID} {state : EntryState} {key : Bytes}
  {sweep advanced : Sweep}

section
variable (indexed : Indexed tx)
include indexed

theorem retry_indexed (success : retry handle tx id = .ok (next, entry)) : Indexed next := by
  unfold retry at success
  simp only [bind_ok_iff, context_ok_iff, require_ok_iff, refuse_ok_iff, pure_ok_iff] at success
  obtain ⟨_, _, stored, found, _, failure, same⟩ := success
  cases same
  exact indexed.requeue found (by simpa using failure)

theorem Indexed.settled_owner (settled : state ≠ .pending) (held : key ∈ tx.settledIndex state) :
    ∃ entry, tx.entries.get (keyID key) = some entry ∧ entry.state = state ∧
      key = settledKey entry.settledAt (keyID key) := by
  have exact : (settledRule state).Exact tx.entries.get (· ∈ tx.settledIndex state) := by
    cases state with
    | pending => exact absurd rfl settled
    | published => exact indexed.published
    | failed => exact indexed.failed
  rcases (exact key).mp held with reserved | ⟨id, entry, found, made⟩
  · exact absurd reserved id
  obtain ⟨same, shape⟩ := Option.ite_none_right_eq_some.mp made
  have owner : keyID key = id := by
    rw [← Option.some.inj shape]
    exact keyID_settledKey _ _
  rw [owner]
  exact ⟨entry, found, same, (Option.some.inj shape).symm⟩

end

theorem removeSettled_eq (settled : state ≠ .pending)
    (found : tx.entries.get entry.event.id = some entry) (same : entry.state = state) :
    tx.removeSettled state (settledKey entry.settledAt entry.event.id) = tx.removeEntry entry := by
  subst same
  simp only [Outbox.removeSettled, Outbox.removeEntry, keyID_settledKey, found, if_neg settled]

theorem removeEntry_settledIndex (settled : entry.state ≠ .pending) :
    (tx.removeEntry entry).settledIndex entry.state =
      (tx.settledIndex entry.state).delete (settledKey entry.settledAt entry.event.id) := by
  obtain ⟨_, _, published, failed⟩ := unindexCoordinate_rows
    (tx.unindexSettled entry.state (settledKey entry.settledAt entry.event.id)) entry.target
    entry.event
  simp only [Outbox.removeEntry, if_neg settled, Outbox.settledIndex]
  cases state : entry.state with
  | pending => exact absurd state settled
  | published =>
    rw [state] at published
    exact published
  | failed =>
    rw [state] at failed
    exact failed

theorem Indexed.removeSettled (indexed : Indexed tx) (settled : state ≠ .pending)
    (held : key ∈ tx.settledIndex state) :
    Indexed (tx.removeSettled state key) ∧ ∀ other, other ≠ key → other ∈ tx.settledIndex state →
      other ∈ (tx.removeSettled state key).settledIndex state := by
  obtain ⟨entry, found, same, shape⟩ := indexed.settled_owner settled held
  have named := indexed.named _ entry found
  rw [← named] at found shape
  subst same
  rw [shape, removeSettled_eq settled found rfl]
  refine ⟨indexed.remove found, ?_⟩
  intro other different kept
  rw [removeEntry_settledIndex settled]
  exact mem_delete.mpr ⟨different, kept⟩

theorem pruneKey_indexed (settled : state ≠ .pending) {rest : List Bytes}
    (valid : Indexed sweep.tx ∧ (key :: rest).Nodup ∧
      ∀ other ∈ key :: rest, other ∈ sweep.tx.settledIndex state)
    (success : sweep.pruneKey handle state key = .ok advanced) :
    Indexed advanced.tx ∧ rest.Nodup ∧ ∀ other ∈ rest, other ∈ advanced.tx.settledIndex state := by
  obtain ⟨indexed, distinct, held⟩ := valid
  obtain ⟨fresh, distinctRest⟩ := List.nodup_cons.mp distinct
  have heldRest : ∀ other ∈ rest, other ∈ sweep.tx.settledIndex state :=
    fun other member => held other (List.mem_cons_of_mem key member)
  unfold Sweep.pruneKey at success
  split at success
  · cases Except.ok.inj success
    exact ⟨indexed, distinctRest, heldRest⟩
  split at success
  · cases Except.ok.inj success
    exact ⟨indexed, distinctRest, heldRest⟩
  simp only [bind_ok_iff] at success
  obtain ⟨pinned, _, success⟩ := success
  split at success
  · cases Except.ok.inj success
    exact ⟨indexed, distinctRest, heldRest⟩
  cases Except.ok.inj success
  obtain ⟨removed, others⟩ := indexed.removeSettled settled (held key List.mem_cons_self)
  refine ⟨removed, distinctRest, ?_⟩
  intro other member
  have different : other ≠ key := by
    intro same
    subst same
    exact fresh member
  exact others other different (heldRest other member)

theorem pruneState_indexed (settled : expiry.1 ≠ .pending) (indexed : Indexed sweep.tx)
    (success : sweep.pruneState handle expiry = .ok advanced) : Indexed advanced.tx := by
  have sublist := List.takeWhile_sublist (fun key => decide (key < settledKey expiry.2 zeroID))
    (l := (sweep.tx.settledIndex expiry.1).keys)
  have swept := foldlM_ok_induction
    (fun sweep rest => Indexed sweep.tx ∧ rest.Nodup ∧
      ∀ other ∈ rest, other ∈ sweep.tx.settledIndex expiry.1)
    (fun _ _ _ _ valid taken => pruneKey_indexed settled valid taken)
    ⟨indexed, sublist.nodup (keys_nodup _),
      fun other member => Bucket.mem_keys.mp (sublist.subset member)⟩ success
  exact swept.1

theorem expiries_settled (member : expiry ∈ expiries publishedFirst publishedBefore failedBefore) :
    expiry.1 ≠ .pending := by
  unfold expiries at member
  split at member
  · rcases List.mem_pair.mp member with same | same <;> simp [same]
  · rcases List.mem_pair.mp member with same | same <;> simp [same]

theorem prune_indexed (indexed : Indexed tx)
    (success : prune handle tx publishedBefore failedBefore publishedFirst = .ok (next, removed)) :
    Indexed next := by
  unfold prune at success
  split at success
  · cases Except.ok.inj success
    exact indexed
  simp only [bind_ok_iff] at success
  obtain ⟨_, _, success⟩ := success
  split at success
  · cases Except.ok.inj success
    exact indexed
  simp only [bind_ok_iff, context_ok_iff, pure_ok_iff] at success
  obtain ⟨sweep, swept, same⟩ := success
  cases same
  have kept := foldlM_ok_induction
    (fun (sweep : Sweep) (rest : List (EntryState × Time)) =>
      Indexed sweep.tx ∧ ∀ expiry ∈ rest, expiry.1 ≠ .pending)
    (fun _ expiry rest _ valid taken =>
      ⟨pruneState_indexed (valid.2 expiry List.mem_cons_self) valid.1 taken,
        fun other member => valid.2 other (List.mem_cons_of_mem expiry member)⟩)
    ⟨indexed, fun _ member => expiries_settled member⟩ swept
  exact kept.1

theorem purgeEntry_removes (success : tx.purgeEntry entry = .ok next) :
    next = tx.removeEntry entry := by
  simp only [Outbox.purgeEntry, bind_ok_iff, pure_ok_iff] at success
  obtain ⟨_, _, _, _, _, _, same⟩ := success
  exact same.symm

/-- The selected entries, each still stored under its own id, with distinct ids. -/
def Selected (tx : Outbox) (victims : List OutboxEntry) : Prop :=
  (victims.map fun entry => entry.event.id).Nodup ∧
    ∀ entry ∈ victims, tx.entries.get entry.event.id = some entry

theorem victims_selected (indexed : Indexed tx) (selects : Event → Bool) :
    Selected tx (tx.victims selects) := by
  have stored : ∀ entry ∈ tx.victims selects, ∃ id, tx.entries.get id = some entry := by
    intro entry member
    obtain ⟨id, _, found⟩ := List.mem_filterMap.mp (List.mem_filter.mp member).1
    exact ⟨id, found⟩
  refine ⟨?_, ?_⟩
  · -- The rows come in key order, and each carries its key as its event id.
    have named : ((tx.entries.keys.filterMap tx.entries.get).map fun entry => entry.event.id) =
        tx.entries.keys.filter fun id => (tx.entries.get id).isSome := by
      induction tx.entries.keys with
      | nil => rfl
      | cons id rest ih =>
        cases found : tx.entries.get id with
        | none => simpa [found] using ih
        | some entry => simp [found, ih, indexed.named id entry found]
    have distinct : ((tx.entries.keys.filterMap tx.entries.get).map
        fun entry => entry.event.id).Nodup := by
      rw [named]
      exact (keys_nodup _).filter _
    exact distinct.sublist ((List.filter_sublist).map _)
  · intro entry member
    obtain ⟨id, found⟩ := stored entry member
    rw [indexed.named id entry found]
    exact found

theorem purgeEvents_indexed (indexed : Indexed tx)
    (success : purgeEvents handle tx selects = .ok (next, removed)) : Indexed next := by
  simp only [purgeEvents, bind_ok_iff, context_ok_iff, pure_ok_iff] at success
  obtain ⟨_, _, purged, loop, same⟩ := success
  cases same
  have kept := foldlM_ok_induction (fun tx rest => Indexed tx ∧ Selected tx rest) ?_
    ⟨indexed, victims_selected indexed selects⟩ loop
  · exact kept.1
  · intro tx entry rest next valid taken
    obtain ⟨indexed, distinct, stored⟩ := valid
    rw [purgeEntry_removes taken]
    obtain ⟨fresh, distinctRest⟩ := List.nodup_cons.mp distinct
    refine ⟨indexed.remove (stored entry List.mem_cons_self), distinctRest, ?_⟩
    intro other member
    have different : entry.event.id ≠ other.event.id := by
      intro same
      exact fresh (List.mem_map.mpr ⟨other, member, same.symm⟩)
    rw [removeEntry_entries, get_delete_of_ne _ different]
    exact stored other (List.mem_cons_of_mem entry member)

theorem retryAllFailed_indexed (indexed : Indexed tx)
    (success : retryAllFailed handle tx = .ok (next, retried)) : Indexed next := by
  simp only [retryAllFailed, bind_ok_iff, pure_ok_iff] at success
  obtain ⟨_, _, same⟩ := success
  let remaining (progress : Outbox × Nat) (rest : List Bytes) : Prop :=
    Indexed progress.1 ∧ rest.Nodup ∧ ∀ key ∈ rest, key ∈ progress.1.failed
  have kept : remaining (tx.failed.keys.foldl requeueKey (tx, 0)) [] := by
    apply foldl_induction remaining ?_
    · exact ⟨indexed, keys_nodup _, fun _ member => Bucket.mem_keys.mp member⟩
    intro progress key rest valid
    obtain ⟨indexed, distinct, held⟩ := valid
    obtain ⟨fresh, distinctRest⟩ := List.nodup_cons.mp distinct
    have row : key ∈ progress.1.settledIndex .failed := held key List.mem_cons_self
    obtain ⟨entry, found, failure, shape⟩ := indexed.settled_owner (by decide) row
    have body : (requeueKey progress key).1 =
        progress.1.requeue (keyID key) (settledKey entry.settledAt (keyID key)) entry := by
      rw [← shape]
      simp only [requeueKey, found]
    refine ⟨?_, distinctRest, ?_⟩
    · rw [body]
      exact indexed.requeue found failure
    · intro other member
      have different : other ≠ key := by
        intro same
        subst same
        exact fresh member
      rw [body, ← shape]
      exact mem_delete.mpr ⟨different, held other (List.mem_cons_of_mem key member)⟩
  rw [same] at kept
  exact kept.1

end Bahia.Localstore
