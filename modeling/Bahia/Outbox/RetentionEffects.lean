import Bahia.Outbox.StagingEffects

/-! What retry, pruning and purging write: entries are reset or removed, and the ledger
stays. -/

namespace Bahia.Localstore
open Foundation Nostr Bucket
variable {tx next : Outbox}

structure Requeues (tx next : Outbox) : Prop where
  ledger : next.ledger = tx.ledger
  entries : ∀ id, next.entries.get id = tx.entries.get id ∨
    ∃ entry, tx.entries.get id = some entry ∧ next.entries.get id = some entry.reset

theorem Requeues.refl (tx : Outbox) : Requeues tx tx := ⟨rfl, fun _ => .inl rfl⟩

theorem Requeues.requeue (requeues : Requeues tx next) {id : ID} {failedKey : Bytes}
    {entry : OutboxEntry} (found : next.entries.get id = some entry) :
    Requeues tx (next.requeue id failedKey entry) := by
  refine ⟨requeues.ledger, ?_⟩
  intro other
  by_cases same : id = other
  · subst same
    have stored : (next.requeue id failedKey entry).entries.get id = some entry.reset :=
      get_put_self _ _ _
    rcases requeues.entries id with kept | ⟨first, held, reset⟩
    · exact .inr ⟨entry, kept ▸ found, stored⟩
    refine .inr ⟨first, held, ?_⟩
    cases Option.some.inj (found.symm.trans reset)
    exact stored
  · have stored : (next.requeue id failedKey entry).entries.get other = next.entries.get other :=
      get_put_of_ne _ same _
    rw [stored]
    exact requeues.entries other

theorem retry_effect {id : ID} {entry : OutboxEntry}
    (success : retry handle tx id = .ok (next, entry)) : Requeues tx next := by
  unfold retry at success
  simp only [bind_ok_iff, context_ok_iff, require_ok_iff, pure_ok_iff] at success
  obtain ⟨_, _, stored, found, _, _, same⟩ := success
  cases same
  exact (Requeues.refl tx).requeue found

theorem retryAllFailed_effect (success : retryAllFailed handle tx = .ok (next, retried)) :
    Requeues tx next := by
  simp only [retryAllFailed, bind_ok_iff, pure_ok_iff] at success
  obtain ⟨_, _, same⟩ := success
  have kept : Requeues tx (tx.failed.keys.foldl requeueKey (tx, 0)).1 := by
    apply foldl_induction (fun (progress : Outbox × Nat) _ => Requeues tx progress.1) ?_
      (Requeues.refl tx)
    intro progress key rest requeues
    unfold requeueKey
    split
    · exact requeues
    · rename_i found
      exact requeues.requeue found
  rw [same] at kept
  exact kept

/-- Only entries that no unresolved run pins are removed. -/
structure Removes (tx next : Outbox) : Prop where
  ledger : next.ledger = tx.ledger
  entries : ∀ id, next.entries.get id = tx.entries.get id ∨
    (next.entries.get id = none ∧ tx.backupRunAdmissionUnresolved id = .ok false)

theorem Removes.refl (tx : Outbox) : Removes tx tx := ⟨rfl, fun _ => .inl rfl⟩

theorem unresolved_of_ledger (same : next.ledger = tx.ledger) (id : ID) :
    next.backupRunAdmissionUnresolved id = tx.backupRunAdmissionUnresolved id := by
  simp only [Outbox.ledger, Ledger.mk.injEq] at same
  simp only [Outbox.backupRunAdmissionUnresolved, same]

theorem Removes.delete {removed : Outbox} (removes : Removes tx next) {id : ID}
    (free : next.backupRunAdmissionUnresolved id = .ok false)
    (ledger : removed.ledger = next.ledger) (entries : removed.entries = next.entries.delete id) :
    Removes tx removed := by
  refine ⟨ledger.trans removes.ledger, ?_⟩
  intro other
  rw [entries]
  by_cases same : id = other
  · subst same
    rw [unresolved_of_ledger removes.ledger] at free
    exact .inr ⟨get_delete_self _ _, free⟩
  · rw [get_delete_of_ne _ same]
    exact removes.entries other

theorem removeSettled_ledger (state : EntryState) (key : Bytes) :
    (tx.removeSettled state key).ledger = tx.ledger := by
  unfold Outbox.removeSettled
  cases tx.entries.get (keyID key) with
  | none => exact unindexSettled_ledger tx state key
  | some => exact (unindexCoordinate_ledger _ _ _).trans (unindexSettled_ledger tx state key)

theorem removeSettled_entries (state : EntryState) (key : Bytes) :
    (tx.removeSettled state key).entries = tx.entries.delete (keyID key) := by
  unfold Outbox.removeSettled
  cases tx.entries.get (keyID key) with
  | none | some => simp

theorem pruneKey_effect {start : Outbox} {state : EntryState} {sweep advanced : Sweep} {key : Bytes}
    (removes : Removes start sweep.tx)
    (success : sweep.pruneKey handle state key = .ok advanced) : Removes start advanced.tx := by
  unfold Sweep.pruneKey at success
  split at success
  · cases Except.ok.inj success
    exact removes
  split at success
  · cases Except.ok.inj success
    exact removes
  simp only [bind_ok_iff] at success
  obtain ⟨pinned, resolved, success⟩ := success
  split at success
  · cases Except.ok.inj success
    exact removes
  rename_i free
  cases Except.ok.inj success
  have unpinned : pinned = false := by simpa using free
  rw [unpinned] at resolved
  exact removes.delete resolved (removeSettled_ledger state key)
    (removeSettled_entries state key)

theorem prune_effect
    (success : prune handle tx publishedBefore failedBefore publishedFirst = .ok (next, removed)) :
    Removes tx next := by
  unfold prune at success
  split at success
  · cases Except.ok.inj success
    exact Removes.refl tx
  simp only [bind_ok_iff] at success
  obtain ⟨_, _, success⟩ := success
  split at success
  · cases Except.ok.inj success
    exact Removes.refl tx
  simp only [bind_ok_iff, context_ok_iff, pure_ok_iff] at success
  obtain ⟨sweep, swept, same⟩ := success
  cases same
  refine foldlM_ok_induction (fun (sweep : Sweep) _ => Removes tx sweep.tx) ?_
    (Removes.refl tx) swept
  intro sweep expiry _ advanced removes pass
  exact foldlM_ok_induction (fun (sweep : Sweep) _ => Removes tx sweep.tx)
    (fun _ _ _ _ kept taken => pruneKey_effect kept taken) removes pass

theorem removeEntry_ledger (entry : OutboxEntry) : (tx.removeEntry entry).ledger = tx.ledger := by
  refine (unindexCoordinate_ledger _ entry.target entry.event).trans ?_
  split
  · rfl
  · exact unindexSettled_ledger tx _ _

theorem removeEntry_entries (entry : OutboxEntry) :
    (tx.removeEntry entry).entries = tx.entries.delete entry.event.id := by
  unfold Outbox.removeEntry
  by_cases pending : entry.state = .pending
  · simp [pending]
  · simp [pending]

theorem purgeEvents_effect (success : purgeEvents handle tx selects = .ok (next, removed)) :
    Removes tx next := by
  simp only [purgeEvents, bind_ok_iff, context_ok_iff, pure_ok_iff] at success
  obtain ⟨_, _, purged, loop, same⟩ := success
  cases same
  refine foldlM_ok_induction (fun purged _ => Removes tx purged) ?_ (Removes.refl tx) loop
  intro current entry _ advanced removes taken
  simp only [Outbox.purgeEntry, bind_ok_iff, refuse_ok_iff, pure_ok_iff] at taken
  obtain ⟨pinned, resolved, _, free, _, _, stored⟩ := taken
  subst stored
  rw [free] at resolved
  exact removes.delete resolved (removeEntry_ledger entry) (removeEntry_entries entry)

end Bahia.Localstore
