import Bahia.Foundation.SecondaryIndex
import Bahia.Outbox.Retention

/-! The four index buckets as secondary indexes of the entry rows, and the row moves
that keep them exact. -/

namespace Bahia.Localstore
open Foundation Nostr

theorem append_id_injective {first second : Bytes} {id other : ID}
    (same : first ++ id.val = second ++ other.val) : id = other := by
  have lengths : id.val.length = other.val.length := id.property.trans other.property.symm
  exact Subtype.ext (List.append_inj_right' same lengths)

@[simp] theorem keyID_settledKey (atTime : Time) (id : ID) : keyID (settledKey atTime id) = id := by
  apply Subtype.ext
  have times : (atTime.unixNano.bigEndian).length = 8 := SInt64.bigEndian_length _
  simp only [keyID, settledKey]
  rw [List.drop_append_of_le_length (by rw [times]), List.drop_of_length_le (by rw [times]),
    List.nil_append, List.take_append_of_le_length (by rw [id.property])]
  exact List.take_of_length_le (by rw [id.property])

variable {target : String} {event : Event} {key : Bytes}

theorem coordinateKey_suffix
    (made : outboxCoordinateKey target event = some key) : ∃ head, key = head ++ event.id.val := by
  unfold outboxCoordinateKey at made
  split at made
  · cases made
  split at made
  · cases made
  · exact ⟨_, (Option.some.inj made).symm⟩

theorem coordinateKey_ne_ready
    (made : outboxCoordinateKey target event = some key) : key ≠ outboxCoordinatesReady := by
  obtain ⟨head, shape⟩ := coordinateKey_suffix made
  intro same
  have lengths := congrArg List.length (shape.symm.trans same)
  rw [List.length_append, event.id.property] at lengths
  have ready : outboxCoordinatesReady.length = 11 := by decide
  omega

def pendingRule : IndexRule ID OutboxEntry Bytes where
  key id entry :=
    if entry.state = .pending then some (pendingKey entry.target entry.enqueuedAt id) else none
  reserved _ := False
  owner := by
    intro first second firstRow secondRow shared firstMade secondMade
    obtain ⟨_, firstKey⟩ := Option.ite_none_right_eq_some.mp firstMade
    obtain ⟨_, secondKey⟩ := Option.ite_none_right_eq_some.mp secondMade
    exact append_id_injective (Option.some.inj (firstKey.trans secondKey.symm))
  apart _ kept := kept

def settledRule (state : EntryState) : IndexRule ID OutboxEntry Bytes where
  key id entry := if entry.state = state then some (settledKey entry.settledAt id) else none
  reserved _ := False
  owner := by
    intro first second firstRow secondRow shared firstMade secondMade
    obtain ⟨_, firstKey⟩ := Option.ite_none_right_eq_some.mp firstMade
    obtain ⟨_, secondKey⟩ := Option.ite_none_right_eq_some.mp secondMade
    exact append_id_injective (Option.some.inj (firstKey.trans secondKey.symm))
  apart _ kept := kept

/-- The coordinate key carries the id of the signed event, which is the id of its row. -/
def coordinateRule : IndexRule ID OutboxEntry Bytes where
  key id entry :=
    if entry.event.id = id then outboxCoordinateKey entry.target entry.event else none
  reserved key := key = outboxCoordinatesReady
  owner := by
    intro first second firstRow secondRow shared firstMade secondMade
    obtain ⟨firstNamed, firstKey⟩ := Option.ite_none_right_eq_some.mp firstMade
    obtain ⟨secondNamed, secondKey⟩ := Option.ite_none_right_eq_some.mp secondMade
    obtain ⟨firstHead, firstShape⟩ := coordinateKey_suffix firstKey
    obtain ⟨secondHead, secondShape⟩ := coordinateKey_suffix secondKey
    have ids := append_id_injective (firstShape.symm.trans secondShape)
    exact firstNamed.symm.trans (ids.trans secondNamed)
  apart := by
    intro id row made key
    obtain ⟨_, coordinate⟩ := Option.ite_none_right_eq_some.mp key
    exact coordinateKey_ne_ready coordinate

/-- Every index bucket is exact, and an entry is stored under its event's id. -/
structure Indexed (tx : Outbox) : Prop where
  named : ∀ id entry, tx.entries.get id = some entry → entry.event.id = id
  pending : pendingRule.Exact tx.entries.get (· ∈ tx.pending)
  published : (settledRule .published).Exact tx.entries.get (· ∈ tx.published)
  failed : (settledRule .failed).Exact tx.entries.get (· ∈ tx.failed)
  coordinates : coordinateRule.Exact tx.entries.get (· ∈ tx.coordinates)

theorem indexed_fresh : Indexed Outbox.fresh := by
  have none (id : ID) (entry : OutboxEntry) : Outbox.fresh.entries.get id ≠ some entry := by
    simp [Outbox.fresh]
  refine ⟨?_, ?_, ?_, ?_, ?_⟩
  · intro id entry found
    exact absurd found (none id entry)
  · intro key
    simp [Outbox.fresh, pendingRule]
  · intro key
    simp [Outbox.fresh, settledRule]
  · intro key
    simp [Outbox.fresh, settledRule]
  · intro key
    simp [Outbox.fresh, coordinateRule]

structure SameRows (tx next : Outbox) : Prop where
  entries : next.entries = tx.entries
  pending : next.pending = tx.pending
  published : next.published = tx.published
  failed : next.failed = tx.failed
  coordinates : next.coordinates = tx.coordinates

theorem SameRows.refl (tx : Outbox) : SameRows tx tx := ⟨rfl, rfl, rfl, rfl, rfl⟩

theorem SameRows.trans (before : SameRows first second) (after : SameRows second third) :
    SameRows first third :=
  ⟨after.entries.trans before.entries, after.pending.trans before.pending,
    after.published.trans before.published, after.failed.trans before.failed,
    after.coordinates.trans before.coordinates⟩

theorem Indexed.of_same (indexed : Indexed tx) (same : SameRows tx next) : Indexed next := by
  obtain ⟨entries, pending, published, failed, coordinates⟩ := same
  refine ⟨?_, ?_, ?_, ?_, ?_⟩
  · rw [entries]
    exact indexed.named
  · rw [entries, pending]
    exact indexed.pending
  · rw [entries, published]
    exact indexed.published
  · rw [entries, failed]
    exact indexed.failed
  · rw [entries, coordinates]
    exact indexed.coordinates

section Moves
variable {tx : Outbox} {id : ID} {entry old new : OutboxEntry}

variable {state : EntryState} {unindexed : Outbox}

theorem Indexed.named_put (indexed : Indexed tx) (named : entry.event.id = id) (other : ID)
    (row : OutboxEntry) (found : (tx.entries.put id entry).get other = some row) :
    row.event.id = other := by
  rcases Bucket.get_put_cases found with ⟨same, written⟩ | ⟨_, kept⟩
  · subst same written
    exact named
  · exact indexed.named other row kept

theorem Indexed.named_delete (indexed : Indexed tx) (other : ID) (row : OutboxEntry)
    (found : (tx.entries.delete id).get other = some row) : row.event.id = other :=
  indexed.named other row (Bucket.get_delete_cases found).2

theorem pendingRule_of_pending (pending : entry.state = .pending) :
    pendingRule.key id entry = some (pendingKey entry.target entry.enqueuedAt id) := by
  simp [pendingRule, pending]

theorem pendingRule_of_settled (settled : entry.state ≠ .pending) :
    pendingRule.key id entry = none := by
  simp [pendingRule, settled]

theorem settledRule_of_state (settled : entry.state = state) :
    (settledRule state).key id entry = some (settledKey entry.settledAt id) := by
  simp [settledRule, settled]

theorem settledRule_of_other (other : entry.state ≠ state) :
    (settledRule state).key id entry = none := by
  simp [settledRule, other]

theorem coordinateRule_of_named (named : entry.event.id = id) :
    coordinateRule.key id entry = outboxCoordinateKey entry.target entry.event := by
  simp [coordinateRule, named]

theorem Indexed.insert (indexed : Indexed tx) (absent : tx.entries.get entry.event.id = none)
    (pending : entry.state = .pending) :
    Indexed ((tx.insertPending entry).indexCoordinate entry.target entry.event) := by
  have before (rule : IndexRule ID OutboxEntry Bytes) :
      rule.keyAt tx.entries.get entry.event.id = none := IndexRule.keyAt_absent absent
  have silent {state : EntryState} (other : state ≠ .pending) :
      (settledRule state).key entry.event.id entry =
        (settledRule state).keyAt tx.entries.get entry.event.id := by
    rw [before, settledRule_of_other (by rw [pending]; exact other.symm)]
  have pendingExact := indexed.pending.put_gain (before _) (pendingRule_of_pending pending)
  have publishedExact := indexed.published.put_keep (silent (by decide))
  have failedExact := indexed.failed.put_keep (silent (by decide))
  unfold Outbox.indexCoordinate
  cases made : outboxCoordinateKey entry.target entry.event with
  | none =>
    refine ⟨indexed.named_put rfl, pendingExact, publishedExact, failedExact, ?_⟩
    exact indexed.coordinates.put_keep
      (((coordinateRule_of_named rfl).trans made).trans (before _).symm)
  | some =>
    refine ⟨indexed.named_put rfl, pendingExact, publishedExact, failedExact, ?_⟩
    exact indexed.coordinates.put_gain (before _) ((coordinateRule_of_named rfl).trans made)

structure SameIdentity (old new : OutboxEntry) : Prop where
  event : new.event = old.event
  target : new.target = old.target
  enqueuedAt : new.enqueuedAt = old.enqueuedAt

section
variable (indexed : Indexed tx) (found : tx.entries.get id = some old)
include indexed found

theorem Indexed.coordinates_put (same : SameIdentity old new) :
    coordinateRule.Exact (tx.entries.put id new).get (· ∈ tx.coordinates) := by
  apply indexed.coordinates.put_keep
  rw [IndexRule.keyAt_found found]
  simp only [coordinateRule, same.event, same.target]

theorem Indexed.update (same : SameIdentity old new) (state : new.state = old.state)
    (settledAt : new.settledAt = old.settledAt) :
    Indexed { tx with entries := tx.entries.put id new } := by
  have named : new.event.id = id := by
    rw [same.event]
    exact indexed.named id old found
  have settled (goal : EntryState) :
      (settledRule goal).key id new = (settledRule goal).keyAt tx.entries.get id := by
    rw [IndexRule.keyAt_found found]
    simp only [settledRule, state, settledAt]
  refine ⟨indexed.named_put named, indexed.pending.put_keep ?_,
    indexed.published.put_keep (settled _), indexed.failed.put_keep (settled _),
    indexed.coordinates_put found same⟩
  rw [IndexRule.keyAt_found found]
  simp only [pendingRule, state, same.target, same.enqueuedAt]

theorem Indexed.settle (pending : old.state = .pending) (same : SameIdentity old new)
    (settled : new.state ≠ .pending) :
    Indexed { ({ tx with pending := tx.pending.delete (pendingKey old.target old.enqueuedAt id) } :
      Outbox).indexSettled new.state (settledKey new.settledAt id) with
      entries := tx.entries.put id new } := by
  have named : new.event.id = id := by
    rw [same.event]
    exact indexed.named id old found
  have pendingExact := indexed.pending.put_lose
    ((IndexRule.keyAt_found found).trans (pendingRule_of_pending pending))
    (pendingRule_of_settled settled)
  have coordinatesExact := indexed.coordinates_put found same
  have before {state : EntryState} (notBefore : state ≠ .pending) :
      (settledRule state).keyAt tx.entries.get id = none := by
    rw [IndexRule.keyAt_found found, settledRule_of_other (by rw [pending]; exact notBefore.symm)]
  -- The settled index the row does not go to keeps its rows.
  have other (state : EntryState) (index : Bucket Bytes Unit)
      (exact : (settledRule state).Exact tx.entries.get (· ∈ index)) (notBefore : state ≠ .pending)
      (notAfter : new.state ≠ state) :
      (settledRule state).Exact (tx.entries.put id new).get (· ∈ index) :=
    exact.put_keep ((settledRule_of_other notAfter).trans (before notBefore).symm)
  have own (state : EntryState) (index : Bucket Bytes Unit)
      (exact : (settledRule state).Exact tx.entries.get (· ∈ index)) (notBefore : state ≠ .pending)
      (after : new.state = state) : (settledRule state).Exact (tx.entries.put id new).get
        (· ∈ index.put (settledKey new.settledAt id) ()) :=
    exact.put_gain (before notBefore) (settledRule_of_state after)
  unfold Outbox.indexSettled
  by_cases failure : new.state = .failed
  · rw [if_pos failure]
    exact ⟨indexed.named_put named, pendingExact,
      other .published _ indexed.published (by decide) (by rw [failure]; decide),
      own .failed _ indexed.failed (by decide) failure, coordinatesExact⟩
  · have success : new.state = .published := by
      cases state : new.state with
      | pending => exact absurd state settled
      | published => rfl
      | failed => exact absurd state failure
    rw [if_neg failure]
    exact ⟨indexed.named_put named, pendingExact,
      own .published _ indexed.published (by decide) success,
      other .failed _ indexed.failed (by decide) failure, coordinatesExact⟩

theorem Indexed.requeue (failure : old.state = .failed) :
    Indexed (tx.requeue id (settledKey old.settledAt id) old) := by
  have pending : old.reset.state = .pending := rfl
  have before (rule : IndexRule ID OutboxEntry Bytes) := @rule.keyAt_found _ _ _ _ _ _ found
  refine ⟨indexed.named_put (indexed.named id old found), ?_, ?_, ?_, ?_⟩
  · exact indexed.pending.put_gain
      ((before _).trans (pendingRule_of_settled (by rw [failure]; decide)))
      (pendingRule_of_pending pending)
  · apply indexed.published.put_keep
    rw [before, settledRule_of_other (by rw [pending]; decide),
      settledRule_of_other (by rw [failure]; decide)]
  · exact indexed.failed.put_lose ((before _).trans (settledRule_of_state failure))
      (settledRule_of_other (by rw [pending]; decide))
  · exact indexed.coordinates_put found ⟨rfl, rfl, rfl⟩

theorem Indexed.coordinates_delete (kept : unindexed.coordinates = tx.coordinates) :
    coordinateRule.Exact (tx.entries.delete id).get
      (· ∈ (unindexed.unindexCoordinate old.target old.event).coordinates) := by
  have before := (IndexRule.keyAt_found found).trans
    (coordinateRule_of_named (indexed.named id old found))
  unfold Outbox.unindexCoordinate
  cases made : outboxCoordinateKey old.target old.event with
  | none =>
    rw [kept]
    exact indexed.coordinates.delete_keep (before.trans made)
  | some =>
    rw [kept]
    exact indexed.coordinates.delete_lose (before.trans made)

end

theorem unindexCoordinate_rows (tx : Outbox) (target : String) (event : Event) :
    (tx.unindexCoordinate target event).entries = tx.entries ∧
      (tx.unindexCoordinate target event).pending = tx.pending ∧
      (tx.unindexCoordinate target event).published = tx.published ∧
      (tx.unindexCoordinate target event).failed = tx.failed := by
  unfold Outbox.unindexCoordinate
  split <;> exact ⟨rfl, rfl, rfl, rfl⟩

theorem Indexed.clear (indexed : Indexed tx) (found : tx.entries.get old.event.id = some old)
    (entries : unindexed.entries = tx.entries)
    (coordinates : unindexed.coordinates = tx.coordinates)
    (pending : pendingRule.Exact (tx.entries.delete old.event.id).get (· ∈ unindexed.pending))
    (published : (settledRule .published).Exact (tx.entries.delete old.event.id).get
      (· ∈ unindexed.published))
    (failed : (settledRule .failed).Exact (tx.entries.delete old.event.id).get
      (· ∈ unindexed.failed)) :
    Indexed { unindexed.unindexCoordinate old.target old.event with
      entries := (unindexed.unindexCoordinate old.target old.event).entries.delete old.event.id } := by
  obtain ⟨sameEntries, samePending, samePublished, sameFailed⟩ :=
    unindexCoordinate_rows unindexed old.target old.event
  refine ⟨?_, ?_, ?_, ?_, ?_⟩
  · rw [sameEntries, entries]
    exact indexed.named_delete
  · rw [sameEntries, entries, samePending]
    exact pending
  · rw [sameEntries, entries, samePublished]
    exact published
  · rw [sameEntries, entries, sameFailed]
    exact failed
  · rw [sameEntries, entries]
    exact indexed.coordinates_delete found coordinates

theorem Indexed.remove (indexed : Indexed tx) (found : tx.entries.get old.event.id = some old) :
    Indexed (tx.removeEntry old) := by
  have before (rule : IndexRule ID OutboxEntry Bytes) := @rule.keyAt_found _ _ _ _ _ _ found
  -- An index that never held the row is untouched; the one that did loses its key.
  have silent {state : EntryState} {index : Bucket Bytes Unit}
      (exact : (settledRule state).Exact tx.entries.get (· ∈ index)) (other : old.state ≠ state) :=
    exact.delete_keep ((before _).trans (settledRule_of_other other))
  have lost {state : EntryState} {index : Bucket Bytes Unit}
      (exact : (settledRule state).Exact tx.entries.get (· ∈ index)) (own : old.state = state) :=
    exact.delete_lose ((before _).trans (settledRule_of_state own))
  apply indexed.clear found
  · split
    · rfl
    · unfold Outbox.unindexSettled
      split <;> rfl
  · split
    · rfl
    · unfold Outbox.unindexSettled
      split <;> rfl
  · cases state : old.state with
    | pending => exact indexed.pending.delete_lose ((before _).trans (pendingRule_of_pending state))
    | published | failed =>
      exact indexed.pending.delete_keep
        ((before _).trans (pendingRule_of_settled (by rw [state]; decide)))
  · cases state : old.state with
    | published => exact lost indexed.published state
    | pending | failed => exact silent indexed.published (by rw [state]; decide)
  · cases state : old.state with
    | failed => exact lost indexed.failed state
    | pending | published => exact silent indexed.failed (by rw [state]; decide)

end Moves

end Bahia.Localstore
