import Bahia.Outbox.Rounds

/-! Retry of failed entries, and the removal of settled or selected ones. -/

namespace Bahia.Localstore
open Foundation Nostr

/-- The id an index key ends with, copied from past its eight time bytes. -/
def keyID (key : Bytes) : ID :=
  ⟨(key.drop 8 ++ List.replicate 32 0).take 32, by simp⟩

def Outbox.settledIndex (tx : Outbox) (state : EntryState) : Bucket Bytes Unit :=
  if state = .failed then tx.failed else tx.published

def Outbox.unindexSettled (tx : Outbox) (state : EntryState) (key : Bytes) : Outbox :=
  if state = .failed then { tx with failed := tx.failed.delete key }
  else { tx with published := tx.published.delete key }

def Outbox.unindexCoordinate (tx : Outbox) (target : String) (event : Event) : Outbox :=
  match outboxCoordinateKey target event with
  | some key => { tx with coordinates := tx.coordinates.delete key }
  | none => tx

/-- An entry pinned by a backup run whose status no relay quorum holds yet. -/
def Outbox.backupRunAdmissionUnresolved (tx : Outbox) (eventID : ID) : Except String Bool :=
  let owner := match tx.events.get (ID.hex eventID) with
    | some intentID => some intentID
    | none => tx.statusEvents.get (ID.hex eventID)
  match owner with
  | none => .ok false
  | some intentID =>
    match tx.intents.get intentID with
    | some record => .ok (!record.statusDelivered)
    | none => do
      let unavailable := "backup run refusal status is unavailable"
      let pending ← require (tx.backupPending.get intentID) unavailable
      refuse (pending.statusEventID != ID.hex eventID) unavailable
      return !pending.statusDelivered

/-- One pass of `Prune`: its transaction, the loads of the hold flag so far, the
entries removed, and whether the flag has ended the pass. -/
structure Sweep where
  tx : Outbox
  loads : Nat
  removed : Nat
  stopped : Bool

def Outbox.removeSettled (tx : Outbox) (state : EntryState) (key : Bytes) : Outbox :=
  let unindexed := tx.unindexSettled state key
  let cleared := match tx.entries.get (keyID key) with
    | some entry => unindexed.unindexCoordinate entry.target entry.event
    | none => unindexed
  { cleared with entries := cleared.entries.delete (keyID key) }

def Sweep.pruneKey (handle : Handle) (state : EntryState) (sweep : Sweep) (key : Bytes) :
    Except String Sweep :=
  if sweep.stopped then .ok sweep
  else if handle.evidenceHold sweep.loads then
    .ok { sweep with loads := sweep.loads + 1, stopped := true }
  else do
    let pinned ← sweep.tx.backupRunAdmissionUnresolved (keyID key)
    if pinned then return { sweep with loads := sweep.loads + 1 }
    else return { sweep with
      tx := sweep.tx.removeSettled state key
      loads := sweep.loads + 1
      removed := sweep.removed + 1 }

/-- The expired rows of one settled index, collected before any is removed. -/
def Sweep.pruneState (handle : Handle) (sweep : Sweep) (expiry : EntryState × Time) :
    Except String Sweep :=
  let expired := (sweep.tx.settledIndex expiry.1).keys.takeWhile fun key =>
    key < settledKey expiry.2 zeroID
  expired.foldlM (Sweep.pruneKey handle expiry.1) sweep

/-- The two settled indexes are visited in either order. -/
def expiries (publishedFirst : Bool) (publishedBefore failedBefore : Time) :
    List (EntryState × Time) :=
  if publishedFirst then [(.published, publishedBefore), (.failed, failedBefore)]
  else [(.failed, failedBefore), (.published, publishedBefore)]

def prune (handle : Handle) (tx : Outbox) (publishedBefore failedBefore : Time)
    (publishedFirst : Bool) : Except String (Outbox × Nat) :=
  if handle.evidenceHold 0 then .ok (tx, 0)
  else do
    refuse handle.readOnly errReadOnly
    if handle.evidenceHold 1 then return (tx, 0)
    else do
      let sweep ← context "prune settled outbox entries"
        ((expiries publishedFirst publishedBefore failedBefore).foldlM
          (Sweep.pruneState handle) (Sweep.mk tx 2 0 false))
      return (sweep.tx, sweep.removed)

def Outbox.removeEntry (tx : Outbox) (entry : OutboxEntry) : Outbox :=
  let id := entry.event.id
  let unindexed :=
    if entry.state = .pending then
      { tx with pending := tx.pending.delete (pendingKey entry.target entry.enqueuedAt id) }
    else tx.unindexSettled entry.state (settledKey entry.settledAt id)
  let cleared := unindexed.unindexCoordinate entry.target entry.event
  { cleared with entries := cleared.entries.delete id }

/-- A pinned entry, or one that holds a delivery proof, is never purged. -/
def Outbox.purgeEntry (tx : Outbox) (entry : OutboxEntry) : Except String Outbox := do
  let id := entry.event.id
  let pinned ← tx.backupRunAdmissionUnresolved id
  refuse pinned
    ("outbox entry " ++ ID.hex id ++ " is pinned by an unresolved backup-run admission")
  refuse (tx.deliveryProofs.get id).isSome
    ("outbox entry " ++ ID.hex id ++ " holds a delivery proof")
  return tx.removeEntry entry

def Outbox.victims (tx : Outbox) (selects : Event → Bool) : List OutboxEntry :=
  (tx.entries.keys.filterMap tx.entries.get).filter fun entry => selects entry.event

def purgeEvents (handle : Handle) (tx : Outbox) (selects : Event → Bool) :
    Except String (Outbox × List ID) := do
  refuse handle.readOnly errReadOnly
  let victims := tx.victims selects
  let tx ← context "purge outbox entries" (victims.foldlM Outbox.purgeEntry tx)
  return (tx, victims.map fun entry => entry.event.id)

/-- A failed entry made pending again, as if it had never been tried. -/
def OutboxEntry.reset (entry : OutboxEntry) : OutboxEntry :=
  { entry with
    state := .pending
    settledAt := none
    lastError := ""
    rounds := 0
    delivered := false
    relays := ∅ }

/-- Write back a reset entry and move its row from the failed to the pending index. -/
def Outbox.requeue (tx : Outbox) (id : ID) (failedKey : Bytes) (entry : OutboxEntry) : Outbox :=
  { tx with
    failed := tx.failed.delete failedKey
    entries := tx.entries.put id entry.reset
    pending := tx.pending.put (pendingKey entry.target entry.enqueuedAt id) () }

def retry (handle : Handle) (tx : Outbox) (id : ID) : Except String (Outbox × OutboxEntry) := do
  refuse handle.readOnly errReadOnly
  context ("retry outbox entry " ++ ID.hex id) do
    let entry ← require (tx.entries.get id) ("outbox entry " ++ ID.hex id ++ " not found")
    refuse (entry.state != .failed)
      ("outbox entry " ++ ID.hex id ++ " is " ++ entry.state.text ++ ", not failed")
    return (tx.requeue id (settledKey entry.settledAt id) entry, entry.reset)

/-- One row of the failed index; a row without its entry is passed over. -/
def requeueKey (progress : Outbox × Nat) (key : Bytes) : Outbox × Nat :=
  match progress.1.entries.get (keyID key) with
  | none => progress
  | some entry => (progress.1.requeue (keyID key) key entry, progress.2 + 1)

def retryAllFailed (handle : Handle) (tx : Outbox) : Except String (Outbox × Nat) := do
  refuse handle.readOnly errReadOnly
  return tx.failed.keys.foldl requeueKey (tx, 0)

end Bahia.Localstore
