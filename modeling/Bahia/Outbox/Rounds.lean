import Bahia.Foundation.Outcome
import Bahia.Outbox.Eligibility

/-! Admission of entries to the outbox and the commit of delivery rounds. Every
operation is one transaction: an error leaves the buckets as they were. -/

namespace Bahia.Localstore
open Foundation Nostr

def OutboxEntry.undelivered (entry : OutboxEntry) : Bool :=
  !entry.delivered && entry.rounds == 0 && entry.relays.keys.isEmpty &&
    entry.policy.writeRelays.isEmpty && entry.policy.required == 0

def OutboxEntry.admitted (entry : OutboxEntry) (now : SInt64) : OutboxEntry :=
  { entry with enqueuedAt := entry.enqueuedAt.orNow now, state := .pending, settledAt := none }

def Outbox.indexCoordinate (tx : Outbox) (target : String) (event : Event) : Outbox :=
  match outboxCoordinateKey target event with
  | some key => { tx with coordinates := tx.coordinates.put key () }
  | none => tx

def Outbox.insertPending (tx : Outbox) (entry : OutboxEntry) : Outbox :=
  { tx with
    entries := tx.entries.put entry.event.id entry
    pending := tx.pending.put (pendingKey entry.target entry.enqueuedAt entry.event.id) () }

/-- `enqueue` also reports whether the entry was new. -/
def Checks.enqueueEntry (checks : Checks) (handle : Handle) (tx : Outbox) (entry : OutboxEntry)
    (now : SInt64) : Except String (Outbox × Bool) := do
  refuse handle.readOnly errReadOnly
  refuse (entry.event.id == zeroID) "outbox event id is required"
  refuse (containsRune entry.target '\x00')
    ("outbox target " ++ quote entry.target ++ " contains NUL")
  let entry := entry.admitted now
  match tx.entries.get entry.event.id with
  | some _ => return (tx, false)
  | none =>
    let stored := checks.recordBackupRunStatusTimestamp (tx.insertPending entry) entry.event
    return (stored.indexCoordinate entry.target entry.event, true)

def Checks.enqueue (checks : Checks) (handle : Handle) (tx : Outbox) (entry : OutboxEntry)
    (now : SInt64) : Except String (Outbox × Bool) := do
  refuse (!entry.undelivered) "unverified outbox enqueue cannot contain delivery state"
  checks.enqueueEntry handle tx entry now

def Checks.enqueuePublisherDelivery (checks : Checks) (handle : Handle) (tx : Outbox)
    (entry : OutboxEntry) (now : SInt64) : Except String (Outbox × Bool) := do
  refuse (!entry.delivered) "publisher delivery enqueue requires a reached quorum"
  checks.enqueueEntry handle tx entry now

/-- One relay of a merge: acceptance wins over rejection, and either survives. -/
def mergeRelayDelivery (previous state : RelayDelivery) : RelayDelivery :=
  let merged : RelayDelivery :=
    if previous.accepted then { state with accepted := true, rejected := "", lastError := "" }
    else if previous.rejected ≠ "" ∧ !state.accepted then { state with rejected := previous.rejected }
    else state
  if Time.after previous.seenDialFailure state.seenDialFailure then
    { merged with seenDialFailure := previous.seenDialFailure }
  else merged

def mergeRelayDeliveries (stored incoming : RelayDeliveries) : RelayDeliveries :=
  stored.keys.foldl (fun merged url =>
    match stored.get url with
    | none => merged
    | some previous =>
      match merged.get url with
      | none => merged.put url previous
      | some state => merged.put url (mergeRelayDelivery previous state)) incoming

/-- The relay outcomes a policy names, with absent relays counted as refusing. -/
def relayOutcomes (relays : RelayDeliveries) (policy : DeliveryPolicy) : Bucket String Bool :=
  policy.writeRelays.foldl (fun outcomes relay =>
    outcomes.put relay ((relays.get relay).getD RelayDelivery.fresh).accepted) ∅

def Checks.canonicalDeliveryProof (checks : Checks) (entry : OutboxEntry) (policy : DeliveryPolicy)
    (atTime : Time) : Option DeliveryProof :=
  let event := entry.event
  if (!isProofEligibleEvent event && !isBackupRunTerminalStatusEvent event) ||
      !checks.signed event || outboxTag event.tags "d" == "" then none
  else
    let proof : DeliveryProof :=
      ⟨event, entry.target, policy, relayOutcomes entry.relays policy, atTime⟩
    if checks.validFor proof event entry.target then some proof else none

def Checks.recordPublisherProof (checks : Checks) (tx : Outbox) (entry : OutboxEntry)
    (round : OutboxRound) (atTime : Time) (publisherRound : Bool) : Except String Outbox :=
  if !publisherRound || !round.delivered || !isProofEligibleForRound tx entry.event then .ok tx
  else if (tx.deliveryProofs.get entry.event.id).isSome then .ok tx
  else do
    let proof ← require
      (checks.canonicalDeliveryProof { entry with relays := round.relays } round.policy atTime)
      ("canonical event " ++ ID.hex entry.event.id ++ " publisher round lacks verified target quorum")
    return { tx with deliveryProofs := tx.deliveryProofs.put entry.event.id proof }

/-- A stored proof that is valid for this event and target. -/
def Checks.proven (checks : Checks) (tx : Outbox) (event : Event) (target : String) : Bool :=
  match tx.deliveryProofs.get event.id with
  | some proof => checks.validFor proof event target
  | none => false

def Checks.updateBackupRunAdmissionDelivery (checks : Checks) (tx : Outbox) (entry : OutboxEntry) :
    Except String Outbox :=
  match tx.events.get (ID.hex entry.event.id) with
  | none => .ok tx
  | some intentID => do
    let record ← require (tx.intents.get intentID)
      "decode backup run admission delivery: unexpected end of JSON input"
    refuse (record.stateEventID != ID.hex entry.event.id)
      "backup run admission event index is inconsistent"
    if record.delivered || !entry.delivered then return tx
    else do
      refuse (!checks.proven tx entry.event entry.target)
        "backup run admission requires exact publisher relay quorum proof"
      return { tx with intents := tx.intents.put intentID { record with delivered := true } }

def Checks.updateBackupRunRefusalDelivery (checks : Checks) (tx : Outbox) (entry : OutboxEntry)
    (intentID : String) : Except String Outbox :=
  if !entry.delivered then .ok tx
  else do
    let inconsistent := "backup run refusal status index is inconsistent"
    let record ← require (tx.backupPending.get intentID) inconsistent
    refuse (record.state != .refused || record.statusEventID != ID.hex entry.event.id ||
      record.statusTarget != entry.target) inconsistent
    if record.statusDelivered then return tx
    else do
      refuse (!checks.proven tx entry.event entry.target)
        "backup run refusal status requires exact publisher relay quorum proof"
      return { tx with
        backupPending := tx.backupPending.put intentID { record with statusDelivered := true } }

def Checks.updateBackupRunStatusDelivery (checks : Checks) (tx : Outbox) (entry : OutboxEntry) :
    Except String Outbox :=
  match tx.statusEvents.get (ID.hex entry.event.id) with
  | none => .ok tx
  | some intentID =>
    if !entry.delivered then .ok tx
    else
      match tx.intents.get intentID with
      | none => checks.updateBackupRunRefusalDelivery tx entry intentID
      | some record => do
        refuse (record.statusEventID != ID.hex entry.event.id || record.statusTarget != entry.target ||
          !record.delivered || record.statusOutcome != "accepted")
          "backup run accepted status index is inconsistent"
        if record.statusDelivered then return tx
        else do
          refuse (!checks.proven tx entry.event entry.target)
            "backup run accepted status requires exact publisher relay quorum proof"
          return { tx with
            intents := tx.intents.put intentID { record with statusDelivered := true } }

/-- What a round adds to a pending entry before its state is decided. -/
def OutboxEntry.mergeRound (stored : OutboxEntry) (round : OutboxRound) : OutboxEntry :=
  { stored with
    relays := mergeRelayDeliveries stored.relays round.relays
    rounds := max stored.rounds round.rounds
    delivered := stored.delivered || round.delivered
    policy := if round.delivered ∧ !round.policy.writeRelays.isEmpty then round.policy
      else stored.policy
    lastError := round.detail }

/-- `settledBucket`: anything but a failure is indexed as published. -/
def Outbox.indexSettled (tx : Outbox) (state : EntryState) (key : Bytes) : Outbox :=
  if state = .failed then { tx with failed := tx.failed.put key () }
  else { tx with published := tx.published.put key () }

/-- The settling part of a round: the entry's new state and its index rows. -/
def Outbox.settleRound (tx : Outbox) (id : ID) (stored : OutboxEntry) (state : RoundState)
    (atTime : Time) : Except String (Outbox × OutboxEntry) :=
  match state with
  | .blank | .reported .pending => .ok (tx, stored)
  | .reported settled =>
    let removed :=
      { tx with pending := tx.pending.delete (pendingKey stored.target stored.enqueuedAt id) }
    .ok (removed.indexSettled settled (settledKey atTime id),
      { stored with state := settled, settledAt := atTime })
  | .unknown text => .error ("unknown outbox state " ++ quote text)

def Checks.commitRoundWith (checks : Checks) (handle : Handle) (tx : Outbox) (id : ID)
    (round : OutboxRound) (recordProof : Bool) (now : SInt64) :
    Except String (Outbox × OutboxEntry) := do
  refuse handle.readOnly errReadOnly
  context ("commit outbox round for " ++ ID.hex id) do
    let stored ← require (tx.entries.get id) ("outbox entry " ++ ID.hex id ++ " not found")
    refuse (!recordProof && isProofEligibleForRound tx stored.event)
      "canonical delivery rounds require the publisher path"
    refuse (recordProof && round.target != stored.target)
      ("publisher round target " ++ quote round.target ++ " differs from outbox target " ++
        quote stored.target)
    let atTime := Time.orNow round.atTime now
    if stored.state ≠ .pending then do
      let tx ← checks.recordPublisherProof tx stored round atTime recordProof
      let tx ← checks.updateBackupRunStatusDelivery tx stored
      return (tx, stored)
    else do
      let (tx, stored) ← tx.settleRound id (stored.mergeRound round) round.state atTime
      let tx := { tx with entries := tx.entries.put id stored }
      let tx ← checks.recordPublisherProof tx stored round atTime recordProof
      let tx ← checks.updateBackupRunAdmissionDelivery tx stored
      let tx ← checks.updateBackupRunStatusDelivery tx stored
      return (tx, stored)

def Checks.commitRound (checks : Checks) (handle : Handle) (tx : Outbox) (id : ID)
    (round : OutboxRound) (now : SInt64) : Except String (Outbox × OutboxEntry) :=
  checks.commitRoundWith handle tx id round false now

def Checks.commitPublisherRound (checks : Checks) (handle : Handle) (tx : Outbox) (id : ID)
    (round : OutboxRound) (now : SInt64) : Except String (Outbox × OutboxEntry) :=
  checks.commitRoundWith handle tx id round true now

end Bahia.Localstore
