import Bahia.Outbox.Rounds

/-! The backup-run ledger kept beside the outbox: operator requests, the admission of
their run states and the single terminal status of each. -/

namespace Bahia.Localstore
open Foundation Nostr

def Outbox.ownedBy (owner : Option String) (intentID : String) : Bool := owner.getD "" == intentID

/-- The signed run state an admission may stage. -/
def Checks.canonicalRunState (checks : Checks) (entry : OutboxEntry) (coordinate : String) : Bool :=
  entry.target != "" && checks.signed entry.event && entry.undelivered &&
    entry.event.kind == casControlState && oneBackupRunTag entry.event.tags "d" coordinate &&
    oneBackupRunTag entry.event.tags "t" "backup-run" &&
    oneBackupRunTag entry.event.tags "legacy_kind" "31996" &&
    oneBackupRunTag entry.event.tags "deleted" "false"

/-- An earlier admission of the same request. -/
def Outbox.replays (tx : Outbox) (prior : BackupRunAdmission)
    (intentID coordinate requestEventID target actor : String) : Bool :=
  prior.intentID == intentID && prior.coordinate == coordinate &&
    prior.requestEventID == requestEventID && prior.target == target && prior.actor == actor &&
    Outbox.ownedBy (tx.coords.get coordinate) intentID &&
    Outbox.ownedBy (tx.events.get prior.stateEventID) intentID

/-- Whether the pending request that owns a coordinate, if any, may be admitted. -/
def Outbox.admissible (tx : Outbox) (intentID coordinate requestEventID : String) : Bool :=
  match tx.pendingCoords.get coordinate with
  | none => true
  | some owner =>
    match tx.backupPending.get owner with
    | none => false
    | some pending =>
      pending.intentID == intentID && ID.hex pending.requestEvent.id == requestEventID &&
        pending.state == .pending && pending.statusEventID == ""

/-- `EnqueueBackupRun` stages a run state with its request keys. It writes the entry
and its pending row, and no package coordinate row. -/
def Checks.enqueueBackupRun (checks : Checks) (handle : Handle) (tx : Outbox) (entry : OutboxEntry)
    (intentID coordinate requestEventID actor : String) (now : SInt64) :
    Except String (Outbox × BackupRunAdmission × Bool) := do
  refuse handle.readOnly errReadOnly
  refuse (intentID == "" || coordinate == "" || requestEventID == "" ||
    containsRune intentID '\x00' || containsRune coordinate '\x00')
    "backup run admission requires valid request keys"
  refuse (idFromHex requestEventID).isNone "invalid backup run request event id"
  refuse (checks.pubKeyFromHex actor).isNone "invalid backup run requester pubkey"
  refuse (!checks.canonicalRunState entry coordinate)
    "backup run admission requires a signed canonical run-state event"
  let entry := entry.admitted now
  let record : BackupRunAdmission :=
    { intentID, coordinate, requestEventID, stateEventID := ID.hex entry.event.id
      target := entry.target, actor, servicePubkey := PubKey.hex entry.event.pubKey
      delivered := false, statusEventID := "", statusTarget := "", statusOutcome := ""
      statusDelivered := false }
  context "stage backup run admission" do
    match tx.intents.get intentID with
    | some prior =>
      refuse (!tx.replays prior intentID coordinate requestEventID entry.target actor)
        "backup run intent id conflicts with a different signed request"
      return (tx, prior, false)
    | none =>
      refuse (tx.coords.get coordinate).isSome
        "backup run coordinate already belongs to another signed request"
      refuse (!tx.admissible intentID coordinate requestEventID)
        "backup run coordinate has an immutable pending outcome"
      refuse (tx.entries.get entry.event.id).isSome
        "backup run state event id is already held without its admission record"
      return ({ tx.insertPending entry with
        intents := tx.intents.put intentID record
        coords := tx.coords.put coordinate intentID
        events := tx.events.put (ID.hex entry.event.id) intentID }, record, true)

def statusEntry (event : Event) (target : String) (now : SInt64) : OutboxEntry where
  event := event
  target := target
  entityType := "backup_run.status"
  entityID := ""
  enqueuedAt := some now
  state := .pending
  rounds := 0
  delivered := false
  policy := .none
  lastError := ""
  settledAt := none
  relays := ∅

/-- The rows every staged status writes. -/
def Checks.stageStatus (checks : Checks) (tx : Outbox) (event : Event) (target intentID : String)
    (now : SInt64) : Outbox :=
  let indexed := (tx.insertPending (statusEntry event target now)).indexCoordinate target event
  checks.recordBackupRunStatusTimestamp
    { indexed with statusEvents := indexed.statusEvents.put (ID.hex event.id) intentID } event

/-- The tags that tie a status event to its request. -/
def correlated (event : Event) (d status intentID actor requestEventID : String) : Bool :=
  oneBackupRunTag event.tags "d" d && oneBackupRunTag event.tags "domain" "intent" &&
    oneBackupRunTag event.tags "t" "intent-status" && oneBackupRunTag event.tags "status" status &&
    oneBackupRunTag event.tags "intent_id" intentID && oneBackupRunTag event.tags "p" actor &&
    oneBackupRunTag event.tags "e" requestEventID && !hasBackupRunTag event.tags "expiration"

def Checks.acceptedContentMatches (checks : Checks) (record : BackupRunAdmission) (event : Event) :
    Bool :=
  match checks.acceptedContent event.content with
  | none => false
  | some content =>
    content.intentID == record.intentID && content.coordinate == record.coordinate &&
      content.result == "applied" && content.runID == trimPrefix record.coordinate "backup-run:" &&
      content.stateEventID == record.stateEventID && content.execution == "queued"

def Outbox.acceptPending (tx : Outbox) (current : BackupRunAdmission) : Except String Outbox :=
  match tx.backupPending.get current.intentID with
  | none => .ok tx
  | some pending => do
    refuse (pending.coordinate != current.coordinate ||
      ID.hex pending.requestEvent.id != current.requestEventID || pending.state != .pending)
      "backup run pending identity changed before acceptance"
    return { tx with
      backupPending := tx.backupPending.put current.intentID { pending with state := .accepted }
      due := tx.due.delete (backupRunDueKey pending) }

def Checks.stageBackupRunAcceptedStatus (checks : Checks) (handle : Handle) (tx : Outbox)
    (record : BackupRunAdmission) (event : Event) (target : String) (now : SInt64) :
    Except String (Outbox × String × Bool) := do
  refuse handle.readOnly errReadOnly
  refuse (!checks.signed event || event.kind != nip38Status ||
    PubKey.hex event.pubKey != record.servicePubkey ||
    !correlated event (intentStatusCoordinate record.actor record.coordinate) "accepted"
      record.intentID record.actor record.requestEventID)
    "backup run terminal status requires exact signed request correlation"
  refuse (!checks.acceptedContentMatches record event)
    "backup run terminal status content does not match the admission"
  let current ← require (tx.intents.get record.intentID) "backup run admission is unavailable"
  refuse (current.intentID != record.intentID || current.coordinate != record.coordinate ||
    current.requestEventID != record.requestEventID || current.stateEventID != record.stateEventID ||
    current.actor != record.actor || current.servicePubkey != record.servicePubkey)
    "backup run admission changed before status staging"
  if current.statusEventID ≠ "" then do
    refuse (current.statusOutcome != "accepted")
      "backup run admission already has a conflicting terminal status"
    return (tx, current.statusEventID, false)
  else do
    refuse (!current.delivered) "backup run admission has no matching terminal relay outcome"
    refuse (event.createdAt ≤ backupRunStatusTimestampFloor tx
      (backupRunStatusClockKey event.pubKey current.actor current.coordinate))
      "backup run accepted status is not newer than the durable coordinate floor"
    refuse (tx.entries.get event.id).isSome "backup run terminal status event id already exists"
    let staged := checks.stageStatus tx event target current.intentID now
    let accepted := { current with
      statusEventID := ID.hex event.id, statusTarget := target, statusOutcome := "accepted" }
    let tx ← Outbox.acceptPending
      { staged with intents := staged.intents.put current.intentID accepted } current
    return (tx, ID.hex event.id, true)

/-- The single signed expiration of a request, as `strconv.ParseInt` reads it. -/
def signedExpiration (tags : Tags) : Option SInt64 :=
  match tags.filter fun tag => tag.head? == some "expiration" with
  | [[_, value]] => parseInt value
  | _ => none

def Time.unix : Time → Int
  | some nanos => nanos.val / 10 ^ 9
  | none => -62135596800

def Checks.validBackupRunPendingIdentity (checks : Checks) (record : BackupRunPending) : Bool :=
  record.intentID != "" && hasPrefix record.coordinate "backup-run:" &&
    record.requestEvent.kind == casControlState && checks.signed record.requestEvent &&
    PubKey.hex record.requestEvent.pubKey == record.actor &&
    oneBackupRunTag record.requestEvent.tags "d" record.coordinate &&
    oneBackupRunTag record.requestEvent.tags "intent_id" record.intentID &&
    record.expiresAt.isSome && Time.after record.expiresAt record.receivedAt &&
    record.servicePubkey != "" &&
    (match signedExpiration record.requestEvent.tags, record.expiresAt with
      | some expiration, some expires =>
        expiration.val == Time.unix record.expiresAt &&
          expires.val ≤ (record.requestEvent.createdAt.val + 900) * 10 ^ 9
      | _, _ => false)

/-- A terminal record may have dropped the body of its request, keeping the signed id. -/
def Checks.validRetainedBackupRunIdentity (checks : Checks) (record : BackupRunPending) : Bool :=
  if record.state == .pending || (record.statusEventID == "" && record.state == .refused) then
    checks.validBackupRunPendingIdentity record
  else if record.requestEvent.kind != 0 then checks.validBackupRunPendingIdentity record
  else
    record.intentID != "" && hasPrefix record.coordinate "backup-run:" &&
      record.requestEvent.id != zeroID && PubKey.hex record.requestEvent.pubKey == record.actor &&
      record.requestEvent.createdAt == 0 && record.requestEvent.tags.isEmpty &&
      record.requestEvent.content == "" && record.servicePubkey != "" &&
      record.expiresAt.isSome && Time.after record.expiresAt record.receivedAt &&
      checks.parsePubKey record.requestEvent.pubKey &&
      checks.verifyIdentity record.requestEvent.id record.requestEvent.pubKey record.requestEvent.sig

def compactBackupRunPending (record : BackupRunPending) : BackupRunPending :=
  { record with
    requestEvent :=
      { record.requestEvent with createdAt := 0, kind := 0, tags := [], content := "" }
    nextAttemptAt := none
    attempts := 0
    lastFailure := if record.state = .accepted then "" else record.lastFailure }

def Checks.putBackupRunPending (checks : Checks) (handle : Handle) (tx : Outbox)
    (record : BackupRunPending) : Except String (Outbox × BackupRunPending × Bool) := do
  refuse (handle.readOnly || handle.movedFrom != "")
    "backup run pending ledger is unavailable after outbox loss"
  refuse (!checks.validBackupRunPendingIdentity record)
    "backup run pending requires a complete signed request and bounded expiration"
  refuse (checks.pubKeyFromHex record.servicePubkey).isNone "backup run pending service key"
  let record :=
    { record with state := .pending, nextAttemptAt := record.receivedAt, lastFailure := "" }
  let requestID := ID.hex record.requestEvent.id
  match tx.backupPending.get record.intentID with
  | some prior =>
    refuse (!checks.validRetainedBackupRunIdentity prior || prior.coordinate != record.coordinate ||
      prior.requestEvent.id != record.requestEvent.id || prior.actor != record.actor ||
      prior.servicePubkey != record.servicePubkey ||
      !Outbox.ownedBy (tx.pendingCoords.get record.coordinate) record.intentID ||
      !Outbox.ownedBy (tx.pendingEvents.get requestID) record.intentID)
      "backup run pending intent conflicts with another signed request"
    return (tx, prior, false)
  | none =>
    refuse ((tx.pendingCoords.get record.coordinate).isSome ||
      (tx.pendingEvents.get requestID).isSome || (tx.coords.get record.coordinate).isSome ||
      (tx.intents.get record.intentID).isSome)
      "backup run pending coordinate, event or intent is already owned"
    return ({ tx with
      backupPending := tx.backupPending.put record.intentID record
      pendingCoords := tx.pendingCoords.put record.coordinate record.intentID
      pendingEvents := tx.pendingEvents.put requestID record.intentID
      due := tx.due.put (backupRunDueKey record) () }, record, true)

def Outbox.pendingRequest (tx : Outbox) (intentID requestEventID text : String) :
    Except String BackupRunPending := do
  let record ← require (tx.backupPending.get intentID) text
  refuse (ID.hex record.requestEvent.id != requestEventID) text
  return record

/-- Write back a request and move its row out of the due index. -/
def Outbox.reschedule (tx : Outbox) (intentID : String) (old new : BackupRunPending) : Outbox :=
  let moved := { tx with
    backupPending := tx.backupPending.put intentID new
    due := tx.due.delete (backupRunDueKey old) }
  if new.state = .refused then { moved with refusals := moved.refusals.put intentID () }
  else { moved with due := moved.due.put (backupRunDueKey new) () }

def recordBackupRunPendingAttempt (handle : Handle) (tx : Outbox) (intentID requestEventID : String)
    (now next : Time) (reason : String) : Except String Outbox := do
  refuse handle.readOnly errReadOnly
  let record ← tx.pendingRequest intentID requestEventID
    "backup run pending record changed before retry"
  if record.state ≠ .pending ∨ (tx.coords.get record.coordinate).isSome then return tx
  else
    let tried := { record with attempts := record.attempts + 1, lastFailure := reason }
    let updated : BackupRunPending :=
      if !Time.after record.expiresAt now then
        { tried with state := .refused, nextAttemptAt := none }
      else if next.isNone || Time.after next record.expiresAt then
        { tried with nextAttemptAt := record.expiresAt }
      else { tried with nextAttemptAt := next }
    return tx.reschedule intentID record updated

def refuseBackupRunPending (handle : Handle) (tx : Outbox)
    (intentID requestEventID reason : String) : Except String Outbox := do
  refuse handle.readOnly errReadOnly
  let record ← tx.pendingRequest intentID requestEventID
    "backup run pending record changed before refusal"
  if record.state ≠ .pending ∨ (tx.coords.get record.coordinate).isSome then return tx
  else
    let refused : BackupRunPending :=
      { record with state := .refused, lastFailure := reason, nextAttemptAt := none }
    return tx.reschedule intentID record refused

def Checks.refusedContentMatches (checks : Checks) (record : BackupRunPending) (event : Event) :
    Bool :=
  match checks.refusedContent event.content with
  | none => false
  | some content =>
    content.intentID == record.intentID && content.coordinate == "" &&
      content.result == "rejected" && content.reason == "access_denied" &&
      !content.namesCoordinate

def Checks.stageBackupRunRefusedStatus (checks : Checks) (handle : Handle) (tx : Outbox)
    (record : BackupRunPending) (event : Event) (target : String) (now : SInt64) :
    Except String (Outbox × String × Bool) := do
  refuse handle.readOnly errReadOnly
  refuse (record.state != .refused || !checks.validBackupRunPendingIdentity record ||
    !checks.signed event || PubKey.hex event.pubKey != record.servicePubkey ||
    !isBackupRunRefusedStatusEvent event ||
    !correlated event (intentPrivateStatusCoordinate record.actor "backup" record.intentID)
      "rejected" record.intentID record.actor (ID.hex record.requestEvent.id))
    "backup run refusal requires exact signed request correlation"
  refuse (!checks.refusedContentMatches record event)
    "backup run refusal content does not match the ledger"
  let current ← require (tx.backupPending.get record.intentID)
    "backup run refusal ledger record is unavailable"
  refuse (current.state != .refused || current.coordinate != record.coordinate ||
    current.requestEvent.id != record.requestEvent.id || current.actor != record.actor ||
    current.servicePubkey != record.servicePubkey || current.lastFailure != record.lastFailure ||
    (tx.coords.get record.coordinate).isSome)
    "backup run refusal changed or coordinate was admitted"
  if current.statusEventID ≠ "" then return (tx, current.statusEventID, false)
  else do
    let floor := backupRunStatusTimestampFloor tx
      (backupRunStatusClockKey event.pubKey current.actor current.coordinate)
    let privateFloor := match checks.backupRunStatusEventClockKey event with
      | some key => backupRunStatusTimestampFloor tx key
      | none => 0
    refuse (event.createdAt ≤ max floor privateFloor)
      "backup run refusal is not newer than the durable coordinate floor"
    refuse (tx.entries.get event.id).isSome "backup run refusal status event id already exists"
    let staged := checks.stageStatus tx event target current.intentID now
    let tx ← recordBackupRunCoordinateStatusTimestamp staged event current.coordinate
    let refused := compactBackupRunPending
      { current with statusEventID := ID.hex event.id, statusTarget := target }
    return ({ tx with
      backupPending := tx.backupPending.put current.intentID refused
      refusals := tx.refusals.delete current.intentID }, ID.hex event.id, true)

/-- The accepted request that may drop its body. -/
def Checks.compactable (checks : Checks) (tx : Outbox)
    (record : BackupRunPending) (intentID coordinate requestEventID : String) : Bool :=
  checks.validRetainedBackupRunIdentity record && record.state == .accepted &&
    record.coordinate == coordinate && ID.hex record.requestEvent.id == requestEventID &&
    Outbox.ownedBy (tx.pendingCoords.get coordinate) intentID &&
    Outbox.ownedBy (tx.pendingEvents.get requestEventID) intentID

def Checks.compactBackupRunAccepted (checks : Checks) (handle : Handle) (tx : Outbox)
    (intentID coordinate requestEventID : String) (terminal : Event) (target : String) :
    Except String Outbox :=
  if handle.evidenceHold 0 then .ok tx
  else do
    refuse (handle.readOnly || terminal.id == zeroID || target == "") errReadOnly
    if handle.evidenceHold 1 then return tx
    else do
      let unavailable := "backup run accepted request is unavailable for compaction"
      let record ← require (tx.backupPending.get intentID) unavailable
      refuse (!checks.compactable tx record intentID coordinate requestEventID) unavailable
      let unproven := "backup run accepted status lacks durable proof"
      let admission ← require (tx.intents.get intentID) unproven
      refuse (admission.coordinate != coordinate || admission.requestEventID != requestEventID ||
        !admission.statusDelivered || admission.statusOutcome != "accepted") unproven
      refuse (!checks.proven tx terminal target || terminal.kind != nip38Status ||
        PubKey.hex terminal.pubKey != record.servicePubkey ||
        !oneBackupRunTag terminal.tags "d" (intentStatusCoordinate record.actor coordinate) ||
        !oneBackupRunTag terminal.tags "e" requestEventID ||
        !oneBackupRunTag terminal.tags "intent_id" intentID ||
        !oneBackupRunTag terminal.tags "p" record.actor ||
        (!oneBackupRunTag terminal.tags "status" "success" &&
          !oneBackupRunTag terminal.tags "status" "error"))
        "backup run terminal status lacks exact relay quorum proof"
      if record.requestEvent.kind = 0 then return tx
      else return { tx with
        backupPending := tx.backupPending.put record.intentID (compactBackupRunPending record) }

end Bahia.Localstore
