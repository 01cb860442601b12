import Bahia.Outbox.Model

/-! Which signed events leave a delivery proof, and the tags of backup-run states and
statuses. -/

namespace Bahia.Localstore
open Foundation Nostr

structure AcceptedContent where
  intentID : String
  coordinate : String
  result : String
  runID : String
  stateEventID : String
  execution : String

/-- Decoded body of a refused run status; `namesCoordinate` tells whether the object
has a `coordinate` member at all. -/
structure RefusedContent where
  intentID : String
  coordinate : String
  result : String
  reason : String
  namesCoordinate : Bool

/-- What the ledger takes from outside: the id, signature and key checks, and the
JSON bodies of status events. -/
structure Checks where
  checkID : Event → Bool
  verifySignature : Event → Bool
  parsePubKey : PubKey → Bool
  verifyIdentity : ID → PubKey → Signature → Bool
  acceptedContent : String → Option AcceptedContent
  refusedContent : String → Option RefusedContent

/-- Every signature holds and no status body decodes: enough to run sample events. -/
def Checks.trusting : Checks where
  checkID _ := true
  verifySignature _ := true
  parsePubKey _ := true
  verifyIdentity _ _ _ := true
  acceptedContent _ := none
  refusedContent _ := none

def Checks.pubKeyFromHex (checks : Checks) (text : String) : Option PubKey :=
  Nostr.pubKeyFromHex checks.parsePubKey text

def Checks.signed (checks : Checks) (event : Event) : Bool :=
  checks.checkID event && checks.verifySignature event

def casControlState : Kind := 30900

def nip38Status : Kind := 30315

def outboxTag (tags : Tags) (key : String) : String := Tags.value tags key

/-- The values of every `key` tag that carries one. -/
def tagValues (tags : Tags) (key : String) : List String :=
  tags.filterMap fun tag =>
    match tag with
    | name :: value :: _ => if name = key then some value else none
    | _ => none

/-- Exactly one `key` tag, with this value. -/
def oneBackupRunTag (tags : Tags) (key want : String) : Bool := tagValues tags key == [want]

def hasBackupRunTag (tags : Tags) (key : String) : Bool := tags.any fun tag => tag.head? == some key

def intentStatusCoordinate (actor coordinate : String) : String :=
  "intent-status:" ++ actor ++ ":" ++ coordinate

def intentPrivateStatusCoordinate (actor domain correlation : String) : String :=
  "intent-status:" ++ actor ++ ":" ++ domain ++ ":" ++ correlation

def isBackupRunLifecycleStatusEvent (event : Event) : Bool :=
  let tag := outboxTag event.tags
  event.kind == nip38Status && tag "domain" == "intent" && tag "t" == "intent-status" &&
    tag "intent_id" != "" && tag "p" != "" && tag "e" != "" &&
    (idFromHex (tag "e")).isSome &&
    hasPrefix (tag "d") ("intent-status:" ++ tag "p" ++ ":backup-run:") &&
    ["pending", "success", "error"].contains (tag "status")

def isLLMAcceptedStatusEvent (event : Event) : Bool :=
  let tag := outboxTag event.tags
  event.kind == nip38Status && tag "workflow" == "llm" && tag "domain" == "intent" &&
    tag "t" == "intent-status" && tag "status" == "accepted" && tag "p" != "" &&
    tag "intent_id" != "" && (idFromHex (tag "e")).isSome

def isLLMReleaseEvent (event : Event) : Bool :=
  let tag := outboxTag event.tags
  event.kind == casControlState && tag "domain" == "llm" && tag "t" == "llm-release" &&
    tag "legacy_kind" == "32015" && hasPrefix (tag "d") "llm:release:" && tag "deleted" == "false"

def isToolAcceptedStatusEvent (event : Event) : Bool :=
  let tag := outboxTag event.tags
  event.kind == nip38Status && tag "domain" == "intent" && tag "t" == "intent-status" &&
    tag "status" == "accepted" && tag "intent_id" != "" && tag "p" != "" &&
    (match cutPrefix (tag "d") ("intent-status:" ++ tag "p" ++ ":") with
      | some coordinate =>
        hasPrefix coordinate "tool-request:" || hasPrefix coordinate "tool-approval:"
      | none => false) &&
    (idFromHex (tag "e")).isSome

/-- The legacy kind, topic and coordinate start of each virtualization family. -/
def virtualizationFamilies : List (String × String × String) :=
  [("32045", "virtualization-host", "virtualization-host:"),
   ("32046", "virtualization-image", "vm-image:"),
   ("32047", "virtualization-vm", "persistent-vm:"),
   ("32048", "virtualization-operation", "vm-operation:")]

def isVirtualizationStateEvent (event : Event) : Bool :=
  let tag := outboxTag event.tags
  event.kind == casControlState && tag "domain" == "virtualization" &&
    tag "schema" == "bahia.cp-state.v1" &&
    (virtualizationFamilies.any fun family =>
      tag "legacy_kind" == family.1 && tag "t" == family.2.1 && hasPrefix (tag "d") family.2.2) &&
    (tag "deleted" == "true" || tag "deleted" == "false")

def isDeploymentPolicyEvent (event : Event) : Bool :=
  let tag := outboxTag event.tags
  event.kind == casControlState && tag "domain" == "policy" && tag "t" == "policy-registry" &&
    tag "d" != ""

def isBackupConfigEvent (event : Event) : Bool :=
  let tag := outboxTag event.tags
  event.kind == casControlState && tag "domain" == "backup" &&
    ["backup-recipe", "backup-repository", "backup-policy", "backup-definition"].contains (tag "t")

def isBackupRunStateEvent (event : Event) : Bool :=
  let tag := outboxTag event.tags
  event.kind == casControlState && tag "domain" == "backup" && tag "t" == "backup-run" &&
    tag "legacy_kind" == "31996" && tag "deleted" == "false"

/-- A terminal run status with the given outcome. -/
def isBackupRunStatusEvent (status : String) (event : Event) : Bool :=
  let tag := outboxTag event.tags
  event.kind == nip38Status && tag "domain" == "intent" && tag "t" == "intent-status" &&
    tag "status" == status && hasPrefix (tag "d") "intent-status:"

def isBackupRunAcceptedStatusEvent : Event → Bool := isBackupRunStatusEvent "accepted"

def isBackupRunRefusedStatusEvent : Event → Bool := isBackupRunStatusEvent "rejected"

def isBackupRunTerminalStatusEvent (event : Event) : Bool :=
  isBackupRunAcceptedStatusEvent event || isBackupRunRefusedStatusEvent event

def isProofEligibleEvent (event : Event) : Bool :=
  isBackupConfigEvent event || isBackupRunStateEvent event || isDeploymentPolicyEvent event ||
    isVirtualizationStateEvent event || isToolAcceptedStatusEvent event ||
    isLLMAcceptedStatusEvent event || isLLMReleaseEvent event ||
    isBackupRunLifecycleStatusEvent event

/-- A terminal status is eligible only once the ledger has staged it. -/
def isProofEligibleForRound (outbox : Outbox) (event : Event) : Bool :=
  isProofEligibleEvent event ||
    (isBackupRunTerminalStatusEvent event && (outbox.statusEvents.get (ID.hex event.id)).isSome)

def backupRunStatusClockKey (pubkey : PubKey) (actor coordinate : String) : Bytes :=
  pubkey.val ++ utf8 ("intent-status:" ++ actor ++ ":" ++ coordinate)

def Checks.backupRunStatusEventClockKey (checks : Checks) (event : Event) : Option Bytes :=
  let tag := outboxTag event.tags
  if event.kind != nip38Status || tag "domain" != "intent" || tag "t" != "intent-status" ||
      !checks.signed event then none
  else
    match cutPrefix (tag "d") ("intent-status:" ++ tag "p" ++ ":") with
    | none => none
    | some coordinate =>
      if tag "p" == "" then none
      else if hasPrefix coordinate "backup-run:" then
        some (backupRunStatusClockKey event.pubKey (tag "p") coordinate)
      else if (tag "status" == "rejected" || tag "status" == "conflict") &&
          tag "intent_id" != "" && tag "e" != "" &&
          tag "d" == intentPrivateStatusCoordinate (tag "p") "backup" (tag "intent_id") &&
          (idFromHex (tag "e")).isSome then
        some (backupRunStatusClockKey event.pubKey (tag "p") coordinate)
      else none

def backupRunStatusTimestampFloor (outbox : Outbox) (key : Bytes) : Timestamp :=
  (outbox.statusClock.get key).getD 0

def raiseStatusClock (outbox : Outbox) (key : Bytes) (createdAt : Timestamp) : Outbox :=
  if createdAt ≤ backupRunStatusTimestampFloor outbox key then outbox
  else { outbox with statusClock := outbox.statusClock.put key createdAt }

def Checks.recordBackupRunStatusTimestamp (checks : Checks) (outbox : Outbox) (event : Event) :
    Outbox :=
  match checks.backupRunStatusEventClockKey event with
  | none => outbox
  | some key => raiseStatusClock outbox key event.createdAt

def recordBackupRunCoordinateStatusTimestamp (outbox : Outbox) (event : Event)
    (coordinate : String) : Except String Outbox :=
  if !hasPrefix coordinate "backup-run:" then
    .error "backup run status clock requires a run coordinate"
  else
    .ok (raiseStatusClock outbox
      (backupRunStatusClockKey event.pubKey (outboxTag event.tags "p") coordinate) event.createdAt)

/-- `DeliveryProof.ValidFor`: the exact signed event, its target and a policy whose
distinct relays accepted it in the required number. -/
def Checks.validFor (checks : Checks) (proof : DeliveryProof) (event : Event) (target : String) :
    Bool :=
  proof.target == target && proof.event.id == event.id && proof.event.pubKey == event.pubKey &&
    proof.event.sig == event.sig && checks.signed event && checks.signed proof.event &&
    proof.acceptedAt.isSome && 1 ≤ proof.policy.required &&
    proof.policy.required ≤ proof.policy.writeRelays.length &&
    proof.relayOK.keys.length == proof.policy.writeRelays.length &&
    !proof.policy.writeRelays.contains "" && decide proof.policy.writeRelays.Nodup &&
    (proof.policy.writeRelays.all fun relay => (proof.relayOK.get relay).isSome) &&
    proof.policy.required ≤
      (proof.policy.writeRelays.countP fun relay => proof.relayOK.get relay == some true)

end Bahia.Localstore
