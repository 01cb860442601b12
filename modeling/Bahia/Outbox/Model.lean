import Bahia.Foundation.Bucket
import Bahia.Nostr.Address

/-! The rows of the durable publish outbox and the byte keys of its indexes. -/

namespace Bahia.Localstore
open Foundation Nostr

/-- An instant in nanoseconds; `none` is the zero `time.Time`. -/
abbrev Time := Option SInt64

/-- `UnixNano`; the zero time overflows the 64-bit range. -/
def Time.unixNano : Time → SInt64
  | some nanos => nanos
  | none => SInt64.wrap (-62135596800 * 10 ^ 9)

def Time.after : Time → Time → Bool
  | some first, some second => second < first
  | some _, none => true
  | none, _ => false

/-- `IsZero` decides whether the caller's clock reading is used instead. -/
def Time.orNow (time : Time) (now : SInt64) : Time := some (time.getD now)

/-- The write-relay policy at the instant an event reached quorum. -/
structure DeliveryPolicy where
  writeRelays : List String
  required : Int
  deriving DecidableEq

def DeliveryPolicy.none : DeliveryPolicy := ⟨[], 0⟩

structure RelayDelivery where
  accepted : Bool
  rejected : String
  lastError : String
  seenDialFailure : Time
  deriving DecidableEq

def RelayDelivery.fresh : RelayDelivery := ⟨false, "", "", .none⟩

abbrev RelayDeliveries := Bucket String RelayDelivery

inductive EntryState where
  | pending
  | published
  | failed
  deriving DecidableEq

def EntryState.text : EntryState → String
  | .pending => "pending"
  | .published => "published"
  | .failed => "failed"

structure OutboxEntry where
  event : Event
  target : String
  entityType : String
  entityID : String
  enqueuedAt : Time
  state : EntryState
  rounds : Int
  delivered : Bool
  policy : DeliveryPolicy
  lastError : String
  settledAt : Time
  relays : RelayDeliveries

/-- The state a caller reports for a round; anything else is refused. -/
inductive RoundState where
  | blank
  | reported (state : EntryState)
  | unknown (text : String)
  deriving DecidableEq

structure OutboxRound where
  target : String
  rounds : Int
  relays : RelayDeliveries
  delivered : Bool
  policy : DeliveryPolicy
  state : RoundState
  detail : String
  atTime : Time

/-- The retained receipt of the quorum that accepted an event. -/
structure DeliveryProof where
  event : Event
  target : String
  policy : DeliveryPolicy
  relayOK : Bucket String Bool
  acceptedAt : Time

/-- The correlation between one operator request and its first run state. -/
structure BackupRunAdmission where
  intentID : String
  coordinate : String
  requestEventID : String
  stateEventID : String
  target : String
  actor : String
  servicePubkey : String
  delivered : Bool
  statusEventID : String
  statusTarget : String
  statusOutcome : String
  statusDelivered : Bool
  deriving DecidableEq

inductive BackupRunState where
  | pending
  | accepted
  | refused
  deriving DecidableEq

/-- A signed operator request and its admission progress. -/
structure BackupRunPending where
  intentID : String
  coordinate : String
  requestEvent : Event
  actor : String
  servicePubkey : String
  receivedAt : Time
  expiresAt : Time
  nextAttemptAt : Time
  attempts : Int
  lastFailure : String
  state : BackupRunState
  statusEventID : String
  statusTarget : String
  statusDelivered : Bool
  deriving DecidableEq

structure Outbox where
  entries : Bucket ID OutboxEntry
  pending : Bucket Bytes Unit
  published : Bucket Bytes Unit
  failed : Bucket Bytes Unit
  coordinates : Bucket Bytes Unit
  deliveryProofs : Bucket ID DeliveryProof
  intents : Bucket String BackupRunAdmission
  coords : Bucket String String
  events : Bucket String String
  statusEvents : Bucket String String
  statusClock : Bucket Bytes Timestamp
  backupPending : Bucket String BackupRunPending
  pendingCoords : Bucket String String
  pendingEvents : Bucket String String
  due : Bucket Bytes Unit
  refusals : Bucket String Unit

/-- What a handle knows beside the file. `evidenceHold` is the atomic flag as the
successive loads of one call see it. -/
structure Handle where
  readOnly : Bool
  movedFrom : String
  evidenceHold : Nat → Bool

def Handle.writable : Handle := ⟨false, "", fun _ => false⟩

def errReadOnly : String := "outbox is open read-only"

def outboxCoordinatesReady : Bytes := utf8 "index-ready"

/-- A file `openOutboxDB` has just created. -/
def Outbox.fresh : Outbox where
  entries := ∅
  pending := ∅
  published := ∅
  failed := ∅
  coordinates := (∅ : Bucket Bytes Unit).put outboxCoordinatesReady ()
  deliveryProofs := ∅
  intents := ∅
  coords := ∅
  events := ∅
  statusEvents := ∅
  statusClock := ∅
  backupPending := ∅
  pendingCoords := ∅
  pendingEvents := ∅
  due := ∅
  refusals := ∅

/-- `pendingKey` orders one target's pending entries by enqueue time, then id. -/
def pendingKey (target : String) (enqueuedAt : Time) (id : ID) : Bytes :=
  utf8 target ++ [0] ++ enqueuedAt.unixNano.bigEndian ++ id.val

/-- `settledKey` orders settled entries by settle time, then id. -/
def settledKey (atTime : Time) (id : ID) : Bytes :=
  atTime.unixNano.bigEndian ++ id.val

def outboxCoordinatePrefix (target : String) (kind : Kind) (author : PubKey) (d : String) : Bytes :=
  bigEndian 4 (target.utf8ByteSize % 2 ^ 32) ++ utf8 target ++ bigEndian 4 kind.val ++
    author.val ++ bigEndian 4 (d.utf8ByteSize % 2 ^ 32) ++ utf8 d

/-- The complement puts the newest version of a coordinate first. -/
def outboxCoordinateKey (target : String) (event : Event) : Option Bytes :=
  if !Kind.isAddressable event.kind then none
  else if !hasPrefix (Tags.getD event.tags) "artifact:sbom-package:" then none
  else some (outboxCoordinatePrefix target event.kind event.pubKey (Tags.getD event.tags) ++
    bigEndian 8 (2 ^ 64 - 1 - event.createdAt.toUint64) ++ event.id.val)

def backupRunDueKey (record : BackupRunPending) : Bytes :=
  let due : Time := match record.nextAttemptAt with
    | some next => some next
    | none => record.receivedAt
  bigEndian 8 ((due.unixNano.toUint64 + 2 ^ 63) % 2 ^ 64) ++ utf8 record.intentID

end Bahia.Localstore
