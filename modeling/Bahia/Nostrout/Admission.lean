import Bahia.Foundation.Streams
import Bahia.Nostrout.Registry

/-! The outbound admission controller: its lanes, circuit breaker, kill switch, receipts and
the reasons it refuses for. Telemetry counters are left out. -/

namespace Bahia.Nostrout
open Foundation Nostr

inductive Failure where
  | context
  | noDestinations
  | killSwitch (cause : Option String)
  | circuitOpen (until' : Instant)
  | budgetExceeded (detail : String)
  | inFlight
  | capacity (detail : String)
  | queueFull (detail : String)
  | queueTimeout
  | operation (detail : String)
  | operationDeadline
  deriving DecidableEq, Repr

/-- A wait that ran into the deadline of an operation. -/
def operationDeadlineError : Failure → Failure
  | .queueTimeout => .operationDeadline
  | failure => failure

inductive KillSwitchFile where
  | inactive
  | active
  | unreadable (cause : String)
  deriving DecidableEq

structure ReceiptKey where
  eventID : String
  relay : String
  deriving DecidableEq

structure Receipt where
  key : ReceiptKey
  acceptedAt : Instant
  deriving DecidableEq

structure Result where
  relayURL : String
  accepted : Bool
  reason : String
  cached : Bool
  deriving DecidableEq

def isRateLimitedReason (reason : String) : Bool := hasPrefix (trimSpace reason) "rate-limited:"

def isDuplicateReason (reason : String) : Bool := hasPrefix reason "duplicate:"

def Result.isRateLimited (result : Result) : Bool := isRateLimitedReason result.reason

def Result.succeeded (result : Result) : Bool := result.accepted || isDuplicateReason result.reason

def cachedDuplicateReason : String :=
  "duplicate: suppressed locally; relay accepted this event recently"

/-- Distinct relay identities, in the order they were named. -/
abbrev Destinations := {relays : List String // relays.Nodup}

def normalizeRelayList (normalizeRelayURL : String → String) (urls : List String) : Destinations :=
  ⟨firstOfEach id ((urls.map normalizeRelayURL).filter (· ≠ "")), firstOfEach_distinct id _⟩

/-- The controller, without its operation slot. Receipts are kept oldest first. -/
structure Admission where
  limits : Limits
  aggregate : TokenBucket
  lanes : Purpose → TokenBucket
  relays : Registry
  breakerDelay : Duration
  breakerUntil : Instant
  breakerGeneration : Nat
  runtimeKilled : Bool
  receipts : List Receipt
  inflight : Finset ReceiptKey
  active : Int
  opaqueWaiters : Int

def newAdmission (config : Config) (now : Instant) : Admission where
  limits := normalizeConfig config
  aggregate := newBucket (normalizeConfig config).aggregate now
  lanes := fun purpose => newBucket ((normalizeConfig config).purposeBudgets purpose) now
  relays := ∅
  breakerDelay := 0
  breakerUntil := 0
  breakerGeneration := 0
  runtimeKilled := false
  receipts := []
  inflight := ∅
  active := 0
  opaqueWaiters := 0

namespace Admission

/-- The runtime fence, then the operator's file; what cannot be read counts as active. -/
def killSwitchLocked (a : Admission) (file : KillSwitchFile) : Except Failure Unit :=
  if a.runtimeKilled then .error (.killSwitch none)
  else
    match file with
    | .unreadable cause => .error (.killSwitch (some cause))
    | .active => .error (.killSwitch none)
    | .inactive => .ok ()

def breakerWaitLocked (a : Admission) (now : Instant) : Duration :=
  if now < a.breakerUntil then Instant.sub a.breakerUntil now else 0

/-- A rate-limit response doubles the cooldown, within its bounds. -/
def openBreakerLocked (a : Admission) (now : Instant) (jitter : Duration) : Admission :=
  let delay :=
    if a.breakerDelay < a.limits.breakerMin then a.limits.breakerMin
    else min (2 * a.breakerDelay) a.limits.breakerMax
  { a with
    breakerGeneration := a.breakerGeneration + 1
    breakerDelay := delay
    breakerUntil := max a.breakerUntil (now + (delay + jitter)) }

/-- A success admitted before a newer rate limit does not reset the cooldown. -/
def closeBreakerLocked (a : Admission) (now : Instant) (generation : Nat) : Admission :=
  if generation ≠ a.breakerGeneration ∨ now < a.breakerUntil then a else { a with breakerDelay := 0 }

/-- Refill the aggregate and a lane, and read the longer of their waits. -/
def lanesWait (a : Admission) (now : Instant) (purpose : Purpose) : Admission × Duration :=
  ({ a with
      aggregate := (a.aggregate.wait now).1
      lanes := Function.update a.lanes purpose ((a.lanes purpose).wait now).1 },
    max (a.aggregate.wait now).2 ((a.lanes purpose).wait now).2)

def spendLanes (a : Admission) (purpose : Purpose) : Admission :=
  { a with
    aggregate := a.aggregate.spend
    lanes := Function.update a.lanes purpose (a.lanes purpose).spend }

def laneWaitLocked (a : Admission) (now : Instant) (purpose : Purpose) : Admission × Duration :=
  let waited := a.lanesWait now purpose
  if 0 < waited.2 then waited else (waited.1.spendLanes purpose, 0)

/-- The oldest receipts go while there are too many or they are too old. -/
def freshReceipts (limits : Limits) (now : Instant) : List Receipt → List Receipt
  | [] => []
  | front :: rest =>
    if (rest.length + 1 : Int) ≤ limits.duplicateLimit ∧
        Instant.sub now front.acceptedAt ≤ limits.duplicateTTL then front :: rest
    else freshReceipts limits now rest

def pruneReceiptsLocked (a : Admission) (now : Instant) : Admission :=
  { a with receipts := freshReceipts a.limits now a.receipts }

def storeReceiptLocked (a : Admission) (now : Instant) (key : ReceiptKey) : Admission :=
  pruneReceiptsLocked
    { a with receipts := a.receipts.filter (fun receipt => receipt.key ≠ key) ++ [⟨key, now⟩] } now

def hasReceiptLocked (a : Admission) (now : Instant) (key : ReceiptKey) : Bool :=
  match a.receipts.find? fun receipt => receipt.key = key with
  | none => false
  | some receipt => Instant.sub now receipt.acceptedAt ≤ a.limits.duplicateTTL

end Admission

end Bahia.Nostrout
