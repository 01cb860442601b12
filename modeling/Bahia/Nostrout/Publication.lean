import Bahia.Nostrout.Admission

/-! Publications and the attempts that the admission lock covers: beginning one, waiting for
a lane or a relay, and sending opaquely. -/

namespace Bahia.Nostrout
open Foundation Nostr

structure Publication where
  op : Option Nat
  eventID : String
  purpose : Purpose
  relays : Destinations
  cached : List Result
  generation : Nat
  registered : Bool
  closed : Bool

namespace Publication

/-- The in-flight keys of a publication; an event without id has none. -/
def keys (publication : Publication) : Finset ReceiptKey :=
  if publication.eventID = "" then ∅
  else (publication.relays.val.map fun relay => ⟨publication.eventID, relay⟩).toFinset

def hasRelay (publication : Publication) (relay : String) : Bool := relay ∈ publication.relays.val

def registerLocked (publication : Publication) (a : Admission) (now : Instant)
    (orders : String → List String) : Admission × Except Failure Publication :=
  match Registry.reserve a.limits now orders [] publication.relays.val a.relays with
  | (relays, false) => ({ a with relays }, .error (.capacity "relay identity registry full"))
  | (relays, true) =>
    ({ a with relays, inflight := a.inflight ∪ publication.keys, active := a.active + 1 },
      .ok { publication with registered := true })

def unregisterLocked (publication : Publication) (a : Admission) : Admission :=
  if publication.registered then
    { a with
      relays := publication.relays.val.foldl Registry.releaseRef a.relays
      inflight := a.inflight \ publication.keys
      active := a.active - 1 }
  else a

end Publication

/-- What a call meets outside the controller: its context, the kill-switch file, the order in
which the registry is iterated for a new relay, and the random part of a cooldown. -/
structure Meets where
  cancelled : Bool
  killSwitch : KillSwitchFile
  orders : String → List String
  jitter : Duration

inductive Try where
  | failed (failure : Failure)
  | wait (time : Duration)
  | admitted
  | panicked
  deriving DecidableEq

namespace Admission

/-- The checks of `beginLocked` before it looks at the destinations. -/
def refusesBegin (a : Admission) (now : Instant) (meets : Meets) (op : Option (Nat × Instant)) :
    Option Failure :=
  match a.killSwitchLocked meets.killSwitch with
  | .error failure => some failure
  | .ok () =>
    if op.isNone && 0 < a.breakerWaitLocked now then some (.circuitOpen a.breakerUntil)
    else if op.any fun op => !(now < op.2) then some .operationDeadline
    else none

/-- A publication of the destinations that still need the event. -/
def draftPublication (a : Admission) (now : Instant) (op : Option (Nat × Instant)) (event : Event)
    (relays : Destinations) : Publication :=
  let eventID := eventKeyID event
  let accepted (relay : String) : Bool := eventID ≠ "" && a.hasReceiptLocked now ⟨eventID, relay⟩
  { op := op.map Prod.fst
    eventID
    purpose := if op.isSome then .bulk else purposeForEvent event
    relays := ⟨relays.val.filter fun relay => !accepted relay, relays.property.filter _⟩
    cached := (relays.val.filter accepted).map fun relay =>
      ⟨relay, false, cachedDuplicateReason, true⟩
    generation := 0
    registered := false
    closed := false }

/-- `beginLocked` up to the wait for a lane: the slot, the keys and the relay identities are
reserved first. -/
def beginLocked (a : Admission) (now : Instant) (meets : Meets) (op : Option (Nat × Instant))
    (event : Event) (relays : Destinations) : Admission × Except Failure Publication :=
  match a.refusesBegin now meets op with
  | some failure => (a, .error failure)
  | none =>
    let a := a.pruneReceiptsLocked now
    let draft := a.draftPublication now op event relays
    if draft.relays.val = [] then (a, .ok { draft with closed := true })
    else if draft.eventID ≠ "" ∧ ∃ relay ∈ draft.relays.val, ⟨draft.eventID, relay⟩ ∈ a.inflight then
      (a, .error .inFlight)
    else if a.limits.maxActive ≤ a.active then
      (a, .error (.capacity (toString a.active ++ " active publications")))
    else draft.registerLocked a now meets.orders

/-- One round of a paced publication's wait for the bulk lane. -/
def tryBulk (a : Admission) (now : Instant) (meets : Meets) (closed : Bool) : Admission × Try :=
  if closed then (a, .failed (.operation "operation closed while waiting for admission"))
  else
    match a.killSwitchLocked meets.killSwitch with
    | .error failure => (a, .failed failure)
    | .ok () =>
      if 0 < a.breakerWaitLocked now then (a, .wait (a.breakerWaitLocked now))
      else
        let waited := a.laneWaitLocked now .bulk
        if 0 < waited.2 then (waited.1, .wait waited.2) else (waited.1, .admitted)

/-- One round of an attempt to send a frame of `publication` to `relay`. -/
def tryAttempt (a : Admission) (now : Instant) (meets : Meets) (publication : Publication)
    (operationClosed : Bool) (relay : String) : Admission × Try :=
  if publication.closed || operationClosed then
    (a, .failed (.operation "publication closed while waiting to send"))
  else
    match a.killSwitchLocked meets.killSwitch with
    | .error failure => (a, .failed failure)
    | .ok () =>
      if 0 < a.breakerWaitLocked now then
        if publication.op.isNone then (a, .failed (.circuitOpen a.breakerUntil))
        else (a, .wait (a.breakerWaitLocked now))
      else
        let waited := a.relays.waitWire now publication.purpose.isPriority relay
        match waited.2 with
        | none => (a, .panicked)
        | some time =>
          if 0 < time then
            ({ a with relays := waited.1 },
              if publication.op.isNone then
                .failed (.budgetExceeded ("relay " ++ relay ++ " wire budget"))
              else .wait time)
          else
            ({ a with relays := waited.1.spendWire publication.purpose.isPriority relay }, .admitted)

/-- One round of an opaque publication: the lane and every relay must be ready together. -/
def tryOpaque (a : Admission) (now : Instant) (meets : Meets) (purpose : Purpose)
    (relays : Destinations) : Admission × Try :=
  match a.killSwitchLocked meets.killSwitch with
  | .error failure => (a, .failed failure)
  | .ok () =>
    let lanes := a.lanesWait now purpose
    let waited := Registry.waitWires now purpose.isPriority relays.val
      (lanes.1.relays, max (a.breakerWaitLocked now) lanes.2)
    if 0 < waited.2 then ({ lanes.1 with relays := waited.1 }, .wait waited.2)
    else
      ({ lanes.1.spendLanes purpose with
          relays := relays.val.foldl (Registry.spendWire · purpose.isPriority) waited.1 },
        .admitted)

/-- `AdmitAuth` under the lock: both budgets are checked before either is spent. -/
def authLocked (a : Admission) (now : Instant) (meets : Meets) (relay : String) : Admission × Try :=
  match a.killSwitchLocked meets.killSwitch with
  | .error failure => (a, .failed failure)
  | .ok () =>
    if 0 < a.breakerWaitLocked now then (a, .failed (.circuitOpen a.breakerUntil))
    else
      match Registry.relayBucketLocked a.limits now (meets.orders relay) a.relays relay with
      | (relays, false) => ({ a with relays }, .failed (.capacity "relay identity registry full"))
      | (relays, true) =>
        let lanes := lanesWait { a with relays } now .priority
        let waited := lanes.1.relays.waitWire now true relay
        let time := waited.2.getD 0
        let settled := { lanes.1 with relays := waited.1 }
        if 0 < time then
          (settled, .failed (.budgetExceeded ("relay " ++ relay ++ " AUTH wire budget")))
        else if 0 < lanes.2 then (settled, .failed (.budgetExceeded ""))
        else
          ({ settled.spendLanes .priority with relays := waited.1.spendWire true relay }, .admitted)

/-- The head of the wait loop: cancellation and the deadline are looked at before a try, so
an expired waiter spends nothing. -/
def awaitLocked (a : Admission) (meets : Meets) (deadline now : Instant)
    (attempt : Admission × Try) : Admission × Try :=
  if meets.cancelled then (a, .failed .context)
  else if deadline ≠ 0 ∧ ¬now < deadline then (a, .failed .queueTimeout)
  else attempt

end Admission

def wakeAt (now deadline : Instant) (time : Duration) : Instant :=
  now + if deadline = 0 then time else min time (Instant.sub deadline now)

end Bahia.Nostrout
