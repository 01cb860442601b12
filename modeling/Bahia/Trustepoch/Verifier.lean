import Bahia.Foundation.Bucket
import Bahia.Trustepoch.Epoch

/-! The verifier and its durable high-water mark. Accepting a head reads the mark, checks the
head against what was read, and then advances the mark. -/

namespace Bahia.Trustepoch
open Foundation Nostr

/-- The durable high-water mark of a service. -/
structure Accepted where
  epoch : Nat
  eventID : String
  oldPubkey : String
  newPubkey : String
  activated : Bool
  deriving DecidableEq

/-- The key that speaks for the service under this head. -/
def Accepted.currentKey (head : Accepted) : String :=
  if head.activated then head.newPubkey else head.oldPubkey

def Accepted.valid (head : Accepted) : Bool :=
  head.epoch != 0 && validHex64 head.eventID && validHex64 head.oldPubkey &&
    validHex64 head.newPubkey

def Epoch.accepted (body : Epoch) (ev : Event) : Accepted where
  epoch := body.epoch
  eventID := ID.hex ev.id
  oldPubkey := body.oldPubkey
  newPubkey := body.newPubkey
  activated := body.activated

abbrev Persistence := Bucket String Accepted

namespace Persistence

/-- `BoltPersistence.Last`; a fault is a cancelled context or a failing transaction. -/
def last (state : Persistence) (fault : Option String) (serviceID : String) :
    Except Failure (Option Accepted) :=
  match fault with
  | some cause => .error (.other ("read accepted trust epoch: " ++ cause))
  | none =>
    match state.get serviceID with
    | none => .ok none
    | some head =>
      if head.valid then .ok (some head)
      else .error (.other ("read accepted trust epoch: corrupt accepted epoch for service " ++
        quote serviceID))

/-- `BoltPersistence.Accept`: one transaction that refuses lower epochs and other heads of the
same epoch. -/
def accept (state : Persistence) (fault : Option String) (serviceID : String) (head : Accepted) :
    Except Failure Persistence :=
  if serviceID = "" || !head.valid then .error (.other "invalid accepted trust epoch")
  else
    match fault with
    | some cause => .error (.other cause)
    | none =>
      match state.get serviceID with
      | none => .ok (state.put serviceID head)
      | some prior =>
        if !prior.valid then .error (.other "corrupt accepted trust epoch")
        else if head.epoch < prior.epoch ∨ head.epoch = prior.epoch ∧ head.eventID ≠ prior.eventID then
          .error (.regression "")
        else if head.epoch = prior.epoch then
          if head = prior then .ok state else .error (.unverifiable "")
        else .ok (state.put serviceID head)

end Persistence

structure Verifier where
  operatorRoot : String
  legacyPubkey : String

def Verifier.configured (v : Verifier) : Bool :=
  validHex64 v.operatorRoot && validHex64 v.legacyPubkey && v.operatorRoot != v.legacyPubkey

/-- What a call meets: failing transactions, `ServiceIdentity` having a read of its own, and the
answer of the inventory, `none` when there is none, it fails or it answers nothing. -/
structure Meets where
  identityFault : Option String
  lastFault : Option String
  acceptFault : Option String
  inventory : Option (List String)

structure Resolution where
  serviceID : String
  pubkey : String
  epoch : Nat
  record : Option Epoch
  eventID : String
  inventory : Option (List String)

inductive Decision where
  | accept
  | hostile
  | preEpochAccepted
  deriving DecidableEq

def Resolution.judgeEvent (r : Resolution) (env : Environment) (ev : Event) : Decision :=
  if !env.checkID ev || !env.verifySignature ev then .hostile
  else if PubKey.hex ev.pubKey = r.pubkey then .accept
  else
    match r.record, r.inventory with
    | some record, some inventory =>
      if record.activated && PubKey.hex ev.pubKey == record.oldPubkey &&
          decide (ev.createdAt.val ≤ record.activationBarrier) && inventory.contains (ID.hex ev.id) then
        .preEpochAccepted
      else .hostile
    | _, _ => .hostile

namespace Verifier
variable (env : Environment) (v : Verifier)

def checkHead (last : Option Accepted) (head : Accepted) : Except Failure Unit :=
  match last with
  | some last =>
    if head.epoch < last.epoch then .error (.regression "")
    else if head.epoch = last.epoch ∧ head.eventID ≠ last.eventID then
      .error (.regression "conflicting same-epoch head")
    else if head.epoch = last.epoch ∧ (head.oldPubkey ≠ last.oldPubkey ∨
        head.newPubkey ≠ last.newPubkey ∨ head.activated ≠ last.activated) then
      .error (.unverifiable "accepted head state differs")
    else if last.epoch < head.epoch ∧ head.oldPubkey ≠ last.currentKey then
      .error (.unverifiable "broken key chain")
    else .ok ()
  | none =>
    if head.oldPubkey ≠ v.legacyPubkey then
      .error (.unverifiable "old key is not configured legacy key")
    else .ok ()

/-- What is resolved from an accepted head; only an activated one has an inventory. -/
def resolution (serviceID : String) (ev : Event) (body : Epoch) (ids : Option (List String)) :
    Resolution where
  serviceID
  pubkey := (body.accepted ev).currentKey
  epoch := body.epoch
  record := some body
  eventID := ID.hex ev.id
  inventory :=
    if body.activated then
      (checkInventory env ids body.inventoryDigest body.inventoryCount).toOption
    else none

/-- `AcceptHead` after its read: the checks and the transaction that advances the mark. -/
def finishAccept (state : Persistence) (meets : Meets) (serviceID : String) (ev : Event)
    (last : Option Accepted) : Persistence × Except Failure Resolution :=
  match parse env ev serviceID v.operatorRoot with
  | .error failure => (state, .error failure)
  | .ok body =>
    match v.checkHead last (body.accepted ev) with
    | .error failure => (state, .error failure)
    | .ok () =>
      match state.accept meets.acceptFault serviceID (body.accepted ev) with
      | .error failure => (state, .error failure)
      | .ok next => (next, .ok (resolution env serviceID ev body meets.inventory))

/-- `AcceptHead`, its two transactions one after the other. -/
def acceptHead (state : Persistence) (meets : Meets) (serviceID : String) (ev : Event) :
    Persistence × Except Failure Resolution :=
  if !v.configured then (state, .error (.unverifiable "verifier configuration"))
  else
    match state.last meets.lastFault serviceID with
    | .error failure => (state, .error failure)
    | .ok last => v.finishAccept env state meets serviceID ev last

inductive Head where
  | failed (cause : String)
  | absent
  | missing
  | present (ev : Event)

/-- `ServiceIdentity`: absence is legacy only before any epoch has been accepted. -/
def serviceIdentity (state : Persistence) (meets : Meets) (source : Head) (serviceID : String) :
    Persistence × Except Failure Resolution :=
  if serviceID = "" || !v.configured then (state, .error (.unverifiable "verifier configuration"))
  else
    match state.last meets.identityFault serviceID with
    | .error failure => (state, .error failure)
    | .ok last =>
      match source with
      | .failed cause => (state, .error (.other ("resolve trust epoch: " ++ cause)))
      | .absent =>
        if last.isSome then (state, .error (.regression "accepted head disappeared"))
        else (state, .ok ⟨serviceID, v.legacyPubkey, 0, none, "", none⟩)
      | .missing => (state, .error (.unverifiable "nil head"))
      | .present ev => v.acceptHead env state meets serviceID ev

def judgeEvent (state : Persistence) (meets : Meets) (source : Head) (serviceID : String)
    (ev : Event) : Persistence × Decision × Option Failure :=
  match v.serviceIdentity env state meets source serviceID with
  | (next, .error failure) => (next, .hostile, some failure)
  | (next, .ok r) => (next, r.judgeEvent env ev, none)

/-- `JudgeServiceEvent`; the flag tells events of the service from those of others. -/
def judgeServiceEvent (state : Persistence) (meets : Meets) (source : Head) (serviceID : String)
    (ev : Event) : Persistence × Decision × Bool × Option Failure :=
  match v.serviceIdentity env state meets source serviceID with
  | (next, .error failure) => (next, .hostile, true, some failure)
  | (next, .ok r) =>
    let author := PubKey.hex ev.pubKey
    let old := match r.record with
      | some record => record.oldPubkey
      | none => v.legacyPubkey
    if author ≠ old ∧ author ≠ v.legacyPubkey ∧ author ≠ r.pubkey then (next, .accept, false, none)
    else (next, r.judgeEvent env ev, true, none)

end Verifier

end Bahia.Trustepoch
