import Bahia.Boltcoord.Query

/-! The daemon's event replica: saving under latest-wins and deletion requests, removal and
pruning, and the markers of events whose delivery was abandoned. -/

namespace Bahia.Localstore
open Foundation Nostr Boltdb Boltcoord

structure Undelivered where
  coordinate : String
  eventID : ID
  kind : Kind
  createdAt : Timestamp
  /-- Nanoseconds since the epoch. -/
  failedAt : SInt64
  detail : String
  deriving DecidableEq

structure Store where
  coords : Boltcoord.Store
  deletions : Rows
  undelivered : Bucket String Undelivered
  assistantCheckpointAccepted : Bucket ID Unit
  evidenceHold : Bool

def Store.empty : Store := ⟨⟨BoltBackend.empty, ∅⟩, ∅, ∅, ∅, false⟩

def Store.Holds (s : Store) (event : Event) : Prop := s.coords.backend.Holds event

/-- What the code takes from outside: the eventstore's index, the curve's key check, the hash of the
index keys, the check of ids and signatures, and the trust hook's refusal. -/
structure Environment where
  index : Index
  validKey : PubKey → Bool
  sha256 : Bytes → FixedBytes 32
  signed : Event → Bool
  admission : Event → Option String

def queryPageSize : Nat := 1000

/-- One page: the events not seen yet are yielded, until none remains to be yielded. With them, the
ids seen and what remains, unless the read has ended. -/
def yieldPage (seen : List ID) (remaining : Option Nat) :
    List Event → List Event × Option (List ID × Option Nat)
  | [] => ([], some (seen, remaining))
  | ev :: rest =>
    if ev.id ∈ seen then yieldPage seen remaining rest
    else if remaining = some 1 then ([ev], none)
    else
      let later := yieldPage (seen ++ [ev.id]) (remaining.map (· - 1)) rest
      (ev :: later.1, later.2)

/-- The filter and the size of the page after a full one. The bound is inclusive. -/
def nextPage (page : Filter) (pageSize : Nat) (events yielded : List Event) : Filter × Nat :=
  if yielded = [] then (page, pageSize * 2)
  else ({ page with upTo := (events.getLast?.map Event.createdAt).getD page.upTo }, pageSize)

section Loop
variable (backend : Filter → Nat → List Event)

def readPages : Nat → Filter × Nat → List ID → Option Nat → Option (List Event)
  | 0, _, _, _ => none
  | fuel + 1, (page, pageSize), seen, remaining =>
    let events := backend page pageSize
    match yieldPage seen remaining events with
    | (yielded, none) => some yielded
    | (yielded, some (seen, remaining)) =>
      if events.length < pageSize then some yielded
      else (readPages fuel (nextPage page pageSize events yielded) seen remaining).map (yielded ++ ·)

def remainingOf (limit : Int) : Option Nat := if 0 < limit then some limit.toNat else none

def pagedQuery (fuel pageSize : Nat) (filter : Filter) (limit : Int) : Option (List Event) :=
  readPages backend fuel ({ filter with limit := 0 }, pageSize) [] (remainingOf limit)

end Loop

/-- The store's `pagedQuery`, with as many pages as it can come to: each yields an event or is twice as
large as the last one. -/
def Store.pagedQuery (index : Index) (s : Store) (filter : Filter) (limit : Option Nat) : List Event :=
  (Localstore.pagedQuery (s.coords.backend.queryEvents index)
    (2 * s.coords.backend.events.values.length + 2) queryPageSize filter (limit.getD 0)).getD []

namespace Environment
variable (env : Environment)

def queryEvents (s : Store) (filter : Filter) : List Event :=
  match filter.ids with
  | some (id :: ids) => s.coords.backend.queryEvents env.index filter (id :: ids).length
  | _ =>
    let limit := if 0 < filter.limit then some filter.limit else none
    if needsTagIndex filter then s.coords.query env.sha256 (s.pagedQuery env.index) filter limit
    else s.pagedQuery env.index filter limit

def scan (s : Store) : Scan := fun filter limit =>
  env.queryEvents s { filter with limit := limit.getD 0 }

end Environment

/-- The marker key: the coordinate of a replaceable or addressable event, else its id. -/
def undeliveredKey (event : Event) : String :=
  if Kind.isReplaceable event.kind || Kind.isAddressable event.kind then
    (coordinateOf event).string
  else ID.hex event.id

def olderThan (marker : Undelivered) (event : Event) : Bool :=
  if marker.createdAt ≠ event.createdAt then marker.createdAt < event.createdAt
  else event.id < marker.eventID

def newerThan (first second : Event) : Bool :=
  if first.createdAt ≠ second.createdAt then second.createdAt < first.createdAt
  else first.id ≠ second.id && first.id < second.id

namespace Store

/-- Delete the marker on the event's coordinate unless it must stay. -/
def clearUndeliveredUnless (s : Store) (event : Event) (keep : Undelivered → Bool) :
    Store × Bool :=
  match s.undelivered.get (undeliveredKey event) with
  | some existing =>
    if keep existing then (s, false)
    else ({ s with undelivered := s.undelivered.delete (undeliveredKey event) }, true)
  | none => (s, false)

/-- A publish quorum accepted the event: its marker goes, one for a newer event stays. -/
def clearUndelivered (s : Store) (event : Event) : Store × Bool :=
  s.clearUndeliveredUnless event fun existing =>
    existing.eventID != event.id && !olderThan existing event

def clearSupersededUndelivered (s : Store) (event : Event) : Store × Bool :=
  s.clearUndeliveredUnless event fun existing => !olderThan existing event

def hasLocked (s : Store) (id : ID) : Bool :=
  !(s.coords.backend.queryByIds [id]).isEmpty

end Store

namespace Environment
variable (env : Environment)

/-- The outbox abandoned the event. Nothing is recorded when a newer version is stored or
marked. -/
def markUndelivered (s : Store) (event : Event) (detail : String) (failedAt : SInt64) :
    Store × Bool :=
  let superseded := (Kind.isReplaceable event.kind || Kind.isAddressable event.kind) &&
    (latestVersion (env.scan s) (coordinateOf event)).any (newerThan · event)
  let key := undeliveredKey event
  let kept := (s.undelivered.get key).any fun existing =>
    existing.eventID != event.id && !olderThan existing event
  if superseded || kept then (s, false)
  else
    ({ s with
        undelivered := s.undelivered.put key
          ⟨key, event.id, event.kind, event.createdAt, failedAt, detail⟩ }, true)

def deletedLocked (s : Store) (event : Event) : Bool :=
  if event.kind = kindDeletion then false
  else
    let byID : Filter :=
      { kinds := some [kindDeletion], authors := some [event.pubKey]
        tags := [("e", [ID.hex event.id])], limit := 1 }
    if !(env.queryEvents s byID).isEmpty then true
    else if !Kind.isReplaceable event.kind && !Kind.isAddressable event.kind then false
    else DeletionIndex.deleted env.sha256 s.deletions (coordinateOf event) event.createdAt

def errDupEvent : String := "duplicate: event already exists"

/-- Index, apply and store a deletion request; one that cannot be stored is unindexed. -/
def saveDeletionLocked (s : Store) (request : Event) : Store × Except String Unit :=
  let indexed := DeletionIndex.index env.sha256 env.validKey s.deletions request
  let (applied, _) := s.coords.applyDeletion env.sha256 env.validKey (env.scan s) request
  let (coords, stored) := applied.save env.sha256 request
  if stored then ({ s with coords := coords, deletions := indexed }, .ok ())
  else
    ({ s with
        coords := coords
        deletions := DeletionIndex.unindex env.sha256 env.validKey indexed request },
      .error errDupEvent)

def saveEvent (s : Store) (event : Event) : Store × Except String Bool :=
  match env.admission event with
  | some refusal => (s, .error refusal)
  | none =>
    if Kind.isEphemeral event.kind then (s, .ok true)
    else if s.hasLocked event.id then (s, .ok false)
    else if env.deletedLocked s event then (s, .ok false)
    else if event.kind = kindDeletion then
      match env.saveDeletionLocked s event with
      | (saved, .ok _) => (saved, .ok true)
      | (saved, .error text) =>
        (saved, .error ("save local deletion request " ++ ID.hex event.id ++ ": " ++ text))
    else if Kind.isReplaceable event.kind || Kind.isAddressable event.kind then
      let (coords, stored) := s.coords.replace env.sha256 env.index (env.scan s) event
      let replaced := { s with coords := coords }
      (if stored then (replaced.clearSupersededUndelivered event).1 else replaced, .ok stored)
    else
      let (coords, stored) := s.coords.save env.sha256 event
      ({ s with coords := coords }, .ok stored)

/-- Remove one event. A removed deletion request is unindexed; an accepted assistant
checkpoint stays. -/
def deleteEvent (s : Store) (id : ID) : Store × Except String Unit :=
  match s.coords.backend.queryByIds [id] with
  | [] => (s, .ok ())
  | held :: _ =>
    if held.id ≠ id then (s, .ok ())
    else if id ∈ s.assistantCheckpointAccepted then
      (s, .error ("accepted assistant checkpoint " ++ ID.hex id ++ " cannot be deleted"))
    else
      let deletions :=
        if held.kind = kindDeletion then
          DeletionIndex.unindex env.sha256 env.validKey s.deletions held
        else s.deletions
      ({ s with coords := s.coords.delete env.sha256 held, deletions := deletions }, .ok ())

def assistantExecutionCheckpointKind : Kind := 4903

def lastTag (tags : Tags) (key : String) : String :=
  tags.foldl (fun found tag =>
    match tag with
    | name :: value :: _ => if name = key then value else found
    | _ => found) ""

/-- Execution-journal evidence, kept by every pruning. -/
def assistantCheckpointEvent (event : Event) : Bool :=
  event.kind == assistantExecutionCheckpointKind &&
    lastTag event.tags "domain" == "assistant" &&
    lastTag event.tags "type" == "execution-checkpoint" &&
    lastTag event.tags "schema" == "bahia.audit.assistant-execution-checkpoint.v1"

def markAssistantCheckpointAccepted (s : Store) (id : ID) : Store × Except String Unit :=
  let held := (s.coords.backend.queryByIds [id]).getLast?
  if held.any fun event => assistantCheckpointEvent event && env.signed event then
    ({ s with assistantCheckpointAccepted := s.assistantCheckpointAccepted.put id () }, .ok ())
  else (s, .error ("assistant checkpoint " ++ ID.hex id ++ " is not a retained signed event"))

def deleteCollected (text : String) : Store → List ID → Nat → Store × Nat × Option String
  | s, [], count => (s, count, none)
  | s, id :: rest, count =>
    if s.evidenceHold then (s, count, none)
    else
      match env.deleteEvent s id with
      | (removed, .ok _) => deleteCollected text removed rest (count + 1)
      | (kept, .error reason) => (kept, count, some (text ++ ID.hex id ++ ": " ++ reason))

/-- Delete regular events created before `cutoff` seconds, but requests and checkpoints. -/
def pruneRegularEvents (s : Store) (cutoff : Timestamp) : Store × Nat × Option String :=
  if s.evidenceHold || cutoff ≤ 0 then (s, 0, none)
  else
    let expired := (env.queryEvents s { upTo := SInt64.wrap (cutoff.val - 1) }).filter fun event =>
      Kind.isRegular event.kind && event.kind != kindDeletion && !assistantCheckpointEvent event
    env.deleteCollected "prune local event " s (expired.map Event.id) 0

def expirationOf (event : Event) : Option Timestamp :=
  match Tags.find event.tags "expiration" with
  | some text => (parseInt (trimSpace text)).filter (0 < ·)
  | none => none

/-- Delete events of any kind whose expiration is at or before `now` seconds. -/
def pruneExpiredEvents (s : Store) (now : Timestamp) : Store × Nat × Option String :=
  if s.evidenceHold then (s, 0, none)
  else
    let expired := (env.queryEvents s {}).filter fun event =>
      (expirationOf event).any (· ≤ now)
    env.deleteCollected "prune expired local event " s (expired.map Event.id) 0

end Environment

end Bahia.Localstore
