import Bahia.Foundation.Bucket
import Bahia.Nostr.Address

/-! The state machine that resolves replaceable and addressable events, deletion requests
and expirations for one consumer. -/

namespace Bahia.Nostrutil
open Foundation Nostr

/-- The coordinate of a replaceable or addressable event; `d` is empty for the former. -/
structure Address where
  kind : Kind
  pubKey : PubKey
  d : String
  deriving DecidableEq

namespace Address

def fields (address : Address) : Kind ×ₗ PubKey ×ₗ String :=
  toLex (address.kind, toLex (address.pubKey, address.d))

theorem fields_injective : Function.Injective fields := by
  intro first second same
  cases first
  cases second
  cases same
  rfl

instance : LinearOrder Address := LinearOrder.lift' fields fields_injective

end Address

def addressOf (event : Event) : Option Address :=
  if Kind.isState event.kind then
    some ⟨event.kind, event.pubKey,
      if Kind.isAddressable event.kind then Tags.getD event.tags else ""⟩
  else none

section Parse
variable (validKey : PubKey → Bool)

def pubKeyFromHex (value : String) : Option PubKey :=
  Nostr.pubKeyFromHex validKey (toLower (trimSpace value))

/-- An `a` tag's value. Only state kinds form coordinates, and a plain replaceable one
carries no `d`. -/
def parseAddress (value : String) : Option Address :=
  match splitN (trimSpace value) ':' 3 with
  | [kindText, keyText, d] => do
    let kind ← parseUint kindText 65536
    let pubKey ← pubKeyFromHex validKey keyText
    if fits : kind < 65536 then
      let address : Address := ⟨⟨kind, fits⟩, pubKey, d⟩
      if !Kind.isState address.kind || (Kind.isReplaceable address.kind && address.d != "") then
        none
      else some address
    else none
  | _ => none

/-- A parsed deletion request; foreign coordinates are dropped. -/
structure Deletion where
  author : PubKey
  createdAt : Timestamp
  ids : List ID
  addresses : List Address

def deletedID (tag : Tag) : Option ID :=
  match tag with
  | name :: value :: _ => if name = "e" then idFromHex (toLower (trimSpace value)) else none
  | _ => none

def deletedAddress (author : PubKey) (tag : Tag) : Option Address :=
  match tag with
  | name :: value :: _ =>
    if name = "a" then (parseAddress validKey value).filter (·.pubKey == author) else none
  | _ => none

def parseDeletion (event : Event) : Option Deletion :=
  if event.kind = kindDeletion then
    some
      { author := event.pubKey
        createdAt := event.createdAt
        ids := event.tags.filterMap deletedID
        addresses := event.tags.filterMap (deletedAddress validKey event.pubKey) }
  else none

end Parse

/-- What orders competing versions; the id is lowercase hex. -/
structure Version where
  createdAt : Timestamp
  id : String
  deriving DecidableEq

def versionOf (event : Event) : Version := ⟨event.createdAt, ID.hex event.id⟩

/-- A later `created_at` wins, then the lower id. -/
def Version.supersedes (version current : Version) : Bool :=
  if version.createdAt ≠ current.createdAt then current.createdAt < version.createdAt
  else version.id < current.id

/-- The expiration of an event, zero for none. -/
def expiresAt (event : Event) : Timestamp :=
  if 0 < getExpiration event.tags then getExpiration event.tags else 0

def expired (event : Event) (now : Timestamp) : Bool :=
  0 < expiresAt event && expiresAt event ≤ now

/-- A live event: the current version of a coordinate, or a regular event that expires. -/
structure Entry where
  id : ID
  pubKey : PubKey
  kind : Kind
  createdAt : Timestamp
  expiresAt : Timestamp
  address : Option Address
  deriving DecidableEq

def entryOf (event : Event) : Entry :=
  ⟨event.id, event.pubKey, event.kind, event.createdAt, expiresAt event, addressOf event⟩

inductive Outcome where
  | accept
  | superseded
  | duplicate
  | deleted
  | expired
  | deletion
  deriving DecidableEq

structure Decision where
  outcome : Outcome
  replaced : Option Entry
  removed : List Entry
  deriving DecidableEq

def Decision.only (outcome : Outcome) : Decision := ⟨outcome, none, []⟩

/-- The newest version seen on a coordinate; it stays as a floor once it is not live. -/
structure Head where
  version : Version
  id : ID
  live : Bool
  deriving DecidableEq

structure ExpiryItem where
  atTime : Timestamp
  id : ID
  deriving DecidableEq

structure Lifecycle where
  heads : Bucket Address Head
  live : Bucket ID Entry
  deletedIDs : Bucket (ID ×ₗ PubKey) Unit
  deletedAddrs : Bucket Address Timestamp
  /-- The expiry heap, earliest first. -/
  expiries : List ExpiryItem

def Lifecycle.new : Lifecycle := ⟨∅, ∅, ∅, ∅, []⟩

namespace Lifecycle

def track (l : Lifecycle) (entry : Entry) : Lifecycle :=
  { l with
    live := l.live.put entry.id entry
    expiries :=
      if entry.expiresAt ≤ 0 then l.expiries
      else l.expiries.orderedInsert (fun first second => first.atTime ≤ second.atTime)
        ⟨entry.expiresAt, entry.id⟩ }

def retireHead (heads : Bucket Address Head) (entry : Entry) : Bucket Address Head :=
  match entry.address with
  | some address =>
    match heads.get address with
    | some head =>
      if head.id = entry.id then heads.put address { head with live := false } else heads
    | none => heads
  | none => heads

/-- Remove a live entry; its head stays as the ordering floor. -/
def drop (l : Lifecycle) (entry : Entry) : Lifecycle :=
  { l with live := l.live.delete entry.id, heads := retireHead l.heads entry }

/-- One `e` reference of a request by `author`. -/
def deleteID (author : PubKey) (progress : Lifecycle × List Entry) (id : ID) :
    Lifecycle × List Entry :=
  let (l, removed) := progress
  let marked := { l with deletedIDs := l.deletedIDs.put (toLex (id, author)) () }
  match l.live.get id with
  | some entry =>
    if entry.pubKey = author ∧ entry.kind ≠ kindDeletion then
      (marked.drop entry, removed ++ [entry])
    else (marked, removed)
  | none => (marked, removed)

/-- One `a` reference of a request made at `createdAt`. -/
def deleteAddress (createdAt : Timestamp) (progress : Lifecycle × List Entry) (address : Address) :
    Lifecycle × List Entry :=
  let (l, removed) := progress
  let marked :=
    if (l.deletedAddrs.get address).getD 0 < createdAt then
      { l with deletedAddrs := l.deletedAddrs.put address createdAt }
    else l
  match l.heads.get address with
  | some head =>
    if head.live = false ∨ createdAt < head.version.createdAt then (marked, removed)
    else
      match l.live.get head.id with
      | some entry => (marked.drop entry, removed ++ [entry])
      | none => (marked, removed)
  | none => (marked, removed)

def applyDeletion (l : Lifecycle) (deletion : Deletion) : Lifecycle × Decision :=
  let byID := deletion.ids.foldl (deleteID deletion.author) (l, [])
  let (next, removed) := deletion.addresses.foldl (deleteAddress deletion.createdAt) byID
  (next, ⟨.deletion, none, removed⟩)

/-- The version becomes its coordinate's live head. -/
def accept (l : Lifecycle) (event : Event) (address : Address) : Lifecycle :=
  { l with heads := l.heads.put address ⟨versionOf event, event.id, true⟩ }.track (entryOf event)

/-- The part of `Observe` for events of a state kind that no id tombstone stops. -/
def observeState (l : Lifecycle) (event : Event) (address : Address) : Lifecycle × Decision :=
  if (l.deletedAddrs.get address).any (event.createdAt ≤ ·) then (l, .only .deleted)
  else
    match l.heads.get address with
    | none => (l.accept event address, .only .accept)
    | some head =>
      if head.id = event.id then (l, .only .duplicate)
      else if !(versionOf event).supersedes head.version then (l, .only .superseded)
      else if head.live then
        ({ l with live := l.live.delete head.id }.accept event address,
          ⟨.accept, l.live.get head.id, []⟩)
      else (l.accept event address, .only .accept)

variable (validKey : PubKey → Bool)

/-- Decide what the consumer does with a validated event and record its effect. -/
def observe (l : Lifecycle) (event : Event) (now : Timestamp) : Lifecycle × Decision :=
  if expired event now then (l, .only .expired)
  else
    match parseDeletion validKey event with
    | some deletion => l.applyDeletion deletion
    | none =>
      if toLex (event.id, event.pubKey) ∈ l.deletedIDs then (l, .only .deleted)
      else
        match addressOf event with
        | some address => l.observeState event address
        | none =>
          if 0 < expiresAt event then
            if event.id ∈ l.live then (l, .only .duplicate)
            else (l.track (entryOf event), .only .accept)
          else (l, .only .accept)

def release (l : Lifecycle) (id : ID) : Lifecycle :=
  match l.live.get id with
  | none => l
  | some entry =>
    let heads :=
      match entry.address with
      | some address =>
        match l.heads.get address with
        | some head => if head.id = id then l.heads.delete address else l.heads
        | none => l.heads
      | none => l.heads
    { l with live := l.live.delete id, heads }

/-- Pop the expiry items due by `cutoff` and drop the live entries they still name. -/
def expireDue (cutoff : Timestamp) : List ExpiryItem → Lifecycle → List Entry → Lifecycle × List Entry
  | [], l, gone => ({ l with expiries := [] }, gone)
  | item :: rest, l, gone =>
    if item.atTime ≤ cutoff then
      match l.live.get item.id with
      | some entry =>
        if entry.expiresAt = item.atTime then expireDue cutoff rest (l.drop entry) (gone ++ [entry])
        else expireDue cutoff rest l gone
      | none => expireDue cutoff rest l gone
    else ({ l with expiries := item :: rest }, gone)

/-- Drop and return every live entry whose expiration is at or before `now`. -/
def expire (l : Lifecycle) (now : Timestamp) : Lifecycle × List Entry :=
  expireDue now l.expiries l []

/-- Pop the expiry items that name no live entry, up to the first that does. -/
def earliest : List ExpiryItem → Lifecycle → Lifecycle × Option Timestamp
  | [], l => ({ l with expiries := [] }, none)
  | item :: rest, l =>
    match l.live.get item.id with
    | some entry =>
      if entry.expiresAt = item.atTime then ({ l with expiries := item :: rest }, some item.atTime)
      else earliest rest l
    | none => earliest rest l

def nextExpiry (l : Lifecycle) : Lifecycle × Option Timestamp :=
  earliest l.expiries l

end Lifecycle

/-! The version order is the replacement order of the protocol. -/

theorem Version.supersedes_iff {version current : Version} :
    version.supersedes current = true ↔ current.createdAt < version.createdAt ∨
      (current.createdAt = version.createdAt ∧ version.id < current.id) := by
  unfold supersedes
  split
  · rename_i different
    simp [Ne.symm different]
  · rename_i same
    have equal := (not_not.mp same).symm
    simp [equal]

theorem Version.supersedes_trans {first second third : Version}
    (one : first.supersedes second = true) (two : second.supersedes third = true) :
    first.supersedes third = true := by
  rw [supersedes_iff] at *
  rcases one with later | ⟨same, lower⟩
  · rcases two with before | ⟨equal, _⟩
    · exact .inl (before.trans later)
    · exact .inl (equal ▸ later)
  · rcases two with before | ⟨equal, lowest⟩
    · exact .inl (same ▸ before)
    · exact .inr ⟨equal.trans same, lower.trans lowest⟩

theorem versionOf_supersedes :
    (versionOf newer).supersedes (versionOf older) = true ↔ older.rank < newer.rank := by
  have ids : (ID.hex newer.id < ID.hex older.id) ↔ newer.id < older.id :=
    hex_lt_iff (newer.id.property.trans older.id.property.symm)
  rw [← isOlder_iff_rank, isOlder_iff, Version.supersedes_iff]
  exact or_congr Iff.rfl (and_congr Iff.rfl ids)

theorem versionOf_eq : versionOf first = versionOf second ↔ first.rank = second.rank := by
  rw [rank_eq_iff, versionOf, versionOf, Version.mk.injEq]
  constructor
  · intro ⟨created, ids⟩
    have bytes := hex_injective (first.id.property.trans second.id.property.symm) ids
    exact ⟨created, Subtype.ext bytes⟩
  · intro ⟨created, ids⟩
    exact ⟨created, by rw [ids]⟩

end Bahia.Nostrutil
