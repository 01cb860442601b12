import Bahia.Foundation.Bucket
import Bahia.Foundation.Outcome
import Bahia.Foundation.Text
import Bahia.Nostr.Event

/-! What one projector remembers of the coordinates it signs: the fingerprint and the
`created_at` floor of the last publish, the publishes it suppressed, and the backoff
window they wait for. -/

namespace Bahia.Projection
open Foundation Nostr

abbrev UUID := FixedBytes 16

def kindCASAudit : Kind := 4903

def kindServiceRegistry : Nat := 31962

def kindEnvironmentRegistry : Nat := 31963

def kindSBOMPackageRegistry : Nat := 32018

def errProjectorBackoff : String := "projector publish suppressed: relay backoff window open"

def errProjectorHydrationBackoff : String :=
  "projector publish suppressed: hydration backoff window open"

/-- One replaceable coordinate. Families sharing a wire kind are told apart by
`legacy_kind`. -/
structure ProjectionKey where
  wireKind : Kind
  legacyKind : String
  d : String
  deriving DecidableEq

namespace ProjectionKey

def fields (key : ProjectionKey) : Kind ×ₗ String ×ₗ String :=
  toLex (key.wireKind, toLex (key.legacyKind, key.d))

theorem fields_injective : Function.Injective fields := by
  intro first second same
  cases first
  cases second
  cases same
  rfl

instance : LinearOrder ProjectionKey := LinearOrder.lift' fields fields_injective

end ProjectionKey

def projectionKeyOf (wireKind : Kind) (tags : Tags) : ProjectionKey where
  wireKind := wireKind
  legacyKind := Tags.value tags "legacy_kind"
  d := Tags.value tags "d"

def isTombstoneTags (tags : Tags) : Bool := Tags.value tags "deleted" == "true"

structure Codec (Value : Type) where
  sha256 : String → String
  unmarshalObject : String → Option (Bucket String Value)
  marshalObject : Bucket String Value → Option String
  keyVersion : String → String

/-- Bookkeeping keys that change without a change of the projected state. -/
def volatileContentKeys : List String :=
  ["updated_at", "last_reconciled_at", "observed_at", "current_observation_id",
    "materialized_at", "materializedAt", "received_at", "published_at"]

def revisionTokenFamilies : List String :=
  [toString kindServiceRegistry, toString kindEnvironmentRegistry]

section Fingerprint
variable {Value : Type} (codec : Codec Value)

def Codec.stableContent (content : String) (keepRevision : Bool) : String :=
  let trimmed := trimSpace content
  if !hasPrefix trimmed "\x7b" then content
  else
    match codec.unmarshalObject trimmed with
    | none => content
    | some object =>
      let volatile := volatileContentKeys.filter fun key => !(keepRevision && key == "updated_at")
      (codec.marshalObject (volatile.foldl Bucket.delete object)).getD content

/-- The stable hash of wire kind, tags in any order, and content. -/
def Codec.projectionFingerprint (wireKind : Kind) (tags : Tags) (content : String) : String :=
  let tagLines := (tags.map (join "\x1f")).insertionSort (· ≤ ·)
  let head := toString wireKind.val ++ "\x00" ++ join "\x1e" tagLines ++ "\x00"
  let keepRevision := revisionTokenFamilies.contains (Tags.value tags "legacy_kind")
  let stateHash := Tags.value tags "state_hash"
  codec.sha256
    (if stateHash != "" then head ++ stateHash ++ "\x00" ++ codec.keyVersion content
    else head ++ codec.stableContent content keepRevision)

end Fingerprint

/-- What a publish call is given; a suppressed call is kept in this form. -/
structure PublishArgs where
  kind : Kind
  tags : Tags
  content : String
  entityType : String
  entityID : Option UUID
  dedupeTombstone : Bool
  deriving DecidableEq

inductive Path where
  | signed
  | relayFirst
  | authoritative
  deriving DecidableEq

/-- One call, numbered in the order the callers made them. -/
structure Submission where
  origin : Nat
  path : Path
  args : PublishArgs
  deriving DecidableEq

def Submission.key (call : Submission) : ProjectionKey :=
  projectionKeyOf call.args.kind call.args.tags

/-- The append-only audit log alone skips the coordinate's lock and memory. -/
def Submission.dedupable (call : Submission) : Bool :=
  call.path != .signed || call.args.kind != kindCASAudit

/-- A tombstone is signed again unless its caller asked for deduplication. -/
def Submission.dedupes (call : Submission) : Bool :=
  !isTombstoneTags call.args.tags || (call.path == .signed && call.args.dedupeTombstone)

structure Hydration where
  hydrated : Bool
  retryAfter : Option Int
  retryDelay : Int
  deriving DecidableEq

structure Cache where
  published : Bucket ProjectionKey String
  createdAt : Bucket ProjectionKey Timestamp
  hydration : Bucket Kind Hydration
  pendingRetries : Bucket ProjectionKey Submission

def Cache.empty : Cache := ⟨∅, ∅, ∅, ∅⟩

namespace Cache

/-- The `created_at` the next event on the coordinate must exceed. -/
def floor (cache : Cache) (key : ProjectionKey) : Timestamp := (cache.createdAt.get key).getD 0

def raiseFloor (cache : Cache) (key : ProjectionKey) (createdAt : Timestamp) : Cache :=
  if cache.floor key < createdAt then
    { cache with createdAt := cache.createdAt.put key createdAt }
  else cache

def projectionUnchanged (cache : Cache) (key : ProjectionKey) (fingerprint : String) : Bool :=
  cache.published.get key == some fingerprint

def rememberProjection (cache : Cache) (key : ProjectionKey) (fingerprint : String)
    (createdAt : Timestamp) : Cache :=
  { cache with published := cache.published.put key fingerprint }.raiseFloor key createdAt

/-- Now, or one second past the coordinate's floor. -/
def nextProjectionCreatedAt (cache : Cache) (key : ProjectionKey) (now : Timestamp) : Timestamp :=
  let last := cache.floor key
  if now ≤ last then SInt64.wrap (last.val + 1) else now

def savePendingRetry (cache : Cache) (call : Submission) : Cache :=
  { cache with pendingRetries := cache.pendingRetries.put call.key call }

end Cache

structure EventRecord where
  id : String
  kind : Kind
  pubKey : String
  createdAt : Timestamp
  tags : Tags
  content : String
  failed : Bool
  deriving DecidableEq

def newerProjectionRecord (candidate current : Option EventRecord) : Bool :=
  match candidate, current with
  | none, _ => false
  | some _, none => true
  | some candidate, some current =>
    if candidate.createdAt ≠ current.createdAt then current.createdAt < candidate.createdAt
    else if candidate.id = current.id then true
    else candidate.id < current.id

/-- What the projector can load retained records from. -/
inductive History where
  | absent
  | byKind
  | byCoordinate
  deriving DecidableEq

structure Config (Value : Type) where
  codec : Codec Value
  servicePubkey : String
  history : History
  /-- The publisher can look up its outbox by coordinate. -/
  retainsCoordinates : Bool

structure HistoryAnswers where
  now : Int
  records : Except String (List EventRecord)
  latest : Except String (Option EventRecord)
  retained : Except String (Option EventRecord)

def projectionHydrationBackoffMin : Int := 2000000000

def projectionHydrationBackoffMax : Int := 60000000000

section Hydrate
variable {Value : Type} (config : Config Value)

def Config.fingerprint (kind : Kind) (tags : Tags) (content : String) : String :=
  config.codec.projectionFingerprint kind tags content

/-- Apply one retained record, newest first; `seen` holds the coordinates already set. -/
def Config.hydrateRecord (progress : Cache × List ProjectionKey) (record : EventRecord) :
    Cache × List ProjectionKey :=
  let (cache, seen) := progress
  let key := projectionKeyOf record.kind record.tags
  if config.servicePubkey != "" && record.pubKey != config.servicePubkey then (cache, seen)
  else if record.failed then
    if record.kind != kindCASAudit then (cache.raiseFloor key record.createdAt, seen)
    else (cache, seen)
  else if record.kind == kindCASAudit then (cache, seen)
  else if seen.contains key then (cache, seen)
  else
    let fingerprint := config.fingerprint record.kind record.tags record.content
    (cache.rememberProjection key fingerprint record.createdAt, key :: seen)

def EventRecord.sooner (first second : EventRecord) : Prop :=
  second.createdAt < first.createdAt ∨
    (first.createdAt = second.createdAt ∧ first.id ≤ second.id)

instance : DecidableRel EventRecord.sooner := fun _ _ => inferInstanceAs (Decidable (_ ∨ _))

/-- Load one wire kind once; a failed load opens that kind's own backoff. -/
def Config.hydrateProjectionCache (cache : Cache) (wireKind : Kind) (answers : HistoryAnswers) :
    Cache × Option String :=
  if config.history = .absent then (cache, none)
  else
    let hydration := (cache.hydration.get wireKind).getD ⟨false, none, 0⟩
    if hydration.hydrated then (cache, none)
    else if hydration.retryAfter.any (answers.now < ·) then
      (cache, some (errProjectorHydrationBackoff ++ ": kind " ++ toString wireKind.val))
    else
      match answers.records with
      | .error err =>
        let retryDelay :=
          if hydration.retryDelay = 0 then projectionHydrationBackoffMin
          else min (hydration.retryDelay * 2) projectionHydrationBackoffMax
        let delayed : Hydration := ⟨false, some (answers.now + retryDelay), retryDelay⟩
        ({ cache with hydration := cache.hydration.put wireKind delayed },
          some ("hydrate projection dedupe cache for kind " ++ toString wireKind.val ++ ": " ++ err))
      | .ok records =>
        let sorted := records.insertionSort EventRecord.sooner
        let loaded := (sorted.foldl config.hydrateRecord (cache, [])).1
        ({ loaded with
          hydration := loaded.hydration.put wireKind { hydration with hydrated := true } }, none)

/-- The newest retained record of the coordinate, in the local store or the outbox. -/
def Config.retainedRecord (name : String) (answers : HistoryAnswers) :
    Except String (Option EventRecord) := do
  let latest ← context ("hydrate projection coordinate " ++ name) answers.latest
  if config.retainsCoordinates then
    refuse (config.servicePubkey == "") "derive projection author: projector has no service identity"
    let retained ← context ("hydrate outbox coordinate " ++ name) answers.retained
    return if newerProjectionRecord retained latest then retained else latest
  else return latest

/-- Load one coordinate past the kind-wide horizon. -/
def Config.hydrateProjectionCoordinate (cache : Cache) (key : ProjectionKey)
    (answers : HistoryAnswers) : Except String Cache := do
  let name := toString key.wireKind.val ++ ":" ++ key.d
  match ← config.retainedRecord name answers with
  | none => return cache
  | some record =>
    refuse (record.kind != key.wireKind || record.pubKey == "")
      ("invalid retained projection coordinate " ++ name)
    if config.servicePubkey != "" && record.pubKey != config.servicePubkey then return cache
    refuse (projectionKeyOf record.kind record.tags != key)
      ("retained projection coordinate mismatch for " ++ name)
    if record.createdAt < cache.floor key then return cache
    let fingerprint := config.fingerprint record.kind record.tags record.content
    let published :=
      if record.failed then cache.published.delete key else cache.published.put key fingerprint
    let createdAt := cache.createdAt.put key record.createdAt
    return { cache with published, createdAt }

/-- The load each path makes before it locks the coordinate, with the error that stops it.
Only `publishSigned` fails closed, and only for what it would deduplicate. -/
def Config.hydrate (cache : Cache) (call : Submission) (answers : HistoryAnswers) :
    Cache × Option String :=
  match call.path with
  | .signed =>
    let (loaded, err) :=
      if Tags.value call.args.tags "legacy_kind" == toString kindSBOMPackageRegistry &&
          config.history = .byCoordinate then
        match config.hydrateProjectionCoordinate cache call.key answers with
        | .ok loaded => (loaded, none)
        | .error err => (cache, some err)
      else config.hydrateProjectionCache cache call.args.kind answers
    (loaded, if call.dedupes then err else none)
  | _ => ((config.hydrateProjectionCache cache call.args.kind answers).1, none)

end Hydrate

/-- A timer that has fired stays in its field until it is stopped or replaced. -/
inductive RetryTimer where
  | scheduled
  | fired
  deriving DecidableEq

structure Backoff where
  retryAfter : Option Int
  retryDelay : Int
  retryTimer : Option RetryTimer
  deriving DecidableEq

def projectionBackoffMin : Int := 2000000000

def projectionBackoffMax : Int := 60000000000

namespace Backoff

def closed : Backoff := ⟨none, 0, none⟩

def projectionBackoffActive (backoff : Backoff) (now : Int) : Bool :=
  backoff.retryAfter.any (now < ·)

/-- Open or extend the window with bounded doubling and jitter of a quarter, and
schedule the flush at its end. -/
def noteProjectionRejection (backoff : Backoff) (now : Int) (draw : Nat) : Backoff :=
  let retryDelay :=
    if backoff.retryDelay ≤ 0 then projectionBackoffMin
    else min (backoff.retryDelay * 2) projectionBackoffMax
  let span := retryDelay / 4
  let jitter := if 0 < span then (draw : Int) % (2 * span + 1) - span else 0
  ⟨some (now + (retryDelay + jitter)), retryDelay, some .scheduled⟩

/-- A success closes the window and stops the timer. -/
def resetProjectionBackoff (_ : Backoff) : Backoff := closed

end Backoff

/-! The floor of a coordinate never goes back. -/

namespace Cache

section
variable (cache : Cache)

theorem floor_raiseFloor_self (key : ProjectionKey) (createdAt : Timestamp) :
    createdAt ≤ (cache.raiseFloor key createdAt).floor key := by
  unfold raiseFloor
  split
  · simp [floor]
  · rename_i higher
    exact not_lt.mp higher

theorem floor_le_raiseFloor (key other : ProjectionKey) (createdAt : Timestamp) :
    cache.floor other ≤ (cache.raiseFloor key createdAt).floor other := by
  unfold raiseFloor
  split
  · rename_i lower
    by_cases same : key = other
    · subst same
      simpa [floor] using lower.le
    · simp [floor, Bucket.get_put_of_ne _ same]
  · exact le_refl _

theorem floor_le_remember (key other : ProjectionKey) (fingerprint : String)
    (createdAt : Timestamp) :
    cache.floor other ≤ (cache.rememberProjection key fingerprint createdAt).floor other :=
  floor_le_raiseFloor _ key other createdAt

theorem raiseFloor_pending (key : ProjectionKey) (createdAt : Timestamp) :
    (cache.raiseFloor key createdAt).pendingRetries = cache.pendingRetries := by
  unfold raiseFloor
  split
  · rfl
  · rfl

theorem remember_pending (key : ProjectionKey) (fingerprint : String) (createdAt : Timestamp) :
    (cache.rememberProjection key fingerprint createdAt).pendingRetries = cache.pendingRetries :=
  raiseFloor_pending _ key createdAt

end

variable {cache : Cache} {key : ProjectionKey} {now : Timestamp}

theorem floor_lt_next (room : now ≤ cache.floor key → (cache.floor key).val + 1 < 2 ^ 63) :
    cache.floor key < cache.nextProjectionCreatedAt key now := by
  unfold nextProjectionCreatedAt
  dsimp only
  split
  · rename_i behind
    have lower := (cache.floor key).lower
    rw [SInt64.lt_iff, SInt64.wrap_val (by omega) (room behind)]
    omega
  · rename_i ahead
    exact not_le.mp ahead

theorem now_le_next (room : now ≤ cache.floor key → (cache.floor key).val + 1 < 2 ^ 63) :
    now ≤ cache.nextProjectionCreatedAt key now := by
  by_cases behind : now ≤ cache.floor key
  · exact behind.trans (floor_lt_next room).le
  · simp [nextProjectionCreatedAt, behind]

end Cache

/-- A load of retained state lowers no floor and parks or drops nothing. -/
structure Loaded (before after : Cache) : Prop where
  floor : ∀ key, before.floor key ≤ after.floor key
  pending : after.pendingRetries = before.pendingRetries

theorem Loaded.refl (cache : Cache) : Loaded cache cache := ⟨fun _ => le_refl _, rfl⟩

theorem Loaded.trans (before : Loaded first second) (after : Loaded second third) :
    Loaded first third :=
  ⟨fun key => (before.floor key).trans (after.floor key), after.pending.trans before.pending⟩

section Hydrate
variable {Value : Type} (config : Config Value)

theorem hydrateRecord_loaded (progress : Cache × List ProjectionKey) (record : EventRecord) :
    Loaded progress.1 (config.hydrateRecord progress record).1 := by
  unfold Config.hydrateRecord
  dsimp only
  split
  · exact Loaded.refl _
  split
  · split
    · exact ⟨fun other => Cache.floor_le_raiseFloor _ _ other _, Cache.raiseFloor_pending _ _ _⟩
    · exact Loaded.refl _
  split
  · exact Loaded.refl _
  split
  · exact Loaded.refl _
  · exact ⟨fun other => Cache.floor_le_remember _ _ other _ _, Cache.remember_pending _ _ _ _⟩

theorem hydrateRecords_loaded (progress : Cache × List ProjectionKey) (records : List EventRecord) :
    Loaded progress.1 (records.foldl config.hydrateRecord progress).1 := by
  induction records generalizing progress with
  | nil => exact Loaded.refl _
  | cons record rest ih => exact (hydrateRecord_loaded config progress record).trans (ih _)

theorem hydrateProjectionCache_loaded (cache : Cache) (wireKind : Kind) (answers : HistoryAnswers) :
    Loaded cache (config.hydrateProjectionCache cache wireKind answers).1 := by
  unfold Config.hydrateProjectionCache
  split
  · exact Loaded.refl _
  dsimp only
  split
  · exact Loaded.refl _
  split
  · exact Loaded.refl _
  split
  · exact ⟨fun _ => le_refl _, rfl⟩
  rename_i records _
  have loaded := hydrateRecords_loaded config (cache, []) (records.insertionSort EventRecord.sooner)
  exact ⟨loaded.floor, loaded.pending⟩

theorem hydrateProjectionCoordinate_loaded
    (success : config.hydrateProjectionCoordinate cache key answers = .ok loaded) :
    Loaded cache loaded := by
  obtain ⟨record, _, success⟩ := bind_ok_iff.mp success
  cases record with
  | none =>
    cases pure_ok_iff.mp success
    exact Loaded.refl _
  | some =>
    obtain ⟨_, _, success⟩ := bind_ok_iff.mp success
    split at success
    · cases pure_ok_iff.mp success
      exact Loaded.refl _
    obtain ⟨_, _, success⟩ := bind_ok_iff.mp success
    split at success
    · cases pure_ok_iff.mp success
      exact Loaded.refl _
    rename_i newer
    cases pure_ok_iff.mp success
    refine ⟨?_, rfl⟩
    intro other
    by_cases same : key = other
    · subst same
      simpa [Cache.floor] using newer
    · simp [Cache.floor, Bucket.get_put_of_ne _ same]

theorem hydrate_loaded (cache : Cache) (call : Submission) (answers : HistoryAnswers) :
    Loaded cache (config.hydrate cache call answers).1 := by
  have byKind := hydrateProjectionCache_loaded config cache call.args.kind answers
  unfold Config.hydrate
  split
  · dsimp only
    split
    · split
      · rename_i success
        exact hydrateProjectionCoordinate_loaded config success
      · exact Loaded.refl _
    · exact byKind
  · exact byKind

end Hydrate

end Bahia.Projection
