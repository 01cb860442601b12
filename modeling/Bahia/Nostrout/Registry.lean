import Bahia.Foundation.Bucket
import Bahia.Nostrout.TokenBucket

/-! The bounded registry of relay identities. Only an idle identity whose buckets are full
again may be evicted, so a relay that comes back finds the level it left. -/

namespace Bahia.Nostrout
open Foundation Bucket

structure RelayBucket where
  priority : TokenBucket
  other : TokenBucket
  refs : Int
  deriving DecidableEq

namespace RelayBucket

def wire (relay : RelayBucket) (priority : Bool) : TokenBucket :=
  if priority then relay.priority else relay.other

def setWire (relay : RelayBucket) (priority : Bool) (bucket : TokenBucket) : RelayBucket :=
  if priority then { relay with priority := bucket } else { relay with other := bucket }

def full (relay : RelayBucket) (now : Instant) : RelayBucket × Bool :=
  if (relay.priority.full now).2 then
    ({ relay with priority := (relay.priority.full now).1, other := (relay.other.full now).1 },
      (relay.other.full now).2)
  else ({ relay with priority := (relay.priority.full now).1 }, false)

theorem wire_setWire (relay : RelayBucket) (priority other : Bool) (bucket : TokenBucket) :
    (relay.setWire priority bucket).wire other =
      if other = priority then bucket else relay.wire other := by
  cases priority <;> cases other <;> rfl

@[simp] theorem setWire_refs (relay : RelayBucket) (priority : Bool) (bucket : TokenBucket) :
    (relay.setWire priority bucket).refs = relay.refs := by
  cases priority <;> rfl

@[simp] theorem full_refs (relay : RelayBucket) (now : Instant) : (relay.full now).1.refs = relay.refs := by
  unfold full
  split <;> rfl

end RelayBucket

/-- Whether a purpose draws on the priority share of a relay. -/
def Purpose.isPriority (purpose : Purpose) : Bool := purpose == .priority

abbrev Registry := Bucket String RelayBucket

def newRelayBucket (limits : Limits) (now : Instant) : RelayBucket where
  priority := newBucket limits.relayWirePriority now
  other := newBucket limits.relayWire now
  refs := 0

namespace Registry

/-- The eviction loop over the identities in the order the map yields them. Looking at an
idle relay refills its buckets. -/
def evictIdle (now : Instant) : List String → Registry → Registry
  | [], relays => relays
  | identity :: rest, relays =>
    match relays.get identity with
    | none => evictIdle now rest relays
    | some relay =>
      if relay.refs = 0 then
        if (relay.full now).2 then relays.delete identity
        else evictIdle now rest (relays.put identity (relay.full now).1)
      else evictIdle now rest relays

/-- `order` is where the iteration of the map starts; it then reaches every identity. -/
def makeRoom (limits : Limits) (now : Instant) (order : List String) (relays : Registry) : Registry :=
  if limits.maxRelayIdentities ≤ relays.keys.length then
    evictIdle now (order.filter (· ∈ relays) ++ relays.keys) relays
  else relays

/-- The flag is false when the registry is full. -/
def relayBucketLocked (limits : Limits) (now : Instant) (order : List String) (relays : Registry)
    (relay : String) : Registry × Bool :=
  if relay ∈ relays then (relays, true)
  else
    let roomy := makeRoom limits now order relays
    if limits.maxRelayIdentities ≤ roomy.keys.length then (roomy, false)
    else (roomy.put relay (newRelayBucket limits now), true)

def adjustRefs (change : Int → Int) (relays : Registry) (relay : String) : Registry :=
  match relays.get relay with
  | none => relays
  | some entry => relays.put relay { entry with refs := change entry.refs }

def addRef : Registry → String → Registry := adjustRefs (· + 1)

def dropRef : Registry → String → Registry := adjustRefs (· - 1)

/-- `unregisterLocked` never lets a count go below zero. -/
def releaseRef : Registry → String → Registry :=
  adjustRefs fun refs => if 0 < refs then refs - 1 else refs

/-- Reserve every destination, or none: the ones already held are given back when the
registry is full. -/
def reserve (limits : Limits) (now : Instant) (orders : String → List String) :
    List String → List String → Registry → Registry × Bool
  | _, [], relays => (relays, true)
  | held, relay :: rest, relays =>
    match relayBucketLocked limits now (orders relay) relays relay with
    | (relays, false) => (held.foldl dropRef relays, false)
    | (relays, true) => reserve limits now orders (held ++ [relay]) rest (addRef relays relay)

/-- Refill one wire bucket and read its wait. Without the relay there is nothing to read. -/
def waitWire (relays : Registry) (now : Instant) (priority : Bool) (relay : String) :
    Registry × Option Duration :=
  match relays.get relay with
  | none => (relays, none)
  | some entry =>
    (relays.put relay (entry.setWire priority ((entry.wire priority).wait now).1),
      some ((entry.wire priority).wait now).2)

def spendWire (relays : Registry) (priority : Bool) (relay : String) : Registry :=
  match relays.get relay with
  | none => relays
  | some entry => relays.put relay (entry.setWire priority (entry.wire priority).spend)

/-- The longest wait over several relays. -/
def waitWires (now : Instant) (priority : Bool) : List String → Registry × Duration → Registry × Duration
  | [], state => state
  | relay :: rest, (relays, longest) =>
    let waited := relays.waitWire now priority relay
    waitWires now priority rest (waited.1, max longest (waited.2.getD 0))

/-! ### What the registry counts and what it can still send -/

def refsOf (relays : Registry) (relay : String) : Int :=
  match relays.get relay with
  | none => 0
  | some entry => entry.refs

/-- What a relay may be sent now; an identity without an entry would get a full bucket. -/
def level (limits : Limits) (now : Instant) (relays : Registry) (relay : String) (priority : Bool) : ℚ :=
  match relays.get relay with
  | none => (limits.wire priority).burst
  | some entry => (entry.wire priority).level now

def Sound (limits : Limits) (now : Instant) (relays : Registry) : Prop :=
  ∀ relay entry, relays.get relay = some entry →
    ∀ priority, (entry.wire priority).Sound (limits.wire priority) now

/-- No relay can be sent more than before. -/
structure Ebbs (limits : Limits) (now : Instant) (before after : Registry) : Prop where
  sound : before.Sound limits now → after.Sound limits now
  level : before.Sound limits now → ∀ relay priority,
    after.level limits now relay priority ≤ before.level limits now relay priority

variable {limits : Limits} {now : Instant} {relays before after : Registry}
variable {relay : String}

theorem Ebbs.refl (relays : Registry) : Ebbs limits now relays relays :=
  ⟨id, fun _ _ _ => le_refl _⟩

theorem Ebbs.trans (first : Ebbs limits now before middle) (second : Ebbs limits now middle after) :
    Ebbs limits now before after where
  sound valid := second.sound (first.sound valid)
  level valid relay priority :=
    (second.level (first.sound valid) relay priority).trans (first.level valid relay priority)

variable {entry : RelayBucket}

theorem level_of_get (found : relays.get relay = some entry) (priority : Bool) :
    relays.level limits now relay priority = (entry.wire priority).level now := by
  simp [level, found]

theorem level_put_self (entry : RelayBucket) (priority : Bool) :
    level limits now (relays.put relay entry) relay priority = (entry.wire priority).level now :=
  level_of_get (get_put_self _ _ _) priority

theorem level_put_of_ne (entry : RelayBucket) {other : String} (different : relay ≠ other)
    (priority : Bool) :
    level limits now (relays.put relay entry) other priority =
      relays.level limits now other priority := by
  simp only [level, get_put_of_ne _ different]

theorem sound_put (valid : relays.Sound limits now)
    (sound : ∀ priority, (entry.wire priority).Sound (limits.wire priority) now) :
    Sound limits now (relays.put relay entry) := by
  intro other stored found priority
  rcases get_put_cases found with ⟨same, written⟩ | ⟨_, kept⟩
  · subst same written
    exact sound priority
  · exact valid other stored kept priority

theorem ebbs_put (found : relays.get relay = some old)
    (lower : ∀ priority, (old.wire priority).Sound (limits.wire priority) now →
      (new.wire priority).Sound (limits.wire priority) now ∧
        (new.wire priority).level now ≤ (old.wire priority).level now) :
    Ebbs limits now relays (relays.put relay new) where
  sound valid := sound_put valid fun priority => (lower priority (valid _ _ found priority)).1
  level valid other priority := by
    by_cases same : relay = other
    · subst same
      rw [level_put_self, level_of_get found]
      exact (lower priority (valid _ _ found priority)).2
    · rw [level_put_of_ne _ same]

theorem refsOf_of_get (found : relays.get relay = some entry) :
    relays.refsOf relay = entry.refs := by
  simp [refsOf, found]

theorem refsOf_put (relays : Registry) (relay : String) (entry : RelayBucket) (other : String) :
    refsOf (relays.put relay entry) other =
      if relay = other then entry.refs else relays.refsOf other := by
  by_cases same : relay = other
  · subst same
    rw [if_pos rfl, refsOf_of_get (get_put_self _ _ _)]
  · rw [if_neg same, refsOf, refsOf, get_put_of_ne _ same]

theorem refsOf_put_same (found : relays.get relay = some old)
    (same : new.refs = old.refs) (other : String) :
    refsOf (relays.put relay new) other = relays.refsOf other := by
  rw [refsOf_put]
  split
  · rename_i equal
    rw [← equal, refsOf_of_get found, same]
  · rfl

/-- Nothing more can be sent than before, and the destinations are counted as before. -/
structure Tidies (limits : Limits) (now : Instant) (before after : Registry) : Prop
    extends Ebbs limits now before after where
  refs : ∀ relay, after.refsOf relay = before.refsOf relay

theorem Tidies.refl (relays : Registry) : Tidies limits now relays relays := ⟨.refl relays, fun _ => rfl⟩

theorem Tidies.trans (first : Tidies limits now before middle)
    (second : Tidies limits now middle after) : Tidies limits now before after :=
  ⟨first.toEbbs.trans second.toEbbs, fun relay => (second.refs relay).trans (first.refs relay)⟩

theorem mem_of_refs (counted : relays.refsOf relay ≠ 0) : relay ∈ relays := by
  rw [Bucket.mem_iff_get]
  unfold refsOf at counted
  cases found : relays.get relay with
  | none =>
    rw [found] at counted
    exact absurd rfl counted
  | some entry => exact ⟨entry, rfl⟩

end Registry

end Bahia.Nostrout
