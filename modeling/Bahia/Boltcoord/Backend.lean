import Bahia.Foundation.Bucket
import Bahia.Nostr.Filter

/-! The bolt eventstore under both stores: events by id, queries that find tags through
an index of the shorter values, and the replacement of older versions. -/

namespace Bahia.Boltdb
open Foundation Nostr

/-- The values `getIndexKeysForEvent` writes to the tag index. -/
def tagIndexed (value : String) : Bool := value != "" && value.utf8ByteSize ≤ 100

/-- `nostr.CompareEventReverse` as an order: newest first, then the higher id. -/
def standsBefore (first second : Event) : Bool :=
  second.createdAt < first.createdAt ||
    (first.createdAt == second.createdAt && second.id ≤ first.id)

/-- Which events a query for a filter without ids reads. -/
abbrev Index := Filter → Event → Bool

/-- The stored events, each under its own id. -/
structure BoltBackend where
  events : Bucket ID Event
  keyed : ∀ {id event}, events.get id = some event → event.id = id

namespace BoltBackend

def empty : BoltBackend where
  events := ∅
  keyed := by simp

def Holds (b : BoltBackend) (event : Event) : Prop := b.events.get event.id = some event

/-- The index as NIP-01 has it, but for the tag values that are not in it. -/
def finds : Index := fun filter event =>
  filter.accepts event &&
    filter.tags.all fun (name, values) => Tags.containsAny event.tags name (values.filter tagIndexed)

def queryByIds (b : BoltBackend) (ids : List ID) : List Event := ids.filterMap b.events.get

section Queries
variable (index : Index)

/-- Everything a filter without ids finds, newest first. -/
def found (b : BoltBackend) (filter : Filter) : List Event :=
  (b.events.values.filter (index filter)).insertionSort (standsBefore · · = true)

def query (b : BoltBackend) (filter : Filter) (limit : Nat) : List Event :=
  (b.found index filter).take limit

/-- `QueryEvents`: ids are looked up and nothing else is compared. -/
def queryEvents (b : BoltBackend) (filter : Filter) (maxLimit : Nat) : List Event :=
  match filter.ids with
  | some ids => b.queryByIds ids
  | none => b.query index filter ((filter.getTheoreticalLimit.map (min · maxLimit)).getD maxLimit)

end Queries

/-- `save`, after the check that the id is free. -/
def put (b : BoltBackend) (event : Event) : BoltBackend where
  events := b.events.put event.id event
  keyed := by
    intro id stored found
    rcases Bucket.get_put_cases found with ⟨same, equal⟩ | ⟨_, before⟩
    · rw [← equal, same]
    · exact b.keyed before

/-- `SaveEvent`; `none` is `ErrDupEvent`. -/
def saveEvent (b : BoltBackend) (event : Event) : Option BoltBackend :=
  if event.id ∈ b.events then none else some (b.put event)

def deleteEvent (b : BoltBackend) (id : ID) : BoltBackend where
  events := b.events.delete id
  keyed := by
    intro other event found
    exact b.keyed (Bucket.get_delete_cases found).2

/-- The filter for the versions `ReplaceEvent` compares with. -/
def versionFilter (event : Event) : Filter where
  kinds := some [event.kind]
  authors := some [event.pubKey]
  tags := if Kind.isAddressable event.kind then [("d", [Tags.getD event.tags])] else []

/-- `ReplaceEvent`: older versions go, and the event is stored unless one stays. -/
def replaceEvent (index : Index) (b : BoltBackend) (event : Event) : BoltBackend × List Event :=
  if event.id ∈ b.events then (b, [])
  else
    let previous := b.query index (versionFilter event) 10
    let deleted := previous.filter (isOlder · event)
    let cleared := deleted.foldl (fun b older => b.deleteEvent older.id) b
    (if previous.all (isOlder · event) then cleared.put event else cleared, deleted)

end BoltBackend

end Bahia.Boltdb
